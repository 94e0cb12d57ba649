import EcsAsioServer.Lib.ShiftRegister
import EcsAsioServer.Network.Receive

/-!
# What the checksum and the layout of a frame guarantee

`crc32` reads a table of 256 words that it builds on first use. Here it is compared with the
CRC-32 as it is specified, which takes the input one bit at a time (`crc32Serial`): a byte from
the table is eight shifts of the register (`toBitVec_crcByte`).

The specification is a shift register, so what is known of these holds of `crc32`: the checksum
of a payload that was altered by a burst of at most 32 bits differs from that of the payload
(`crc32_disturb_ne`), and a channel never hands such a frame on.

The last section is about the layout: the bytes that `try_parse_one` consumes are those that
`pack` builds from what it returns.
-/

namespace EcsAsioServer

namespace FrameCodec

open ShiftRegister

/-! ## The CRC one bit at a time -/

/-- The reflected polynomial of CRC-32 (IEEE). -/
def ieee : BitVec 32 := 0xEDB88320#32

/-- The bits of a byte, least significant first. -/
def byteBits (b : UInt8) : List Bool := (List.range 8).map b.toBitVec.getLsbD

/-- The bits of a byte string: bytes in order, and each from its least significant bit on. -/
def dataBits (data : List UInt8) : List Bool := data.flatMap byteBits

/-- CRC-32 as specified: initial value and final xor `0xFFFFFFFF`, one bit at a time. -/
def crc32Serial (data : List UInt8) : UInt32 :=
  ⟨feedAll ieee 0xFFFFFFFF#32 (dataBits data) ^^^ 0xFFFFFFFF#32⟩

@[simp] theorem length_byteBits (b : UInt8) : (byteBits b).length = 8 := by
  simp [byteBits]

theorem toBitVec_crcBit (c : UInt32) : (crcBit c).toBitVec = step ieee c.toBitVec := by
  have hlow : c &&& 1 ≠ 0 ↔ c.toBitVec.getLsbD 0 = true := by
    rw [Ne, ← UInt32.toBitVec_inj, UInt32.toBitVec_and]
    show ¬ c.toBitVec &&& 1#32 = 0#32 ↔ _
    rw [BitVec.and_one_eq_setWidth_ofBool_getLsbD]
    cases c.toBitVec.getLsbD 0 <;> decide
  unfold crcBit step feed feedback
  rw [Bool.xor_false]
  by_cases h : c &&& 1 ≠ 0
  · rw [if_pos h, if_pos (hlow.mp h), UInt32.toBitVec_xor, BitVec.xor_comm]
    rfl
  · rw [if_neg h, if_neg (mt hlow.mpr h), BitVec.xor_zero]
    rfl

theorem toBitVec_crcEntry (i : UInt32) : (crcEntry i).toBitVec = (step ieee)^[8] i.toBitVec := by
  have hiterate : ∀ (n : Nat) (c : UInt32),
      (crcBit^[n] c).toBitVec = (step ieee)^[n] c.toBitVec := by
    intro n
    induction n with
    | zero => exact fun _ => rfl
    | succ n ih =>
      intro c
      rw [Function.iterate_succ_apply, Function.iterate_succ_apply, ih, toBitVec_crcBit]
  exact hiterate 8 i

/-- The table has an entry for every index that the loop uses. -/
theorem getD_crcTable {i : Nat} (h : i < 256) : crcTable.getD i 0 = crcEntry (UInt32.ofNat i) := by
  have hlen : i < crcTable.length := by
    rw [crcTable, List.length_map, List.length_range]
    exact h
  rw [List.getD_eq_getElem _ _ hlen]
  simp [crcTable]

theorem word_byteBits (b : UInt8) : word 32 (byteBits b) = b.toUInt32.toBitVec := by
  apply BitVec.eq_of_getLsbD_eq
  intro i hi
  rw [getLsbD_word, UInt8.toBitVec_toUInt32, BitVec.getLsbD_setWidth]
  by_cases h8 : i < 8
  · rw [List.getD_eq_getElem _ _ (by rw [length_byteBits]; exact h8)]
    simp [byteBits]
  · rw [List.getD_eq_default _ _ (by rw [length_byteBits]; omega),
      BitVec.getLsbD_of_ge b.toBitVec i (by omega)]

/-- **One byte**: the table does the work of eight bits. -/
theorem toBitVec_crcByte (c : UInt32) (b : UInt8) :
    (crcByte c b).toBitVec = feedAll ieee c.toBitVec (byteBits b) := by
  have hlow : ((c ^^^ b.toUInt32) &&& 0xFF).toBitVec = low 8 (c ^^^ b.toUInt32).toBitVec := rfl
  have hindex : ((c ^^^ b.toUInt32) &&& 0xFF).toNat < 256 := by
    rw [UInt32.toNat_and]
    exact Nat.lt_succ_of_le Nat.and_le_right
  have hbyte : b.toUInt32.toBitVec >>> 8 = 0#32 := by
    apply BitVec.eq_of_getLsbD_eq
    intro i _
    rw [BitVec.getLsbD_ushiftRight, UInt8.toBitVec_toUInt32, BitVec.getLsbD_setWidth,
      BitVec.getLsbD_of_ge b.toBitVec (8 + i) (by omega), Bool.and_false, BitVec.getLsbD_zero]
  have hshift : (c ^^^ b.toUInt32).toBitVec >>> 8 = (c >>> 8).toBitVec := by
    rw [UInt32.toBitVec_xor, BitVec.ushiftRight_xor_distrib, hbyte, BitVec.xor_zero]
    rfl
  rw [feedAll_eq_iterate ieee _ (by simp), length_byteBits, word_byteBits, ← UInt32.toBitVec_xor,
    iterate_step_split, hshift, ← hlow, crcByte, getD_crcTable hindex, UInt32.toBitVec_xor,
    UInt32.ofNat_toNat, toBitVec_crcEntry]

theorem toBitVec_foldl_crcByte (data : List UInt8) (c : UInt32) :
    (data.foldl crcByte c).toBitVec = feedAll ieee c.toBitVec (dataBits data) := by
  induction data generalizing c with
  | nil => rfl
  | cons b data ih =>
    rw [List.foldl_cons, ih, toBitVec_crcByte, dataBits, dataBits, List.flatMap_cons,
      feedAll_append]

theorem toBitVec_crc32 (data : List UInt8) :
    (crc32 data).toBitVec
      = feedAll ieee 0xFFFFFFFF#32 (dataBits data) ^^^ 0xFFFFFFFF#32 := by
  rw [crc32, UInt32.toBitVec_xor, toBitVec_foldl_crcByte]
  rfl

/-- **The table computes CRC-32**, for every byte string. -/
theorem crc32_eq_serial (data : List UInt8) : crc32 data = crc32Serial data :=
  UInt32.toBitVec_inj.mp (toBitVec_crc32 data)

/-! ## Bursts -/

/-- A payload after a transmission that flips the bits of the mask. -/
def disturb (payload mask : List UInt8) : List UInt8 := List.zipWith (· ^^^ ·) payload mask

variable {payload mask : List UInt8}

theorem length_disturb (h : mask.length = payload.length) :
    (disturb payload mask).length = payload.length := by
  rw [disturb, List.length_zipWith, h, Nat.min_self]

theorem byteBits_xor (b m : UInt8) :
    byteBits (b ^^^ m) = List.zipWith xor (byteBits b) (byteBits m) := by
  rw [byteBits, byteBits, byteBits, List.zipWith_map, List.zipWith_self, UInt8.toBitVec_xor]
  exact List.map_congr_left fun i _ => BitVec.getLsbD_xor

theorem dataBits_disturb (h : mask.length = payload.length) :
    dataBits (disturb payload mask) = List.zipWith xor (dataBits payload) (dataBits mask) := by
  induction payload generalizing mask with
  | nil => simp [disturb, dataBits]
  | cons b payload ih =>
    cases mask with
    | nil => cases h
    | cons m mask =>
      have hrest := ih (Nat.succ.inj h)
      have hfirst : (byteBits b).length = (byteBits m).length := by
        rw [length_byteBits, length_byteBits]
      show byteBits (b ^^^ m) ++ dataBits (disturb payload mask) = List.zipWith xor
        (byteBits b ++ dataBits payload) (byteBits m ++ dataBits mask)
      rw [List.zipWith_append hfirst, hrest, byteBits_xor]

theorem length_dataBits (data : List UInt8) : (dataBits data).length = 8 * data.length := by
  induction data with
  | nil => rfl
  | cons b data ih =>
    rw [dataBits, List.flatMap_cons, List.length_append, length_byteBits, ← dataBits, ih,
      List.length_cons]
    omega

/-- A burst of at most 32 bits changes the checksum. -/
theorem crc32_disturb_ne (hlen : mask.length = payload.length) (hburst : Burst 32 (dataBits mask)) :
    crc32 (disturb payload mask) ≠ crc32 payload := by
  intro heq
  have hbits : (dataBits mask).length = (dataBits payload).length := by
    rw [length_dataBits, length_dataBits, hlen]
  have hlinear := feedAll_xor ieee 0xFFFFFFFF#32 0#32 hbits
  have hsame := congrArg UInt32.toBitVec heq
  rw [toBitVec_crc32, toBitVec_crc32, BitVec.xor_left_inj, dataBits_disturb hlen] at hsame
  rw [BitVec.xor_zero, hsame] at hlinear
  -- the mask alone would have left nothing in the register
  have hzero : feedAll ieee 0#32 (dataBits mask) = 0#32 := by
    rw [← BitVec.xor_right_inj (feedAll ieee 0xFFFFFFFF#32 (dataBits payload)), ← hlinear,
      BitVec.xor_zero]
  exact feedAll_burst (by decide) hburst hzero

/-- The frame that `pack` builds, with an altered payload. -/
def disturbedFrame (cmd : UInt16) (flags ver : UInt8) (seq : UInt32) (payload mask : List UInt8) :
    List UInt8 :=
  encode { cmd, flags, ver, seq, crc := crc32 payload } (disturb payload mask)

/-! ## Frames at an offset -/

/-- `try_parse_one` returns `true` exactly at the bytes of a frame with an admissible length. -/
theorem tryParseOne_some_iff {acc : List UInt8} {off : Nat} (hoff : off ≤ acc.length) {p : Parsed}
    {off' : Nat} : tryParseOne acc off = some (some p, off') ↔
      ∃ hdr payload rest, acc.drop off = encode hdr payload ++ rest ∧
        kHeaderAfterLen + payload.length ≤ kMaxFrameBytes ∧ p = parsed hdr payload ∧
        off' = off + (kHeaderTotal + payload.length) := by
  rw [tryParseOne_eq hoff]
  cases ha : frameDecoder.attempt (acc.drop off) with
  | wait =>
    refine iff_of_false (by simp) ?_
    rintro ⟨hdr, payload, rest, hacc, hlen, -⟩
    have hitem := attempt_item_iff.mpr ⟨hdr, payload, rest, hacc, hlen, rfl, rfl⟩
    cases ha.symm.trans hitem
  | giveUp =>
    refine iff_of_false (by simp) ?_
    rintro ⟨hdr, payload, rest, hacc, hlen, -⟩
    have hitem := attempt_item_iff.mpr ⟨hdr, payload, rest, hacc, hlen, rfl, rfl⟩
    cases ha.symm.trans hitem
  | item q n =>
    constructor
    · intro h
      cases h
      obtain ⟨hdr, payload, rest, hacc, hlen, hq, hn⟩ := attempt_item_iff.mp ha
      exact ⟨hdr, payload, rest, hacc, hlen, hq, by rw [hn]⟩
    · rintro ⟨hdr, payload, rest, hacc, hlen, rfl, rfl⟩
      have hitem := attempt_item_iff.mpr ⟨hdr, payload, rest, hacc, hlen, rfl, rfl⟩
      cases ha.symm.trans hitem
      rfl

/-- The bytes of a frame determine its header. -/
theorem header_unique {hdr hdr' : HeaderV1} {rest rest' : List UInt8}
    (h : encode hdr payload ++ rest = encode hdr' payload ++ rest') : hdr = hdr' := by
  have hbytes : headerBytes hdr ++ (payload ++ rest) = headerBytes hdr' ++ (payload ++ rest') := by
    simpa [encode] using h
  have hread := getHeader_append hdr (payload ++ rest)
  rw [hbytes, getHeader_append] at hread
  exact (Option.some.inj hread).symm

/-- The altered payload is never reported with a matching CRC. -/
theorem crcOk_disturbed {cmd : UInt16} {flags ver : UInt8} {seq : UInt32} {acc rest : List UInt8}
    (hlen : mask.length = payload.length) (hburst : Burst 32 (dataBits mask)) {off off' : Nat}
    (hoff : off ≤ acc.length)
    (hacc : acc.drop off = disturbedFrame cmd flags ver seq payload mask ++ rest) {p : Parsed}
    (hparse : tryParseOne acc off = some (some p, off')) (hp : p.payload = disturb payload mask) :
    p.crcOk = false := by
  obtain ⟨hdr, q, rest', hacc', -, rfl, -⟩ := (tryParseOne_some_iff hoff).mp hparse
  obtain rfl : q = disturb payload mask := hp
  obtain rfl : _ = hdr := header_unique (hacc.symm.trans hacc')
  exact beq_eq_false_iff_ne.mpr (crc32_disturb_ne hlen hburst)

end FrameCodec

namespace AsioChannel

open FrameCodec ShiftRegister

/-- **Bursts are detected.** A burst of at most 32 bits changes the CRC of every payload. So
wherever the altered frame starts in a buffer, the loop of `parse_frames_` does not hand its
payload on; and in a stream of frames, cut in any way, it alone is missing. -/
theorem burst_detected (payload mask : List UInt8) (hlen : mask.length = payload.length)
    (hburst : Burst 32 (dataBits mask)) (cmd : UInt16) (flags ver : UInt8) (seq : UInt32) :
    crc32 (disturb payload mask) ≠ crc32 payload ∧
    (∀ {σ : Type} (onFrame : UInt16 → List UInt8 → σ → σ) (onDrop : σ → σ) (s : σ)
        (acc rest : List UInt8) (off off' : Nat) (p : Parsed), off ≤ acc.length →
      acc.drop off = disturbedFrame cmd flags ver seq payload mask ++ rest →
      tryParseOne acc off = some (some p, off') → p.payload = disturb payload mask →
      deliver onFrame onDrop s p = onDrop s) ∧
    (∀ (cb : UInt16 → List UInt8 → AsioChannel → AsioChannel) (ch : AsioChannel) (now : Nat)
        (reads : List Read) (before after : List Frame), payload.length ≤ 2 ^ 20 - 12 →
      reads.flatMap Read.bytes = before.flatMap Frame.bytes
        ++ disturbedFrame cmd flags ver seq payload mask ++ after.flatMap Frame.bytes →
      (runReads cb (ch.start now).1 reads).2
        = (before.filter Frame.intact).map callOf ++ (after.filter Frame.intact).map callOf) := by
  refine ⟨crc32_disturb_ne hlen hburst, ?_, ?_⟩
  · intro σ onFrame onDrop s acc rest off off' p hoff hacc hparse hp
    rw [deliver, crcOk_disturbed hlen hburst hoff hacc hparse hp, if_neg Bool.false_ne_true]
  · intro cb ch now reads before after hsize hcut
    have hle : kHeaderAfterLen + (disturb payload mask).length ≤ kMaxFrameBytes := by
      rw [length_disturb hlen]
      simp only [kHeaderAfterLen, kMaxFrameBytes]
      omega
    let altered : Frame := ⟨{ cmd, flags, ver, seq, crc := crc32 payload }, _, hle⟩
    have haltered : ¬ altered.intact = true := by
      rw [Frame.intact, beq_iff_eq]
      exact crc32_disturb_ne hlen hburst
    have hframes : reads.flatMap Read.bytes = (before ++ altered :: after).flatMap Frame.bytes := by
      rw [hcut, List.flatMap_append, List.flatMap_cons, List.append_assoc]
      rfl
    rw [runReads_frames cb ch now hframes, List.filter_append, List.filter_cons_of_neg haltered,
      List.map_append]

/-- One flipped bit in the payload `A`, between a header and the end of the stream. -/
theorem burst_detected_flip :
    ∃ reads : List Read, reads.flatMap Read.bytes = disturbedFrame 7 0 1 0 [65] [1] ∧
      Burst 32 (dataBits [1]) ∧ crc32 (disturb [65] [1]) ≠ crc32 [65] ∧
      (runReads (fun _ _ ch => ch) (start { channelId := 1 } 0).1 reads).2 = [] := by
  have hburst : Burst 32 (dataBits [1]) := by
    refine ⟨by decide, 0, fun i hi => ⟨Nat.zero_le i, ?_⟩⟩
    have hlt := (List.getElem?_eq_some_iff.mp hi).1
    rw [length_dataBits] at hlt
    simp only [List.length_cons, List.length_nil] at hlt
    omega
  let reads : List Read :=
    [⟨disturbedFrame 7 0 1 0 [65] [1], by decide +kernel, by decide +kernel⟩]
  have hcut : reads.flatMap Read.bytes = ([] : List Frame).flatMap Frame.bytes
      ++ disturbedFrame 7 0 1 0 [65] [1] ++ ([] : List Frame).flatMap Frame.bytes := by
    decide +kernel
  obtain ⟨hcrc, -, hstream⟩ := burst_detected [65] [1] rfl hburst 7 0 1 0
  exact ⟨reads, by decide +kernel, hburst, hcrc, hstream _ _ 0 reads [] [] (by decide) hcut⟩

end AsioChannel

namespace FrameCodec

/-! ## Parsing and packing -/

/-- Fewer bytes than a complete frame: the length field is not there, or it is at most
`k_max_frame_bytes` and not all of the frame is there. -/
def Short (acc : List UInt8) (off : Nat) : Prop :=
  acc.length - off < 4 ∨ ∃ len, getLe32 acc off = some len ∧ len.toNat ≤ kMaxFrameBytes ∧
    acc.length - off < 4 + len.toNat

/-- **Parsing, then packing.** At every offset in a buffer `try_parse_one` stays inside the
buffer. If it returns `true`, the offset moves by `4 + L`, and with a matching CRC `pack` builds
the consumed bytes from what it returned. If a frame is not complete it returns `false` and
leaves the offset alone, so the next call is one on the longer buffer. -/
theorem parse_then_pack {acc : List UInt8} {off : Nat} (hoff : off ≤ acc.length) :
    (tryParseOne acc off).isSome = true ∧
    (∀ p off', tryParseOne acc off = some (some p, off') →
      (∃ len, getLe32 acc off = some len ∧ off' = off + 4 + len.toNat ∧ off' ≤ acc.length) ∧
      (p.crcOk = true → (acc.drop off).take (off' - off)
        = pack p.hdr.cmd p.hdr.flags p.hdr.ver p.hdr.seq p.payload)) ∧
    (Short acc off → ∃ off', tryParseOne acc off = some (none, off') ∧ off' = off ∧
      ∀ more, tryParseOne (acc ++ more) off' = tryParseOne (acc ++ more) off) := by
  refine ⟨?_, ?_, ?_⟩
  · rw [tryParseOne_eq hoff]
    cases frameDecoder.attempt (acc.drop off) <;> rfl
  · intro p off' hparse
    obtain ⟨hdr, payload, rest, hacc, hlen, rfl, rfl⟩ := (tryParseOne_some_iff hoff).mp hparse
    have hfield : getLe32 acc off = some (UInt32.ofNat (kHeaderAfterLen + payload.length)) := by
      rw [← Nat.add_zero off, ← getLe32_drop, hacc, encode, List.append_assoc, List.append_assoc,
        getLe32_append]
    have htotal := congrArg List.length hacc
    rw [List.length_drop, List.length_append, length_encode] at htotal
    refine ⟨⟨_, hfield, ?_, by omega⟩, ?_⟩
    · rw [toNat_lenAfterLen hlen, kHeaderTotal_eq]
      omega
    · intro hcrc
      rw [hacc, Nat.add_sub_cancel_left, ← length_encode hdr payload, List.take_left]
      obtain ⟨cmd, flags, ver, seq, crc⟩ := hdr
      obtain rfl : crc32 payload = crc := eq_of_beq hcrc
      rfl
  · intro hshort
    refine ⟨off, ?_, rfl, fun _ => rfl⟩
    unfold tryParseOne
    rcases hshort with hfour | ⟨len, hfield, hmax, hrest⟩
    · rw [if_pos hfour]
      rfl
    · by_cases hfour : acc.length - off < 4
      · rw [if_pos hfour]
        rfl
      · rw [if_neg hfour, hfield]
        simp [Nat.not_lt.mpr hmax, hrest]

/-- The frame of `A` after two other bytes, and before the end of its third byte. -/
theorem parse_then_pack_letter :
    let acc := [1, 2] ++ pack 7 0 1 0 [65]
    2 ≤ acc.length ∧
    (∃ p, tryParseOne acc 2 = some (some p, 19) ∧ (acc.drop 2).take (19 - 2)
      = pack p.hdr.cmd p.hdr.flags p.hdr.ver p.hdr.seq p.payload) ∧
    tryParseOne (acc.take 5) 2 = some (none, 2) := by
  intro acc
  have hoff : 2 ≤ acc.length := by decide +kernel
  have hparse : tryParseOne acc 2
      = some (some (parsed { cmd := 7, flags := 0, ver := 1, seq := 0, crc := crc32 [65] } [65]),
        19) := by
    decide +kernel
  have hshort : Short (acc.take 5) 2 := .inl (by decide +kernel)
  have hprefix : 2 ≤ (acc.take 5).length := by decide +kernel
  refine ⟨hoff, ⟨_, hparse, ((parse_then_pack hoff).2.1 _ _ hparse).2 (by decide +kernel)⟩, ?_⟩
  obtain ⟨off', hwait, rfl, -⟩ := (parse_then_pack hprefix).2.2 hshort
  exact hwait

end FrameCodec

end EcsAsioServer
