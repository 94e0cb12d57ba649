import EcsAsioServer.Lib.Incremental
import EcsAsioServer.Lib.LittleEndian

/-!
# The frame codec (`common/network/frame_codec.hpp`)

A frame on the wire is a 4-byte length `L`, the 12 header bytes
`cmd(2) flags(1) ver(1) seq(4) crc(4)` and a payload of `L - 12` bytes; every
integer is little-endian and the CRC covers the payload only.

- `crc32`, `pack`, `tryParseOne`: the codec's functions. Bytes are read through
  checked accessors, so that a read outside the accumulated buffer is visible in
  the model as a missing result.
- `Frame`: a frame whose length field the parser admits.
- `frameDecoder`: `try_parse_one` seen as an incremental decoder on the unread
  bytes (`tryParseOne_eq`), which recognises the encoding of every `Frame`
  (`frameDecoder_recognises`).
-/

namespace EcsAsioServer.FrameCodec

open LittleEndian Incremental

/-! ## Constants and little-endian helpers -/

/-- The version in every header. -/
def kProtoVer : UInt8 := 1

/-- `cmd(2) + flags(1) + ver(1) + seq(4) + crc(4)`. -/
def kHeaderAfterLen : Nat := 12

/-- `len(4) + 12`. -/
def kHeaderTotal : Nat := 16

/-- 1 MB. -/
def kMaxFrameBytes : Nat := 2 ^ 20

/-- `put_le16`. -/
def putLe16 (v : UInt16) : List UInt8 := bytes16 v

/-- `put_le32`. -/
def putLe32 (v : UInt32) : List UInt8 := bytes32 v

/-- `get_le16(p)` at index `i` of the buffer; `none` when a byte lies outside. -/
def getLe16 (acc : List UInt8) (i : Nat) : Option UInt16 := do
  let b₀ ← acc[i]?
  let b₁ ← acc[i + 1]?
  return ofBytes16 b₀ b₁

/-- `get_le32(p)` at index `i` of the buffer; `none` when a byte lies outside. -/
def getLe32 (acc : List UInt8) (i : Nat) : Option UInt32 := do
  let b₀ ← acc[i]?
  let b₁ ← acc[i + 1]?
  let b₂ ← acc[i + 2]?
  let b₃ ← acc[i + 3]?
  return ofBytes32 b₀ b₁ b₂ b₃

/-- `std::string_view(p, n)` at index `i` of the buffer. -/
def slice (acc : List UInt8) (i n : Nat) : Option (List UInt8) :=
  if i + n ≤ acc.length then some ((acc.drop i).take n) else none

/-! ## CRC32 (IEEE) of the payload -/

/-- One step of the table's inner loop. -/
def crcBit (c : UInt32) : UInt32 :=
  if c &&& 1 ≠ 0 then (0xEDB88320 : UInt32) ^^^ (c >>> 1) else c >>> 1

/-- `table[i]`: eight steps from `i`. -/
def crcEntry (i : UInt32) : UInt32 := crcBit^[8] i

/-- The 256-entry table built on first use. -/
def crcTable : List UInt32 := (List.range 256).map fun i => crcEntry (UInt32.ofNat i)

/-- One byte of the main loop. -/
def crcByte (c : UInt32) (b : UInt8) : UInt32 :=
  crcTable.getD ((c ^^^ b.toUInt32) &&& 0xFF).toNat 0 ^^^ (c >>> 8)

/-- `crc32`. -/
def crc32 (data : List UInt8) : UInt32 :=
  data.foldl crcByte 0xFFFFFFFF ^^^ 0xFFFFFFFF

/-! ## Packing and parsing -/

/-- The header after the length field. -/
structure HeaderV1 where
  cmd : UInt16 := 0
  flags : UInt8 := 0
  ver : UInt8 := kProtoVer
  seq : UInt32 := 0
  crc : UInt32 := 0
deriving DecidableEq, Repr

/-- The twelve header bytes after the length field. -/
def headerBytes (hdr : HeaderV1) : List UInt8 :=
  putLe16 hdr.cmd ++ [hdr.flags, hdr.ver] ++ putLe32 hdr.seq ++ putLe32 hdr.crc

/-- The bytes of a frame with the given header and payload. The length field is
the 32-bit truncation of `12 + payload.size()`. -/
def encode (hdr : HeaderV1) (payload : List UInt8) : List UInt8 :=
  putLe32 (UInt32.ofNat (kHeaderAfterLen + payload.length)) ++ headerBytes hdr ++ payload

/-- `pack`: the CRC field is the CRC of the payload. -/
def pack (cmd : UInt16) (flags ver : UInt8) (seq : UInt32) (payload : List UInt8) :
    List UInt8 :=
  encode { cmd, flags, ver, seq, crc := crc32 payload } payload

/-- What a successful `try_parse_one` writes to its out parameters. -/
structure Parsed where
  hdr : HeaderV1
  payload : List UInt8
  crcOk : Bool
deriving DecidableEq, Repr

/-- The five header fields at index `i` of the buffer. -/
def getHeader (acc : List UInt8) (i : Nat) : Option HeaderV1 := do
  return {
    cmd := ← getLe16 acc i
    flags := ← acc[i + 2]?
    ver := ← acc[i + 3]?
    seq := ← getLe32 acc (i + 4)
    crc := ← getLe32 acc (i + 8) }

/-- `try_parse_one`: the parsed frame, if it returns `true`, and the new
`acc_offset`. The outer `none` is a read outside `acc`. -/
def tryParseOne (acc : List UInt8) (accOffset : Nat) : Option (Option Parsed × Nat) := do
  let avail := acc.length - accOffset
  if avail < 4 then return (none, accOffset)
  let lenAfterLen := (← getLe32 acc accOffset).toNat
  if kMaxFrameBytes < lenAfterLen then
    return (none, acc.length) -- desync: skip all
  let total := 4 + lenAfterLen
  if avail < total then return (none, accOffset)
  -- checked only now: a short length waits for its own few bytes first
  if lenAfterLen < kHeaderAfterLen then return (none, acc.length)
  let hdr ← getHeader acc (accOffset + 4)
  let payload ← slice acc (accOffset + 16) (lenAfterLen - kHeaderAfterLen)
  return (some { hdr, payload, crcOk := crc32 payload == hdr.crc }, accOffset + total)

/-! ## Reading the encoded fields back -/

@[simp] theorem length_headerBytes (hdr : HeaderV1) :
    (headerBytes hdr).length = kHeaderAfterLen := rfl

@[simp] theorem length_putLe32 (v : UInt32) : (putLe32 v).length = 4 := rfl

@[simp] theorem length_encode (hdr : HeaderV1) (payload : List UInt8) :
    (encode hdr payload).length = kHeaderTotal + payload.length := by
  simp only [encode, List.length_append, length_putLe32, length_headerBytes,
    kHeaderAfterLen, kHeaderTotal]

@[simp] theorem length_pack (cmd : UInt16) (flags ver : UInt8) (seq : UInt32)
    (payload : List UInt8) :
    (pack cmd flags ver seq payload).length = kHeaderTotal + payload.length :=
  length_encode _ payload

theorem getLe32_append (v : UInt32) (t : List UInt8) :
    getLe32 (putLe32 v ++ t) 0 = some v := by
  obtain ⟨b₀, b₁, b₂, b₃, hb, hv⟩ := exists_bytes32 v
  rw [putLe32, hb, ← hv]
  rfl

theorem getHeader_append (hdr : HeaderV1) (t : List UInt8) :
    getHeader (headerBytes hdr ++ t) 0 = some hdr := by
  obtain ⟨cmd, flags, ver, seq, crc⟩ := hdr
  obtain ⟨c₀, c₁, hc, rfl⟩ := exists_bytes16 cmd
  obtain ⟨s₀, s₁, s₂, s₃, hs, rfl⟩ := exists_bytes32 seq
  obtain ⟨k₀, k₁, k₂, k₃, hk, rfl⟩ := exists_bytes32 crc
  simp only [headerBytes, putLe16, putLe32, hc, hs, hk]
  rfl

variable {s acc t : List UInt8} {off : Nat}

/-- Four bytes at the front are the encoding of a word. -/
theorem exists_putLe32 (h : 4 ≤ s.length) :
    ∃ v t, s = putLe32 v ++ t := by
  match s, h with
  | b₀ :: b₁ :: b₂ :: b₃ :: t, _ =>
    exact ⟨ofBytes32 b₀ b₁ b₂ b₃, t, by rw [putLe32, bytes32_ofBytes32]; rfl⟩

/-- Twelve bytes at the front are the encoding of a header. -/
theorem exists_headerBytes (h : kHeaderAfterLen ≤ s.length) :
    ∃ hdr t, s = headerBytes hdr ++ t := by
  match s, h with
  | c₀ :: c₁ :: fl :: ve :: s₀ :: s₁ :: s₂ :: s₃ :: k₀ :: k₁ :: k₂ :: k₃ :: t, _ =>
    refine ⟨⟨ofBytes16 c₀ c₁, fl, ve, ofBytes32 s₀ s₁ s₂ s₃, ofBytes32 k₀ k₁ k₂ k₃⟩, t, ?_⟩
    simp only [headerBytes, putLe16, putLe32, bytes16_ofBytes16, bytes32_ofBytes32]
    rfl

/-! ## Parsing at an offset is parsing the unread bytes -/

theorem getLe16_drop (acc : List UInt8) (off i : Nat) :
    getLe16 (acc.drop off) i = getLe16 acc (off + i) := by
  simp only [getLe16, List.getElem?_drop, Nat.add_assoc]

theorem getLe32_drop (acc : List UInt8) (off i : Nat) :
    getLe32 (acc.drop off) i = getLe32 acc (off + i) := by
  simp only [getLe32, List.getElem?_drop, Nat.add_assoc]

theorem getHeader_drop (acc : List UInt8) (off i : Nat) :
    getHeader (acc.drop off) i = getHeader acc (off + i) := by
  simp only [getHeader, getLe16_drop, getLe32_drop, List.getElem?_drop, Nat.add_assoc]

theorem slice_drop (h : off ≤ acc.length) (i n : Nat) :
    slice (acc.drop off) i n = slice acc (off + i) n := by
  have hiff : i + n ≤ acc.length - off ↔ off + i + n ≤ acc.length := by omega
  simp only [slice, List.length_drop, List.drop_drop, hiff]

/-- The parser depends on the buffer only through the bytes from the offset on. -/
theorem tryParseOne_drop (h : off ≤ acc.length) :
    tryParseOne acc off
      = (tryParseOne (acc.drop off) 0).map fun r => (r.1, off + r.2) := by
  have hend : off + (acc.length - off) = acc.length := by omega
  -- both sides make the same tests, one after the other
  unfold tryParseOne
  simp only [getLe32_drop, getHeader_drop, slice_drop h, List.length_drop,
    Nat.zero_add, Nat.sub_zero, Nat.add_zero]
  split
  · rfl
  · cases getLe32 acc off with
    | none => rfl
    | some len =>
      simp only [Option.bind_eq_bind, Option.bind_some]
      split
      · simp [hend]
      · split
        · rfl
        · split
          · simp [hend]
          · cases getHeader acc (off + 4) with
            | none => rfl
            | some hdr =>
              simp only [Option.bind_some]
              cases slice acc (off + 16) (len.toNat - kHeaderAfterLen) <;> rfl

/-! ## What the unread bytes can look like -/

/-- The frame an unread buffer starts with, as `try_parse_one` reports it. -/
def parsed (hdr : HeaderV1) (payload : List UInt8) : Parsed :=
  { hdr, payload, crcOk := crc32 payload == hdr.crc }

theorem kHeaderTotal_eq : kHeaderTotal = 4 + kHeaderAfterLen := rfl

/-- The length field of an admissible frame is not truncated. -/
theorem toNat_lenAfterLen {n : Nat} (h : n ≤ kMaxFrameBytes) :
    (UInt32.ofNat n).toNat = n := by
  have hmax : kMaxFrameBytes < 2 ^ 32 := by decide
  rw [UInt32.toNat_ofNat', Nat.mod_eq_of_lt (by omega)]

/-- The parser on unread bytes whose length field `v` has arrived. -/
theorem tryParseOne_putLe32 (v : UInt32) (t : List UInt8) :
    tryParseOne (putLe32 v ++ t) 0
      = if kMaxFrameBytes < v.toNat then some (none, 4 + t.length)
        else if t.length < v.toNat then some (none, 0)
        else if v.toNat < kHeaderAfterLen then some (none, 4 + t.length)
        else (getHeader t 0).bind fun hdr =>
          (slice t kHeaderAfterLen (v.toNat - kHeaderAfterLen)).map fun payload =>
            (some (parsed hdr payload), 4 + v.toNat) := by
  have hhdr : getHeader (putLe32 v ++ t) 4 = getHeader t 0 :=
    (getHeader_drop (putLe32 v ++ t) 4 0).symm
  have hfield : 4 ≤ (putLe32 v ++ t).length := by simp
  have hpay : ∀ n, slice (putLe32 v ++ t) 16 n = slice t kHeaderAfterLen n := fun n =>
    (slice_drop hfield kHeaderAfterLen n).symm
  have hinc : 4 + t.length < 4 + v.toNat ↔ t.length < v.toNat := by omega
  unfold tryParseOne
  simp only [getLe32_append, Option.bind_eq_bind, Option.bind_some, Nat.sub_zero,
    Nat.zero_add, List.length_append, length_putLe32, hinc, hhdr, hpay]
  rw [if_neg (by omega)]
  cases getHeader t 0 with
  | none => rfl
  | some hdr =>
    cases slice t kHeaderAfterLen (v.toNat - kHeaderAfterLen) <;> rfl

/-- The five shapes of unread bytes that `try_parse_one` tells apart, with the
result of the call on each. -/
inductive Unread (s : List UInt8) : Prop where
  /-- The length field has not arrived. -/
  | short (h : s.length < 4) (hr : tryParseOne s 0 = some (none, 0))
  /-- The length field is above the limit: everything is skipped. -/
  | oversize (v : UInt32) (t : List UInt8) (hs : s = putLe32 v ++ t)
      (hv : kMaxFrameBytes < v.toNat) (hr : tryParseOne s 0 = some (none, s.length))
  /-- The announced bytes have not all arrived. -/
  | incomplete (v : UInt32) (t : List UInt8) (hs : s = putLe32 v ++ t)
      (hv : v.toNat ≤ kMaxFrameBytes) (ht : t.length < v.toNat)
      (hr : tryParseOne s 0 = some (none, 0))
  /-- The announced length cannot hold a header: everything is skipped. -/
  | undersize (v : UInt32) (t : List UInt8) (hs : s = putLe32 v ++ t)
      (hv : v.toNat < kHeaderAfterLen) (ht : v.toNat ≤ t.length)
      (hr : tryParseOne s 0 = some (none, s.length))
  /-- A complete frame. -/
  | frame (hdr : HeaderV1) (payload t : List UInt8) (hs : s = encode hdr payload ++ t)
      (hlen : kHeaderAfterLen + payload.length ≤ kMaxFrameBytes)
      (hr : tryParseOne s 0
        = some (some (parsed hdr payload), kHeaderTotal + payload.length))

/-- A complete frame at the front is parsed, whatever follows it. -/
theorem tryParseOne_encode (hdr : HeaderV1) (payload t : List UInt8)
    (hlen : kHeaderAfterLen + payload.length ≤ kMaxFrameBytes) :
    tryParseOne (encode hdr payload ++ t) 0
      = some (some (parsed hdr payload), kHeaderTotal + payload.length) := by
  have hpay : slice (headerBytes hdr ++ (payload ++ t)) kHeaderAfterLen payload.length
      = some payload := by
    rw [slice, if_pos (by simp), List.drop_left' (length_headerBytes hdr), List.take_left]
  rw [encode, List.append_assoc, List.append_assoc, tryParseOne_putLe32,
    toNat_lenAfterLen hlen, if_neg (by omega),
    if_neg (by simp only [List.length_append, length_headerBytes]; omega),
    if_neg (by omega), Nat.add_sub_cancel_left, getHeader_append, hpay,
    kHeaderTotal_eq, Nat.add_assoc]
  rfl

/-- A length field `v` followed by at least `v ≥ 12` bytes is a complete frame. -/
theorem exists_encode {v : UInt32} (hv : kHeaderAfterLen ≤ v.toNat) (ht : v.toNat ≤ t.length) :
    ∃ hdr payload rest, putLe32 v ++ t = encode hdr payload ++ rest ∧
      kHeaderAfterLen + payload.length = v.toNat := by
  obtain ⟨hdr, body, rfl⟩ := exists_headerBytes (Nat.le_trans hv ht)
  rw [List.length_append, length_headerBytes] at ht
  have hlen : kHeaderAfterLen + (body.take (v.toNat - kHeaderAfterLen)).length = v.toNat := by
    rw [List.length_take]
    omega
  refine ⟨hdr, body.take (v.toNat - kHeaderAfterLen),
    body.drop (v.toNat - kHeaderAfterLen), ?_, hlen⟩
  rw [encode, hlen, UInt32.ofNat_toNat, List.append_assoc, List.append_assoc,
    List.take_append_drop]

/-- Every unread buffer has one of the five shapes. -/
theorem unread_cases (s : List UInt8) : Unread s := by
  by_cases h4 : s.length < 4
  · refine .short h4 ?_
    simp [tryParseOne, h4]
  obtain ⟨v, t, rfl⟩ := exists_putLe32 (Nat.le_of_not_lt h4)
  have hparse := tryParseOne_putLe32 v t
  by_cases hmax : kMaxFrameBytes < v.toNat
  · rw [if_pos hmax] at hparse
    exact .oversize v t rfl hmax (by rw [hparse, List.length_append, length_putLe32])
  rw [if_neg hmax] at hparse
  by_cases hinc : t.length < v.toNat
  · rw [if_pos hinc] at hparse
    exact .incomplete v t rfl (Nat.le_of_not_lt hmax) hinc hparse
  rw [if_neg hinc] at hparse
  by_cases hund : v.toNat < kHeaderAfterLen
  · rw [if_pos hund] at hparse
    exact .undersize v t rfl hund (Nat.le_of_not_lt hinc)
      (by rw [hparse, List.length_append, length_putLe32])
  · obtain ⟨hdr, payload, rest, hs, hlen⟩ :=
      exists_encode (Nat.le_of_not_lt hund) (Nat.le_of_not_lt hinc)
    have hle : kHeaderAfterLen + payload.length ≤ kMaxFrameBytes := by omega
    exact .frame hdr payload rest hs hle (by rw [hs]; exact tryParseOne_encode hdr payload rest hle)

/-! ## The parser as an incremental decoder -/

/-- `try_parse_one` on the unread bytes. -/
def attempt (s : List UInt8) : Attempt Parsed :=
  match tryParseOne s 0 with
  | some (some p, n) => .item p n
  | some (none, 0) => .wait
  -- the offset has moved to the end of the buffer
  | _ => .giveUp

/-- Skipping everything is giving up: the skipped bytes hold a length field. -/
theorem attempt_skip {v : UInt32} (hs : s = putLe32 v ++ t)
    (hr : tryParseOne s 0 = some (none, s.length)) : attempt s = .giveUp := by
  have hlen : s.length = t.length + 3 + 1 := by
    rw [hs, List.length_append, length_putLe32]
    omega
  rw [attempt, hr, hlen]
  rfl

/-- An item is a complete admissible frame at the front of the unread bytes. -/
theorem attempt_item_iff {p : Parsed} {n : Nat} :
    attempt s = .item p n ↔ ∃ hdr payload t, s = encode hdr payload ++ t ∧
      kHeaderAfterLen + payload.length ≤ kMaxFrameBytes ∧
      p = parsed hdr payload ∧ n = kHeaderTotal + payload.length := by
  constructor
  · intro h
    cases unread_cases s with
    | short _ hr => simp [attempt, hr] at h
    | oversize v t hs _ hr => simp [attempt_skip hs hr] at h
    | incomplete _ _ _ _ _ hr => simp [attempt, hr] at h
    | undersize v t hs _ _ hr => simp [attempt_skip hs hr] at h
    | frame hdr payload t hs hlen hr =>
      simp only [attempt, hr, Attempt.item.injEq] at h
      exact ⟨hdr, payload, t, hs, hlen, h.1.symm, h.2.symm⟩
  · rintro ⟨hdr, payload, t, rfl, hlen, rfl, rfl⟩
    simp only [attempt, tryParseOne_encode hdr payload t hlen]

/-- The frame parser as a decoder of the byte stream. -/
def frameDecoder : Decoder UInt8 Parsed where
  attempt := attempt
  item_pos h := by
    obtain ⟨_, _, _, _, _, _, rfl⟩ := attempt_item_iff.mp h
    simp [kHeaderTotal]
  item_le h := by
    obtain ⟨_, _, _, rfl, _, _, rfl⟩ := attempt_item_iff.mp h
    simp
  item_append h u := by
    obtain ⟨hdr, payload, t, rfl, hlen, hp, hn⟩ := attempt_item_iff.mp h
    exact attempt_item_iff.mpr ⟨hdr, payload, t ++ u, List.append_assoc _ _ _, hlen, hp, hn⟩

/-- `try_parse_one` at any offset inside the buffer, through the decoder: it
never reads outside the buffer, and each outcome moves the offset as stated. -/
theorem tryParseOne_eq (h : off ≤ acc.length) :
    tryParseOne acc off = match frameDecoder.attempt (acc.drop off) with
      | .wait => some (none, off)
      | .giveUp => some (none, acc.length)
      | .item p n => some (some p, off + n) := by
  have hend : off + (acc.drop off).length = acc.length := by
    rw [List.length_drop]
    omega
  rw [tryParseOne_drop h]
  show _ = match attempt (acc.drop off) with
    | .wait => some (none, off)
    | .giveUp => some (none, acc.length)
    | .item p n => some (some p, off + n)
  cases unread_cases (acc.drop off) with
  | short _ hr => simp [attempt, hr]
  | incomplete _ _ _ _ _ hr => simp [attempt, hr]
  | frame _ _ _ _ _ hr => simp [attempt, hr]
  | oversize v t hs _ hr => rw [attempt_skip hs hr, hr, Option.map_some, hend]
  | undersize v t hs _ _ hr => rw [attempt_skip hs hr, hr, Option.map_some, hend]

/-! ## Admissible frames -/

/-- A frame whose length field `L = 12 + payload.size()` the parser admits, with
arbitrary header fields: the CRC field need not be the payload's CRC. -/
structure Frame where
  hdr : HeaderV1
  payload : List UInt8
  size_le : kHeaderAfterLen + payload.length ≤ kMaxFrameBytes
deriving DecidableEq

namespace Frame

/-- The frame on the wire. -/
def bytes (f : Frame) : List UInt8 := encode f.hdr f.payload

/-- The CRC field is the CRC of the payload. -/
def intact (f : Frame) : Bool := crc32 f.payload == f.hdr.crc

/-- The frame that `pack` builds. -/
def ofPack (cmd : UInt16) (flags ver : UInt8) (seq : UInt32) (payload : List UInt8)
    (h : kHeaderAfterLen + payload.length ≤ kMaxFrameBytes) : Frame :=
  { hdr := { cmd, flags, ver, seq, crc := crc32 payload }, payload, size_le := h }

theorem bytes_ofPack (cmd : UInt16) (flags ver : UInt8) (seq : UInt32)
    (payload : List UInt8) (h : kHeaderAfterLen + payload.length ≤ kMaxFrameBytes) :
    (ofPack cmd flags ver seq payload h).bytes = pack cmd flags ver seq payload := rfl

theorem intact_ofPack (cmd : UInt16) (flags ver : UInt8) (seq : UInt32)
    (payload : List UInt8) (h : kHeaderAfterLen + payload.length ≤ kMaxFrameBytes) :
    (ofPack cmd flags ver seq payload h).intact = true := by
  simp [intact, ofPack]

end Frame

/-- Fewer bytes than a complete frame leave the parser waiting. -/
theorem attempt_incomplete {hdr : HeaderV1} {payload p : List UInt8}
    (hlen : kHeaderAfterLen + payload.length ≤ kMaxFrameBytes) (hp : p ++ t = encode hdr payload)
    (ht : t ≠ []) : attempt p = .wait := by
  have hpl : p.length + t.length = kHeaderTotal + payload.length := by
    rw [← length_encode hdr payload, ← hp, List.length_append]
  have htpos : 0 < t.length := List.length_pos_of_ne_nil ht
  by_cases h4 : p.length < 4
  · simp [attempt, tryParseOne, h4]
  obtain ⟨v, q, rfl⟩ := exists_putLe32 (Nat.le_of_not_lt h4)
  -- the length field of `p` is the frame's own
  have hv : v = UInt32.ofNat (kHeaderAfterLen + payload.length) := by
    have hword := getLe32_append v (q ++ t)
    rw [← List.append_assoc, hp, encode, List.append_assoc, getLe32_append] at hword
    exact (Option.some.inj hword).symm
  have hvn : v.toNat = kHeaderAfterLen + payload.length := by
    rw [hv, toNat_lenAfterLen hlen]
  rw [List.length_append, length_putLe32, kHeaderTotal_eq] at hpl
  rw [attempt, tryParseOne_putLe32, if_neg (by omega), if_pos (by omega)]
  rfl

/-- The parser recognises every admissible frame: not before its last byte has
arrived, and then with its own header, payload and CRC verdict. -/
theorem frameDecoder_recognises :
    frameDecoder.Recognises Frame.bytes fun f => parsed f.hdr f.payload where
  complete f t := attempt_item_iff.mpr
    ⟨f.hdr, f.payload, t, rfl, f.size_le, rfl, length_encode f.hdr f.payload⟩
  incomplete f _ _ hp ht := attempt_incomplete f.size_le hp ht

theorem frameDecoder_nil : frameDecoder.attempt [] = .wait := rfl

end EcsAsioServer.FrameCodec
