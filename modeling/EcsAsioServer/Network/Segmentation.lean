import EcsAsioServer.Network.Receive

/-!
# The receive path on arbitrary streams

What `parse_frames_` does with bytes that need not be frames.

- The buffer stays bounded and every access stays inside it, whatever arrives
  (`receive_bounded`): an unread part that waits for more bytes is shorter than the
  largest frame, and the part in front of it is erased before it gets longer.
- A length field above the limit, or too small for a header, makes the parser skip
  everything that has arrived so far. What is parsed afterwards then depends on how
  the stream was cut. `runReads_agree_iff` says for which streams it does not.
-/

namespace EcsAsioServer

open FrameCodec Incremental

namespace FrameCodec

/-- The parser gives up on a length field out of range: one above the limit at once,
one too small for a header as soon as its few bytes are there. -/
def BadLength (v : UInt32) (t : List UInt8) : Prop :=
  kMaxFrameBytes < v.toNat ∨ (v.toNat < kHeaderAfterLen ∧ v.toNat ≤ t.length)

theorem attempt_giveUp_iff {s : List UInt8} :
    attempt s = .giveUp ↔ ∃ v t, s = putLe32 v ++ t ∧ BadLength v t := by
  constructor
  · intro h
    cases unread_cases s with
    | short _ hr => simp [attempt, hr] at h
    | oversize v t hs hv _ => exact ⟨v, t, hs, .inl hv⟩
    | incomplete _ _ _ _ _ hr => simp [attempt, hr] at h
    | undersize v t hs hv ht _ => exact ⟨v, t, hs, .inr ⟨hv, ht⟩⟩
    | frame _ _ _ _ _ hr => simp [attempt, hr] at h
  · rintro ⟨v, t, rfl, hbad⟩
    refine attempt_skip rfl ?_
    rw [tryParseOne_putLe32, List.length_append, length_putLe32]
    rcases hbad with hbig | ⟨hsmall, hle⟩
    · rw [if_pos hbig]
    · have hmax : ¬ kMaxFrameBytes < v.toNat := by
        simp only [kHeaderAfterLen, kMaxFrameBytes] at hsmall ⊢
        omega
      rw [if_neg hmax, if_neg (Nat.not_lt.mpr hle), if_pos hsmall]

theorem frameDecoder_stubborn : frameDecoder.Stubborn := by
  intro s h t
  obtain ⟨v, u, rfl, hbad⟩ := attempt_giveUp_iff.mp h
  refine attempt_giveUp_iff.mpr ⟨v, u ++ t, List.append_assoc .., ?_⟩
  rcases hbad with hbig | ⟨hsmall, hle⟩
  · exact .inl hbig
  · refine .inr ⟨hsmall, ?_⟩
    rw [List.length_append]
    omega

/-- Bytes that wait for more are fewer than the largest frame has. -/
theorem length_of_wait {s : List UInt8} (h : attempt s = .wait) :
    s.length < 4 + kMaxFrameBytes := by
  cases unread_cases s with
  | short hlt _ =>
    simp only [kMaxFrameBytes]
    omega
  | oversize v t hs _ hr => simp [attempt_skip hs hr] at h
  | incomplete v t hs hv ht _ =>
    rw [hs, List.length_append, length_putLe32]
    omega
  | undersize v t hs _ _ hr => simp [attempt_skip hs hr] at h
  | frame _ _ _ _ _ hr => simp [attempt, hr] at h

/-- The parser gives up on a stream when complete frames are followed by a bad length
field. -/
theorem givesUp_iff (s : List UInt8) :
    frameDecoder.GivesUp s ↔ ∃ (frames : List Frame) (v : UInt32) (t : List UInt8),
      s = frames.flatMap Frame.bytes ++ (putLe32 v ++ t) ∧ BadLength v t := by
  constructor
  · intro h
    rw [Decoder.GivesUp] at h
    -- a frame at the front leaves a shorter stream
    induction s using Decoder.drain.induct frameDecoder with
    | case1 s ha =>
      rw [Decoder.drain_wait ha] at h
      cases h
    | case2 s ha =>
      obtain ⟨v, t, hs, hbad⟩ := attempt_giveUp_iff.mp ha
      exact ⟨[], v, t, hs, hbad⟩
    | case3 s p k ha ih =>
      rw [Decoder.drain_item ha] at h
      obtain ⟨frames, v, t, hrest, hbad⟩ := ih h
      obtain ⟨hdr, payload, u, rfl, hle, -, rfl⟩ := attempt_item_iff.mp ha
      rw [← length_encode hdr payload, List.drop_left] at hrest
      refine ⟨⟨hdr, payload, hle⟩ :: frames, v, t, ?_, hbad⟩
      rw [hrest, List.flatMap_cons, List.append_assoc]
      rfl
  · rintro ⟨frames, v, t, rfl, hbad⟩
    induction frames with
    | nil =>
      have hup : frameDecoder.attempt (putLe32 v ++ t) = .giveUp :=
        attempt_giveUp_iff.mpr ⟨v, t, rfl, hbad⟩
      rw [List.flatMap_nil, List.nil_append, Decoder.GivesUp, Decoder.drain_giveUp hup]
    | cons f frames ih =>
      have hf := frameDecoder_recognises.complete f
        (frames.flatMap Frame.bytes ++ (putLe32 v ++ t))
      rw [List.flatMap_cons, List.append_assoc, Decoder.GivesUp, Decoder.drain_item hf,
        List.drop_left]
      exact ih

end FrameCodec

namespace AsioChannel

variable {σ : Type}

/-! ## The bounds of the buffer -/

/-- The loop of `parse_frames_` calls `try_parse_one` from `off` on, gets `n` frames
and ends at `off'`. In every call the offset is in the buffer, so that `avail` does not
wrap around, and every access stays inside it. -/
inductive LoopEnds (acc : List UInt8) : Nat → Nat → Nat → Prop
  | stop {off off' : Nat} (hoff : off ≤ acc.length)
      (h : tryParseOne acc off = some (none, off')) : LoopEnds acc off 0 off'
  | round {off off₁ off' n : Nat} {p : Parsed} (hoff : off ≤ acc.length)
      (h : tryParseOne acc off = some (some p, off₁)) (hrest : LoopEnds acc off₁ n off') :
      LoopEnds acc off (n + 1) off'

/-- The loop ends: every frame takes at least the 16 bytes of its header. -/
theorem exists_loopEnds {acc : List UInt8} {off : Nat} (hoff : off ≤ acc.length) :
    ∃ n off', LoopEnds acc off n off' ∧ off + kHeaderTotal * n ≤ off' ∧ off' ≤ acc.length := by
  induction hn : acc.length - off using Nat.strong_induction_on generalizing off with
  | _ n ih =>
    subst hn
    have hparse := tryParseOne_eq hoff
    cases ha : frameDecoder.attempt (acc.drop off) with
    | wait =>
      rw [ha] at hparse
      exact ⟨0, off, .stop hoff hparse, Nat.le_refl _, hoff⟩
    | giveUp =>
      rw [ha] at hparse
      exact ⟨0, acc.length, .stop hoff hparse, hoff, Nat.le_refl _⟩
    | item p k =>
      simp only [ha] at hparse
      obtain ⟨hlt, hle⟩ := tryParseOne_advance hparse
      obtain ⟨_, payload, _, _, _, _, hk⟩ := attempt_item_iff.mp ha
      obtain ⟨n, off', hends, hadv, hle'⟩ := ih (acc.length - (off + k)) (by omega) hle rfl
      refine ⟨n + 1, off', .round hoff hparse hends, ?_, hle'⟩
      rw [Nat.mul_add, Nat.mul_one]
      omega

/-- The offset that the loop of the model returns. -/
theorem LoopEnds.parseLoop {acc : List UInt8} {off n off' : Nat} (h : LoopEnds acc off n off')
    (onFrame : UInt16 → List UInt8 → σ → σ) (onDrop : σ → σ) (s : σ) :
    (AsioChannel.parseLoop onFrame onDrop acc off s).2 = off' := by
  induction h generalizing s with
  | stop _ h =>
    rw [AsioChannel.parseLoop]
    split <;> simp_all
  | round _ h _ ih =>
    rw [AsioChannel.parseLoop]
    split <;> simp_all

/-- The buffer after a read step: the offset is inside it, the unread part is shorter
than the largest frame, and at least half of the buffer. -/
structure Bounded (ch : AsioChannel) : Prop where
  offset_le : ch.BufferOk
  unread_lt : ch.unreadBytes.length < 4 + kMaxFrameBytes
  size_le : ch.frameAcc.length ≤ 2 * ch.unreadBytes.length

theorem readDone_bounded
    (onFrame : UInt16 → List UInt8 → AsioChannel × σ → AsioChannel × σ) {ch : AsioChannel}
    (hok : ch.BufferOk) (bytes : List UInt8) (s : σ) :
    (readDone onFrame ch bytes s).1.Bounded := by
  refine ⟨readDone_bufferOk onFrame hok bytes s, ?_, ?_⟩
  · rw [readDone_unreadBytes onFrame hok, Decoder.unread]
    cases hr : (frameDecoder.drain (ch.unreadBytes ++ bytes)).2 with
    | none =>
      rw [Option.getD_none, List.length_nil]
      omega
    | some r => exact length_of_wait (frameDecoder.attempt_of_drain hr)
  · obtain ⟨acc, off, -, hsize, -, heq⟩ := readDone_spec onFrame hok bytes s
    rw [heq]
    exact hsize

/-- One read step for each piece of the stream. -/
def receive (onFrame : UInt16 → List UInt8 → AsioChannel × σ → AsioChannel × σ)
    (ch : AsioChannel) (s : σ) (reads : List (List UInt8)) : AsioChannel × σ :=
  reads.foldl (fun r bytes => readDone onFrame r.1 bytes r.2) (ch, s)

theorem start_bounded (ch : AsioChannel) (now : Nat) : (ch.start now).1.Bounded :=
  ⟨start_bufferOk ch now, Nat.zero_lt_succ _, Nat.le_refl 0⟩

theorem receive_keeps_bounded
    (onFrame : UInt16 → List UInt8 → AsioChannel × σ → AsioChannel × σ) {ch : AsioChannel}
    (h : ch.Bounded) (s : σ) (reads : List (List UInt8)) :
    (receive onFrame ch s reads).1.Bounded := by
  induction reads generalizing ch s with
  | nil => exact h
  | cons bytes reads ih => exact ih (readDone_bounded onFrame h.offset_le bytes s) _

/-- **The receive buffer is bounded**: after any reads of any bytes, whatever the
callbacks do, the offset is inside the buffer, the unread part is shorter than the
largest frame and the buffer at most twice as long as that. On whatever the next read
brings, the loop of `parse_frames_` ends after at most one round for every 16 bytes of
the buffer, and all its accesses stay inside. -/
theorem receive_bounded (onFrame : UInt16 → List UInt8 → AsioChannel × σ → AsioChannel × σ)
    (ch : AsioChannel) (now : Nat) (s : σ) (reads : List (List UInt8)) :
    let ch' := (receive onFrame (ch.start now).1 s reads).1
    ch'.frameAccOffset ≤ ch'.frameAcc.length ∧
    ch'.unreadBytes.length < 2 ^ 20 + 4 ∧
    ch'.frameAcc.length ≤ 2 * (2 ^ 20 + 3) ∧
    ∀ bytes : List UInt8, ∃ n off',
      LoopEnds (ch'.frameAcc ++ bytes) ch'.frameAccOffset n off' ∧
      16 * n ≤ (ch'.frameAcc ++ bytes).length ∧ off' ≤ (ch'.frameAcc ++ bytes).length ∧
      ∀ r, (parseLoop onFrame countDrop (ch'.frameAcc ++ bytes) ch'.frameAccOffset r).2
        = off' := by
  intro ch'
  have h : ch'.Bounded := receive_keeps_bounded onFrame (start_bounded ch now) s reads
  have hunread := h.unread_lt
  have hsize := h.size_le
  simp only [kMaxFrameBytes] at hunread
  refine ⟨h.offset_le, by omega, by omega, ?_⟩
  intro bytes
  obtain ⟨n, off', hends, hadv, hle⟩ := exists_loopEnds (h.offset_le.append bytes)
  simp only [kHeaderTotal] at hadv
  exact ⟨n, off', hends, by omega, hle, hends.parseLoop onFrame countDrop⟩

/-! ## Two cuttings of one stream -/

/-- The reads of a cutting are its pieces. -/
theorem cutting_iff_reads {s : List UInt8} {cs : List (List UInt8)} :
    Decoder.Cutting readBufferSize s cs ↔
      ∃ reads : List Read, reads.flatMap Read.bytes = s ∧ reads.map Read.bytes = cs := by
  constructor
  · rintro ⟨hflat, hne, hle⟩
    refine ⟨cs.attach.map fun c => ⟨c.1, hne _ c.2, hle _ c.2⟩, ?_, ?_⟩
    · rw [← hflat, List.flatMap_map]
      simp
    · rw [List.map_map]
      simp
  · rintro ⟨reads, rfl, rfl⟩
    refine ⟨rfl, ?_, ?_⟩
    · intro c hc
      obtain ⟨read, -, rfl⟩ := List.mem_map.mp hc
      exact read.nonempty
    · intro c hc
      obtain ⟨read, -, rfl⟩ := List.mem_map.mp hc
      exact read.fits

/-- The calls of a run, from the pieces of the stream. -/
theorem runReads_calls (cb : UInt16 → List UInt8 → AsioChannel → AsioChannel)
    (ch : AsioChannel) (now : Nat) (reads : List Read) :
    (runReads cb (ch.start now).1 reads).2
      = callsOf (frameDecoder.feed [] (reads.map Read.bytes)).1 := by
  rw [runReads, runReads_spec cb _ (start_bufferOk ch now), start_unreadBytes, List.nil_append]

/-- The loop calls back what the decoder delivers. -/
theorem agree_iff_agreed (cb : UInt16 → List UInt8 → AsioChannel → AsioChannel)
    (ch : AsioChannel) (now : Nat) (s : List UInt8) :
    (∀ reads reads' : List Read,
        reads.flatMap Read.bytes = s → reads'.flatMap Read.bytes = s →
        (runReads cb (ch.start now).1 reads).2 = (runReads cb (ch.start now).1 reads').2) ↔
      ∃ calls, Decoder.Agreed frameDecoder readBufferSize callsOf s calls := by
  have hagreed := Decoder.agreed_iff frameDecoder_stubborn frameDecoder_nil
    (show 0 < readBufferSize by decide) callsOf_append s
  constructor
  · intro h
    -- the calls of the cutting into single bytes are those of every other one
    obtain ⟨single, hsingle, -⟩ := cutting_iff_reads.mp
      (Decoder.cutting_singletons (show 0 < readBufferSize by decide) s)
    refine ⟨_, (hagreed (runReads cb (ch.start now).1 single).2).mp ?_⟩
    intro cs hcs
    obtain ⟨reads, hreads, rfl⟩ := cutting_iff_reads.mp hcs
    rw [← runReads_calls cb ch now]
    exact h reads single hreads hsingle
  · rintro ⟨calls, hcalls⟩ reads reads' hreads hreads'
    have hcut := (hagreed calls).mpr hcalls
    rw [runReads_calls, runReads_calls,
      hcut _ (cutting_iff_reads.mpr ⟨reads, hreads, rfl⟩),
      hcut _ (cutting_iff_reads.mpr ⟨reads', hreads', rfl⟩)]

/-- **When the calls are independent of the cutting.** Two cuttings of `s` into reads
give the same calls exactly if `s` is `Agreed`: the parser does not give up on it, or the
rest of the stream yields the same calls from every place where the read that makes it
give up may end. The parser gives up exactly on whole frames followed by a length field
out of range. -/
theorem runReads_agree_iff (cb : UInt16 → List UInt8 → AsioChannel → AsioChannel)
    (ch : AsioChannel) (now : Nat) (s : List UInt8) :
    ((∀ reads reads' : List Read,
        reads.flatMap Read.bytes = s → reads'.flatMap Read.bytes = s →
        (runReads cb (ch.start now).1 reads).2 = (runReads cb (ch.start now).1 reads').2) ↔
      ∃ calls, Decoder.Agreed frameDecoder readBufferSize callsOf s calls) ∧
    (frameDecoder.GivesUp s ↔ ∃ (frames : List Frame) (v : UInt32) (t : List UInt8),
      s = frames.flatMap Frame.bytes ++ (putLe32 v ++ t) ∧ BadLength v t) :=
  ⟨agree_iff_agreed cb ch now s, givesUp_iff s⟩

/-- A length field of `2^32 - 1` before a packed frame: in one read both are skipped,
and if a read ends between them the frame is delivered. -/
theorem cuttings_disagree : ∃ reads reads' : List Read,
    reads.flatMap Read.bytes = [255, 255, 255, 255] ++ pack 7 0 1 0 [65] ∧
    reads'.flatMap Read.bytes = [255, 255, 255, 255] ++ pack 7 0 1 0 [65] ∧
    (runReads (fun _ _ ch => ch) (start { channelId := 1 } 0).1 reads).2 = [] ∧
    (runReads (fun _ _ ch => ch) (start { channelId := 1 } 0).1 reads').2 = [(7, [65])] := by
  refine ⟨[⟨[255, 255, 255, 255] ++ pack 7 0 1 0 [65], by decide +kernel, by decide +kernel⟩],
    [⟨[255, 255, 255, 255], by decide, by decide⟩,
     ⟨pack 7 0 1 0 [65], by decide +kernel, by decide +kernel⟩], ?_, ?_, ?_, ?_⟩
  · rfl
  · rfl
  · decide +kernel
  · decide +kernel

end AsioChannel

end EcsAsioServer
