import EcsAsioServer.Network.AsioChannel

/-!
# The receive path on whole streams

The receive path keeps a buffer and an offset into it, and moves the buffer
under the parser whenever more than half of it has been consumed. None of this
is observable: the bytes from the offset on (`unreadBytes`) are exactly the
unread input of the incremental decoder `frameDecoder`, one read step is one
`drain` of them (`readDone_spec`), and a run of read steps is the decoder's
`feed` (`runReads_spec`). What comes out of a concatenation of admissible frames
is then the general theorem about self-delimiting encodings.
-/

namespace EcsAsioServer

open FrameCodec Incremental

namespace AsioChannel

variable {σ : Type}

/-! ## The parse loop drains the unread bytes -/

variable {ch : AsioChannel} {off : Nat} {acc : List UInt8}

/-- The loop hands every frame at the front of the unread bytes to `deliver`, in
order, and stops at an offset from which exactly the left-over bytes are read. -/
theorem parseLoop_spec (onFrame : UInt16 → List UInt8 → σ → σ) (onDrop : σ → σ) (acc : List UInt8)
    (hoff : off ≤ acc.length) (s : σ) :
    ∃ off' ≤ acc.length,
      parseLoop onFrame onDrop acc off s
        = ((frameDecoder.drain (acc.drop off)).1.foldl (deliver onFrame onDrop) s, off') ∧
      acc.drop off' = Decoder.unread (frameDecoder.drain (acc.drop off)) := by
  -- induction on the number of unread bytes, as for the loop's termination
  induction hn : acc.length - off using Nat.strong_induction_on generalizing off s with
  | _ n ih =>
    subst hn
    have hparse := tryParseOne_eq hoff
    cases ha : frameDecoder.attempt (acc.drop off) with
    | wait =>
      rw [ha] at hparse
      refine ⟨off, hoff, ?_, ?_⟩
      · rw [parseLoop, Decoder.drain_wait ha]
        split <;> simp_all
      · rw [Decoder.drain_wait ha]
        rfl
    | giveUp =>
      rw [ha] at hparse
      refine ⟨acc.length, Nat.le_refl _, ?_, ?_⟩
      · rw [parseLoop, Decoder.drain_giveUp ha]
        split <;> simp_all
      · rw [Decoder.drain_giveUp ha, List.drop_length]
        rfl
    | item p k =>
      simp only [ha] at hparse
      obtain ⟨hlt, hle⟩ := tryParseOne_advance hparse
      obtain ⟨off', hoff', hloop, hdrop⟩ :=
        ih (acc.length - (off + k)) (by omega) hle (deliver onFrame onDrop s p) rfl
      refine ⟨off', hoff', ?_, ?_⟩
      · rw [parseLoop, Decoder.drain_item ha, List.drop_drop]
        split <;> simp_all
      · rw [hdrop, Decoder.drain_item ha, List.drop_drop]
        rfl

/-- Compaction keeps the unread bytes. -/
theorem compact_drop (acc : List UInt8) (off : Nat) :
    (compact acc off).1.drop (compact acc off).2 = acc.drop off := by
  unfold compact
  split
  · rfl
  · rfl

theorem compact_le (h : off ≤ acc.length) :
    (compact acc off).2 ≤ (compact acc off).1.length := by
  unfold compact
  split
  · exact Nat.zero_le _
  · exact h

/-- A consumed part longer than the rest is erased. -/
theorem compact_size (h : off ≤ acc.length) :
    (compact acc off).1.length ≤ 2 * ((compact acc off).1.drop (compact acc off).2).length := by
  rw [compact_drop, List.length_drop]
  unfold compact
  split
  · simp only [List.length_drop]
    omega
  · simp only
    omega

/-! ## A buffer that is read into -/

theorem feed_snoc (reads : List (List UInt8)) (bytes : List UInt8) :
    frameDecoder.feed [] (reads ++ [bytes])
      = ((frameDecoder.feed [] reads).1
          ++ (frameDecoder.drain ((frameDecoder.feed [] reads).2 ++ bytes)).1,
        Decoder.unread (frameDecoder.drain ((frameDecoder.feed [] reads).2 ++ bytes))) := by
  rw [Decoder.feed_append]
  simp [Decoder.feed]

/-- A buffer holds, from its offset on, what the decoder has left over of the reads. -/
structure Collected (reads : List (List UInt8)) (acc : List UInt8) (off : Nat) : Prop where
  inside : off ≤ acc.length
  unread : acc.drop off = (frameDecoder.feed [] reads).2

theorem collected_nil : Collected [] [] 0 := ⟨Nat.le_refl _, rfl⟩

/-- One more read, as all receive loops of the program do it: append, parse, compact. -/
theorem Collected.read {reads : List (List UInt8)} (h : Collected reads acc off)
    (onFrame : UInt16 → List UInt8 → σ → σ) (onDrop : σ → σ) (bytes : List UInt8) (s : σ) :
    ∃ off', parseLoop onFrame onDrop (acc ++ bytes) off s
        = ((frameDecoder.drain ((frameDecoder.feed [] reads).2 ++ bytes)).1.foldl
          (deliver onFrame onDrop) s, off') ∧
      Collected (reads ++ [bytes]) (compact (acc ++ bytes) off').1
        (compact (acc ++ bytes) off').2 := by
  have hoff : off ≤ (acc ++ bytes).length := by
    rw [List.length_append]
    exact Nat.le_add_right_of_le h.inside
  have hdrop : (acc ++ bytes).drop off = (frameDecoder.feed [] reads).2 ++ bytes := by
    rw [List.drop_append_of_le_length h.inside, h.unread]
  obtain ⟨off', hle, hloop, hrest⟩ := parseLoop_spec onFrame onDrop _ hoff s
  rw [hdrop] at hloop hrest
  refine ⟨off', hloop, compact_le hle, ?_⟩
  rw [compact_drop, hrest, feed_snoc]

/-! ## One read step -/

/-- The bytes received and not yet parsed. -/
def unreadBytes (ch : AsioChannel) : List UInt8 := ch.frameAcc.drop ch.frameAccOffset

/-- The offset points into the buffer. -/
def BufferOk (ch : AsioChannel) : Prop := ch.frameAccOffset ≤ ch.frameAcc.length

theorem BufferOk.append (h : ch.BufferOk) (bytes : List UInt8) :
    ch.frameAccOffset ≤ (ch.frameAcc ++ bytes).length := by
  rw [List.length_append]
  exact Nat.le_add_right_of_le h

/-- What dropping a frame does to the channel. -/
def countDrop (r : AsioChannel × σ) : AsioChannel × σ :=
  ({ r.1 with drops := r.1.drops + 1 }, r.2)

/-- One read step drains the unread bytes extended by the read: the callbacks
see the frames in order, and the channel keeps the left-over bytes. -/
theorem readDone_spec (onFrame : UInt16 → List UInt8 → AsioChannel × σ → AsioChannel × σ)
    (hok : ch.BufferOk) (bytes : List UInt8) (s : σ) :
    ∃ acc off, off ≤ acc.length ∧ acc.length ≤ 2 * (acc.drop off).length ∧
      acc.drop off
        = Decoder.unread (frameDecoder.drain (ch.unreadBytes ++ bytes)) ∧
      readDone onFrame ch bytes s
        = (let r := (frameDecoder.drain (ch.unreadBytes ++ bytes)).1.foldl
              (deliver onFrame countDrop)
              ({ ch with frameAcc := ch.frameAcc ++ bytes }, s)
           ({ r.1 with frameAcc := acc, frameAccOffset := off }, r.2)) := by
  have hdrop : (ch.frameAcc ++ bytes).drop ch.frameAccOffset = ch.unreadBytes ++ bytes :=
    List.drop_append_of_le_length hok
  obtain ⟨off', hoff', hloop, hrest⟩ := parseLoop_spec onFrame countDrop _ (hok.append bytes)
    ({ ch with frameAcc := ch.frameAcc ++ bytes }, s)
  rw [hdrop] at hloop hrest
  refine ⟨(compact (ch.frameAcc ++ bytes) off').1, (compact (ch.frameAcc ++ bytes) off').2,
    compact_le hoff', compact_size hoff', ?_, ?_⟩
  · rw [compact_drop, hrest]
  · unfold countDrop at hloop ⊢
    simp only [readDone, parseFrames, hloop]

theorem readDone_bufferOk (onFrame : UInt16 → List UInt8 → AsioChannel × σ → AsioChannel × σ)
    (hok : ch.BufferOk) (bytes : List UInt8) (s : σ) :
    (readDone onFrame ch bytes s).1.BufferOk := by
  obtain ⟨acc, off, hle, -, -, heq⟩ := readDone_spec onFrame hok bytes s
  rw [heq]
  exact hle

theorem readDone_unreadBytes (onFrame : UInt16 → List UInt8 → AsioChannel × σ → AsioChannel × σ)
    (hok : ch.BufferOk) (bytes : List UInt8) (s : σ) :
    (readDone onFrame ch bytes s).1.unreadBytes
      = Decoder.unread (frameDecoder.drain (ch.unreadBytes ++ bytes)) := by
  obtain ⟨acc, off, -, -, hdrop, heq⟩ := readDone_spec onFrame hok bytes s
  rw [heq, ← hdrop]
  rfl

/-- The state of the owner after one read step. -/
theorem readDone_owner (onFrame : UInt16 → List UInt8 → AsioChannel × σ → AsioChannel × σ)
    (hok : ch.BufferOk) (bytes : List UInt8) (s : σ) :
    (readDone onFrame ch bytes s).2
      = ((frameDecoder.drain (ch.unreadBytes ++ bytes)).1.foldl
          (deliver onFrame countDrop)
          ({ ch with frameAcc := ch.frameAcc ++ bytes }, s)).2 := by
  obtain ⟨acc, off, -, -, -, heq⟩ := readDone_spec onFrame hok bytes s
  rw [heq]

theorem start_bufferOk (ch : AsioChannel) (now : Nat) : (ch.start now).1.BufferOk :=
  Nat.le_refl 0

theorem start_unreadBytes (ch : AsioChannel) (now : Nat) : (ch.start now).1.unreadBytes = [] :=
  rfl

/-! ## A run of read steps -/

/-- One `async_read_some` into the 1024-byte `read_buffer_`. -/
structure Read where
  bytes : List UInt8
  nonempty : bytes ≠ []
  fits : bytes.length ≤ readBufferSize

/-- The command and payload of one `on_frame_` call. -/
abbrev Call := UInt16 × List UInt8

/-- A callback with an arbitrary effect `cb` on the channel, whose calls are
recorded. -/
def record (cb : UInt16 → List UInt8 → AsioChannel → AsioChannel) (cmd : UInt16)
    (payload : List UInt8) (r : AsioChannel × List Call) : AsioChannel × List Call :=
  (cb cmd payload r.1, r.2 ++ [(cmd, payload)])

/-- One read step for each read, in order. -/
def runReads (cb : UInt16 → List UInt8 → AsioChannel → AsioChannel) (ch : AsioChannel)
    (reads : List Read) : AsioChannel × List Call :=
  reads.foldl (fun r read => readDone (record cb) r.1 read.bytes r.2) (ch, [])

/-- The calls for a list of parsed frames: those with a matching CRC. -/
def callsOf (ps : List Parsed) : List Call :=
  (ps.filter Parsed.crcOk).map fun p => (p.hdr.cmd, p.payload)

theorem callsOf_append (ps qs : List Parsed) : callsOf (ps ++ qs) = callsOf ps ++ callsOf qs := by
  simp [callsOf]

/-- Delivering parsed frames to a recording callback records their calls. -/
theorem foldl_deliver_record (cb : UInt16 → List UInt8 → AsioChannel → AsioChannel)
    (ps : List Parsed) (r : AsioChannel × List Call) :
    (ps.foldl (deliver (record cb) countDrop) r).2 = r.2 ++ callsOf ps := by
  induction ps generalizing r with
  | nil => simp [callsOf]
  | cons p ps ih =>
    rw [List.foldl_cons, ih]
    cases hp : p.crcOk <;> simp [deliver, record, countDrop, callsOf, hp]

/-- A run of read steps is the decoder fed with the reads, whatever the
callbacks do to the channel. -/
theorem runReads_spec (cb : UInt16 → List UInt8 → AsioChannel → AsioChannel)
    (ch : AsioChannel) (hok : ch.BufferOk) (reads : List Read) (calls : List Call) :
    (reads.foldl (fun r read => readDone (record cb) r.1 read.bytes r.2) (ch, calls)).2
      = calls ++ callsOf (frameDecoder.feed ch.unreadBytes (reads.map Read.bytes)).1 := by
  induction reads generalizing ch calls with
  | nil => simp [Decoder.feed, callsOf]
  | cons read reads ih =>
    rw [List.foldl_cons, ih _ (readDone_bufferOk _ hok _ _), readDone_unreadBytes _ hok,
      readDone_owner _ hok, foldl_deliver_record]
    simp only [List.map_cons, Decoder.feed, callsOf_append, List.append_assoc]

/-! ## Whole frames, cut anywhere -/

/-- The call that delivers a frame. -/
def callOf (f : Frame) : Call := (f.hdr.cmd, f.payload)

theorem callsOf_parsed (frames : List Frame) :
    callsOf (frames.map fun f => parsed f.hdr f.payload)
      = (frames.filter Frame.intact).map callOf := by
  rw [callsOf, List.filter_map, List.map_map]
  rfl

/-- The calls of a run over a concatenation of admissible frames. -/
theorem runReads_frames (cb : UInt16 → List UInt8 → AsioChannel → AsioChannel)
    (ch : AsioChannel) (now : Nat) {reads : List Read} {frames : List Frame}
    (hcut : reads.flatMap Read.bytes = frames.flatMap Frame.bytes) :
    (runReads cb (ch.start now).1 reads).2 = (frames.filter Frame.intact).map callOf := by
  have hflat : (reads.map Read.bytes).flatten = frames.flatMap Frame.bytes := by
    rw [← hcut]
    rfl
  rw [runReads, runReads_spec cb _ (start_bufferOk ch now), start_unreadBytes,
    frameDecoder_recognises.feed_encoded frameDecoder_nil hflat, callsOf_parsed]
  rfl

/-- **Every stream of admissible frames is delivered exactly**: for every list of
frames with `12 ≤ L ≤ 2^20` and every cutting of their concatenation into
non-empty reads of at most 1024 bytes, the started channel calls `on_frame_` for
the frames with a matching CRC, with their own command and payload, in stream
order and each once. In particular a frame built by `pack` is delivered between
its neighbours. -/
theorem runReads_delivers (cb : UInt16 → List UInt8 → AsioChannel → AsioChannel)
    (ch : AsioChannel) (now : Nat) (reads : List Read) :
    (∀ frames : List Frame, reads.flatMap Read.bytes = frames.flatMap Frame.bytes →
      (runReads cb (ch.start now).1 reads).2 = (frames.filter Frame.intact).map callOf) ∧
    (∀ (before after : List Frame) (cmd : UInt16) (flags ver : UInt8) (seq : UInt32)
        (payload : List UInt8), payload.length ≤ 2 ^ 20 - 12 →
      reads.flatMap Read.bytes
        = before.flatMap Frame.bytes ++ pack cmd flags ver seq payload
          ++ after.flatMap Frame.bytes →
      (runReads cb (ch.start now).1 reads).2
        = (before.filter Frame.intact).map callOf ++ (cmd, payload)
          :: (after.filter Frame.intact).map callOf) := by
  refine ⟨fun frames hcut => runReads_frames cb ch now hcut, ?_⟩
  intro before after cmd flags ver seq payload hlen hcut
  have hle : kHeaderAfterLen + payload.length ≤ kMaxFrameBytes := by
    simp only [kHeaderAfterLen, kMaxFrameBytes]
    omega
  have hcut' : reads.flatMap Read.bytes
      = (before ++ Frame.ofPack cmd flags ver seq payload hle :: after).flatMap Frame.bytes := by
    rw [hcut, List.flatMap_append, List.flatMap_cons, Frame.bytes_ofPack, List.append_assoc]
  rw [runReads_frames cb ch now hcut', List.filter_append,
    List.filter_cons_of_pos (Frame.intact_ofPack cmd flags ver seq payload hle)]
  simp [callOf, Frame.ofPack]

/-- A frame with a wrong CRC field and a packed frame, cut inside the second
length field: only the packed frame is delivered. -/
theorem runReads_delivers_two : ∃ (reads : List Read) (bad : Frame),
    bad.intact = false ∧
    reads.flatMap Read.bytes
      = [bad].flatMap Frame.bytes ++ pack 7 0 1 0 [65]
        ++ ([] : List Frame).flatMap Frame.bytes ∧
    (runReads (fun _ _ ch => ch) (start { channelId := 1 } 0).1 reads).2 = [(7, [65])] := by
  let bad : Frame := ⟨{ cmd := 9, crc := 5 }, [], by decide⟩
  let stream := bad.bytes ++ pack 7 0 1 0 [65]
  let reads : List Read :=
    [⟨stream.take 18, by decide, by decide⟩,
     ⟨stream.drop 18, by decide +kernel, by decide +kernel⟩]
  have hbad : bad.intact = false := by decide +kernel
  have hcut : reads.flatMap Read.bytes
      = [bad].flatMap Frame.bytes ++ pack 7 0 1 0 [65]
        ++ ([] : List Frame).flatMap Frame.bytes := by decide +kernel
  refine ⟨reads, bad, hbad, hcut, ?_⟩
  have h := (runReads_delivers (fun _ _ ch => ch) { channelId := 1 } 0 reads).2 [bad] []
    7 0 1 0 [65] (by decide) hcut
  rw [h]
  simp [hbad]

end AsioChannel

end EcsAsioServer
