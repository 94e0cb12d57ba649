import EcsAsioServer.Lib.Transition
import EcsAsioServer.Network.Receive
import EcsAsioServer.Network.SendQueue

/-!
# The callback protocol of a channel

A channel reports to the server through `on_accept`, `on_frame_`, `on_close` and
`close_callback_`. Over any run of one channel (reads, whose frame handlers may
send, sends from elsewhere, completions, errors and timers) the trace of these
calls has exactly one shape (`Traced`): `on_accept`, then frames, then at most one
`on_close` with its `close_callback_`, then possibly more frames.

The frames after `on_close` are real: `parse_frames_` does not look at `closed_`,
so frames that are complete in `frame_acc_` when a handler's send overflows the
queue are still delivered, and so are those of a read that completes after the
close. `ReadSafe` is the condition under which a read delivers none, and
`chanRun_protocol_iff` says that a run keeps the protocol exactly when all its
reads meet it.
-/

namespace EcsAsioServer.AsioChannel

open FrameCodec Incremental Transition

/-! ## Runs of one channel -/

/-- What the io thread can do to a channel. -/
inductive ChannelEvent where
  /-- A read completes; the handler of the `i`-th frame that it delivers makes the
  sends `replies[i]` on this channel. -/
  | read (r : Read) (replies : List (List SendArgs))
  | readError
  /-- A send from outside the channel's own frame handlers. -/
  | send (a : SendArgs)
  | written (now : Nat)
  | writeError
  | idleTimer (now : Nat)
  | pingTimer

/-- A channel with the calls it has made. -/
structure ChannelState where
  ch : AsioChannel
  trace : List Callback
  /-- A read is in progress: `do_read` is not called again after an error. -/
  reading : Bool

/-- A freshly accepted channel after `start`. -/
def started (id : Int32) (now : Nat) : ChannelState :=
  let r := start { channelId := id } now
  ⟨r.1, r.2, true⟩

/-- Several sends, one after the other, with the calls they lead to. -/
def sendAll (order : ArgOrder) (ch : AsioChannel) :
    List SendArgs → AsioChannel × List Callback
  | [] => (ch, [])
  | a :: rest =>
    let r := ch.send order a.data a.size
    let r' := sendAll order r.1 rest
    (r'.1, r.2 ++ r'.2)

/-- `on_frame_` with the replies still to be made: the call is recorded, then the
first reply list is sent. -/
def replyTo (order : ArgOrder) (cmd : UInt16) (payload : List UInt8)
    (r : AsioChannel × List Callback × List (List SendArgs)) :
    AsioChannel × List Callback × List (List SendArgs) :=
  let (ch, calls) := sendAll order r.1 (r.2.2.headD [])
  (ch, r.2.1 ++ .onFrame cmd payload :: calls, r.2.2.tail)

/-- One event. Reads need a read in progress. -/
def chanStep (order : ArgOrder) (s : ChannelState) : ChannelEvent → ChannelState
  | .read r replies =>
    if s.reading then
      let r' := readDone (replyTo order) s.ch r.bytes (s.trace, replies)
      { s with ch := r'.1, trace := r'.2.1 }
    else s
  | .readError =>
    if s.reading then
      let r := readFailed s.ch
      -- the handler returns without another `do_read`
      ⟨r.1, s.trace ++ r.2, false⟩
    else s
  | .send a =>
    let r := s.ch.send order a.data a.size
    { s with ch := r.1, trace := s.trace ++ r.2 }
  -- a successful completion makes no call to the server
  | .written now => { s with ch := s.ch.writeDone order now }
  | .writeError =>
    let r := writeFailed s.ch
    { s with ch := r.1, trace := s.trace ++ r.2 }
  | .idleTimer now =>
    let r := idleExpired s.ch now
    { s with ch := r.1, trace := s.trace ++ r.2 }
  | .pingTimer =>
    let r := pingExpired order s.ch
    { s with ch := r.1, trace := s.trace ++ r.2 }

/-- The step relation of one channel. -/
def ChanStep (order : ArgOrder) (s : ChannelState) (e : ChannelEvent) (t : ChannelState) :
    Prop :=
  chanStep order s e = t

/-! ## The protocol -/

/-- The callback that delivers a call. -/
def frameCall (c : Call) : Callback := .onFrame c.1 c.2

/-- **The protocol**: one `on_accept`, then any number of `on_frame_` calls, then at
most one `on_close` with its `close_callback_`, and nothing after it. -/
def Protocol (trace : List Callback) : Prop :=
  ∃ calls : List Call, trace = .onAccept :: calls.map frameCall ∨
    ∃ reason, trace
      = .onAccept :: calls.map frameCall ++ [.onClose reason, .closeCallback reason]

/-- The shape of every trace: the frames `late` follow the close. -/
def Traced (closed : Bool) (late : List Call) (trace : List Callback) : Prop :=
  ∃ calls : List Call,
    (closed = false ∧ late = [] ∧ trace = .onAccept :: calls.map frameCall) ∨
    ∃ reason, closed = true ∧
      trace = .onAccept :: calls.map frameCall ++ [.onClose reason, .closeCallback reason]
        ++ late.map frameCall

/-- The `on_frame_` calls after the first `on_close`. -/
def lateCalls (trace : List Callback) : List Callback :=
  (trace.dropWhile fun c => match c with | .onClose _ => false | _ => true).filter
    fun c => match c with | .onFrame .. => true | _ => false

theorem lateCalls_frames (calls : List Call) (rest : List Callback) :
    lateCalls (calls.map frameCall ++ rest) = lateCalls rest := by
  induction calls with
  | nil => rfl
  | cons c calls ih => exact ih

variable {late : List Call} {trace : List Callback} {ch : AsioChannel} {s : ChannelState}

/-- A trace keeps the protocol exactly when no frame follows the close. -/
theorem Traced.protocol_iff {closed : Bool} (h : Traced closed late trace) :
    Protocol trace ↔ late = [] := by
  have hshape : ∀ calls rest, lateCalls (.onAccept :: List.map frameCall calls ++ rest)
      = lateCalls rest := fun calls rest => lateCalls_frames calls rest
  obtain ⟨calls, ⟨-, hlate, heq⟩ | ⟨reason, -, heq⟩⟩ := h
  · exact ⟨fun _ => hlate, fun _ => ⟨calls, .inl heq⟩⟩
  · constructor
    · -- a trace of the protocol has no late calls, this one has those of `late`
      rintro ⟨calls', hp⟩
      have hnone : lateCalls trace = [] := by
        rcases hp with hp | ⟨reason', hp⟩
        · have hnil := hshape calls' []
          rw [List.append_nil] at hnil
          rw [hp, hnil]
          rfl
        · rw [hp, hshape]
          rfl
      rw [heq, List.append_assoc, hshape] at hnone
      cases late with
      | nil => rfl
      | cons c late => simp [lateCalls, frameCall] at hnone
    · rintro rfl
      exact ⟨calls, .inr ⟨reason, by simpa using heq⟩⟩

/-! ## Calls that can end a channel -/

/-- What a call other than a read does: the receive buffer stays, and either
nothing is reported or an open channel closes and reports it. -/
structure Ends (ch : AsioChannel) (r : AsioChannel × List Callback) : Prop where
  frameAcc : r.1.frameAcc = ch.frameAcc
  frameAccOffset : r.1.frameAccOffset = ch.frameAccOffset
  report : (r.1.closed = ch.closed ∧ r.2 = []) ∨
    (ch.closed = false ∧ r.1.closed = true ∧
      ∃ reason, r.2 = [.onClose reason, .closeCallback reason])

theorem Ends.refl (ch : AsioChannel) : Ends ch (ch, []) := ⟨rfl, rfl, .inl ⟨rfl, rfl⟩⟩

theorem close_ends (ch : AsioChannel) (reason : CloseFunction) : Ends ch (close ch reason) := by
  cases hc : ch.closed with
  | true =>
    rw [close, if_pos hc]
    exact .refl ch
  | false =>
    rw [close, if_neg (by simp [hc])]
    exact ⟨rfl, rfl, .inr ⟨hc, rfl, reason, rfl⟩⟩

theorem doWrite_ends (order : ArgOrder) (ch : AsioChannel) : Ends ch (doWrite order ch, []) := by
  rcases doWrite_cases order ch with ⟨-, heq⟩ | ⟨taken, rest, -, -, -, -, heq⟩
  · rw [heq]
    exact ⟨rfl, rfl, .inl ⟨rfl, rfl⟩⟩
  · rw [heq]
    exact ⟨rfl, rfl, .inl ⟨rfl, rfl⟩⟩

theorem startWrite_ends (order : ArgOrder) (ch : AsioChannel) :
    Ends ch (startWrite order ch, []) := by
  unfold startWrite
  split
  · exact .refl ch
  · obtain ⟨hacc, hoff, hrep⟩ := doWrite_ends order { ch with writing := true }
    exact ⟨hacc, hoff, hrep⟩

theorem send_ends (order : ArgOrder) (ch : AsioChannel) (a : SendArgs) :
    Ends ch (ch.send order a.data a.size) := by
  rcases send_cases order ch a with ⟨-, -, heq⟩ | ⟨-, -, -, -, heq⟩ | ⟨-, -, -, -, heq⟩
  · rw [heq]
    exact .refl ch
  · rw [heq]
    obtain ⟨hacc, hoff, hrep⟩ := close_ends
      { ch with drops := ch.drops + 1, forceCloses := ch.forceCloses + 1 } .forceClosed
    exact ⟨hacc, hoff, hrep⟩
  · rw [heq]
    obtain ⟨hacc, hoff, hrep⟩ := startWrite_ends order (ch.enqueued a.buffer)
    exact ⟨hacc, hoff, hrep⟩

theorem writeDone_ends (order : ArgOrder) (ch : AsioChannel) (now : Nat) :
    Ends ch (writeDone order ch now, []) := by
  rcases writeDone_cases order ch now with ⟨-, heq⟩ | ⟨op, -, ⟨-, heq⟩ | ⟨-, heq⟩⟩
  · rw [heq]
    exact .refl ch
  · rw [heq]
    exact ⟨rfl, rfl, .inl ⟨rfl, rfl⟩⟩
  · rw [heq]
    obtain ⟨hacc, hoff, hrep⟩ := startWrite_ends order (ch.settled op now)
    exact ⟨hacc, hoff, hrep⟩

theorem writeFailed_ends (ch : AsioChannel) : Ends ch (writeFailed ch) := by
  unfold writeFailed
  split
  · exact .refl ch
  · obtain ⟨hacc, hoff, hrep⟩ :=
      close_ends { ch with writesDone := ch.writesDone + 1 } .write
    exact ⟨hacc, hoff, hrep⟩

theorem idleExpired_ends (ch : AsioChannel) (now : Nat) : Ends ch (idleExpired ch now) := by
  unfold idleExpired
  split
  · exact .refl ch
  · split
    · exact close_ends ch .timeout
    · exact .refl ch

/-- The arguments of `send_ping`. -/
def pingArgs : SendArgs :=
  ⟨pack 1 0 kProtoVer 0 [], Int32.ofNat (pack 1 0 kProtoVer 0 []).length, by
    rw [length_pack]
    decide⟩

theorem pingExpired_ends (order : ArgOrder) (ch : AsioChannel) :
    Ends ch (pingExpired order ch) := by
  unfold pingExpired
  split
  · exact .refl ch
  · exact send_ends order ch pingArgs

/-- The trace after an open channel has reported its close. -/
theorem Traced.close (h : Traced false late trace) (reason : CloseFunction) :
    Traced true late (trace ++ [.onClose reason, .closeCallback reason]) := by
  obtain ⟨calls, ⟨-, hlate, heq⟩ | ⟨reason', hc, -⟩⟩ := h
  · refine ⟨calls, .inr ⟨reason, rfl, ?_⟩⟩
    rw [heq, hlate]
    simp
  · cases hc

theorem Traced.ends {r : AsioChannel × List Callback} (h : Traced ch.closed late trace)
    (hr : Ends ch r) :
    Traced r.1.closed late (trace ++ r.2) := by
  rcases hr.report with ⟨hclosed, hnil⟩ | ⟨hopen, hclosed, reason, hcalls⟩
  · rw [hclosed, hnil, List.append_nil]
    exact h
  · rw [hopen] at h
    rw [hclosed, hcalls]
    exact h.close reason

/-! ## Sends from frame handlers -/

/-- The bytes that a list of sends asks to queue. -/
def sendBytes (sends : List SendArgs) : Nat := (sends.map fun a => a.buffer.length).sum

@[simp] theorem sendBytes_nil : sendBytes [] = 0 := rfl

@[simp] theorem sendBytes_cons (a : SendArgs) (sends : List SendArgs) :
    sendBytes (a :: sends) = a.buffer.length + sendBytes sends := by
  simp [sendBytes]

@[simp] theorem sendBytes_append (as bs : List SendArgs) :
    sendBytes (as ++ bs) = sendBytes as + sendBytes bs := by
  simp [sendBytes]

/-- The sends do not all fit under the queue limit. -/
def Overflows (ch : AsioChannel) (sends : List SendArgs) : Prop :=
  0 < sendBytes sends ∧ maxQueueBytes < ch.currentQueueBytes + sendBytes sends

theorem sendAll_closed (order : ArgOrder) (h : ch.closed = true) (sends : List SendArgs) :
    sendAll order ch sends = (ch, []) := by
  induction sends with
  | nil => rfl
  | cons a rest ih =>
    have hsend : ch.send order a.data a.size = (ch, []) := by rw [send, if_pos (.inl h)]
    simp only [sendAll, hsend, ih, List.append_nil]

/-- On an open channel the sends go through, or one of them closes the channel and
the others do nothing. -/
theorem sendAll_open (order : ArgOrder) (h : ch.closed = false) (sends : List SendArgs) :
    (¬ Overflows ch sends ∧ (sendAll order ch sends).1.closed = false ∧
      (sendAll order ch sends).1.currentQueueBytes = ch.currentQueueBytes + sendBytes sends ∧
      (sendAll order ch sends).2 = []) ∨
    (Overflows ch sends ∧ (sendAll order ch sends).1.closed = true ∧
      (sendAll order ch sends).2 = [.onClose .forceClosed, .closeCallback .forceClosed]) := by
  -- each send acts on the channel that the previous ones left
  induction sends generalizing ch with
  | nil => exact .inl ⟨fun ho => Nat.lt_irrefl 0 ho.1, h, rfl, rfl⟩
  | cons a rest ih =>
    have hlen := a.length_buffer
    rcases send_cases order ch a with ⟨-, hskip, heq⟩ | ⟨-, -, hpos, hfull, heq⟩ |
      ⟨-, -, hne, hle, heq⟩
    · -- a send of no bytes
      have hzero : a.buffer.length = 0 := by
        rcases hskip with hc | hs
        · rw [h] at hc
          cases hc
        · omega
      simpa only [sendAll, heq, Overflows, sendBytes_cons, hzero, Nat.zero_add,
        List.nil_append] using ih h
    · -- the send that overflows
      rw [close, if_neg (by simp [h])] at heq
      refine .inr ⟨⟨?_, ?_⟩, ?_⟩
      · rw [sendBytes_cons]
        omega
      · rw [sendBytes_cons]
        omega
      · simp only [sendAll, heq]
        rw [sendAll_closed order rfl rest]
        exact ⟨rfl, rfl⟩
    · -- an accepted send
      have hopen : (startWrite order (ch.enqueued a.buffer)).closed = false := by
        rcases (startWrite_ends order (ch.enqueued a.buffer)).report with ⟨hc, -⟩ | ⟨-, -, hc⟩
        · rw [hc]
          exact h
        · obtain ⟨reason, hc⟩ := hc
          cases hc
      have hcur : (startWrite order (ch.enqueued a.buffer)).currentQueueBytes
          = ch.currentQueueBytes + a.buffer.length := startWrite_currentQueueBytes order _
      have hpos := List.length_pos_iff.mpr hne
      simp only [sendAll, heq, List.nil_append]
      rcases ih hopen with ⟨hno, hc, hq, hnil⟩ | ⟨hover, hc, hcalls⟩
      · refine .inl ⟨?_, hc, ?_, hnil⟩
        · rintro ⟨-, hlt⟩
          rw [sendBytes_cons] at hlt
          refine hno ⟨?_, ?_⟩ <;> omega
        · rw [hq, hcur, sendBytes_cons]
          omega
      · refine .inr ⟨⟨?_, ?_⟩, hc, hcalls⟩
        · rw [sendBytes_cons]
          omega
        · have := hover.2
          rw [sendBytes_cons]
          omega

/-! ## Reads -/

/-- When delivering `n` frames leaves none for after the close: a closed channel
delivers none, and on an open one the replies to all but the last frame fit. -/
def FramesSafe (ch : AsioChannel) (n : Nat) (replies : List (List SendArgs)) : Prop :=
  if ch.closed then n = 0 else ¬ Overflows ch (replies.take (n - 1)).flatten

/-- The replies to a frame count as soon as another frame follows. -/
theorem sendBytes_take_succ (n : Nat) (replies : List (List SendArgs)) :
    sendBytes (replies.take (n + 1)).flatten
      = sendBytes (replies.headD []) + sendBytes (replies.tail.take n).flatten := by
  cases replies with
  | nil => simp
  | cons r rest => simp

/-- On an open channel the first frame is safe, and what follows must be safe in
the state that its replies lead to. -/
theorem framesSafe_succ (order : ArgOrder) (h : ch.closed = false) (n : Nat)
    (replies : List (List SendArgs)) :
    FramesSafe ch (n + 1) replies ↔
      FramesSafe (sendAll order ch (replies.headD [])).1 n replies.tail := by
  have hdef : FramesSafe ch (n + 1) replies ↔ ¬ Overflows ch (replies.take n).flatten := by
    rw [FramesSafe, if_neg (by simp [h]), Nat.add_sub_cancel]
  rw [hdef]
  cases n with
  | zero =>
    -- no frame follows: it does not matter whether the replies close the channel
    have hnone : ∀ ch', ¬ Overflows ch' [] := fun _ ho => Nat.lt_irrefl 0 ho.1
    refine iff_of_true (hnone ch) ?_
    unfold FramesSafe
    split
    · rfl
    · exact hnone _
  | succ m =>
    have hbytes := sendBytes_take_succ m replies
    rcases sendAll_open order h (replies.headD []) with ⟨hno, hc, hq, -⟩ | ⟨hover, hc, -⟩
    · rw [FramesSafe, if_neg (by rw [hc]; exact Bool.false_ne_true), Nat.add_sub_cancel,
        not_iff_not]
      unfold Overflows at hno ⊢
      rw [hbytes, hq]
      omega
    · -- the replies close the channel and a frame follows: neither side holds
      rw [FramesSafe, if_pos hc]
      obtain ⟨hpos, hlt⟩ := hover
      refine iff_of_false ?_ (Nat.succ_ne_zero m)
      intro hno
      refine hno ⟨?_, ?_⟩ <;> omega

/-- The trace after one call of `on_frame_`. -/
theorem Traced.frame {closed : Bool} (h : Traced closed late trace) (c : Call) :
    Traced closed (if closed then late ++ [c] else late) (trace ++ [frameCall c]) := by
  obtain ⟨calls, ⟨rfl, hlate, heq⟩ | ⟨reason, rfl, heq⟩⟩ := h
  · refine ⟨calls ++ [c], .inl ⟨rfl, hlate, ?_⟩⟩
    rw [heq]
    simp
  · refine ⟨calls, .inr ⟨reason, rfl, ?_⟩⟩
    rw [heq]
    simp

/-- Delivering parsed frames extends the trace, with `new` frames after the close;
there are none exactly under `FramesSafe`. -/
theorem foldl_deliver_traced (order : ArgOrder) (ps : List Parsed) (ch : AsioChannel)
    (trace : List Callback) (replies : List (List SendArgs)) (h : Traced ch.closed late trace) :
    ∃ new : List Call,
      Traced (ps.foldl (deliver (replyTo order) countDrop) (ch, trace, replies)).1.closed
        (late ++ new) (ps.foldl (deliver (replyTo order) countDrop) (ch, trace, replies)).2.1 ∧
      (new = [] ↔ FramesSafe ch (callsOf ps).length replies) := by
  -- the state, the trace and the replies left all change from frame to frame
  induction ps generalizing ch trace replies late with
  | nil =>
    refine ⟨[], by simpa using h, ?_⟩
    simp [FramesSafe, callsOf, Overflows]
  | cons p ps ih =>
    rw [List.foldl_cons]
    cases hp : p.crcOk with
    | false =>
      -- a frame with a wrong CRC only counts as a drop
      have hcalls : callsOf (p :: ps) = callsOf ps := by simp [callsOf, hp]
      rw [deliver, if_neg (by simp [hp]), hcalls]
      exact ih { ch with drops := ch.drops + 1 } trace replies h
    | true =>
      have hcalls : (callsOf (p :: ps)).length = (callsOf ps).length + 1 := by
        simp [callsOf, hp]
      rw [deliver, if_pos hp, hcalls]
      have hframe := h.frame (p.hdr.cmd, p.payload)
      cases hc : ch.closed with
      | true =>
        -- a frame delivered after the close
        rw [hc] at hframe
        have hreply : replyTo order p.hdr.cmd p.payload (ch, trace, replies)
            = (ch, trace ++ [frameCall (p.hdr.cmd, p.payload)], replies.tail) := by
          simp only [replyTo, sendAll_closed order hc]
          rfl
        rw [hreply]
        obtain ⟨new, htraced, -⟩ := ih ch _ replies.tail (hc.symm ▸ hframe)
        refine ⟨(p.hdr.cmd, p.payload) :: new, ?_, ?_⟩
        · simpa using htraced
        · simp [FramesSafe, hc]
      | false =>
        -- the replies may close the channel, the rest is then delivered late
        rw [hc] at hframe
        rw [framesSafe_succ order hc]
        have hreply : replyTo order p.hdr.cmd p.payload (ch, trace, replies)
            = ((sendAll order ch (replies.headD [])).1,
                trace ++ [frameCall (p.hdr.cmd, p.payload)]
                  ++ (sendAll order ch (replies.headD [])).2, replies.tail) := by
          rw [List.append_assoc]
          rfl
        rw [hreply]
        refine ih _ _ replies.tail ?_
        rcases sendAll_open order hc (replies.headD []) with ⟨-, hc', -, hcalls'⟩ |
          ⟨-, hc', hcalls'⟩
        · rw [hc', hcalls', List.append_nil]
          exact hframe
        · rw [hc', hcalls']
          exact hframe.close .forceClosed

/-- **When a read delivers no frame after the close.** `n` is the number of complete
frames with a matching CRC in the unread bytes extended by the read. If the channel
is closed, `n = 0`; if it is open, the sends made by the handlers of the first
`n - 1` of them fit under the queue limit. Other events are always safe. -/
def ReadSafe (s : ChannelState) : ChannelEvent → Prop
  | .read r replies =>
    s.reading = true →
      FramesSafe s.ch (callsOf (frameDecoder.drain (s.ch.unreadBytes ++ r.bytes)).1).length
        replies
  | _ => True

/-- What holds between two events. -/
structure ChannelOk (s : ChannelState) : Prop where
  buffer : s.ch.BufferOk
  traced : ∃ late, Traced s.ch.closed late s.trace

/-- An event that is not a read. -/
theorem ChannelOk.ends (h : ChannelOk s) {r : AsioChannel × List Callback} (hr : Ends s.ch r)
    (reading : Bool) :
    ChannelOk ⟨r.1, s.trace ++ r.2, reading⟩ ∧
      (Protocol (s.trace ++ r.2) ↔ Protocol s.trace) := by
  obtain ⟨late, htraced⟩ := h.traced
  have htraced' := htraced.ends hr
  refine ⟨⟨?_, late, htraced'⟩, ?_⟩
  · have hb := h.buffer
    rw [BufferOk] at hb ⊢
    rw [hr.frameAcc, hr.frameAccOffset]
    exact hb
  · rw [htraced.protocol_iff, htraced'.protocol_iff]

/-- A read: the frames it delivers after the close are those that `FramesSafe`
excludes. -/
theorem ChannelOk.read (order : ArgOrder) (h : ChannelOk s) (bytes : List UInt8)
    (replies : List (List SendArgs)) (reading : Bool) :
    let r := readDone (replyTo order) s.ch bytes (s.trace, replies)
    ChannelOk ⟨r.1, r.2.1, reading⟩ ∧
      (Protocol r.2.1 ↔ Protocol s.trace ∧
        FramesSafe s.ch (callsOf (frameDecoder.drain (s.ch.unreadBytes ++ bytes)).1).length
          replies) := by
  obtain ⟨late, htraced⟩ := h.traced
  obtain ⟨acc, off, hle, -, -, heq⟩ :=
    readDone_spec (replyTo order) h.buffer bytes (s.trace, replies)
  obtain ⟨new, htraced', hnew⟩ := foldl_deliver_traced order
    (frameDecoder.drain (s.ch.unreadBytes ++ bytes)).1
    { s.ch with frameAcc := s.ch.frameAcc ++ bytes } s.trace replies htraced
  have hsafe : new = [] ↔ FramesSafe s.ch
      (callsOf (frameDecoder.drain (s.ch.unreadBytes ++ bytes)).1).length replies := hnew
  intro r
  show ChannelOk ⟨r.1, r.2.1, reading⟩ ∧ (Protocol r.2.1 ↔ _)
  have hr : r = _ := heq
  rw [hr]
  refine ⟨⟨hle, late ++ new, htraced'⟩, ?_⟩
  rw [htraced.protocol_iff, ← hsafe, ← List.append_eq_nil_iff]
  exact htraced'.protocol_iff

/-- One event: the invariant is kept, and the protocol is kept exactly if it was
kept before and the event is safe. -/
theorem chanStep_ok (order : ArgOrder) (h : ChannelOk s) (e : ChannelEvent) :
    ChannelOk (chanStep order s e) ∧
      (Protocol (chanStep order s e).trace ↔ Protocol s.trace ∧ ReadSafe s e) := by
  have hother : ∀ {r : AsioChannel × List Callback} (_ : Ends s.ch r) (reading : Bool),
      ChannelOk ⟨r.1, s.trace ++ r.2, reading⟩ ∧
        (Protocol (s.trace ++ r.2) ↔ Protocol s.trace ∧ True) := by
    intro r hr reading
    rw [and_true]
    exact h.ends hr reading
  cases e with
  | read r replies =>
    rw [chanStep]
    split
    · next hreading =>
      have hsafe : ReadSafe s (.read r replies) ↔ FramesSafe s.ch
          (callsOf (frameDecoder.drain (s.ch.unreadBytes ++ r.bytes)).1).length replies :=
        ⟨fun hs => hs hreading, fun hs _ => hs⟩
      rw [hsafe]
      exact h.read order r.bytes replies s.reading
    · next hreading => exact ⟨h, (and_iff_left fun hs => absurd hs hreading).symm⟩
  | readError =>
    rw [chanStep]
    split
    · exact hother (close_ends s.ch .read) false
    · exact ⟨h, (and_iff_left trivial).symm⟩
  | send a => exact hother (send_ends order s.ch a) s.reading
  | written now =>
    have := hother (writeDone_ends order s.ch now) s.reading
    rw [List.append_nil] at this
    exact this
  | writeError => exact hother (writeFailed_ends s.ch) s.reading
  | idleTimer now => exact hother (idleExpired_ends s.ch now) s.reading
  | pingTimer => exact hother (pingExpired_ends order s.ch) s.reading

/-! ## Whole runs -/

theorem channelOk_started (id : Int32) (now : Nat) : ChannelOk (started id now) :=
  ⟨Nat.le_refl 0, [], [], .inl ⟨rfl, rfl, rfl⟩⟩

/-- **When a channel keeps the callback protocol.** A run of a channel reports one
`on_accept`, then frames, then at most one `on_close` with its `close_callback_` and
no frame after it, if and only if every read of the run is safe in the state that it
finds. -/
theorem chanRun_protocol_iff (order : ArgOrder) {id : Int32} {now : Nat}
    {es : List ChannelEvent} {t : ChannelState}
    (hrun : Run (ChanStep order) (started id now) es t) :
    Protocol t.trace ↔ Run (guarded ReadSafe (ChanStep order)) (started id now) es t := by
  refine hrun.guarded_iff (P := fun s => Protocol s.trace) (channelOk_started id now)
    ⟨[], .inl rfl⟩ ?_ ?_
  · rintro s e t hs rfl
    exact (chanStep_ok order hs e).1
  · rintro s e t hs rfl
    exact (chanStep_ok order hs e).2

/-- A frame without payload. -/
def bareFrame (cmd : UInt16) : Frame := .ofPack cmd 0 1 0 [] (by decide)

theorem crcOk_bareFrame (cmd : UInt16) :
    (parsed (bareFrame cmd).hdr (bareFrame cmd).payload).crcOk = true :=
  Frame.intact_ofPack cmd 0 1 0 [] _

/-- Two frames in one read. -/
def twoFrames : Read := ⟨(bareFrame 1).bytes ++ (bareFrame 2).bytes, by decide, by decide⟩

theorem drain_twoFrames : (frameDecoder.drain twoFrames.bytes).1 =
    [parsed (bareFrame 1).hdr (bareFrame 1).payload,
      parsed (bareFrame 2).hdr (bareFrame 2).payload] :=
  congrArg Prod.fst
    (frameDecoder_recognises.drain_flatMap [bareFrame 1, bareFrame 2] frameDecoder_nil)

/-- The first of two frames is answered. Then the idle timer closes the channel, which is pinged
once more. -/
theorem chanRun_protocol_answered :
    ∃ (a : SendArgs) (t : ChannelState), a.size = 1 ∧
      Run (ChanStep .viewFirst) (started 7 0)
        [.read twoFrames [[a]], .idleTimer 30000, .pingTimer] t ∧
      t.trace = [.onAccept, .onFrame 1 [], .onFrame 2 [], .onClose .timeout,
        .closeCallback .timeout] ∧ Protocol t.trace := by
  let a : SendArgs := ⟨[0], 1, by decide⟩
  have hrun := Run.foldl (chanStep .viewFirst) (started 7 0)
    [.read twoFrames [[a]], .idleTimer 30000, .pingTimer]
  refine ⟨a, _, rfl, hrun, ?_, (chanRun_protocol_iff .viewFirst hrun).mpr ?_⟩
  · obtain ⟨acc, off, -, -, -, heq⟩ := readDone_spec (replyTo .viewFirst)
      (channelOk_started 7 0).buffer twoFrames.bytes ([.onAccept], [[a]])
    have hreading : (started 7 0).reading = true := rfl
    have htrace : (started 7 0).trace = [.onAccept] := rfl
    have hunread : (started 7 0).ch.unreadBytes ++ twoFrames.bytes = twoFrames.bytes := rfl
    rw [hunread, drain_twoFrames, List.foldl_cons, List.foldl_cons, List.foldl_nil, deliver,
      if_pos (crcOk_bareFrame 2), deliver, if_pos (crcOk_bareFrame 1)] at heq
    rw [List.foldl_cons, chanStep, if_pos hreading, htrace, heq]
    rfl
  · have hsafe : ReadSafe (started 7 0) (.read twoFrames [[a]]) := by
      intro _
      show FramesSafe _ (callsOf (frameDecoder.drain twoFrames.bytes).1).length _
      have hcalls : (callsOf (frameDecoder.drain twoFrames.bytes).1).length = 2 := by
        rw [drain_twoFrames]
        simp [callsOf, crcOk_bareFrame]
      rw [hcalls]
      show ¬ Overflows (started 7 0).ch [a]
      unfold Overflows
      decide
    exact ((Run.single ⟨hsafe, rfl⟩).snoc ⟨trivial, rfl⟩).snoc ⟨trivial, rfl⟩

/-- Two frames in one read; the handler of the first sends 262145 bytes to its own
channel. The overflow closes the channel inside the handler, and the second frame is
delivered after `on_close`. -/
theorem frame_delivered_after_close :
    ∃ (r : Read) (a : SendArgs),
      r.bytes = pack 1 0 1 0 [] ++ pack 2 0 1 0 [] ∧ a.size = 262145 ∧
      let t := chanStep .viewFirst (started 7 0) (.read r [[a]])
      t.trace = [.onAccept, .onFrame 1 [], .onClose .forceClosed, .closeCallback .forceClosed,
        .onFrame 2 []] ∧ ¬ Protocol t.trace := by
  let a : SendArgs := ⟨List.replicate 262145 0, 262145, by rw [List.length_replicate]; decide⟩
  have hover : ∀ ch : AsioChannel, Overflows ch [a] := by
    intro ch
    have hlen : a.buffer.length = 262145 := a.length_buffer
    have hmax : maxQueueBytes = 262144 := rfl
    refine ⟨?_, ?_⟩ <;> rw [sendBytes_cons, hlen] <;> omega
  let ch₀ : AsioChannel := { (started 7 0).ch with frameAcc := twoFrames.bytes }
  refine ⟨twoFrames, a, rfl, rfl, ?_⟩
  intro t
  have htrace : t.trace = [.onAccept, .onFrame 1 [], .onClose .forceClosed,
      .closeCallback .forceClosed, .onFrame 2 []] := by
    show (readDone (replyTo .viewFirst) (started 7 0).ch twoFrames.bytes
      ([.onAccept], [[a]])).2.1 = _
    rw [readDone_owner _ (channelOk_started 7 0).buffer]
    show ((frameDecoder.drain twoFrames.bytes).1.foldl
      (deliver (replyTo .viewFirst) countDrop) (ch₀, [.onAccept], [[a]])).2.1 = _
    rw [drain_twoFrames, List.foldl_cons, List.foldl_cons, List.foldl_nil, deliver,
      if_pos (crcOk_bareFrame 2), deliver, if_pos (crcOk_bareFrame 1)]
    -- the handler of the first frame closes the channel, the second one finds it closed
    rcases sendAll_open .viewFirst (show ch₀.closed = false from rfl) [a] with
      ⟨hno, -⟩ | ⟨-, hc, hcalls⟩
    · exact absurd (hover ch₀) hno
    · show [Callback.onAccept] ++ .onFrame 1 [] :: (sendAll .viewFirst ch₀ [a]).2
        ++ .onFrame 2 [] :: (sendAll .viewFirst (sendAll .viewFirst ch₀ [a]).1 []).2 = _
      rw [sendAll_closed .viewFirst hc, hcalls]
      rfl
  refine ⟨htrace, ?_⟩
  have htraced : Traced true [(2, [])] t.trace := ⟨[(1, [])], .inr ⟨.forceClosed, rfl, htrace⟩⟩
  rw [htraced.protocol_iff]
  exact List.cons_ne_nil _ _

end EcsAsioServer.AsioChannel
