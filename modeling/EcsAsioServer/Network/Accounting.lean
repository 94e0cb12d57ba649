import EcsAsioServer.Network.SendQueue

/-!
# The counters of the send path

`current_queue_bytes` is raised when a buffer is queued and lowered only when the write
that carries it has completed, so it counts the queue and the batch in flight
(`Accounted`). It therefore never goes below zero, and since `enqueue_send_` compares it
with the limit it never goes above that either. `peak_queued` is the highest value it
has had. All of this is for the evaluation order that takes the view of a batch before
the batch is moved: in the other order a completion reports no bytes.
-/

namespace EcsAsioServer.AsioChannel

open Transition

/-- The messages of the batch in flight: none while `writing_` is clear, and else those
of the one write that has not completed. -/
def InFlight (ch : AsioChannel) (msgs : List (List UInt8)) : Prop :=
  (ch.writing = false ∧ ch.writes.length = ch.writesDone ∧ msgs = []) ∨
  (ch.writing = true ∧ ∃ done op, ch.writes = done ++ [op] ∧ done.length = ch.writesDone ∧
    op.view = msgs.flatten ∧ op.batchMsgs = msgs.length)

/-- The counters agree with the queue and the batch `flight`. -/
structure Accounted (ch : AsioChannel) (flight : List (List UInt8)) : Prop where
  inFlight : InFlight ch flight
  bytes : ch.currentQueueBytes
    = (ch.writeQueue.map List.length).sum + (flight.map List.length).sum
  msgs : ch.enqMsgs = ch.deqMsgs + ch.writeQueue.length + flight.length
  le : ch.currentQueueBytes ≤ maxQueueBytes

namespace Accounted

variable {ch : AsioChannel} {flight : List (List UInt8)}

theorem fresh (id : Int32) (now : Nat) : Accounted (start { channelId := id } now).1 [] :=
  ⟨.inl ⟨rfl, rfl, rfl⟩, rfl, rfl, Nat.zero_le _⟩

theorem enqueued (h : Accounted ch flight) {buffer : List UInt8}
    (hle : ch.currentQueueBytes + buffer.length ≤ maxQueueBytes) :
    Accounted (ch.enqueued buffer) flight := by
  have hbytes := h.bytes
  have hmsgs := h.msgs
  refine ⟨h.inFlight, ?_, ?_, hle⟩
  · simp only [AsioChannel.enqueued, List.map_append, List.sum_append, List.map_cons,
      List.map_nil, List.sum_cons, List.sum_nil]
    omega
  · simp only [AsioChannel.enqueued, List.length_append, List.length_cons, List.length_nil]
    omega

/-- A new batch moves from the queue into flight: no counter changes. -/
theorem startWrite (h : Accounted ch flight) :
    ∃ flight', Accounted (AsioChannel.startWrite .viewFirst ch) flight' := by
  unfold AsioChannel.startWrite
  split
  · exact ⟨flight, h⟩
  · next hw =>
    obtain ⟨hfl, hbytes, hmsgs, hle⟩ := h
    rcases hfl with ⟨-, hdone, rfl⟩ | ⟨hset, -⟩
    · rcases doWrite_cases .viewFirst { ch with writing := true } with
        ⟨-, heq⟩ | ⟨taken, rest, -, htake, -, -, heq⟩
      · rw [heq]
        exact ⟨[], .inl ⟨rfl, hdone, rfl⟩, hbytes, hmsgs, hle⟩
      · dsimp only at htake
        rw [htake, List.map_append, List.sum_append] at hbytes
        rw [htake, List.length_append] at hmsgs
        rw [heq]
        refine ⟨taken, .inr ⟨rfl, ch.writes, _, rfl, hdone, rfl, rfl⟩, ?_, ?_, hle⟩
        · simp only [List.map_nil, List.sum_nil] at hbytes
          dsimp only
          omega
        · rw [List.length_nil] at hmsgs
          dsimp only
          omega
    · exact absurd hset hw

/-- The write that completes is the one in flight, and its bytes have been counted. -/
theorem op_eq (h : Accounted ch flight) {op : WriteOp}
    (hop : ch.writes[ch.writesDone]? = some op) :
    ch.writes.length = ch.writesDone + 1 ∧ op.view.length = (flight.map List.length).sum ∧
      op.batchMsgs = flight.length := by
  rcases h.inFlight with ⟨-, hdone, -⟩ | ⟨-, done, op', hw, hdone, hview, hn⟩
  · obtain ⟨hlt, -⟩ := List.getElem?_eq_some_iff.mp hop
    omega
  · rw [hw, ← hdone, List.getElem?_concat_length] at hop
    obtain rfl := Option.some.inj hop
    refine ⟨?_, ?_, hn⟩
    · rw [hw, List.length_append, hdone]
      rfl
    · rw [hview, List.length_flatten]

theorem settled (h : Accounted ch flight) {op : WriteOp}
    (hop : ch.writes[ch.writesDone]? = some op) (now : Nat) :
    Accounted (ch.settled op now) [] ∧
      (ch.settled op now).currentQueueBytes ≤ ch.currentQueueBytes := by
  obtain ⟨hdone, hview, hn⟩ := h.op_eq hop
  have hbytes := h.bytes
  have hmsgs := h.msgs
  have hle := h.le
  have hsub : (ch.settled op now).currentQueueBytes = ch.currentQueueBytes - op.view.length :=
    if_pos (by omega)
  refine ⟨⟨.inl ⟨rfl, hdone, rfl⟩, ?_, ?_, ?_⟩, ?_⟩
  · rw [hsub]
    simp only [AsioChannel.settled, List.map_nil, List.sum_nil]
    omega
  · simp only [AsioChannel.settled, List.length_nil]
    omega
  · omega
  · omega

end Accounted

/-! ## Every callback -/

theorem accounted_step {s : SendState} (h : ∃ flight, Accounted s.ch flight) (e : SendEvent) :
    ∃ flight, Accounted (sendStep .viewFirst s e).ch flight := by
  obtain ⟨flight, h⟩ := h
  rcases sendStep_cases .viewFirst s e with heq | ⟨a, -, heq⟩ | ⟨a, -, -, -, hle, heq⟩ |
    ⟨now, op, -, hop, ⟨-, heq⟩ | heq⟩
  · rw [heq]
    exact ⟨flight, h⟩
  · rw [heq]
    exact ⟨flight, h.inFlight, h.bytes, h.msgs, h.le⟩
  · rw [heq]
    exact (h.enqueued hle).startWrite
  · rw [heq]
    exact ⟨[], (h.settled hop now).1⟩
  · rw [heq]
    exact (h.settled hop now).1.startWrite

/-- Only queuing a buffer raises the byte count, and it raises the peak with it. -/
theorem peakQueued_step {s : SendState} (h : ∃ flight, Accounted s.ch flight)
    (hpeak : s.ch.currentQueueBytes ≤ s.ch.peakQueued) (e : SendEvent) :
    (sendStep .viewFirst s e).ch.peakQueued
      = max s.ch.peakQueued (sendStep .viewFirst s e).ch.currentQueueBytes := by
  obtain ⟨flight, h⟩ := h
  rcases sendStep_cases .viewFirst s e with heq | ⟨a, -, heq⟩ | ⟨a, -, -, -, hle, heq⟩ |
    ⟨now, op, -, hop, ⟨-, heq⟩ | heq⟩
  · rw [heq]
    exact (max_eq_left hpeak).symm
  · rw [heq]
    exact (max_eq_left hpeak).symm
  · rw [heq, startWrite_currentQueueBytes, startWrite_peakQueued, max_def_lt]
    rfl
  · have hless := (h.settled hop now).2
    rw [heq]
    exact (max_eq_left (hless.trans hpeak)).symm
  · have hless := (h.settled hop now).2
    rw [heq, startWrite_currentQueueBytes, startWrite_peakQueued]
    exact (max_eq_left (hless.trans hpeak)).symm

/-- `enqueue_send_` refuses what would exceed the limit and nothing else, and counts the
refusal only. -/
theorem enqueueSend_refuses_iff {ch : AsioChannel} (h : ch.currentQueueBytes ≤ maxQueueBytes)
    (buffer : List UInt8) :
    ((ch.enqueueSend buffer).1 = false ↔
      maxQueueBytes < ch.currentQueueBytes + buffer.length) ∧
    ((ch.enqueueSend buffer).1 = false →
      (ch.enqueueSend buffer).2 = { ch with drops := ch.drops + 1 }) := by
  rcases enqueueSend_cases ch buffer with ⟨rfl, heq⟩ | ⟨-, hfull, heq⟩ | ⟨-, hle, heq⟩
  · rw [heq, List.length_nil]
    exact ⟨by simp [h], nofun⟩
  · rw [heq]
    exact ⟨by simp [hfull], fun _ => rfl⟩
  · rw [heq]
    exact ⟨by simp [hle], nofun⟩

/-! ## Whole runs -/

/-- The channel after some callbacks, from a channel that has just been started. -/
def after (id : Int32) (now : Nat) (events : List SendEvent) : AsioChannel :=
  (events.foldl (sendStep .viewFirst)
    { ch := (start { channelId := id } now).1, accepted := [] }).ch

/-- **The counters of the send path are exact.** After any sends and completions:
`current_queue_bytes` is the size of the queue and of the batch in flight, at most the
limit, and at least what the next completion subtracts; `enq_msgs` counts the messages
written, queued and in flight; `peak_queued` is the greatest value that
`current_queue_bytes` has had; and `enqueue_send_` refuses a buffer exactly if it would
exceed the limit, and then leaves the queue and the byte count alone. -/
theorem queue_accounting (id : Int32) (now : Nat) (events : List SendEvent) :
    let ch := after id now events
    (∃ flight, InFlight ch flight ∧
      ch.currentQueueBytes
        = (ch.writeQueue.map List.length).sum + (flight.map List.length).sum ∧
      ch.enqMsgs = ch.deqMsgs + ch.writeQueue.length + flight.length) ∧
    ch.currentQueueBytes ≤ 262144 ∧
    (∀ op, ch.writes[ch.writesDone]? = some op → op.view.length ≤ ch.currentQueueBytes) ∧
    IsGreatest {n | ∃ pre, pre <+: events ∧ (after id now pre).currentQueueBytes = n}
      ch.peakQueued ∧
    ∀ buffer,
      ((ch.enqueueSend buffer).1 = false ↔ 262144 < ch.currentQueueBytes + buffer.length) ∧
      ((ch.enqueueSend buffer).1 = false →
        (ch.enqueueSend buffer).2.writeQueue = ch.writeQueue ∧
        (ch.enqueueSend buffer).2.currentQueueBytes = ch.currentQueueBytes) := by
  intro ch
  obtain ⟨⟨flight, hflight⟩, hpeak⟩ := isGreatest_foldl (sendStep .viewFirst)
    (fun s => s.ch.currentQueueBytes) (fun s => s.ch.peakQueued)
    (I := fun s => ∃ flight, Accounted s.ch flight)
    (s := { ch := (start { channelId := id } now).1, accepted := [] })
    ⟨[], .fresh id now⟩ rfl (fun _ e hs => accounted_step hs e)
    (fun _ e hs hle => peakQueued_step hs hle e) events
  have h : Accounted ch flight := hflight
  refine ⟨⟨flight, h.inFlight, h.bytes, h.msgs⟩, h.le, ?_, hpeak, ?_⟩
  · intro op hop
    have hview := (h.op_eq hop).2.1
    have hbytes := h.bytes
    omega
  · intro buffer
    obtain ⟨hiff, hrefused⟩ := enqueueSend_refuses_iff h.le buffer
    refine ⟨hiff, ?_⟩
    intro hfalse
    rw [hrefused hfalse]
    exact ⟨rfl, rfl⟩

end EcsAsioServer.AsioChannel
