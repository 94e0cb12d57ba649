import EcsAsioServer.Lib.Transition
import EcsAsioServer.Network.AsioChannel

/-!
# The send path

`send`, `do_write` and the completion handler share three pieces of state: the
queue, the `writing_` flag and the write in progress. Over every order of sends
and completions:

- `Batched`: what has been handed to `async_write`, batch after batch, followed
  by what is still queued is what was accepted, and each batch is a group of
  whole messages within the batch limits;
- `Flying`: `writing_` says whether a write is in progress, so there is never
  more than one;
- `Drained`: without a message above the batch limit the queue is empty whenever
  no write is in progress.

`make_batch_` refuses a queue exactly when its first message alone exceeds the
64 KB batch limit (`makeBatch_eq_none_iff`), although `enqueue_send_` admits
messages up to 256 KB.
-/

namespace EcsAsioServer.AsioChannel

open Transition

/-! ## `make_batch_` -/

/-- The loop takes whole messages off the front, within both limits. -/
theorem batchLoop_spec (queue : List (List UInt8)) (out : List UInt8) (acc outMsgs : Nat) :
    ∃ taken, queue = taken ++ (batchLoop out acc outMsgs queue).queue ∧
      (batchLoop out acc outMsgs queue).out = out ++ taken.flatten ∧
      (batchLoop out acc outMsgs queue).outMsgs = outMsgs + taken.length ∧
      (outMsgs ≤ kMaxBatchMsgs → outMsgs + taken.length ≤ kMaxBatchMsgs) ∧
      (acc ≤ kMaxBatchBytes → acc + taken.flatten.length ≤ kMaxBatchBytes) := by
  -- the accumulators of the loop change with each message, so they are generalised
  induction queue generalizing out acc outMsgs with
  | nil => exact ⟨[], by simp [batchLoop]⟩
  | cons front rest ih =>
    by_cases hmsgs : outMsgs < kMaxBatchMsgs
    · by_cases hbytes : kMaxBatchBytes < acc + front.length
      · exact ⟨[], by simp [batchLoop, hmsgs, hbytes]⟩
      · obtain ⟨taken, hq, hout, hn, hle, hsz⟩ :=
          ih (out ++ front) (acc + front.length) (outMsgs + 1)
        have hstep : batchLoop out acc outMsgs (front :: rest)
            = batchLoop (out ++ front) (acc + front.length) (outMsgs + 1) rest := by
          rw [batchLoop, if_pos hmsgs, if_neg hbytes]
        refine ⟨front :: taken, ?_, ?_, ?_, ?_, ?_⟩
        · rw [hstep, List.cons_append, ← hq]
        · rw [hstep, hout, List.flatten_cons, List.append_assoc]
        · rw [hstep, hn, List.length_cons]
          omega
        · intro _
          have := hle hmsgs
          rw [List.length_cons]
          omega
        · intro _
          have := hsz (Nat.le_of_not_lt hbytes)
          rw [List.flatten_cons, List.length_append]
          omega
    · exact ⟨[], by simp [batchLoop, hmsgs]⟩

/-- A batch is a non-empty group of whole messages from the front of the queue,
at most 64 of them and at most 65536 bytes. -/
theorem makeBatch_some {queue : List (List UInt8)} {b : Batch} (h : makeBatch queue = some b) :
    ∃ taken, taken ≠ [] ∧ queue = taken ++ b.queue ∧ b.out = taken.flatten ∧
      b.outMsgs = taken.length ∧ taken.length ≤ kMaxBatchMsgs ∧
      taken.flatten.length ≤ kMaxBatchBytes := by
  obtain ⟨taken, hq, hout, hn, hle, hsz⟩ := batchLoop_spec queue [] 0 0
  rw [makeBatch] at h
  split at h
  · next hpos =>
    obtain rfl := Option.some.inj h
    rw [Nat.zero_add] at hn
    refine ⟨taken, ?_, hq, hout, hn, ?_, ?_⟩
    · rintro rfl
      simp [hn] at hpos
    · simpa using hle (Nat.zero_le _)
    · simpa using hsz (Nat.zero_le _)
  · cases h

/-- `make_batch_` returns `false` exactly on the empty queue and behind a first
message that alone is above the batch limit. -/
theorem makeBatch_eq_none_iff (queue : List (List UInt8)) :
    makeBatch queue = none ↔
      ∀ front rest, queue = front :: rest → kMaxBatchBytes < front.length := by
  constructor
  · rintro h front rest rfl
    by_contra hle
    -- the first message fits, so at least one message is taken
    have hstep : batchLoop [] 0 0 (front :: rest)
        = batchLoop ([] ++ front) (0 + front.length) (0 + 1) rest := by
      rw [batchLoop, if_pos (by decide), if_neg (by omega)]
    obtain ⟨taken, -, -, hn, -, -⟩ :=
      batchLoop_spec rest ([] ++ front) (0 + front.length) (0 + 1)
    rw [makeBatch] at h
    rw [if_pos (by rw [hstep, hn]; omega)] at h
    cases h
  · intro h
    cases queue with
    | nil => rfl
    | cons front rest =>
      have hlt := h front rest rfl
      have hz : batchLoop [] 0 0 (front :: rest) = ⟨[], 0, front :: rest⟩ := by
        rw [batchLoop, if_pos (by decide), if_pos (by omega)]
      rw [makeBatch, hz]
      rfl

/-! ## `do_write` -/

@[simp] theorem writeArgs_snd (order : ArgOrder) (buffer : List UInt8) :
    (writeArgs order buffer).2 = buffer := by
  cases order <;> rfl

/-- `do_write` either finds no batch and clears `writing_`, or moves a group of
whole messages from the front of the queue into a new write. -/
theorem doWrite_cases (order : ArgOrder) (ch : AsioChannel) :
    (makeBatch ch.writeQueue = none ∧ doWrite order ch = { ch with writing := false }) ∨
    ∃ taken rest, taken ≠ [] ∧ ch.writeQueue = taken ++ rest ∧
      taken.length ≤ kMaxBatchMsgs ∧ taken.flatten.length ≤ kMaxBatchBytes ∧
      doWrite order ch = { ch with
        writeQueue := rest
        writes := ch.writes
          ++ [⟨(writeArgs order taken.flatten).1, taken.flatten, taken.length⟩] } := by
  cases hb : makeBatch ch.writeQueue with
  | none => exact .inl ⟨rfl, by rw [doWrite, hb]⟩
  | some b =>
    obtain ⟨taken, hne, hq, hout, hn, hmsgs, hbytes⟩ := makeBatch_some hb
    refine .inr ⟨taken, b.queue, hne, hq, hmsgs, hbytes, ?_⟩
    rw [doWrite, hb]
    simp only [hout, hn, writeArgs_snd]

/-! ## Runs of sends and completions -/

/-- The arguments of a `send` call: `size` bytes are readable at `data`. -/
structure SendArgs where
  data : List UInt8
  size : Int32
  readable : size.toInt ≤ data.length

namespace SendArgs

/-- The buffer that `send` builds. -/
def buffer (a : SendArgs) : List UInt8 := a.data.take a.size.toInt.toNat

theorem length_buffer (a : SendArgs) : a.buffer.length = a.size.toInt.toNat := by
  have := a.readable
  rw [buffer, List.length_take]
  omega

end SendArgs

/-- A callback of the io thread that touches the send path. -/
inductive SendEvent where
  | send (a : SendArgs)
  | written (now : Nat)

/-- A channel together with the buffers for which `enqueue_send_` has returned
`true`, in call order. -/
structure SendState where
  ch : AsioChannel
  accepted : List (List UInt8)

/-- Whether `send` gets as far as `enqueue_send_` and that takes the buffer. -/
def accepts (ch : AsioChannel) (a : SendArgs) : Bool :=
  !ch.closed && decide (0 < a.size.toInt) && (ch.enqueueSend a.buffer).1

/-- One callback. -/
def sendStep (order : ArgOrder) (s : SendState) : SendEvent → SendState
  | .send a =>
    { ch := (s.ch.send order a.data a.size).1
      accepted := if s.ch.accepts a then s.accepted ++ [a.buffer] else s.accepted }
  | .written now => { s with ch := s.ch.writeDone order now }

/-- The step relation of the send path. -/
def SendStep (order : ArgOrder) (s : SendState) (e : SendEvent) (t : SendState) : Prop :=
  sendStep order s e = t

/-- A channel that has just been constructed and started. -/
def SendInit (s : SendState) : Prop :=
  ∃ id now, s = { ch := (start { channelId := id } now).1, accepted := [] }

/-! ### What one `send` can do -/

/-- The state after an accepted buffer has been queued. -/
def enqueued (ch : AsioChannel) (buffer : List UInt8) : AsioChannel :=
  { ch with
    writeQueue := ch.writeQueue ++ [buffer]
    currentQueueBytes := ch.currentQueueBytes + buffer.length
    enqMsgs := ch.enqMsgs + 1
    peakQueued :=
      if ch.peakQueued < ch.currentQueueBytes + buffer.length then
        ch.currentQueueBytes + buffer.length else ch.peakQueued }

theorem enqueueSend_cases (ch : AsioChannel) (buffer : List UInt8) :
    (buffer = [] ∧ ch.enqueueSend buffer = (true, ch)) ∨
    (buffer ≠ [] ∧ maxQueueBytes < ch.currentQueueBytes + buffer.length ∧
      ch.enqueueSend buffer = (false, { ch with drops := ch.drops + 1 })) ∨
    (buffer ≠ [] ∧ ch.currentQueueBytes + buffer.length ≤ maxQueueBytes ∧
      ch.enqueueSend buffer = (true, ch.enqueued buffer)) := by
  by_cases hz : buffer = []
  · exact .inl ⟨hz, by simp [enqueueSend, hz]⟩
  · by_cases hfull : maxQueueBytes < ch.currentQueueBytes + buffer.length
    · exact .inr (.inl ⟨hz, hfull, by simp [enqueueSend, hz, hfull]⟩)
    · exact .inr (.inr ⟨hz, Nat.le_of_not_lt hfull, by simp [enqueueSend, hz, hfull, enqueued]⟩)

/-- `send` does nothing, closes the channel, or queues the buffer and starts a
write unless one is in progress. -/
theorem send_cases (order : ArgOrder) (ch : AsioChannel) (a : SendArgs) :
    (ch.accepts a = false ∧ (ch.closed = true ∨ a.size.toInt ≤ 0) ∧
      ch.send order a.data a.size = (ch, [])) ∨
    (ch.accepts a = false ∧ ch.closed = false ∧ 0 < a.size.toInt ∧
      maxQueueBytes < ch.currentQueueBytes + a.buffer.length ∧
      ch.send order a.data a.size
        = close { ch with drops := ch.drops + 1, forceCloses := ch.forceCloses + 1 }
            .forceClosed) ∨
    (ch.accepts a = true ∧ ch.closed = false ∧ a.buffer ≠ [] ∧
      ch.currentQueueBytes + a.buffer.length ≤ maxQueueBytes ∧
      ch.send order a.data a.size = (startWrite order (ch.enqueued a.buffer), [])) := by
  have hlen := a.length_buffer
  by_cases hskip : ch.closed = true ∨ a.size.toInt ≤ 0
  · refine .inl ⟨?_, hskip, by rw [send, if_pos hskip]⟩
    rcases hskip with hc | hs
    · simp [accepts, hc]
    · simp [accepts, hs]
  · obtain ⟨hopen, hpos⟩ := not_or.mp hskip
    rw [Bool.not_eq_true] at hopen
    rcases enqueueSend_cases ch a.buffer with ⟨hnil, -⟩ | ⟨-, hfull, henq⟩ | ⟨hne, hle, henq⟩
    · rw [hnil, List.length_nil] at hlen
      omega
    · refine .inr (.inl ⟨?_, hopen, by omega, hfull, ?_⟩)
      · simp [accepts, henq]
      · rw [send, if_neg hskip, show ch.enqueueSend (a.data.take a.size.toInt.toNat) = _ from henq]
    · refine .inr (.inr ⟨?_, hopen, hne, hle, ?_⟩)
      · simp [accepts, henq, hopen]
        omega
      · rw [send, if_neg hskip, show ch.enqueueSend (a.data.take a.size.toInt.toNat) = _ from henq]

/-! ## The invariants -/

/-- The batches handed over so far are groups of whole accepted messages within
the batch limits, and the queue holds the accepted messages after them. -/
def Batched (s : SendState) : Prop :=
  ∃ groups : List (List (List UInt8)),
    s.ch.writes.map WriteOp.buffer = groups.map List.flatten ∧
    groups.flatten ++ s.ch.writeQueue = s.accepted ∧
    ∀ g ∈ groups, g ≠ [] ∧ g.length ≤ kMaxBatchMsgs ∧ g.flatten.length ≤ kMaxBatchBytes

/-- `writing_` is set exactly while a write is in progress, and there is one. -/
def Flying (ch : AsioChannel) : Prop :=
  ch.writes.length = ch.writesDone + if ch.writing then 1 else 0

/-- Only non-empty buffers are queued. -/
def NoEmpty (ch : AsioChannel) : Prop := ∀ m ∈ ch.writeQueue, m ≠ []

/-- The range given to every write is the batch that its handler captured. -/
def Viewed (ch : AsioChannel) : Prop := ∀ op ∈ ch.writes, op.view = op.buffer

/-- Nothing is queued unless a write is in progress. -/
def Drained (ch : AsioChannel) : Prop := ch.writing = false → ch.writeQueue = []

/-- Every queued message fits into a batch. -/
def Fitting (ch : AsioChannel) : Prop := ∀ m ∈ ch.writeQueue, m.length ≤ kMaxBatchBytes

/-! ### `do_write` keeps them -/

variable {ch : AsioChannel} {s : SendState} {accepted : List (List UInt8)}

theorem doWrite_batched (order : ArgOrder) (h : Batched ⟨ch, accepted⟩) :
    Batched ⟨doWrite order ch, accepted⟩ := by
  obtain ⟨groups, hw, hq, hg⟩ := h
  rcases doWrite_cases order ch with ⟨-, heq⟩ | ⟨taken, rest, hne, htake, hm, hb, heq⟩
  · rw [heq]
    exact ⟨groups, hw, hq, hg⟩
  · rw [heq]
    -- the new batch is one more group, cut off the front of the queue
    refine ⟨groups ++ [taken], ?_, ?_, ?_⟩
    · simp [hw]
    · dsimp only at hq
      rw [← hq, htake, List.flatten_append, List.flatten_singleton, List.append_assoc]
    · intro g hmem
      rcases List.mem_append.mp hmem with hold | hnew
      · exact hg g hold
      · rw [List.mem_singleton.mp hnew]
        exact ⟨hne, hm, hb⟩

/-- `do_write` is called with `writing_` set and no write in progress. -/
theorem doWrite_flying (order : ArgOrder) (hset : ch.writing = true)
    (hidle : ch.writes.length = ch.writesDone) : Flying (doWrite order ch) := by
  rcases doWrite_cases order ch with ⟨-, heq⟩ | ⟨taken, rest, -, -, -, -, heq⟩
  · rw [heq]
    exact hidle
  · rw [heq]
    simp [Flying, hset, hidle]

theorem doWrite_noEmpty (order : ArgOrder) (h : NoEmpty ch) :
    NoEmpty (doWrite order ch) := by
  rcases doWrite_cases order ch with ⟨-, heq⟩ | ⟨taken, rest, -, htake, -, -, heq⟩
  · rw [heq]
    exact h
  · rw [heq]
    exact fun m hm => h m (htake ▸ List.mem_append_right taken hm)

theorem doWrite_viewed (h : Viewed ch) :
    Viewed (doWrite .viewFirst ch) := by
  rcases doWrite_cases .viewFirst ch with ⟨-, heq⟩ | ⟨taken, rest, -, -, -, -, heq⟩
  · rw [heq]
    exact h
  · rw [heq]
    intro op hop
    rcases List.mem_append.mp hop with hold | hnew
    · exact h op hold
    · rw [List.mem_singleton.mp hnew]
      rfl

/-- If the queued messages fit, `do_write` takes one or leaves the queue empty. -/
theorem doWrite_drained (order : ArgOrder) (hset : ch.writing = true) (hfit : Fitting ch) :
    Drained (doWrite order ch) ∧ Fitting (doWrite order ch) := by
  rcases doWrite_cases order ch with ⟨hnone, heq⟩ | ⟨taken, rest, -, htake, -, -, heq⟩
  · rw [heq]
    refine ⟨fun _ => ?_, hfit⟩
    -- no batch although everything fits: the queue was empty
    show ch.writeQueue = []
    cases hq : ch.writeQueue with
    | nil => rfl
    | cons front rest =>
      have hlt := (makeBatch_eq_none_iff _).mp hnone front rest hq
      have hle := hfit front (hq ▸ List.mem_cons_self ..)
      omega
  · rw [heq]
    refine ⟨fun hw => absurd hw (by simp [hset]), fun m hm => ?_⟩
    exact hfit m (htake ▸ List.mem_append_right taken hm)

/-! ### Starting a write keeps them -/

theorem startWrite_batched (order : ArgOrder) (h : Batched ⟨ch, accepted⟩) :
    Batched ⟨startWrite order ch, accepted⟩ := by
  unfold startWrite
  split
  · exact h
  · exact doWrite_batched order h

theorem startWrite_flying (order : ArgOrder) (h : Flying ch) :
    Flying (startWrite order ch) := by
  unfold startWrite
  split
  · exact h
  · next hw =>
    refine doWrite_flying order rfl ?_
    simpa [Flying, hw] using h

theorem startWrite_noEmpty (order : ArgOrder) (h : NoEmpty ch) :
    NoEmpty (startWrite order ch) := by
  unfold startWrite
  split
  · exact h
  · exact doWrite_noEmpty order h

theorem startWrite_viewed (h : Viewed ch) :
    Viewed (startWrite .viewFirst ch) := by
  unfold startWrite
  split
  · exact h
  · exact doWrite_viewed h

/-- However a write was left, after trying to start one nothing that fits is
stranded. -/
theorem startWrite_drained (order : ArgOrder) (hfit : Fitting ch) :
    Drained (startWrite order ch) ∧ Fitting (startWrite order ch) := by
  unfold startWrite
  split
  · next hw => exact ⟨fun hw' => absurd hw' (by simp [hw]), hfit⟩
  · exact doWrite_drained order rfl hfit

/-! ### Completions -/

/-- The state when a completion handler has done its accounting and cleared
`writing_`. -/
def settled (ch : AsioChannel) (op : WriteOp) (now : Nat) : AsioChannel :=
  { ch with
    currentQueueBytes := subSize ch.currentQueueBytes op.view.length
    deqMsgs := ch.deqMsgs + op.batchMsgs
    bytesSent := ch.bytesSent + op.view.length
    lastSendMs := now
    writing := false
    writesDone := ch.writesDone + 1 }

/-- A completion finds no write in progress, or settles the oldest one and then
tries to start the next if anything is queued. -/
theorem writeDone_cases (order : ArgOrder) (ch : AsioChannel) (now : Nat) :
    (ch.writes[ch.writesDone]? = none ∧ writeDone order ch now = ch) ∨
    ∃ op, ch.writes[ch.writesDone]? = some op ∧
      ((ch.writeQueue = [] ∧ writeDone order ch now = ch.settled op now) ∨
       (ch.writeQueue ≠ [] ∧ writeDone order ch now = startWrite order (ch.settled op now))) := by
  cases hop : ch.writes[ch.writesDone]? with
  | none => exact .inl ⟨rfl, by rw [writeDone, hop]⟩
  | some op =>
    refine .inr ⟨op, rfl, ?_⟩
    cases hq : ch.writeQueue with
    | nil =>
      refine .inl ⟨rfl, ?_⟩
      simp only [writeDone, hop, onWritten, hq, List.isEmpty_nil, if_true, settled]
    | cons front rest =>
      refine .inr ⟨by simp, ?_⟩
      simp only [writeDone, hop, onWritten, hq, List.isEmpty_cons, settled]
      rfl

/-- The write being settled is the one that makes `writing_` true. -/
theorem Flying.settled {op : WriteOp} (h : Flying ch) (hop : ch.writes[ch.writesDone]? = some op)
    (now : Nat) : Flying (ch.settled op now) := by
  obtain ⟨hlt, -⟩ := List.getElem?_eq_some_iff.mp hop
  cases hw : ch.writing with
  | false =>
    -- there is no write in progress then, against `hop`
    simp only [Flying, hw, Bool.false_eq_true, if_false] at h
    omega
  | true =>
    simp only [Flying, hw, if_true] at h
    simp [Flying, AsioChannel.settled, h]

/-! ## One callback keeps the invariants -/

/-- The state after a buffer has been refused. -/
def refused (ch : AsioChannel) : AsioChannel :=
  { ch with drops := ch.drops + 1, forceCloses := ch.forceCloses + 2, closed := true }

/-- What one callback of the send path does to the state. -/
theorem sendStep_cases (order : ArgOrder) (s : SendState) (e : SendEvent) :
    sendStep order s e = s ∨
    (∃ a, e = .send a ∧ sendStep order s e = { s with ch := s.ch.refused }) ∨
    (∃ a, e = .send a ∧ s.ch.closed = false ∧ a.buffer ≠ [] ∧
      s.ch.currentQueueBytes + a.buffer.length ≤ maxQueueBytes ∧
      sendStep order s e
        = ⟨startWrite order (s.ch.enqueued a.buffer), s.accepted ++ [a.buffer]⟩) ∨
    (∃ now op, e = .written now ∧ s.ch.writes[s.ch.writesDone]? = some op ∧
      ((s.ch.writeQueue = [] ∧ sendStep order s e = { s with ch := s.ch.settled op now }) ∨
       sendStep order s e = { s with ch := startWrite order (s.ch.settled op now) })) := by
  cases e with
  | send a =>
    rcases send_cases order s.ch a with ⟨hacc, -, heq⟩ | ⟨hacc, hopen, -, -, heq⟩ |
      ⟨hacc, hopen, hne, hle, heq⟩
    · refine .inl ?_
      simp [sendStep, hacc, heq]
    · refine .inr (.inl ⟨a, rfl, ?_⟩)
      simp [sendStep, hacc, heq, close, hopen, refused]
    · refine .inr (.inr (.inl ⟨a, rfl, hopen, hne, hle, ?_⟩))
      simp [sendStep, hacc, heq]
  | written now =>
    rcases writeDone_cases order s.ch now with ⟨-, heq⟩ | ⟨op, hop, ⟨hq, heq⟩ | ⟨-, heq⟩⟩
    · exact .inl (by rw [sendStep, heq])
    · exact .inr (.inr (.inr ⟨now, op, rfl, hop, .inl ⟨hq, by rw [sendStep, heq]⟩⟩))
    · exact .inr (.inr (.inr ⟨now, op, rfl, hop, .inr (by rw [sendStep, heq])⟩))

/-- What holds between two callbacks, whatever the evaluation order. -/
structure SendOk (s : SendState) : Prop where
  batched : Batched s
  flying : Flying s.ch
  noEmpty : NoEmpty s.ch

theorem sendOk_init (h : SendInit s) : SendOk s := by
  obtain ⟨id, now, rfl⟩ := h
  refine ⟨⟨[], rfl, rfl, ?_⟩, rfl, ?_⟩
  · intro g hg
    cases hg
  · intro m hm
    cases hm

/-- Queuing a buffer extends the accepted messages and the queue alike. -/
theorem Batched.enqueued (h : Batched ⟨ch, accepted⟩) (buffer : List UInt8) :
    Batched ⟨ch.enqueued buffer, accepted ++ [buffer]⟩ := by
  obtain ⟨groups, hw, hq, hg⟩ := h
  refine ⟨groups, hw, ?_, hg⟩
  dsimp only at hq
  rw [← hq, List.append_assoc]
  rfl

theorem NoEmpty.enqueued {buffer : List UInt8} (h : NoEmpty ch) (hne : buffer ≠ []) :
    NoEmpty (ch.enqueued buffer) := by
  intro m hm
  rcases List.mem_append.mp hm with hold | hnew
  · exact h m hold
  · rw [List.mem_singleton.mp hnew]
    exact hne

theorem sendOk_step (order : ArgOrder) (h : SendOk s) (e : SendEvent) :
    SendOk (sendStep order s e) := by
  rcases sendStep_cases order s e with heq | ⟨a, -, heq⟩ | ⟨a, -, -, hne, -, heq⟩ |
    ⟨now, op, -, hop, ⟨-, heq⟩ | heq⟩
  · rw [heq]
    exact h
  · rw [heq]
    exact ⟨h.batched, h.flying, h.noEmpty⟩
  · rw [heq]
    exact ⟨startWrite_batched order (h.batched.enqueued _), startWrite_flying order h.flying,
      startWrite_noEmpty order (h.noEmpty.enqueued hne)⟩
  · rw [heq]
    exact ⟨h.batched, h.flying.settled hop now, h.noEmpty⟩
  · rw [heq]
    exact ⟨startWrite_batched order h.batched,
      startWrite_flying order (h.flying.settled hop now), startWrite_noEmpty order h.noEmpty⟩

theorem viewed_step (h : Viewed s.ch) (e : SendEvent) :
    Viewed (sendStep .viewFirst s e).ch := by
  rcases sendStep_cases .viewFirst s e with heq | ⟨a, -, heq⟩ | ⟨a, -, -, -, -, heq⟩ |
    ⟨now, op, -, -, ⟨-, heq⟩ | heq⟩
  · rw [heq]
    exact h
  · rw [heq]
    exact h
  · rw [heq]
    exact startWrite_viewed h
  · rw [heq]
    exact h
  · rw [heq]
    exact startWrite_viewed h

/-! ## Whole runs -/

theorem sendRun_ok {order : ArgOrder} (h : Reachable SendInit (SendStep order) s) : SendOk s :=
  h.invariant (fun _ => sendOk_init) fun _ e _ hs heq => heq ▸ sendOk_step order hs e

theorem sendRun_viewed (h : Reachable SendInit (SendStep .viewFirst) s) :
    Viewed s.ch := by
  refine h.invariant ?_ fun _ e _ hs heq => heq ▸ viewed_step hs e
  rintro s ⟨id, now, rfl⟩ op hop
  cases hop

/-- At most one write is in progress. -/
theorem Flying.one_in_flight (h : Flying ch) :
    (ch.writes.drop ch.writesDone).length = if ch.writing then 1 else 0 := by
  rw [List.length_drop, h]
  omega

/-- **Nothing is lost, duplicated, reordered or torn.** In every state reached by
sends and completions, the byte ranges given to `async_write` followed by the
queued buffers are the accepted buffers, in call order; every range consists of
whole messages within both batch limits; and at most one write is in progress. -/
theorem sendRun_lossless {s : SendState}
    (h : Reachable SendInit (SendStep .viewFirst) s) :
    s.ch.writes.flatMap WriteOp.view ++ s.ch.writeQueue.flatten = s.accepted.flatten ∧
    (∃ groups : List (List (List UInt8)),
      s.ch.writes.map WriteOp.view = groups.map List.flatten ∧
      groups.flatten ++ s.ch.writeQueue = s.accepted ∧
      ∀ g ∈ groups, g ≠ [] ∧ g.length ≤ kMaxBatchMsgs ∧ g.flatten.length ≤ kMaxBatchBytes) ∧
    (s.ch.writes.drop s.ch.writesDone).length ≤ 1 := by
  obtain ⟨⟨groups, hw, hq, hg⟩, hfly, -⟩ := sendRun_ok h
  have hview : s.ch.writes.map WriteOp.view = groups.map List.flatten := by
    rw [← hw]
    exact List.map_congr_left (sendRun_viewed h)
  refine ⟨?_, ⟨groups, hview, hq, hg⟩, ?_⟩
  · rw [List.flatMap_def, hview, ← List.flatten_flatten, ← List.flatten_append, hq]
  · rw [hfly.one_in_flight]
    split <;> omega

/-- Two sends to a fresh channel: the first is in progress, the second waits. -/
theorem sendRun_lossless_two :
    ∃ s, Reachable SendInit (SendStep .viewFirst) s ∧
      s.ch.writes.map WriteOp.view = [[1, 2, 3]] ∧ s.ch.writeQueue = [[4, 5]] ∧
      s.ch.writes.flatMap WriteOp.view ++ s.ch.writeQueue.flatten = s.accepted.flatten := by
  have hrun := Run.foldl (sendStep .viewFirst) ⟨(start { channelId := 7 } 0).1, []⟩
    [.send ⟨[1, 2, 3], 3, by decide⟩, .send ⟨[4, 5], 2, by decide⟩]
  have hreach : Reachable SendInit (SendStep .viewFirst) _ := ⟨_, _, ⟨7, 0, rfl⟩, hrun⟩
  exact ⟨_, hreach, by decide, by decide, (sendRun_lossless hreach).1⟩

/-! ## The byte range and the counter

With the captures evaluated first, `asio::buffer(buffer)` views a moved-from
vector: `async_write` is given an empty range, completes with `n = 0`, and the
batch stays counted in `current_queue_bytes` for good. -/

@[simp] theorem doWrite_currentQueueBytes (order : ArgOrder) (ch : AsioChannel) :
    (doWrite order ch).currentQueueBytes = ch.currentQueueBytes := by
  unfold doWrite
  split <;> rfl

@[simp] theorem startWrite_currentQueueBytes (order : ArgOrder) (ch : AsioChannel) :
    (startWrite order ch).currentQueueBytes = ch.currentQueueBytes := by
  unfold startWrite
  split
  · rfl
  · exact doWrite_currentQueueBytes order _

theorem startWrite_peakQueued (order : ArgOrder) (ch : AsioChannel) :
    (startWrite order ch).peakQueued = ch.peakQueued := by
  unfold startWrite doWrite
  split
  · rfl
  · split <;> rfl

theorem onWritten_currentQueueBytes (order : ArgOrder) (ch : AsioChannel) (op : WriteOp)
    (now : Nat) :
    (onWritten order ch op now).currentQueueBytes
      = subSize ch.currentQueueBytes op.view.length := by
  unfold onWritten
  dsimp only
  split
  · rfl
  · rw [startWrite_currentQueueBytes]

/-- **Which evaluation order hands the batch over.** When `make_batch_` has built
`b`, the range given to `async_write` is `b`, and its completion takes exactly the
size of `b` off the counter, if and only if the view is taken before the move (or
`b` has no bytes). -/
theorem doWrite_hands_over_iff (order : ArgOrder) (ch : AsioChannel) (b : Batch)
    (hb : makeBatch ch.writeQueue = some b) :
    (∃ op, (doWrite order ch).writes = ch.writes ++ [op] ∧ op.view = b.out ∧
      ∀ later now, b.out.length ≤ later.currentQueueBytes →
        (onWritten order later op now).currentQueueBytes + b.out.length
          = later.currentQueueBytes) ↔
    order = .viewFirst ∨ b.out = [] := by
  have hwrites : (doWrite order ch).writes
      = ch.writes ++ [⟨(writeArgs order b.out).1, (writeArgs order b.out).2, b.outMsgs⟩] := by
    rw [doWrite, hb]
  constructor
  · rintro ⟨op, hop, hview, -⟩
    rw [hwrites, List.append_cancel_left_eq, List.cons.injEq] at hop
    cases order with
    | viewFirst => exact .inl rfl
    | captureFirst =>
      -- the view of the moved-from vector is empty
      rw [← hop.1] at hview
      exact .inr hview.symm
  · intro hcond
    refine ⟨_, hwrites, ?_, ?_⟩
    · show (writeArgs order b.out).1 = b.out
      rcases hcond with rfl | hnil
      · rfl
      · cases order <;> simp [writeArgs, move, hnil]
    · intro later now hcov
      have hlen : (writeArgs order b.out).1.length = b.out.length := by
        rcases hcond with rfl | hnil
        · rfl
        · cases order <;> simp [writeArgs, move, hnil]
      rw [onWritten_currentQueueBytes, hlen, subSize, if_pos hcov]
      omega

theorem doWrite_hands_over_one :
    makeBatch [[7]] = some ⟨[7], 1, []⟩ ∧
      ∃ op, (doWrite .viewFirst { channelId := 1, writeQueue := [[7]] }).writes = [op] ∧
        op.view = [7] := by
  refine ⟨by decide, ?_⟩
  obtain ⟨op, hop, hview, -⟩ :=
    (doWrite_hands_over_iff .viewFirst { channelId := 1, writeQueue := [[7]] } ⟨[7], 1, []⟩
      (by decide)).mpr (.inl rfl)
  exact ⟨op, hop, hview⟩

/-- One byte sent on a fresh channel, captures evaluated first: the write has an
empty range, and once it has completed nothing is queued, nothing was sent and the
byte is still counted. -/
theorem captureFirst_sends_nothing :
    let sent := sendStep .captureFirst ⟨(start { channelId := 7 } 0).1, []⟩
      (.send ⟨[9], 1, by decide⟩)
    let done := sendStep .captureFirst sent (.written 0)
    makeBatch [[9]] = some ⟨[9], 1, []⟩ ∧ sent.accepted = [[9]] ∧
      sent.ch.writes = [⟨[], [9], 1⟩] ∧ done.ch.writeQueue = [] ∧ done.ch.bytesSent = 0 ∧
      sent.ch.currentQueueBytes = 1 ∧ done.ch.currentQueueBytes = 1 := by
  decide

/-! ## Stalls -/

/-- `make_batch_` takes at least one message off a non-empty queue exactly when
the first message is within the batch limit. -/
theorem makeBatch_progress_iff (front : List UInt8) (rest : List (List UInt8)) :
    (∃ b, makeBatch (front :: rest) = some b ∧ b.queue.length < (front :: rest).length) ↔
      front.length ≤ kMaxBatchBytes := by
  constructor
  · rintro ⟨b, hb, -⟩
    by_contra hgt
    have hnone : makeBatch (front :: rest) = none := by
      refine (makeBatch_eq_none_iff _).mpr ?_
      rintro front' rest' heq
      obtain ⟨rfl, -⟩ := List.cons.inj heq
      omega
    rw [hnone] at hb
    cases hb
  · intro hle
    cases hb : makeBatch (front :: rest) with
    | none =>
      have := (makeBatch_eq_none_iff _).mp hb front rest rfl
      omega
    | some b =>
      obtain ⟨taken, hne, hq, -⟩ := makeBatch_some hb
      refine ⟨b, rfl, ?_⟩
      have hpos := List.length_pos_iff.mpr hne
      rw [hq, List.length_append]
      omega

/-- The condition on the sends of a run: a message that `enqueue_send_` will admit
is within the batch limit. -/
def SendFits (s : SendState) : SendEvent → Prop
  | .send a =>
    a.size.toInt ≤ kMaxBatchBytes ∨ s.ch.closed = true ∨
      (maxQueueBytes : Int) < s.ch.currentQueueBytes + a.size.toInt
  | .written _ => True

theorem SendFits.length_buffer {a : SendArgs} (h : SendFits s (.send a))
    (hopen : s.ch.closed = false) (hle : s.ch.currentQueueBytes + a.buffer.length ≤ maxQueueBytes) :
    a.buffer.length ≤ kMaxBatchBytes := by
  have hlen := a.length_buffer
  rcases h with hsz | hclosed | hfull
  · omega
  · rw [hopen] at hclosed
    cases hclosed
  · omega

/-- The queue between two callbacks when every admitted message fits. -/
structure NotStalled (ch : AsioChannel) : Prop where
  drained : Drained ch
  fitting : Fitting ch

/-- A queue that is not empty is being written. -/
theorem notStalled_step (order : ArgOrder) {e : SendEvent} (h : NotStalled s.ch)
    (hfits : SendFits s e) : NotStalled (sendStep order s e).ch := by
  have hstart : ∀ ch, Fitting ch → NotStalled (startWrite order ch) := fun ch hf =>
    ⟨(startWrite_drained order hf).1, (startWrite_drained order hf).2⟩
  rcases sendStep_cases order s e with heq | ⟨a, -, heq⟩ | ⟨a, rfl, hopen, -, hle, heq⟩ |
    ⟨now, op, -, -, ⟨hq, heq⟩ | heq⟩
  · rw [heq]
    exact h
  · rw [heq]
    exact ⟨h.drained, h.fitting⟩
  · -- an admitted message fits by `hfits`, so the queue keeps fitting
    rw [heq]
    refine hstart _ fun m hm => ?_
    rcases List.mem_append.mp hm with hold | hnew
    · exact h.fitting m hold
    · rw [List.mem_singleton.mp hnew]
      exact hfits.length_buffer hopen hle
  · -- a completion that finds the queue empty starts no further write
    rw [heq]
    exact ⟨fun _ => hq, h.fitting⟩
  · rw [heq]
    exact hstart (s.ch.settled op now) h.fitting

theorem sendRun_notStalled {order : ArgOrder} {t : SendState} {es : List SendEvent}
    (hinit : SendInit s) (hrun : Run (guarded SendFits (SendStep order)) s es t) :
    NotStalled t.ch := by
  refine hrun.invariant (I := fun s => NotStalled s.ch) ?_ ?_
  · obtain ⟨id, now, rfl⟩ := hinit
    refine ⟨fun _ => rfl, ?_⟩
    rintro m hm
    cases hm
  · rintro s e t hs ⟨hfits, rfl⟩
    exact notStalled_step order hs hfits

/-- **When the queue drains.** `make_batch_` makes progress on a non-empty queue if
and only if the first message is at most 65536 bytes; and in every run whose
admitted messages are all within that limit, a non-empty queue has a write in
progress and `make_batch_` makes progress on it. -/
theorem sendRun_drains (order : ArgOrder) :
    (∀ front rest,
      (∃ b, makeBatch (front :: rest) = some b ∧ b.queue.length < (front :: rest).length) ↔
        front.length ≤ kMaxBatchBytes) ∧
    ∀ s es t, SendInit s → Run (guarded SendFits (SendStep order)) s es t →
      t.ch.writeQueue ≠ [] →
        t.ch.writing = true ∧ (t.ch.writes.drop t.ch.writesDone).length = 1 ∧
        ∃ b, makeBatch t.ch.writeQueue = some b ∧
          b.queue.length < t.ch.writeQueue.length := by
  refine ⟨makeBatch_progress_iff, ?_⟩
  intro s es t hinit hrun hne
  have hok := sendRun_notStalled hinit hrun
  have hfly := (sendRun_ok ⟨s, es, hinit, hrun.of_guarded⟩).flying
  have hwriting : t.ch.writing = true := by
    by_contra hw
    exact hne (hok.drained (by simpa using hw))
  refine ⟨hwriting, ?_, ?_⟩
  · rw [hfly.one_in_flight, if_pos hwriting]
  · cases hq : t.ch.writeQueue with
    | nil => exact absurd hq hne
    | cons front rest =>
      exact (makeBatch_progress_iff front rest).mpr
        (hok.fitting front (hq ▸ List.mem_cons_self ..))

/-- A second message sent while the first is in progress waits for it. -/
theorem sendRun_drains_two :
    ∃ s es t, SendInit s ∧ Run (guarded SendFits (SendStep .viewFirst)) s es t ∧
      t.ch.writeQueue = [[4, 5]] ∧ t.ch.writing = true := by
  let s : SendState := ⟨(start { channelId := 7 } 0).1, []⟩
  let e : SendEvent := .send ⟨[1, 2, 3], 3, by decide⟩
  let e' : SendEvent := .send ⟨[4, 5], 2, by decide⟩
  have hinit : SendInit s := ⟨7, 0, rfl⟩
  have hfirst : Run (guarded SendFits (SendStep .viewFirst)) s [e] (sendStep .viewFirst s e) :=
    .single ⟨.inl (by decide), rfl⟩
  have hrun := hfirst.snoc (e := e') ⟨.inl (by decide), rfl⟩
  refine ⟨s, _, _, hinit, hrun, by decide, ?_⟩
  exact ((sendRun_drains .viewFirst).2 s _ _ hinit hrun (by decide)).1

/-- A message between the two limits, sent on an idle channel, is queued and
stays there with no write in progress. -/
theorem sendStep_oversized (order : ArgOrder) {a : SendArgs} (hopen : s.ch.closed = false)
    (hidle : s.ch.writing = false) (hq : s.ch.writeQueue = [])
    (hbig : kMaxBatchBytes < a.buffer.length)
    (hle : s.ch.currentQueueBytes + a.buffer.length ≤ maxQueueBytes) :
    sendStep order s (.send a)
      = ⟨{ s.ch.enqueued a.buffer with writing := false }, s.accepted ++ [a.buffer]⟩ := by
  have hnone : makeBatch (s.ch.enqueued a.buffer).writeQueue = none := by
    refine (makeBatch_eq_none_iff _).mpr ?_
    rintro front rest heq
    rw [enqueued, hq] at heq
    obtain ⟨rfl, -⟩ := List.cons.inj heq
    exact hbig
  have hlen := a.length_buffer
  -- the first two cases are those in which the message is not admitted
  rcases send_cases order s.ch a with ⟨-, hskip, -⟩ | ⟨-, -, -, hfull, -⟩ | ⟨hacc, -, -, -, heq⟩
  · rw [hopen] at hskip
    rcases hskip with hclosed | hsize
    · cases hclosed
    · omega
  · omega
  · have hstart : startWrite order (s.ch.enqueued a.buffer)
        = { s.ch.enqueued a.buffer with writing := false } := by
      rw [startWrite, if_neg (by simp [enqueued, hidle]), doWrite, hnone]
    rw [sendStep, heq, hstart, if_pos hacc]

/-- One message of 65537 bytes on a fresh channel is admitted by `enqueue_send_`
and refused by `make_batch_`: the channel stays open with the message queued and no
write in progress. -/
theorem send_65537_stalls :
    ∃ a : SendArgs, a.size = 65537 ∧
      let s := sendStep .viewFirst ⟨(start { channelId := 7 } 0).1, []⟩ (.send a)
      s.accepted = [a.buffer] ∧ s.ch.closed = false ∧
        s.ch.currentQueueBytes ≤ maxQueueBytes ∧ s.ch.writeQueue ≠ [] ∧
        s.ch.writing = false ∧ s.ch.writes = [] ∧ makeBatch s.ch.writeQueue = none := by
  -- the bytes are never evaluated: only the length of the buffer matters
  let a : SendArgs := ⟨List.replicate 65537 0, 65537, by rw [List.length_replicate]; decide⟩
  have hlen : a.buffer.length = 65537 := a.length_buffer
  have hbig : kMaxBatchBytes < a.buffer.length := by
    rw [hlen]
    decide
  have hle : 0 + a.buffer.length ≤ maxQueueBytes := by
    rw [hlen]
    decide
  refine ⟨a, rfl, ?_⟩
  intro s
  have hs : s = ⟨{ (start { channelId := 7 } 0).1.enqueued a.buffer with writing := false },
      [a.buffer]⟩ :=
    sendStep_oversized .viewFirst rfl rfl rfl hbig hle
  rw [hs]
  refine ⟨rfl, rfl, hle, List.cons_ne_nil _ _, rfl, rfl, ?_⟩
  refine (makeBatch_eq_none_iff _).mpr ?_
  rintro front rest heq
  obtain ⟨rfl, -⟩ := List.cons.inj heq
  exact hbig

end EcsAsioServer.AsioChannel
