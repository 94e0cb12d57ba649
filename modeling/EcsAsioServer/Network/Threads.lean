import EcsAsioServer.Lib.Flags
import EcsAsioServer.Network.SendQueue

/-!
# Sends from several threads

`SendQueue` runs each callback of a channel as one step, as on a server with one io thread.
The class itself is written for more: the queue is behind a spin lock and the flags and
counters are atomic. Here any number of threads call `send`, or run completion handlers, and
take turns at every access to shared memory; `Place` says what a thread is about to do.

Two flags let one thread in at a time. `write_lock_` guards the queue. `writing_` is the right
to call `async_write`: it is taken by `send` or by a completion handler, passes to the socket
with the write, and from there to the completion handler, which gives it back.

- `Exclusive`: both flags tell the truth, so there is one write in progress at most.
- `threads_in_order`: the batches are the messages that were queued, whole and in the order in
  which they came into the queue, and those of one thread are in the order of its calls.
- `alone_refines`: a thread that is not interrupted does what `AsioChannel.send` and
  `AsioChannel.writeDone` do in one step.

The accesses are taken to be sequentially consistent.
-/

namespace EcsAsioServer.AsioChannel

open Flag Function

variable {ι : Type}

/-! ## The program of a thread -/

deriving instance DecidableEq for SendArgs

/-- What a thread does next on the channel. -/
inductive Place where
  | idle
  -- `send` and `enqueue_send_`
  | send (a : SendArgs)
  | lock (buffer : List UInt8)
  | load (buffer : List UInt8)
  | drop
  | emplace (buffer : List UInt8) (cur : Nat)
  | store (buffer : List UInt8) (cur : Nat)
  | unlock (taken : Bool)
  | forceClose
  -- `compare_exchange_strong` on `writing_`, `do_write` and `make_batch_`
  | exchange
  | lockBatch
  | batch
  | unlockBatch (b : Option Batch)
  | clear
  | launch (b : Batch)
  -- the completion handler of `do_write`
  | written (op : WriteOp) (now : Nat)
  | count (op : WriteOp) (now : Nat)
  | finish
  | look
  | failed
deriving DecidableEq

/-- The channel and the spin lock; and of what has happened so far, the messages that were
queued and by whom, and whether a write has failed. -/
structure Shared (ι : Type) where
  ch : AsioChannel
  writeLock : Bool := false
  accepted : List (ι × List UInt8) := []
  broken : Bool := false

/-- The next access of thread `t`, which is at the place `p`: the shared state after it, and
where the thread goes on. -/
def Place.run (order : ArgOrder) (t : ι) (s : Shared ι) : Place → Shared ι × Place
  | .idle => (s, .idle)
  | .send a =>
    if s.ch.closed ∨ a.size.toInt ≤ 0 then (s, .idle)
    else if a.buffer = [] then (s, .exchange)
    else (s, .lock a.buffer)
  -- `test_and_set` until it finds the flag cleared
  | .lock buffer =>
    if s.writeLock then (s, .lock buffer) else ({ s with writeLock := true }, .load buffer)
  | .load buffer =>
    let cur := s.ch.currentQueueBytes
    if maxQueueBytes < cur + buffer.length then (s, .drop) else (s, .emplace buffer cur)
  | .drop => ({ s with ch := { s.ch with drops := s.ch.drops + 1 } }, .unlock false)
  | .emplace buffer cur =>
    ({ s with
        ch := { s.ch with writeQueue := s.ch.writeQueue ++ [buffer] }
        accepted := s.accepted ++ [(t, buffer)] },
      .store buffer cur)
  -- `enq_msgs` and `peak_queued` are written under the lock only
  | .store buffer cur =>
    ({ s with ch := { s.ch with
        currentQueueBytes := cur + buffer.length
        enqMsgs := s.ch.enqMsgs + 1
        peakQueued :=
          if s.ch.peakQueued < cur + buffer.length then cur + buffer.length
          else s.ch.peakQueued } },
      .unlock true)
  | .unlock true => ({ s with writeLock := false }, .exchange)
  | .unlock false => ({ s with writeLock := false }, .forceClose)
  | .forceClose =>
    ({ s with ch :=
        (close { s.ch with forceCloses := s.ch.forceCloses + 1 } .forceClosed).1 }, .idle)
  | .exchange =>
    if s.ch.writing then (s, .idle)
    else ({ s with ch := { s.ch with writing := true } }, .lockBatch)
  | .lockBatch =>
    if s.writeLock then (s, .lockBatch) else ({ s with writeLock := true }, .batch)
  | .batch =>
    match makeBatch s.ch.writeQueue with
    | none => (s, .unlockBatch none)
    | some b => ({ s with ch := { s.ch with writeQueue := b.queue } }, .unlockBatch (some b))
  | .unlockBatch none => ({ s with writeLock := false }, .clear)
  | .unlockBatch (some b) => ({ s with writeLock := false }, .launch b)
  | .clear => ({ s with ch := { s.ch with writing := false } }, .idle)
  | .launch b =>
    let (view, captured) := writeArgs order b.out
    ({ s with ch :=
        { s.ch with writes := s.ch.writes ++ [⟨view, captured, b.outMsgs⟩] } }, .idle)
  | .written op now =>
    ({ s with ch := { s.ch with
        currentQueueBytes := subSize s.ch.currentQueueBytes op.view.length } },
      .count op now)
  -- statistics, each its own atomic variable
  | .count op now =>
    ({ s with ch := { s.ch with
        deqMsgs := s.ch.deqMsgs + op.batchMsgs
        bytesSent := s.ch.bytesSent + op.view.length
        lastSendMs := now } },
      .finish)
  | .finish => ({ s with ch := { s.ch with writing := false } }, .look)
  -- `write_queue_.empty()`, outside the lock
  | .look => if s.ch.writeQueue.isEmpty then (s, .idle) else (s, .exchange)
  -- `writing_` stays set
  | .failed => ({ s with ch := (close s.ch .write).1 }, .idle)

/-- The shared state and the place of each thread. -/
structure Threads (ι : Type) extends Shared ι where
  place : ι → Place

/-- A thread calls `send`, is handed the completion of the write in progress, or takes its
next access. -/
inductive ThreadEvent (ι : Type) where
  | send (t : ι) (a : SendArgs)
  | written (t : ι) (now : Nat)
  | failed (t : ι)
  | step (t : ι)

namespace Threads

/-- A started channel on which no thread is active. -/
def init (id : Int32) (now : Nat) : Threads ι :=
  { ch := (start { channelId := id } now).1, place := fun _ => .idle }

variable [DecidableEq ι]

/-- The write in progress completes, and an idle thread `t` is handed the completion. -/
def complete (s : Threads ι) (t : ι) (next : WriteOp → Place) (broken : Bool) : Threads ι :=
  match s.place t, s.ch.writes[s.ch.writesDone]? with
  | .idle, some op =>
    { s with
      ch := { s.ch with writesDone := s.ch.writesDone + 1 }
      broken := broken
      place := update s.place t (next op) }
  | _, _ => s

/-- One event; calls and completions are for threads that have nothing else to do. -/
def apply (order : ArgOrder) (s : Threads ι) : ThreadEvent ι → Threads ι
  | .send t a =>
    match s.place t with
    | .idle => { s with place := update s.place t (.send a) }
    | _ => s
  | .written t now => s.complete t (.written · now) s.broken
  | .failed t => s.complete t (fun _ => .failed) true
  | .step t =>
    let (shared, p) := (s.place t).run order t s.toShared
    ⟨shared, update s.place t p⟩

/-- The state that a run on a new channel leads to. -/
def after (order : ArgOrder) (id : Int32) (now : Nat) (es : List (ThreadEvent ι)) : Threads ι :=
  es.foldl (apply order) (init id now)

end Threads

/-! ## What one access can do

One characterisation for each part of the state that the invariants below are about. -/

/-- Inside the section of `write_lock_`. -/
def Place.locks : Place → Bool
  | .load _ | .drop | .emplace _ _ | .store _ _ | .unlock _ | .batch | .unlockBatch _ => true
  | _ => false

/-- With the right to write. -/
def Place.writes : Place → Bool
  | .lockBatch | .batch | .unlockBatch _ | .clear | .launch _ | .written _ _ | .count _ _
  | .finish => true
  | _ => false

/-- The batch that has been taken off the queue and not been handed over. -/
def Place.hand : Place → Option Batch
  | .unlockBatch b => b
  | .launch b => some b
  | _ => none

/-- The message of the thread's call, as long as it has not been queued. -/
def Place.pending : Place → List (List UInt8)
  | .send a => [a.buffer]
  | .lock buffer | .load buffer | .emplace buffer _ => [buffer]
  | _ => []

section Close

variable (ch : AsioChannel) (reason : CloseFunction)

@[simp] theorem close_writing : (close ch reason).1.writing = ch.writing := by
  unfold close
  split <;> rfl

@[simp] theorem close_writes : (close ch reason).1.writes = ch.writes := by
  unfold close
  split <;> rfl

@[simp] theorem close_writesDone : (close ch reason).1.writesDone = ch.writesDone := by
  unfold close
  split <;> rfl

@[simp] theorem close_writeQueue : (close ch reason).1.writeQueue = ch.writeQueue := by
  unfold close
  split <;> rfl

@[simp] theorem close_currentQueueBytes :
    (close ch reason).1.currentQueueBytes = ch.currentQueueBytes := by
  unfold close
  split <;> rfl

end Close

section Access

variable {order : ArgOrder} {t : ι} {s s' : Shared ι} {p p' : Place}

/-- The lock is left alone, taken or released. -/
theorem run_lock (h : p.run order t s = (s', p')) :
    (p'.locks = p.locks ∧ s'.writeLock = s.writeLock) ∨
    (s.writeLock = false ∧ p'.locks = true ∧ s'.writeLock = true) ∨
    (p.locks = true ∧ p'.locks = false ∧ s'.writeLock = false) := by
  obtain ⟨rfl, rfl⟩ := Prod.ext_iff.mp h
  fun_cases Place.run order t s p <;> simp_all [Place.locks]

/-- The right to write is left alone, taken, given back, or passed on with a write. -/
theorem run_writing (h : p.run order t s = (s', p')) :
    (s'.ch.writesDone = s.ch.writesDone ∧ s'.broken = s.broken) ∧
    ((s'.ch.writes = s.ch.writes ∧
      ((p'.writes = p.writes ∧ s'.ch.writing = s.ch.writing) ∨
        (s.ch.writing = false ∧ p'.writes = true ∧ s'.ch.writing = true) ∨
        (p.writes = true ∧ p'.writes = false ∧ s'.ch.writing = false))) ∨
    (∃ op, p.writes = true ∧ p'.writes = false ∧ s'.ch.writing = s.ch.writing ∧
      s'.ch.writes = s.ch.writes ++ [op])) := by
  obtain ⟨rfl, rfl⟩ := Prod.ext_iff.mp h
  fun_cases Place.run order t s p <;> simp_all [Place.writes]

/-- A message comes into the queue, a batch is taken off its front, the batch is handed over,
or nothing happens to the messages. -/
theorem run_queue (h : p.run order t s = (s', p')) :
    (s'.accepted = s.accepted ∧ s'.ch.writeQueue = s.ch.writeQueue ∧
      s'.ch.writes = s.ch.writes ∧ p'.hand = p.hand) ∨
    (∃ buffer, s'.accepted = s.accepted ++ [(t, buffer)] ∧
      s'.ch.writeQueue = s.ch.writeQueue ++ [buffer] ∧ s'.ch.writes = s.ch.writes ∧
      p.hand = none ∧ p'.hand = none) ∨
    (∃ b, makeBatch s.ch.writeQueue = some b ∧ s'.accepted = s.accepted ∧
      s'.ch.writeQueue = b.queue ∧ s'.ch.writes = s.ch.writes ∧ p.writes = true ∧
      p.hand = none ∧ p'.hand = some b) ∨
    (∃ b, p.hand = some b ∧ s'.accepted = s.accepted ∧
      s'.ch.writeQueue = s.ch.writeQueue ∧ p'.hand = none ∧
      s'.ch.writes = s.ch.writes ++ [⟨(writeArgs order b.out).1, b.out, b.outMsgs⟩]) := by
  obtain ⟨rfl, rfl⟩ := Prod.ext_iff.mp h
  fun_cases Place.run order t s p <;> simp_all [Place.hand, Place.writes]
  case case24 b view captured hargs =>
    simpa [hargs] using writeArgs_snd order b.out

/-- A message that comes into the queue is the one of the thread's call. -/
theorem run_pending (h : p.run order t s = (s', p')) :
    (s'.accepted = s.accepted ∧ p'.pending.Sublist p.pending) ∨
    (∃ buffer, s'.accepted = s.accepted ++ [(t, buffer)] ∧ p.pending = [buffer] ∧
      p'.pending = []) := by
  obtain ⟨rfl, rfl⟩ := Prod.ext_iff.mp h
  fun_cases Place.run order t s p <;> simp_all [Place.pending]

end Access

namespace Threads

variable [DecidableEq ι]

/-- The state after thread `t` has gone on to `p`. -/
def moved (s : Threads ι) (t : ι) (shared : Shared ι) (p : Place) : Threads ι :=
  ⟨shared, update s.place t p⟩

/-- What an idle thread can begin with. -/
inductive Begins (s : Shared ι) (t : ι) : ThreadEvent ι → Shared ι → Place → Prop where
  | send (a : SendArgs) : Begins s t (.send t a) s (.send a)
  | written {op : WriteOp} (now : Nat) (h : s.ch.writes[s.ch.writesDone]? = some op) :
      Begins s t (.written t now)
        { s with ch := { s.ch with writesDone := s.ch.writesDone + 1 } } (.written op now)
  | failed {op : WriteOp} (h : s.ch.writes[s.ch.writesDone]? = some op) :
      Begins s t (.failed t)
        { s with ch := { s.ch with writesDone := s.ch.writesDone + 1 }, broken := true } .failed

/-- An event does nothing, or one thread begins or goes on. -/
theorem apply_cases (order : ArgOrder) (s : Threads ι) (e : ThreadEvent ι) :
    s.apply order e = s ∨
    ∃ t s' p', s.apply order e = s.moved t s' p' ∧
      (s.place t = .idle ∧ Begins s.toShared t e s' p' ∨
        e = .step t ∧ (s.place t).run order t s.toShared = (s', p')) := by
  cases e with
  | send t a =>
    cases hp : s.place t with
    | idle => exact .inr ⟨t, _, _, by rw [apply, hp]; rfl, .inl ⟨hp, .send a⟩⟩
    | _ => exact .inl (by rw [apply, hp])
  | written t now =>
    rw [apply, complete]
    split
    · next op hp hop => exact .inr ⟨t, _, _, rfl, .inl ⟨hp, .written now hop⟩⟩
    · exact .inl rfl
  | failed t =>
    rw [apply, complete]
    split
    · next op hp hop => exact .inr ⟨t, _, _, rfl, .inl ⟨hp, .failed hop⟩⟩
    · exact .inl rfl
  | step t => exact .inr ⟨t, _, _, rfl, .inr ⟨rfl, rfl⟩⟩

/-! ## The two flags -/

end Threads

/-- Who can have the right to write; a write that fails takes it along. -/
inductive Writer (ι : Type) where
  | thread (t : ι)
  | socket
  | failure
deriving DecidableEq

namespace Threads

variable [DecidableEq ι]

omit [DecidableEq ι] in
/-- The writer may touch the queue. -/
def Writes (s : Threads ι) : Writer ι → Prop
  | .thread t => (s.place t).writes = true
  | .socket => s.ch.writesDone < s.ch.writes.length
  | .failure => s.broken = true

/-- Both flags tell the truth, and at most one write is in progress. -/
structure Exclusive (s : Threads ι) : Prop where
  lock : ∃ locker, Held s.writeLock (fun t => (s.place t).locks = true) locker
  writing : ∃ writer, Held s.ch.writing s.Writes writer
  done_le : s.ch.writesDone ≤ s.ch.writes.length
  length_le : s.ch.writes.length ≤ s.ch.writesDone + 1

variable {s : Threads ι} {t : ι} {s' : Shared ι} {p' p : Place} {order : ArgOrder}
  {es : List (ThreadEvent ι)}

theorem writes_moved_self {shared : Shared ι} :
    (s.moved t shared p).Writes (.thread t) ↔ p.writes = true := by
  simp [Writes, moved]

/-- Others keep their part in the writing when a thread moves on and the writes stay. -/
theorem writes_moved_ne {shared : Shared ι} {k : Writer ι} (hw : shared.ch.writes = s.ch.writes)
    (hd : shared.ch.writesDone = s.ch.writesDone) (hb : shared.broken = s.broken)
    (hk : k ≠ .thread t) :
    (s.moved t shared p).Writes k ↔ s.Writes k := by
  cases k with
  | thread u =>
    have hu : u ≠ t := fun h => hk (h ▸ rfl)
    simp [Writes, moved, hu]
  | socket => simp [Writes, moved, hw, hd]
  | failure => simp [Writes, moved, hb]

/-- A thread moves on and the writes stay: the right to write is where it was, was taken from
nobody by the thread, or given back by it. -/
theorem held_moved {writer : Option (Writer ι)} (h : Held s.ch.writing s.Writes writer)
    (hw : s'.ch.writes = s.ch.writes) (hd : s'.ch.writesDone = s.ch.writesDone)
    (hb : s'.broken = s.broken)
    (hcases : (p'.writes = (s.place t).writes ∧ s'.ch.writing = s.ch.writing) ∨
      (s.ch.writing = false ∧ p'.writes = true ∧ s'.ch.writing = true) ∨
      ((s.place t).writes = true ∧ p'.writes = false ∧ s'.ch.writing = false)) :
    ∃ writer', Held s'.ch.writing (s.moved t s' p').Writes writer' := by
  have hother : ∀ k, k ≠ .thread t → ((s.moved t s' p').Writes k ↔ s.Writes k) :=
    fun k hk => writes_moved_ne hw hd hb hk
  rcases hcases with ⟨hp, hf⟩ | ⟨hfree, hp, hf⟩ | ⟨hin, hp, hf⟩
  · refine ⟨writer, ?_⟩
    rw [hf]
    refine h.same fun k => ?_
    by_cases hk : k = .thread t
    · subst hk
      rw [writes_moved_self, hp]
      rfl
    · exact hother k hk
  · refine ⟨some (.thread t), ?_⟩
    rw [hf]
    rw [hfree] at h
    exact h.enter (writes_moved_self.mpr hp) hother
  · refine ⟨none, ?_⟩
    rw [hf]
    have hin' : s.Writes (.thread t) := hin
    refine h.leave hin' (fun hself => ?_) hother
    rw [writes_moved_self, hp] at hself
    cases hself

section Steps

variable {order : ArgOrder} {s : Threads ι} {t : ι} {s' : Shared ι} {p' : Place}
  {e : ThreadEvent ι}

/-- A thread takes and gives back the lock and the right to write. -/
theorem Exclusive.run (h : s.Exclusive) (hrun : (s.place t).run order t s.toShared = (s', p')) :
    (s.moved t s' p').Exclusive := by
  obtain ⟨locker, hlock⟩ := h.lock
  obtain ⟨writer, hwriting⟩ := h.writing
  obtain ⟨⟨hdone, hbroken⟩, hcases⟩ := run_writing hrun
  have hlock' : ∃ locker', Held s'.writeLock
      (fun u => (update s.place t p' u).locks = true) locker' := by
    rcases run_lock hrun with ⟨hp, hf⟩ | ⟨hfree, hp, hf⟩ | ⟨hin, hp, hf⟩
    · rw [hf]
      exact ⟨locker, hlock.move Place.locks hp⟩
    · rw [hf]
      rw [hfree] at hlock
      exact ⟨some t, hlock.moveIn Place.locks hp⟩
    · rw [hf]
      exact ⟨none, hlock.moveOut Place.locks hin hp⟩
  rcases hcases with ⟨hw, hmove⟩ | ⟨op, hin, hp, hf, hw⟩
  · refine ⟨hlock', held_moved hwriting hw hdone hbroken hmove, ?_, ?_⟩
    · show s'.ch.writesDone ≤ s'.ch.writes.length
      rw [hw, hdone]
      exact h.done_le
    · show s'.ch.writes.length ≤ s'.ch.writesDone + 1
      rw [hw, hdone]
      exact h.length_le
  · have hin' : s.Writes (.thread t) := hin
    -- the thread had the right to write, so no write was in progress
    have hidle : s.ch.writes.length ≤ s.ch.writesDone := by
      by_contra hlt
      have hsocket : s.Writes .socket := Nat.lt_of_not_le hlt
      cases hwriting.unique hsocket hin'
    have hlen : s'.ch.writes.length = s'.ch.writesDone + 1 := by
      have := h.done_le
      rw [hw, hdone, List.length_append, List.length_singleton]
      omega
    refine ⟨hlock', ⟨some .socket, ?_⟩, hlen ▸ Nat.le_succ _, hlen.le⟩
    show Held s'.ch.writing _ _
    rw [hf]
    refine hwriting.pass hin' ?_ ?_ ?_
    · rw [writes_moved_self, hp]
      exact Bool.false_ne_true
    · exact Nat.lt_of_lt_of_eq (Nat.lt_succ_self _) hlen.symm
    · intro k hk hk'
      cases k with
      | thread u =>
        have hu : u ≠ t := fun heq => hk (heq ▸ rfl)
        simp [Writes, moved, hu]
      | socket => exact absurd rfl hk'
      | failure => simp [Writes, moved, hbroken]

/-- A call begins with neither. -/
theorem Exclusive.begin (h : s.Exclusive) (hidle : s.place t = .idle)
    (hbegin : Begins s.toShared t e s' p') : (s.moved t s' p').Exclusive := by
  obtain ⟨locker, hlock⟩ := h.lock
  obtain ⟨writer, hwriting⟩ := h.writing
  have hlocks : p'.locks = (s.place t).locks := by
    rw [hidle]
    cases hbegin <;> rfl
  have hlock' : Held s.writeLock (fun u => (update s.place t p' u).locks = true) locker :=
    hlock.move Place.locks hlocks
  cases hbegin with
  | send a =>
    refine ⟨⟨locker, hlock'⟩, ?_, h.done_le, h.length_le⟩
    exact held_moved hwriting rfl rfl rfl (.inl ⟨by rw [hidle]; rfl, rfl⟩)
  | @written op now hop =>
    obtain ⟨hlt, -⟩ := List.getElem?_eq_some_iff.mp hop
    have hsocket : s.Writes .socket := hlt
    refine ⟨⟨locker, hlock'⟩, ⟨some (.thread t), ?_⟩, hlt, h.length_le.trans (Nat.le_succ _)⟩
    -- the write in progress was the only one
    refine hwriting.pass hsocket (Nat.not_lt.mpr h.length_le) (writes_moved_self.mpr rfl) ?_
    intro k hk hk'
    cases k with
    | thread u =>
      have hu : u ≠ t := fun heq => hk' (heq ▸ rfl)
      simp [Writes, moved, hu]
    | socket => exact absurd rfl hk
    | failure => rfl
  | @failed op hop =>
    obtain ⟨hlt, -⟩ := List.getElem?_eq_some_iff.mp hop
    have hsocket : s.Writes .socket := hlt
    refine ⟨⟨locker, hlock'⟩, ⟨some .failure, ?_⟩, hlt, h.length_le.trans (Nat.le_succ _)⟩
    refine hwriting.pass hsocket (Nat.not_lt.mpr h.length_le) rfl ?_
    intro k hk hk'
    cases k with
    | thread u =>
      by_cases hu : u = t
      · subst hu
        rw [writes_moved_self, Writes, hidle]
        rfl
      · simp [Writes, moved, hu]
    | socket => exact absurd rfl hk
    | failure => exact absurd rfl hk'

omit [DecidableEq ι] in
theorem exclusive_init (id : Int32) (now : Nat) : (init id now : Threads ι).Exclusive := by
  refine ⟨⟨none, rfl, fun t => ?_⟩, ⟨none, rfl, fun k => ?_⟩, Nat.le_refl _, Nat.zero_le _⟩
  · simp [init, Place.locks]
  · cases k <;> simp [init, Writes, Place.writes, start]

theorem after_snoc (order : ArgOrder) (id : Int32) (now : Nat) (es : List (ThreadEvent ι))
    (e : ThreadEvent ι) :
    after order id now (es ++ [e]) = (after order id now es).apply order e := by
  rw [after, List.foldl_append]
  rfl

theorem after_exclusive (order : ArgOrder) (id : Int32) (now : Nat)
    (es : List (ThreadEvent ι)) : (after order id now es).Exclusive := by
  induction es using List.reverseRecOn with
  | nil => exact exclusive_init id now
  | append_singleton es e ih =>
    rw [after_snoc]
    rcases apply_cases order (after order id now es) e with
      heq | ⟨t, s', p', heq, ⟨hidle, hb⟩ | ⟨rfl, hr⟩⟩
    · rw [heq]
      exact ih
    · rw [heq]
      exact ih.begin hidle hb
    · rw [heq]
      exact ih.run hr

/-- **Invariant rule**: what the moves of single threads keep, under the truth of the flags,
holds after every run. -/
theorem after_keeps {I : Threads ι → List (ThreadEvent ι) → Prop} {id : Int32} {now : Nat}
    (order : ArgOrder) (hinit : I (init id now) [])
    (hnone : ∀ s es e, I s es → I s (es ++ [e]))
    (hbegin : ∀ s es t e s' p', s.Exclusive → I s es → s.place t = .idle →
      Begins s.toShared t e s' p' → I (s.moved t s' p') (es ++ [e]))
    (hrun : ∀ s es t s' p', s.Exclusive → I s es →
      (s.place t).run order t s.toShared = (s', p') → I (s.moved t s' p') (es ++ [.step t]))
    (es : List (ThreadEvent ι)) : I (after order id now es) es := by
  induction es using List.reverseRecOn with
  | nil => exact hinit
  | append_singleton es e ih =>
    have hex := after_exclusive order id now es
    rw [after_snoc]
    rcases apply_cases order (after order id now es) e with
      heq | ⟨t, s', p', heq, ⟨hidle, hb⟩ | ⟨rfl, hr⟩⟩
    · rw [heq]
      exact hnone _ es e ih
    · rw [heq]
      exact hbegin _ es t e s' p' hex ih hidle hb
    · rw [heq]
      exact hrun _ es t s' p' hex ih hr

end Steps

/-! ## The order of the messages -/

theorem writes_of_hand {b : Batch} (h : p.hand = some b) : p.writes = true := by
  cases p <;> simp_all [Place.hand, Place.writes]

/-- The batch in some thread's hand. -/
def InHand (s : Threads ι) (hand : List (List UInt8)) : Prop :=
  (∀ t b, (s.place t).hand = some b → hand = [b.out]) ∧
    ((∀ t, (s.place t).hand = none) → hand = [])

omit [DecidableEq ι] in
theorem InHand.length_le {hand : List (List UInt8)} (h : s.InHand hand) :
    hand.length ≤ 1 := by
  by_cases hnone : ∀ t, (s.place t).hand = none
  · rw [h.2 hnone]
    exact Nat.zero_le 1
  · obtain ⟨t, ht⟩ := not_forall.mp hnone
    obtain ⟨b, hb⟩ := Option.ne_none_iff_exists'.mp ht
    rw [h.1 t b hb, List.length_singleton]

omit [DecidableEq ι] in
/-- Only the thread with the right to write has a batch in its hand. -/
theorem Exclusive.hand_ne (h : s.Exclusive) {u : ι} (ht : (s.place t).writes = true) (hu : u ≠ t) :
    (s.place u).hand = none := by
  obtain ⟨writer, hwriting⟩ := h.writing
  refine Option.eq_none_iff_forall_ne_some.mpr fun b hb => hu ?_
  have hwu : s.Writes (.thread u) := writes_of_hand hb
  have hwt : s.Writes (.thread t) := ht
  exact Writer.thread.inj (hwriting.unique hwu hwt)

section Moved

variable {s : Threads ι} {t : ι} {s' : Shared ι} {p' : Place} {hand : List (List UInt8)}

theorem place_moved (u : ι) : (s.moved t s' p').place u = if u = t then p' else s.place u := by
  simp [moved, update_apply]

theorem hand_moved (hp : p'.hand = (s.place t).hand) (u : ι) :
    ((s.moved t s' p').place u).hand = (s.place u).hand := by
  rw [place_moved]
  split
  · next hu => rw [hp, hu]
  · rfl

theorem InHand.same (h : s.InHand hand) (hp : p'.hand = (s.place t).hand) :
    (s.moved t s' p').InHand hand := by
  refine ⟨fun u b hu => h.1 u b ?_, fun hnone => h.2 fun u => ?_⟩
  · rwa [hand_moved hp] at hu
  · rw [← hand_moved hp u]
    exact hnone u

/-- The thread with the right to write takes a batch into its empty hand. -/
theorem InHand.take (h : s.InHand hand) (hex : s.Exclusive) (s' : Shared ι)
    (hw : (s.place t).writes = true) (hp : (s.place t).hand = none) {b : Batch}
    (hp' : p'.hand = some b) :
    hand = [] ∧ (s.moved t s' p').InHand [b.out] := by
  refine ⟨h.2 fun u => ?_, fun u c hu => ?_, fun hnone => ?_⟩
  · by_cases hut : u = t
    · rw [hut, hp]
    · exact hex.hand_ne hw hut
  · rw [place_moved] at hu
    split at hu
    · rw [Option.some.inj (hp'.symm.trans hu)]
    · next hut =>
      rw [hex.hand_ne hw hut] at hu
      cases hu
  · have := hnone t
    rw [place_moved, if_pos rfl, hp'] at this
    cases this

/-- The batch in the hand is handed over. -/
theorem InHand.give (h : s.InHand hand) (hex : s.Exclusive) (s' : Shared ι) {b : Batch}
    (hp : (s.place t).hand = some b) (hp' : p'.hand = none) :
    hand = [b.out] ∧ (s.moved t s' p').InHand [] := by
  refine ⟨h.1 t b hp, fun u c hu => ?_, fun _ => rfl⟩
  rw [place_moved] at hu
  split at hu
  · rw [hp'] at hu
    cases hu
  · next hut =>
    rw [hex.hand_ne (writes_of_hand hp) hut] at hu
    cases hu

end Moved

/-- The batches handed over and the one in a thread's hand are groups of whole messages within
the batch limits, and with the queue behind them they are the messages that were queued. -/
def InOrder (s : Threads ι) : Prop :=
  ∃ (groups : List (List (List UInt8))) (hand : List (List UInt8)), s.InHand hand ∧
    s.ch.writes.map WriteOp.buffer ++ hand = groups.map List.flatten ∧
    groups.flatten ++ s.ch.writeQueue = s.accepted.map Prod.snd ∧
    ∀ g ∈ groups, g ≠ [] ∧ g.length ≤ kMaxBatchMsgs ∧ g.flatten.length ≤ kMaxBatchBytes

theorem InOrder.moved (h : s.InOrder) (hacc : s'.accepted = s.accepted)
    (hq : s'.ch.writeQueue = s.ch.writeQueue) (hw : s'.ch.writes = s.ch.writes)
    (hp : p'.hand = (s.place t).hand) :
    (s.moved t s' p').InOrder := by
  obtain ⟨groups, hand, hhand, hbatches, hall, hgroups⟩ := h
  refine ⟨groups, hand, hhand.same hp, ?_, ?_, hgroups⟩
  · rw [← hw] at hbatches
    exact hbatches
  · rw [← hq, ← hacc] at hall
    exact hall

/-- The buffers keep their order on the way from queue to write. -/
theorem InOrder.run (h : s.InOrder) (hex : s.Exclusive)
    (hrun : (s.place t).run order t s.toShared = (s', p')) : (s.moved t s' p').InOrder := by
  rcases run_queue hrun with ⟨hacc, hq, hw', hp⟩ | ⟨buffer, hacc, hq, hw', hp, hp'⟩ |
    ⟨b, hbatch, hacc, hq, hw', hwrites, hp, hp'⟩ | ⟨b, hp, hacc, hq, hp', hw'⟩
  · exact h.moved hacc hq hw' hp
  all_goals obtain ⟨groups, hand, hhand, hw, hall, hgroups⟩ := h
  · refine ⟨groups, hand, hhand.same (hp'.trans hp.symm), ?_, ?_, hgroups⟩
    · rw [← hw, ← hw']
      rfl
    · show groups.flatten ++ s'.ch.writeQueue = s'.accepted.map Prod.snd
      rw [hq, hacc, ← List.append_assoc, hall, List.map_append]
      rfl
  · -- the new batch is one more group, cut off the front of the queue
    obtain ⟨rfl, hhand'⟩ := hhand.take hex s' hwrites hp hp'
    obtain ⟨taken, hne, hcut, hout, -, hmsgs, hbytes⟩ := makeBatch_some hbatch
    refine ⟨groups ++ [taken], _, hhand', ?_, ?_, ?_⟩
    · show s'.ch.writes.map WriteOp.buffer ++ [b.out] = _
      rw [hw', List.map_append, ← hw, List.append_nil, hout]
      rfl
    · show (groups ++ [taken]).flatten ++ s'.ch.writeQueue = s'.accepted.map Prod.snd
      rw [hq, hacc, ← hall, hcut, List.flatten_append, List.flatten_singleton, List.append_assoc]
    · exact List.forall_mem_append.mpr ⟨hgroups, List.forall_mem_singleton.mpr ⟨hne, hmsgs, hbytes⟩⟩
  · obtain ⟨rfl, hhand'⟩ := hhand.give hex s' hp hp'
    refine ⟨groups, [], hhand', ?_, ?_, hgroups⟩
    · show s'.ch.writes.map WriteOp.buffer ++ [] = _
      rw [hw', List.append_nil, List.map_append, ← hw]
      rfl
    · rw [← hq, ← hacc] at hall
      exact hall

theorem InOrder.begin {e : ThreadEvent ι} (h : s.InOrder) (hidle : s.place t = .idle)
    (hbegin : Begins s.toShared t e s' p') :
    (s.moved t s' p').InOrder := by
  cases hbegin <;> exact h.moved rfl rfl rfl (by rw [hidle]; rfl)

/-- The messages with which thread `t` calls `send`. -/
def calls (t : ι) (es : List (ThreadEvent ι)) : List (List UInt8) :=
  es.filterMap fun
    | .send u a => if u = t then some a.buffer else none
    | _ => none

theorem calls_append (t : ι) (es es' : List (ThreadEvent ι)) :
    calls t (es ++ es') = calls t es ++ calls t es' :=
  List.filterMap_append

/-- The messages of each thread came into the queue in the order of its calls. -/
def InTurn (s : Threads ι) (es : List (ThreadEvent ι)) : Prop :=
  ∀ t, ((s.accepted.filter (·.1 = t)).map Prod.snd ++ (s.place t).pending).Sublist (calls t es)

theorem InTurn.snoc (h : s.InTurn es) (e : ThreadEvent ι) : s.InTurn (es ++ [e]) := by
  intro t
  rw [calls_append]
  exact (h t).trans (List.sublist_append_left ..)

theorem InTurn.begin {e : ThreadEvent ι} (h : s.InTurn es) (hidle : s.place t = .idle)
    (hbegin : Begins s.toShared t e s' p') : (s.moved t s' p').InTurn (es ++ [e]) := by
  have hacc : s'.accepted = s.accepted := by cases hbegin <;> rfl
  intro u
  rw [place_moved]
  show ((s'.accepted.filter (·.1 = u)).map Prod.snd ++ _).Sublist _
  rw [hacc]
  split
  · next hu =>
    subst hu
    have hu := h u
    rw [hidle] at hu
    cases hbegin with
    | send a =>
      rw [calls_append]
      simpa [calls, Place.pending] using hu
    | written now hop => exact hu.trans (by rw [calls_append]; exact List.sublist_append_left ..)
    | failed hop => exact hu.trans (by rw [calls_append]; exact List.sublist_append_left ..)
  · exact h.snoc e u

theorem InTurn.run (h : s.InTurn es) (hrun : (s.place t).run order t s.toShared = (s', p')) :
    (s.moved t s' p').InTurn (es ++ [.step t]) := by
  refine InTurn.snoc ?_ _
  intro u
  rw [place_moved]
  show ((s'.accepted.filter (·.1 = u)).map Prod.snd ++ _).Sublist _
  rcases run_pending hrun with ⟨hacc, hp⟩ | ⟨buffer, hacc, hp, hp'⟩
  · rw [hacc]
    split
    · next hu =>
      subst hu
      exact (List.Sublist.append_left hp _).trans (h u)
    · exact h u
  · rw [hacc, List.filter_append, List.map_append]
    split
    · next hu =>
      subst hu
      have hu := h u
      rw [hp] at hu
      simpa [hp'] using hu
    · next hu => simpa [Ne.symm hu] using h u

omit [DecidableEq ι] in
theorem inOrder_init (id : Int32) (now : Nat) : (init id now : Threads ι).InOrder := by
  refine ⟨[], [], ⟨fun t b hb => ?_, fun _ => rfl⟩, rfl, rfl, fun g hg => ?_⟩
  · cases hb
  · cases hg

theorem inTurn_init (id : Int32) (now : Nat) : (init id now : Threads ι).InTurn [] :=
  fun _ => List.Sublist.refl []

/-- Every write was called with the view that the order of the arguments gives. -/
def Views (order : ArgOrder) (s : Shared ι) : Prop :=
  ∀ op ∈ s.ch.writes, op.view = (writeArgs order op.buffer).1

omit [DecidableEq ι] in
theorem Views.run {s : Shared ι} (h : Views order s) (hr : p.run order t s = (s', p')) :
    Views order s' := by
  rcases run_queue hr with ⟨-, -, hw, -⟩ | ⟨_, -, -, hw, -⟩ | ⟨_, -, -, -, hw, -⟩ |
    ⟨b, -, -, -, -, hw⟩
  · rw [Views, hw]
    exact h
  · rw [Views, hw]
    exact h
  · rw [Views, hw]
    exact h
  · intro op hop
    rw [hw, List.mem_append, List.mem_singleton] at hop
    rcases hop with hop | rfl
    · exact h op hop
    · rfl

theorem after_views (order : ArgOrder) (id : Int32) (now : Nat) (es : List (ThreadEvent ι)) :
    Views order (after order id now es).toShared := by
  refine after_keeps (I := fun s _ => Views order s.toShared) order (fun op hop => ?_)
    (fun _ _ _ h => h) (fun s es t e s' p' _ h _ hb => ?_)
    (fun s es t s' p' _ h hr => Views.run h hr) es
  · cases hop
  · cases hb <;> exact h

/-- Thread `t` takes `n` accesses in a row. -/
def steps (t : ι) (n : Nat) : List (ThreadEvent ι) := List.replicate n (.step t)

/-- What `n` accesses in a row do. -/
def runs (order : ArgOrder) (t : ι) : Nat → Shared ι × Place → Shared ι × Place
  | 0, r => r
  | n + 1, (s, p) => runs order t n (p.run order t s)

theorem foldl_steps (order : ArgOrder) (s : Threads ι) (t : ι) (n : Nat) (s' : Shared ι)
    (p' : Place) :
    (steps t n).foldl (apply order) (s.moved t s' p')
      = s.moved t (runs order t n (s', p')).1 (runs order t n (s', p')).2 := by
  induction n generalizing s' p' with
  | zero => rfl
  | succ n ih =>
    have hstep : (s.moved t s' p').apply order (.step t)
        = s.moved t (p'.run order t s').1 (p'.run order t s').2 := by
      simp [apply, moved]
    rw [steps, List.replicate_succ, List.foldl_cons, hstep, ← steps, ih]
    rfl

theorem moved_idle (h : s.place t = .idle) (s' : Shared ι) :
    s.moved t s' .idle = { s with toShared := s' } := by
  rw [moved, ← h, update_eq_self]

omit [DecidableEq ι] in
theorem runs_add (order : ArgOrder) (t : ι) (m n : Nat) (r : Shared ι × Place) :
    runs order t (m + n) r = runs order t n (runs order t m r) := by
  induction m generalizing r with
  | zero => rw [Nat.zero_add, runs]
  | succ m ih => rw [Nat.succ_add, runs, runs, ih]

omit [DecidableEq ι] in
/-- `do_write` with the lock free. -/
theorem runs_exchange (order : ArgOrder) (t : ι) (s : Shared ι) (hfree : s.writeLock = false) :
    ∃ n, runs order t n (s, .exchange) = ({ s with ch := startWrite order s.ch }, .idle) := by
  cases hw : s.ch.writing with
  | true => exact ⟨1, by simp [runs, Place.run, startWrite, hw]⟩
  | false =>
    refine ⟨5, ?_⟩
    cases hb : makeBatch s.ch.writeQueue with
    | none => simp [runs, Place.run, startWrite, doWrite, hw, hfree, hb]
    | some b => simp [runs, Place.run, startWrite, doWrite, hw, hfree, hb]

omit [DecidableEq ι] in
/-- A call of `send` without interruption. -/
theorem runs_send (order : ArgOrder) (t : ι) (s : Shared ι) (hfree : s.writeLock = false)
    (a : SendArgs) :
    ∃ n, runs order t n (s, .send a)
      = ({ s with
          ch := (s.ch.send order a.data a.size).1
          accepted := s.accepted ++ if s.ch.accepts a then [(t, a.buffer)] else [] }, .idle) := by
  rcases send_cases order s.ch a with ⟨hacc, hskip, heq⟩ | ⟨hacc, hopen, hpos, hfull, heq⟩ |
    ⟨hacc, hopen, hne, hle, heq⟩
  · exact ⟨1, by simp [runs, Place.run, hskip, heq, hacc]⟩
  · have hne : a.buffer ≠ [] := by
      intro hnil
      have := a.length_buffer
      rw [hnil, List.length_nil] at this
      omega
    refine ⟨6, ?_⟩
    simp [runs, Place.run, hopen, Int.not_le.mpr hpos, hne, hfree, hfull, heq, hacc]
  · have hpos : 0 < a.size.toInt := by
      have := a.length_buffer
      have := List.length_pos_of_ne_nil hne
      omega
    -- up to the `compare_exchange` the thread queues the message
    have hqueue : runs order t 6 (s, .send a)
        = ({ s with
            ch := s.ch.enqueued a.buffer, accepted := s.accepted ++ [(t, a.buffer)] },
          .exchange) := by
      simp [runs, Place.run, hopen, Int.not_le.mpr hpos, hne, hfree, Nat.not_lt.mpr hle, enqueued]
    obtain ⟨n, hn⟩ := runs_exchange order t
      { s with ch := s.ch.enqueued a.buffer, accepted := s.accepted ++ [(t, a.buffer)] } hfree
    refine ⟨6 + n, ?_⟩
    rw [runs_add, hqueue, hn, heq, if_pos hacc]

omit [DecidableEq ι] in
/-- The completion handler without interruption. -/
theorem runs_written (order : ArgOrder) (t : ι) (s : Shared ι) (hfree : s.writeLock = false)
    {op : WriteOp} (hop : s.ch.writes[s.ch.writesDone]? = some op) (now : Nat) :
    ∃ n, runs order t n
        ({ s with ch := { s.ch with writesDone := s.ch.writesDone + 1 } }, .written op now)
      = ({ s with ch := s.ch.writeDone order now }, .idle) := by
  have hlook : runs order t 3
      ({ s with ch := { s.ch with writesDone := s.ch.writesDone + 1 } }, .written op now)
        = ({ s with ch := s.ch.settled op now }, .look) := by
    simp [runs, Place.run, settled]
  rcases writeDone_cases order s.ch now with ⟨hnone, -⟩ | ⟨op', hop', hcase⟩
  · rw [hop] at hnone
    cases hnone
  · obtain rfl := Option.some.inj (hop.symm.trans hop')
    rcases hcase with ⟨hq, heq⟩ | ⟨hq, heq⟩
    · refine ⟨3 + 1, ?_⟩
      rw [runs_add, hlook, heq]
      simp [runs, Place.run, settled, hq]
    · obtain ⟨n, hn⟩ := runs_exchange order t { s with ch := s.ch.settled op now } hfree
      refine ⟨3 + (1 + n), ?_⟩
      rw [runs_add, hlook, runs_add, heq, ← hn]
      simp [runs, Place.run, settled, hq]

/-- **One thread does what the model of the io thread does**: if thread `t` runs a call or a
completion to its end while the others stand still, the channel has made one step of
`SendQueue`. -/
theorem alone_refines (order : ArgOrder) (hidle : s.place t = .idle) (hfree : s.writeLock = false)
    (e : SendEvent) :
    ∃ (es : List (ThreadEvent ι)) (s' : Threads ι), es.foldl (apply order) s = s' ∧
      s'.place = s.place ∧ s'.writeLock = false ∧
      sendStep order ⟨s.ch, s.accepted.map Prod.snd⟩ e
        = ⟨s'.ch, s'.accepted.map Prod.snd⟩ := by
  cases e with
  | send a =>
    obtain ⟨n, hn⟩ := runs_send order t s.toShared hfree a
    refine ⟨.send t a :: steps t n, _, rfl, ?_⟩
    have hbegin : s.apply order (.send t a) = s.moved t s.toShared (.send a) := by
      rw [apply, hidle]
      rfl
    rw [List.foldl_cons, hbegin, foldl_steps, hn, moved_idle hidle]
    refine ⟨rfl, hfree, ?_⟩
    cases hacc : s.ch.accepts a <;> simp [sendStep, hacc]
  | written now =>
    cases hop : s.ch.writes[s.ch.writesDone]? with
    | none => exact ⟨[], s, rfl, rfl, hfree, by simp [sendStep, writeDone, hop]⟩
    | some op =>
      obtain ⟨n, hn⟩ := runs_written order t s.toShared hfree hop now
      refine ⟨.written t now :: steps t n, _, rfl, ?_⟩
      have hbegin : s.apply order (.written t now)
          = s.moved t { s.toShared with
              ch := { s.ch with writesDone := s.ch.writesDone + 1 } } (.written op now) := by
        rw [apply, complete, hidle, hop]
        rfl
      rw [List.foldl_cons, hbegin, foldl_steps, hn, moved_idle hidle]
      exact ⟨rfl, hfree, rfl⟩

end Threads

end EcsAsioServer.AsioChannel
