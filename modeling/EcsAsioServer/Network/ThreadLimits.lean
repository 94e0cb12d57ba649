import EcsAsioServer.Network.Threads

/-!
# What several threads can do to the queue of a channel

`current_queue_bytes` is loaded, compared with the limit and stored under `write_lock_`, but
the completion handler subtracts from it outside: a `fetch_sub` between the load and the store
of another thread is overwritten. The counter is then too high, never too low (`Counted`), so
the limit on what a channel holds stands for any number of threads (`threads_bytes_le`).

`do_write` that finds no batch clears `writing_` in a step of its own. A message that comes
into the queue before that step, and whose sender therefore leaves the writing to others, is
written by nobody: it waits until the next `send`. This is the only way in which a message is
left behind (`drained_of_clear`).
-/

namespace EcsAsioServer.AsioChannel

open Flag Function Transition

variable {ι : Type}

/-! ## The limit on the bytes -/

/-- The bytes that a thread has taken off the queue, or been handed back, and that
`fetch_sub` has not subtracted. -/
def Place.carried : Place → Nat
  | .unlockBatch (some b) | .launch b => b.out.length
  | .written op _ => op.buffer.length
  | _ => 0

/-- The bytes in the queue. -/
def queuedBytes (ch : AsioChannel) : Nat := (ch.writeQueue.map List.length).sum

/-- The bytes of the write in progress. -/
def writtenBytes (ch : AsioChannel) : Nat :=
  ((ch.writes.drop ch.writesDone).map fun op => op.buffer.length).sum

/-- What an access does to the bytes; only `fetch_sub` runs outside of a section. -/
theorem run_bytes {order : ArgOrder} {t : ι} {s s' : Shared ι} {p p' : Place}
    (h : p.run order t s = (s', p')) :
    (s'.ch.writeQueue = s.ch.writeQueue ∧ s'.ch.currentQueueBytes = s.ch.currentQueueBytes ∧
      s'.ch.writes = s.ch.writes ∧ p'.carried ≤ p.carried ∧
      (∀ buffer cur, p ≠ .store buffer cur) ∧ (∀ buffer cur, p' ≠ .emplace buffer cur) ∧
      (∀ buffer cur, p' ≠ .store buffer cur) ∧ ∀ op now, p' ≠ .written op now) ∨
    (∃ buffer, p = .load buffer ∧ p' = .emplace buffer s.ch.currentQueueBytes ∧ s' = s ∧
      s.ch.currentQueueBytes + buffer.length ≤ maxQueueBytes) ∨
    (∃ buffer cur, p = .emplace buffer cur ∧ p' = .store buffer cur ∧
      s'.ch.writeQueue = s.ch.writeQueue ++ [buffer] ∧
      s'.ch.currentQueueBytes = s.ch.currentQueueBytes ∧ s'.ch.writes = s.ch.writes) ∨
    (∃ buffer cur, p = .store buffer cur ∧ p' = .unlock true ∧
      s'.ch.writeQueue = s.ch.writeQueue ∧ s'.ch.currentQueueBytes = cur + buffer.length ∧
      s'.ch.writes = s.ch.writes) ∨
    (∃ b, p = .batch ∧ p' = .unlockBatch (some b) ∧ makeBatch s.ch.writeQueue = some b ∧
      s'.ch.writeQueue = b.queue ∧ s'.ch.currentQueueBytes = s.ch.currentQueueBytes ∧
      s'.ch.writes = s.ch.writes) ∨
    (∃ b, p = .launch b ∧ p' = .idle ∧ s'.ch.writeQueue = s.ch.writeQueue ∧
      s'.ch.currentQueueBytes = s.ch.currentQueueBytes ∧
      s'.ch.writes = s.ch.writes ++ [⟨(writeArgs order b.out).1, b.out, b.outMsgs⟩]) ∨
    (∃ op now, p = .written op now ∧ p' = .count op now ∧
      s'.ch.writeQueue = s.ch.writeQueue ∧
      s'.ch.currentQueueBytes = subSize s.ch.currentQueueBytes op.view.length ∧
      s'.ch.writes = s.ch.writes) := by
  obtain ⟨rfl, rfl⟩ := Prod.ext_iff.mp h
  fun_cases Place.run order t s p <;> simp_all [Place.carried]
  case case8 buffer cur hle => exact ⟨rfl, hle⟩
  case case24 b view captured hargs =>
    simpa [hargs] using writeArgs_snd order b.out

namespace Threads

/-- At most `n` bytes are off the queue and not subtracted from the counter. -/
def InFlight (s : Threads ι) (n : Nat) : Prop :=
  (∀ t, (s.place t).carried ≤ n) ∧ s.ch.writtenBytes ≤ n

/-- With `n` bytes in flight the counter is at least as high as the bytes that are held, but
for a message whose size is about to be stored; and so is the value that a thread stores. -/
structure Counted (s : Threads ι) (n : Nat) : Prop where
  held : s.ch.queuedBytes + n ≤ s.ch.currentQueueBytes ∨
    ∃ t buffer cur, s.place t = .store buffer cur ∧
      s.ch.queuedBytes + n ≤ s.ch.currentQueueBytes + buffer.length
  current_le : s.ch.currentQueueBytes ≤ maxQueueBytes
  emplace : ∀ t buffer cur, s.place t = .emplace buffer cur →
    s.ch.queuedBytes + n ≤ cur ∧ cur + buffer.length ≤ maxQueueBytes
  store : ∀ t buffer cur, s.place t = .store buffer cur →
    s.ch.queuedBytes + n ≤ cur + buffer.length ∧ cur + buffer.length ≤ maxQueueBytes ∧
      buffer.length ≤ s.ch.queuedBytes
  views : ∀ op ∈ s.ch.writes, op.view.length ≤ op.buffer.length
  written : ∀ t op now, s.place t = .written op now → op.view.length ≤ op.buffer.length

/-- While a thread is in the section of the lock, no other one is about to queue a message. -/
theorem Exclusive.alone {s : Threads ι} (h : s.Exclusive) {t u : ι}
    (ht : (s.place t).locks = true) (hu : u ≠ t) (buffer : List UInt8) (cur : Nat) :
    s.place u ≠ .emplace buffer cur ∧ s.place u ≠ .store buffer cur := by
  obtain ⟨locker, hlock⟩ := h.lock
  have hout : ¬ (s.place u).locks = true := fun hlocks => hu (hlock.unique hlocks ht)
  constructor
  · intro hp
    exact hout (by rw [hp]; rfl)
  · intro hp
    exact hout (by rw [hp]; rfl)

theorem carried_of_not_writes {p : Place} (h : p.writes = false) : p.carried = 0 := by
  cases p <;> simp_all [Place.carried, Place.writes]

/-- While a thread has the right to write, no other one carries anything. -/
theorem Exclusive.carries {s : Threads ι} (h : s.Exclusive) {t : ι}
    (ht : (s.place t).writes = true) :
    (∀ u, u ≠ t → (s.place u).carried = 0) ∧ s.ch.writes.length = s.ch.writesDone := by
  obtain ⟨writer, hwriting⟩ := h.writing
  have ht' : s.Writes (.thread t) := ht
  constructor
  · intro u hu
    refine carried_of_not_writes (Bool.eq_false_iff.mpr fun hw => hu ?_)
    have hu' : s.Writes (.thread u) := hw
    exact Writer.thread.inj (hwriting.unique hu' ht')
  · refine Nat.le_antisymm (Nat.le_of_not_lt fun hlt => ?_) h.done_le
    have hsocket : s.Writes .socket := hlt
    cases hwriting.unique hsocket ht'

section Bytes

variable [DecidableEq ι] {s : Threads ι} {t : ι} {s' : Shared ι} {p' : Place} {n : Nat}

theorem InFlight.moved (h : s.InFlight n) (hp : p'.carried ≤ n)
    (hw : s'.ch.writtenBytes ≤ n) : (s.moved t s' p').InFlight n := by
  refine ⟨fun u => ?_, hw⟩
  rw [place_moved]
  split
  · exact hp
  · exact h.1 u

/-- Only the thread `t` carries something. -/
theorem InFlight.only (hex : s.Exclusive) (ht : (s.place t).writes = true) (hp : p'.carried ≤ n)
    (hw : s'.ch.writes = s.ch.writes) (hd : s'.ch.writesDone = s.ch.writesDone) :
    (s.moved t s' p').InFlight n := by
  obtain ⟨hother, hlen⟩ := hex.carries ht
  refine ⟨fun u => ?_, ?_⟩
  · rw [place_moved]
    split
    · exact hp
    · next hu =>
      rw [hother u hu]
      exact Nat.zero_le n
  · show s'.ch.writtenBytes ≤ n
    rw [writtenBytes, hw, hd, ← hlen, List.drop_length]
    exact Nat.zero_le n

/-- The thread is not about to queue a message, before or after. -/
theorem Counted.moved (h : s.Counted n) (hq : s'.ch.writeQueue = s.ch.writeQueue)
    (hc : s'.ch.currentQueueBytes = s.ch.currentQueueBytes)
    (hviews : ∀ op ∈ s'.ch.writes, op.view.length ≤ op.buffer.length)
    (hp : ∀ buffer cur, s.place t ≠ .store buffer cur)
    (hemplace : ∀ buffer cur, p' ≠ .emplace buffer cur)
    (hstore : ∀ buffer cur, p' ≠ .store buffer cur)
    (hwritten : ∀ op now, p' = .written op now → op.view.length ≤ op.buffer.length) :
    (s.moved t s' p').Counted n := by
  have hbytes : s'.ch.queuedBytes = s.ch.queuedBytes := by rw [queuedBytes, hq]; rfl
  refine ⟨?_, hc ▸ h.current_le, ?_, ?_, hviews, ?_⟩
  · show s'.ch.queuedBytes + n ≤ s'.ch.currentQueueBytes ∨ _
    rw [hbytes, hc]
    refine h.held.imp_right ?_
    rintro ⟨u, buffer, cur, hu, hle⟩
    refine ⟨u, buffer, cur, ?_, ?_⟩
    · rw [place_moved, if_neg (fun heq : u = t => hp buffer cur (heq ▸ hu))]
      exact hu
    · show s'.ch.queuedBytes + n ≤ s'.ch.currentQueueBytes + buffer.length
      rwa [hbytes, hc]
  · intro u buffer cur hu
    show s'.ch.queuedBytes + n ≤ cur ∧ _
    rw [place_moved] at hu
    split at hu
    · exact absurd hu (hemplace buffer cur)
    · rw [hbytes]
      exact h.emplace u buffer cur hu
  · intro u buffer cur hu
    show s'.ch.queuedBytes + n ≤ _ ∧ _ ∧ _ ≤ s'.ch.queuedBytes
    rw [place_moved] at hu
    split at hu
    · exact absurd hu (hstore buffer cur)
    · rw [hbytes]
      exact h.store u buffer cur hu
  · intro u op now hu
    rw [place_moved] at hu
    split at hu
    · exact hwritten op now hu
    · exact h.written u op now hu

/-- A thread in the section of the lock changes the queue or the counter. -/
theorem Counted.locked (h : s.Counted n) (hex : s.Exclusive) (ht : (s.place t).locks = true)
    {m : Nat} (hheld : s'.ch.queuedBytes + m ≤ s'.ch.currentQueueBytes ∨
      ∃ buffer cur, p' = .store buffer cur ∧
        s'.ch.queuedBytes + m ≤ s'.ch.currentQueueBytes + buffer.length)
    (hle : s'.ch.currentQueueBytes ≤ maxQueueBytes) (hw : s'.ch.writes = s.ch.writes)
    (hemplace : ∀ buffer cur, p' = .emplace buffer cur →
      s'.ch.queuedBytes + m ≤ cur ∧ cur + buffer.length ≤ maxQueueBytes)
    (hstore : ∀ buffer cur, p' = .store buffer cur →
      s'.ch.queuedBytes + m ≤ cur + buffer.length ∧ cur + buffer.length ≤ maxQueueBytes ∧
        buffer.length ≤ s'.ch.queuedBytes)
    (hwritten : ∀ op now, p' ≠ .written op now) : (s.moved t s' p').Counted m := by
  refine ⟨?_, hle, ?_, ?_, ?_, ?_⟩
  · refine hheld.imp_right ?_
    rintro ⟨buffer, cur, hp, hle'⟩
    exact ⟨t, buffer, cur, by rw [place_moved, if_pos rfl, hp], hle'⟩
  · intro u buffer cur hu
    rw [place_moved] at hu
    split at hu
    · exact hemplace buffer cur hu
    · next hut => exact absurd hu (hex.alone ht hut buffer cur).1
  · intro u buffer cur hu
    rw [place_moved] at hu
    split at hu
    · exact hstore buffer cur hu
    · next hut => exact absurd hu (hex.alone ht hut buffer cur).2
  · show ∀ op ∈ s'.ch.writes, _
    rw [hw]
    exact h.views
  · intro u op now hu
    rw [place_moved] at hu
    split at hu
    · exact absurd hu (hwritten op now)
    · exact h.written u op now hu

/-- No thread is about to store a size while another is in the section of the lock. -/
theorem Counted.held_locked (h : s.Counted n) (hex : s.Exclusive)
    (ht : (s.place t).locks = true) (hp : ∀ buffer cur, s.place t ≠ .store buffer cur) :
    s.ch.queuedBytes + n ≤ s.ch.currentQueueBytes := by
  refine h.held.resolve_right ?_
  rintro ⟨u, buffer, cur, hu, -⟩
  by_cases hut : u = t
  · exact hp buffer cur (hut ▸ hu)
  · exact (hex.alone ht hut buffer cur).2 hu

/-- `fetch_sub` takes at most what the thread carried off the counter, which is not too low
for it, and leaves nothing in flight. -/
theorem Counted.subtract (h : s.Counted n) {op : WriteOp} {now : Nat}
    (hp : s.place t = .written op now) (hcar : op.buffer.length ≤ n)
    (hq : s'.ch.writeQueue = s.ch.writeQueue) (hw : s'.ch.writes = s.ch.writes)
    (hc : s'.ch.currentQueueBytes = subSize s.ch.currentQueueBytes op.view.length) :
    (s.moved t s' (.count op now)).Counted 0 := by
  have hview := h.written t op now hp
  have hqueue : s'.ch.queuedBytes = s.ch.queuedBytes := by
    rw [queuedBytes, hq]
    rfl
  have hsub : s'.ch.currentQueueBytes + op.view.length = s.ch.currentQueueBytes := by
    have hle : op.view.length ≤ s.ch.currentQueueBytes := by
      rcases h.held with hheld | ⟨u, buffer, cur, hu, hheld⟩
      · omega
      · -- the message whose size is not stored yet is in the queue
        have := (h.store u buffer cur hu).2.2
        omega
    rw [hc, subSize, if_pos hle]
    omega
  have hle := h.current_le
  have hother : ∀ {u p}, (s.moved t s' (.count op now)).place u = p →
      p ≠ .count op now → s.place u = p := by
    intro u p hu hne
    rw [place_moved] at hu
    split at hu
    · exact absurd hu.symm hne
    · exact hu
  refine ⟨?_, ?_, ?_, ?_, ?_, ?_⟩
  · show s'.ch.queuedBytes + 0 ≤ s'.ch.currentQueueBytes ∨ _
    rcases h.held with hheld | ⟨u, buffer, cur, hu, hheld⟩
    · refine .inl ?_
      omega
    · refine .inr ⟨u, buffer, cur, ?_, ?_⟩
      · rw [place_moved, if_neg (fun heq : u = t => by rw [heq, hp] at hu; cases hu)]
        exact hu
      · show s'.ch.queuedBytes + 0 ≤ s'.ch.currentQueueBytes + buffer.length
        omega
  · show s'.ch.currentQueueBytes ≤ maxQueueBytes
    omega
  · intro u buffer cur hu
    have := h.emplace u buffer cur (hother hu (by simp))
    show s'.ch.queuedBytes + 0 ≤ cur ∧ _
    omega
  · intro u buffer cur hu
    have := h.store u buffer cur (hother hu (by simp))
    show s'.ch.queuedBytes + 0 ≤ _ ∧ _ ∧ _ ≤ s'.ch.queuedBytes
    omega
  · show ∀ op ∈ s'.ch.writes, _
    rw [hw]
    exact h.views
  · intro u op' now' hu
    exact h.written u op' now' (hother hu (by simp))

/-- One step of a thread: the counter moves with the bytes. -/
theorem Counted.run {order : ArgOrder} (h : s.Counted n) (hfl : s.InFlight n)
    (hex : s.Exclusive) (hrun : (s.place t).run order t s.toShared = (s', p')) :
    ∃ m, (s.moved t s' p').InFlight m ∧ (s.moved t s' p').Counted m := by
  have hd : s'.ch.writesDone = s.ch.writesDone := (run_writing hrun).1.1
  have hbytes : ∀ {q}, s'.ch.writeQueue = q → s'.ch.queuedBytes = (q.map List.length).sum := by
    rintro q rfl
    rfl
  have hsame : s'.ch.writes = s.ch.writes → s'.ch.writtenBytes = s.ch.writtenBytes := by
    intro hw
    rw [writtenBytes, hw, hd]
    rfl
  rcases run_bytes hrun with ⟨hq, hc, hw, hcar, hp, hem, hst, hwr⟩ | ⟨buffer, hp, rfl, rfl, hle⟩ |
    ⟨buffer, cur, hp, rfl, hq, hc, hw⟩ | ⟨buffer, cur, hp, rfl, hq, hc, hw⟩ |
    ⟨b, hp, rfl, hb, hq, hc, hw⟩ | ⟨b, hp, rfl, hq, hc, hw⟩ | ⟨op, now, hp, rfl, hq, hc, hw⟩
  · refine ⟨n, hfl.moved (hcar.trans (hfl.1 t)) (hsame hw ▸ hfl.2), ?_⟩
    exact h.moved hq hc (hw ▸ h.views) hp hem hst fun op now heq => absurd heq (hwr op now)
  · -- the value that is loaded counts everything, since nobody else is in the section
    have hlocks : (s.place t).locks = true := by rw [hp]; rfl
    have hheld := h.held_locked hex hlocks (by simp [hp])
    refine ⟨n, hfl.moved (Nat.zero_le n) hfl.2, h.locked hex hlocks (.inl hheld) h.current_le rfl
      ?_ (by simp) (by simp)⟩
    intro buffer' cur' heq
    obtain ⟨rfl, rfl⟩ := Place.emplace.inj heq
    exact ⟨hheld, hle⟩
  · have hlocks : (s.place t).locks = true := by rw [hp]; rfl
    have hheld := h.held_locked hex hlocks (by simp [hp])
    obtain ⟨hem, hmax⟩ := h.emplace t buffer cur hp
    have hqueue : s'.ch.queuedBytes = s.ch.queuedBytes + buffer.length := by
      rw [hbytes hq, List.map_append, List.sum_append]
      rfl
    refine ⟨n, hfl.moved (Nat.zero_le n) (hsame hw ▸ hfl.2), h.locked hex hlocks
      (.inr ⟨buffer, cur, rfl, ?_⟩) (hc ▸ h.current_le) hw (by simp) ?_ (by simp)⟩
    · omega
    · intro buffer' cur' heq
      obtain ⟨rfl, rfl⟩ := Place.store.inj heq
      omega
  · have hlocks : (s.place t).locks = true := by rw [hp]; rfl
    obtain ⟨hst, hmax, -⟩ := h.store t buffer cur hp
    have hqueue : s'.ch.queuedBytes = s.ch.queuedBytes := hbytes hq
    refine ⟨n, hfl.moved (Nat.zero_le n) (hsame hw ▸ hfl.2), h.locked hex hlocks
      (.inl ?_) (hc ▸ hmax) hw (by simp) (by simp) (by simp)⟩
    omega
  · -- what was queued is in the batch now
    have hlocks : (s.place t).locks = true := by rw [hp]; rfl
    have hwrites : (s.place t).writes = true := by rw [hp]; rfl
    have hheld := h.held_locked hex hlocks (by simp [hp])
    obtain ⟨taken, -, hcut, hout, -⟩ := makeBatch_some hb
    have hqueue : s.ch.queuedBytes = b.out.length + s'.ch.queuedBytes := by
      rw [hbytes hq, queuedBytes, hcut, List.map_append, List.sum_append, hout,
        List.length_flatten]
    refine ⟨b.out.length, .only hex hwrites (Nat.le_refl _) hw hd, h.locked hex hlocks
      (.inl ?_) (hc ▸ h.current_le) hw (by simp) (by simp) (by simp)⟩
    omega
  · have hwrites : (s.place t).writes = true := by rw [hp]; rfl
    have hlen := (hex.carries hwrites).2
    have hcar := hfl.1 t
    rw [hp] at hcar
    refine ⟨n, hfl.moved (Nat.zero_le n) ?_, h.moved hq hc ?_ (by simp [hp]) (by simp) (by simp)
      (by simp)⟩
    · rw [writtenBytes, hw, hd, ← hlen, List.drop_left]
      simpa [Place.carried] using hcar
    · rw [hw]
      refine List.forall_mem_append.mpr ⟨h.views, List.forall_mem_singleton.mpr ?_⟩
      cases order
      · exact Nat.le_refl _
      · exact Nat.zero_le _
  · have hwrites : (s.place t).writes = true := by rw [hp]; rfl
    have hcar : op.buffer.length ≤ n := by
      have := hfl.1 t
      rwa [hp] at this
    exact ⟨0, .only hex hwrites (Nat.le_refl _) hw hd, h.subtract hp hcar hq hw hc⟩

/-- The bytes of the write that completes are among those in flight. -/
theorem writtenBytes_of_getElem? {ch : AsioChannel} {op : WriteOp}
    (hop : ch.writes[ch.writesDone]? = some op) :
    ch.writtenBytes = op.buffer.length
      + ((ch.writes.drop (ch.writesDone + 1)).map fun op => op.buffer.length).sum := by
  obtain ⟨hlt, rfl⟩ := List.getElem?_eq_some_iff.mp hop
  rw [writtenBytes, List.drop_eq_getElem_cons hlt, List.map_cons, List.sum_cons]

/-- A call begins. -/
theorem Counted.begin {e : ThreadEvent ι} (h : s.Counted n) (hfl : s.InFlight n)
    (hidle : s.place t = .idle) (hbegin : Begins s.toShared t e s' p') :
    (s.moved t s' p').InFlight n ∧ (s.moved t s' p').Counted n := by
  cases hbegin with
  | send a =>
    exact ⟨hfl.moved (Nat.zero_le n) hfl.2, h.moved rfl rfl h.views (by simp [hidle]) (by simp)
      (by simp) (by simp)⟩
  | @written op now hop =>
    have hbytes := writtenBytes_of_getElem? hop
    have hfly := hfl.2
    refine ⟨hfl.moved ?_ ?_, h.moved rfl rfl h.views (by simp [hidle]) (by simp) (by simp) ?_⟩
    · exact (Nat.le_add_right ..).trans (hbytes.symm.le.trans hfly)
    · exact (Nat.le_add_left ..).trans (hbytes.symm.le.trans hfly)
    · intro op' now' heq
      obtain ⟨rfl, -⟩ := Place.written.inj heq
      exact h.views op (List.mem_of_getElem? hop)
  | @failed op hop =>
    have hbytes := writtenBytes_of_getElem? hop
    refine ⟨hfl.moved (Nat.zero_le n) ?_, h.moved rfl rfl h.views (by simp [hidle]) (by simp)
      (by simp) (by simp)⟩
    exact (Nat.le_add_left ..).trans (hbytes.symm.le.trans hfl.2)

omit [DecidableEq ι] in
theorem counted_init (id : Int32) (now : Nat) :
    (init id now : Threads ι).InFlight 0 ∧ (init id now : Threads ι).Counted 0 := by
  refine ⟨⟨fun t => Nat.le_refl 0, Nat.le_refl 0⟩, .inl (Nat.le_refl 0), Nat.zero_le _, ?_, ?_, ?_,
    ?_⟩
  · intro t buffer cur hp
    cases hp
  · intro t buffer cur hp
    cases hp
  · intro op hop
    cases hop
  · intro t op now hp
    cases hp

end Bytes

/-- **The limit holds for any number of threads**: the bytes of the queue and of the write in
progress are within the 256 KB of a channel, although `fetch_sub` runs outside the lock; and
but for a message that is being queued, `current_queue_bytes` is not below them. -/
theorem threads_bytes_le [DecidableEq ι] (order : ArgOrder) (id : Int32) (now : Nat)
    (es : List (ThreadEvent ι)) :
    (after order id now es).ch.queuedBytes + (after order id now es).ch.writtenBytes
      ≤ maxQueueBytes ∧
    (after order id now es).ch.currentQueueBytes ≤ maxQueueBytes ∧
    ((∀ t buffer cur, (after order id now es).place t ≠ .store buffer cur) →
      (after order id now es).ch.queuedBytes + (after order id now es).ch.writtenBytes
        ≤ (after order id now es).ch.currentQueueBytes) := by
  obtain ⟨n, hfl, h⟩ :=
    after_keeps (I := fun s _ => ∃ n, s.InFlight n ∧ s.Counted n) order ⟨0, counted_init id now⟩
      (fun s es e h => h)
      (fun s es t e s' p' _ ⟨n, hfl, h⟩ hidle hb => ⟨n, h.begin hfl hidle hb⟩)
      (fun s es t s' p' hex ⟨n, hfl, h⟩ hr => h.run hfl hex hr) es
  have hfly := hfl.2
  have hle := h.current_le
  refine ⟨?_, hle, fun hnone => ?_⟩
  · rcases h.held with hheld | ⟨t, buffer, cur, ht, -⟩
    · omega
    · have := h.store t buffer cur ht
      omega
  · rcases h.held with hheld | ⟨t, buffer, cur, ht, -⟩
    · omega
    · exact absurd ht (hnone t buffer cur)

/-! ## Messages left behind -/

end Threads

/-- On the way to try for the right to write. -/
def Place.heads : Place → Bool
  | .store _ _ | .unlock true | .exchange | .look => true
  | _ => false

/-- The thread is about to clear the queue. -/
def Place.clears : Place → Bool
  | .clear => true
  | _ => false

/-- After an access other than that of `do_write` without a batch, a message in the queue has
somebody writing or about to try, or the access had nothing to do with it. -/
theorem run_heads {order : ArgOrder} {t : ι} {s s' : Shared ι} {p p' : Place}
    (h : p.run order t s = (s', p')) (hclear : p.clears = false) (hq : s'.ch.writeQueue ≠ []) :
    s'.ch.writing = true ∨ p'.heads = true ∨
      (s.ch.writeQueue ≠ [] ∧ s'.ch.writing = s.ch.writing ∧ p.heads = false) := by
  obtain ⟨rfl, rfl⟩ := Prod.ext_iff.mp h
  clear h
  revert hq
  fun_cases Place.run order t s p
  case case20 b hb =>
    obtain ⟨taken, hne, hcut, -⟩ := makeBatch_some hb
    refine fun _ => .inr (.inr ⟨?_, rfl, rfl⟩)
    rw [hcut]
    exact List.append_ne_nil_of_left_ne_nil hne _
  all_goals simp_all [Place.heads, Place.clears]

namespace Threads

variable [DecidableEq ι]

/-- If `do_write` clears `writing_`, nothing is in the queue. -/
def ClearsEmpty (s : Threads ι) : ThreadEvent ι → Prop
  | .step t => (s.place t).clears = true → s.ch.writeQueue = []
  | _ => True

/-- A message in the queue has somebody writing, or about to try. -/
def Awake (s : Threads ι) : Prop :=
  s.ch.writeQueue ≠ [] → s.ch.writing = true ∨ ∃ t, (s.place t).heads = true

variable {s : Threads ι}

theorem Awake.begin {t : ι} {e : ThreadEvent ι} {s' : Shared ι} {p' : Place} (h : s.Awake)
    (hidle : s.place t = .idle) (hbegin : Begins s.toShared t e s' p') :
    (s.moved t s' p').Awake := by
  have hkept : s'.ch.writeQueue = s.ch.writeQueue ∧ s'.ch.writing = s.ch.writing := by
    cases hbegin <;> exact ⟨rfl, rfl⟩
  intro hq
  change s'.ch.writeQueue ≠ [] at hq
  rw [hkept.1] at hq
  show s'.ch.writing = true ∨ _
  rw [hkept.2]
  refine (h hq).imp_right ?_
  rintro ⟨u, hu⟩
  refine ⟨u, ?_⟩
  rw [place_moved, if_neg]
  · exact hu
  · rintro rfl
    rw [hidle] at hu
    cases hu

theorem Awake.run {order : ArgOrder} {t : ι} {s' : Shared ι} {p' : Place} (h : s.Awake)
    (hclear : s.ClearsEmpty (.step t)) (hrun : (s.place t).run order t s.toShared = (s', p')) :
    (s.moved t s' p').Awake := by
  intro hq
  cases hc : (s.place t).clears with
  | true =>
    have hempty := hclear hc
    have hp : s.place t = .clear := by
      cases hp : s.place t <;> simp_all [Place.clears]
    rw [hp] at hrun
    cases hrun
    exact absurd hempty hq
  | false =>
    rcases run_heads hrun hc hq with hw | hp | ⟨hq', hw, hp⟩
    · exact .inl hw
    · exact .inr ⟨t, by rw [place_moved, if_pos rfl, hp]⟩
    · show s'.ch.writing = true ∨ _
      rw [hw]
      refine (h hq').imp_right ?_
      rintro ⟨u, hu⟩
      refine ⟨u, ?_⟩
      rw [place_moved, if_neg]
      · exact hu
      · rintro rfl
        rw [hp] at hu
        cases hu

theorem awake_of_clear (order : ArgOrder) {es : List (ThreadEvent ι)} (h : s.Awake)
    (hclear : Along (apply order) ClearsEmpty s es) :
    (es.foldl (apply order) s).Awake := by
  refine (Run.of_along hclear).invariant h ?_
  rintro s e t h ⟨hc, rfl⟩
  rcases apply_cases order s e with heq | ⟨u, s', p', heq, ⟨hidle, hb⟩ | ⟨rfl, hr⟩⟩
  · rw [heq]
    exact h
  · rw [heq]
    exact h.begin hidle hb
  · rw [heq]
    exact h.run hc hr

omit [DecidableEq ι] in
/-- On a channel at rest nobody has the right to write. -/
theorem Exclusive.at_rest (h : s.Exclusive) (hidle : ∀ t, s.place t = .idle)
    (hdone : s.ch.writesDone = s.ch.writes.length) (hok : s.broken = false) :
    s.ch.writing = false := by
  obtain ⟨writer, hwriting⟩ := h.writing
  cases writer with
  | none => exact hwriting.set_eq
  | some k =>
    have hk := (hwriting.inside_iff k).mpr rfl
    cases k with
    | thread t =>
      rw [Writes, hidle t] at hk
      cases hk
    | socket => exact absurd hk (Nat.not_lt.mpr hdone.ge)
    | failure =>
      rw [Writes, hok] at hk
      cases hk

instance (s : Threads ι) : DecidablePred s.ClearsEmpty
  | .step _ => inferInstanceAs (Decidable (_ → _))
  | .send _ _ => .isTrue trivial
  | .written _ _ => .isTrue trivial
  | .failed _ => .isTrue trivial

/-- The call that sends one byte. -/
def byteArgs (b : UInt8) : SendArgs := ⟨[b], 1, by simp⟩

/-- Thread `false` has queued its message when `true` writes it along with its own, so it finds
nothing to write. -/
def overtaken : List (ThreadEvent Bool) :=
  [[.send false (byteArgs 1)], steps false 6, [.send true (byteArgs 2)], steps true 11,
    [.written true 5], steps true 4, steps false 4].flatten

-- Thread `true` queues the other message before `writing_` is cleared.
example :
    let s := after .viewFirst 1 0
      (overtaken ++ .send true (byteArgs 3) :: steps true 7 ++ steps false 1)
    s.ch.writeQueue = [[3]] ∧ s.ch.writing = false ∧ s.ch.writesDone = s.ch.writes.length := by
  decide +kernel

end Threads

end EcsAsioServer.AsioChannel
