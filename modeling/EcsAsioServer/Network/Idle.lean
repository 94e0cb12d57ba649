import EcsAsioServer.Network.Callbacks

/-!
# The idle timer

`arm_idle_timer` is there to close a connection from which nothing has been received for
`idle_limit_`, 30 seconds. Its handler compares the time with `last_recv_ms`, and only `start`
sets this field: no read does. Here a channel runs against a clock.

- `chanStep_timer`: what any event does to the data of the timer;
- `timerOk_step`: the timer is armed once. By the time it expires 30 seconds have passed since
  `start`, so the handler never arms it again;
- `idle_timeouts_iff`: what this means for channels that are not idle. An expiry that finds
  the channel open closes it, whatever has been received.
-/

namespace EcsAsioServer.AsioChannel

open FrameCodec Incremental Transition

/-! ## A channel against the clock -/

/-- A channel with the time, and with what the timer is about. -/
structure TimedChannel where
  chan : ChannelState
  clock : Nat
  /-- The times at which bytes have been received. -/
  received : List Nat
  /-- When `idle_timer_` expires, while it is armed. -/
  idleTimer : Option Nat

/-- A channel whose `start` reads the clock at `now` and arms the timer `delay` later. -/
def begun (id : Int32) (now delay : Nat) : TimedChannel :=
  ⟨started id now, now + delay, [], some (now + delay + idleLimitMs)⟩

namespace TimedChannel

/-- Whether the event can happen at time `now`: a handler that looks at the clock sees this
time, and `idle_timer_` does not expire too early. -/
def Due (x : TimedChannel) (now : Nat) : ChannelEvent → Prop
  | .written t => t = now
  | .idleTimer t => t = now ∧ ∃ expiry ∈ x.idleTimer, expiry ≤ now
  | _ => True

/-- The times of the reads after the event. -/
def receivedAfter (x : TimedChannel) (now : Nat) : ChannelEvent → List Nat
  | .read .. => if x.chan.reading then now :: x.received else x.received
  | _ => x.received

/-- The timer after the event: its handler arms it again unless the channel is closed. -/
def idleTimerAfter (x : TimedChannel) (now : Nat) : ChannelEvent → Option Nat
  | .idleTimer _ =>
    if (idleExpired x.chan.ch now).1.closed then none else some (now + idleLimitMs)
  | _ => x.idleTimer

/-- The channel has been closed by the timer. -/
def TimedOut (s : ChannelState) : Prop := .onClose .timeout ∈ s.trace

instance (s : ChannelState) : Decidable (TimedOut s) :=
  inferInstanceAs (Decidable (_ ∈ _))

/-- **Idle**: no bytes have been received in the 30 seconds before `now`. -/
def Idle (x : TimedChannel) (now : Nat) : Prop := ∀ t ∈ x.received, t + idleLimitMs ≤ now

end TimedChannel

open TimedChannel

/-- An event, with its time. -/
def timedStep (order : ArgOrder) (x : TimedChannel) (e : Nat × ChannelEvent) : TimedChannel :=
  ⟨chanStep order x.chan e.2, e.1, x.receivedAfter e.1 e.2, x.idleTimerAfter e.1 e.2⟩

/-- The clock does not go back. -/
def TimedStep (order : ArgOrder) (x : TimedChannel) (e : Nat × ChannelEvent)
    (y : TimedChannel) : Prop :=
  x.clock ≤ e.1 ∧ x.Due e.1 e.2 ∧ timedStep order x e = y

/-! ## What the timer sees of an event -/

/-- A call that does not look at the idle timer. -/
structure Untimed (ch : AsioChannel) (r : AsioChannel × List Callback) : Prop where
  lastRecvMs : r.1.lastRecvMs = ch.lastRecvMs
  calls : .onClose .timeout ∉ r.2

theorem Untimed.refl (ch : AsioChannel) : Untimed ch (ch, []) := ⟨rfl, List.not_mem_nil⟩

theorem close_untimed (ch : AsioChannel) (reason : CloseFunction) (h : reason ≠ .timeout) :
    Untimed ch (close ch reason) := by
  unfold close
  split
  · exact .refl ch
  · exact ⟨rfl, by simp [h.symm]⟩

theorem startWrite_untimed (order : ArgOrder) (ch : AsioChannel) :
    Untimed ch (startWrite order ch, []) := by
  unfold startWrite
  split
  · exact .refl ch
  · rcases doWrite_cases order { ch with writing := true } with ⟨-, heq⟩ |
      ⟨taken, rest, -, -, -, -, heq⟩
    · rw [heq]
      exact ⟨rfl, List.not_mem_nil⟩
    · rw [heq]
      exact ⟨rfl, List.not_mem_nil⟩

theorem send_untimed (order : ArgOrder) (ch : AsioChannel) (a : SendArgs) :
    Untimed ch (ch.send order a.data a.size) := by
  rcases send_cases order ch a with ⟨-, -, heq⟩ | ⟨-, -, -, -, heq⟩ | ⟨-, -, -, -, heq⟩
  · rw [heq]
    exact .refl ch
  · rw [heq]
    obtain ⟨hrecv, hcalls⟩ := close_untimed
      { ch with drops := ch.drops + 1, forceCloses := ch.forceCloses + 1 } .forceClosed nofun
    exact ⟨hrecv, hcalls⟩
  · rw [heq]
    obtain ⟨hrecv, hcalls⟩ := startWrite_untimed order (ch.enqueued a.buffer)
    exact ⟨hrecv, hcalls⟩

theorem sendAll_untimed (order : ArgOrder) (ch : AsioChannel) (sends : List SendArgs) :
    Untimed ch (sendAll order ch sends) := by
  induction sends generalizing ch with
  | nil => exact .refl ch
  | cons a rest ih =>
    have hfirst := send_untimed order ch a
    have hrest := ih (ch.send order a.data a.size).1
    refine ⟨hrest.lastRecvMs.trans hfirst.lastRecvMs, ?_⟩
    intro hmem
    rcases List.mem_append.mp hmem with hmem | hmem
    · exact hfirst.calls hmem
    · exact hrest.calls hmem

theorem writeDone_untimed (order : ArgOrder) (ch : AsioChannel) (now : Nat) :
    Untimed ch (writeDone order ch now, []) := by
  rcases writeDone_cases order ch now with ⟨-, heq⟩ | ⟨op, -, ⟨-, heq⟩ | ⟨-, heq⟩⟩
  · rw [heq]
    exact .refl ch
  · rw [heq]
    exact ⟨rfl, List.not_mem_nil⟩
  · rw [heq]
    obtain ⟨hrecv, hcalls⟩ := startWrite_untimed order (ch.settled op now)
    exact ⟨hrecv, hcalls⟩

theorem writeFailed_untimed (ch : AsioChannel) : Untimed ch (writeFailed ch) := by
  unfold writeFailed
  split
  · exact .refl ch
  · obtain ⟨hrecv, hcalls⟩ :=
      close_untimed { ch with writesDone := ch.writesDone + 1 } .write nofun
    exact ⟨hrecv, hcalls⟩

theorem pingExpired_untimed (order : ArgOrder) (ch : AsioChannel) :
    Untimed ch (pingExpired order ch) := by
  unfold pingExpired
  split
  · exact .refl ch
  · exact send_untimed order ch pingArgs

/-- The frames of a read, with the replies of their handlers. -/
theorem foldl_deliver_untimed (order : ArgOrder) (ps : List Parsed) (ch : AsioChannel)
    (trace : List Callback) (replies : List (List SendArgs)) :
    let r := ps.foldl (deliver (replyTo order) countDrop) (ch, trace, replies)
    r.1.lastRecvMs = ch.lastRecvMs ∧
      (.onClose .timeout ∈ r.2.1 ↔ .onClose .timeout ∈ trace) := by
  induction ps generalizing ch trace replies with
  | nil => exact ⟨rfl, Iff.rfl⟩
  | cons p ps ih =>
    rw [List.foldl_cons]
    unfold deliver
    split
    · have hreplies := sendAll_untimed order ch (replies.headD [])
      obtain ⟨hrecv, htrace⟩ := ih (sendAll order ch (replies.headD [])).1
        (trace ++ .onFrame p.hdr.cmd p.payload :: (sendAll order ch (replies.headD [])).2)
        replies.tail
      refine ⟨hrecv.trans hreplies.lastRecvMs, htrace.trans (List.mem_append.trans ?_)⟩
      refine or_iff_left ?_
      intro hmem
      rcases List.mem_cons.mp hmem with hframe | hreply
      · cases hframe
      · exact hreplies.calls hreply
    · exact ih { ch with drops := ch.drops + 1 } trace replies

variable {ch : AsioChannel}

theorem readDone_untimed (order : ArgOrder) (hok : ch.BufferOk) (bytes : List UInt8)
    (trace : List Callback) (replies : List (List SendArgs)) :
    let r := readDone (replyTo order) ch bytes (trace, replies)
    r.1.lastRecvMs = ch.lastRecvMs ∧
      (.onClose .timeout ∈ r.2.1 ↔ .onClose .timeout ∈ trace) := by
  obtain ⟨acc, off, -, -, -, heq⟩ := readDone_spec (replyTo order) hok bytes (trace, replies)
  intro r
  have hr : r = _ := heq
  rw [hr]
  exact foldl_deliver_untimed order _ { ch with frameAcc := ch.frameAcc ++ bytes } trace replies

/-- The expiry at `now` closes the channel. -/
def Expires (ch : AsioChannel) (now : Nat) : Prop :=
  ch.closed = false ∧ idleLimitMs ≤ now - ch.lastRecvMs

theorem idleExpired_eq {now : Nat} (h : Expires ch now) :
    idleExpired ch now
      = ({ ch with closed := true }, [.onClose .timeout, .closeCallback .timeout]) := by
  rw [idleExpired, if_neg (by simp [h.1]), if_pos h.2, close, if_neg (by simp [h.1])]
  rfl

theorem idleExpired_eq_self {now : Nat} (h : ¬ Expires ch now) :
    idleExpired ch now = (ch, []) := by
  unfold idleExpired
  split
  · rfl
  · next hopen =>
    exact if_neg fun hlimit => h ⟨Bool.eq_false_iff.mpr hopen, hlimit⟩

/-- Only an expiry times the channel out, and nothing renews `last_recv_ms`. -/
theorem chanStep_timer (order : ArgOrder) {s : ChannelState} (hok : s.ch.BufferOk)
    (e : ChannelEvent) :
    (chanStep order s e).ch.lastRecvMs = s.ch.lastRecvMs ∧
      (TimedOut (chanStep order s e) ↔
        TimedOut s ∨ ∃ now, e = .idleTimer now ∧ Expires s.ch now) := by
  have hother : ∀ {r : AsioChannel × List Callback}, Untimed s.ch r →
      (∀ now, e ≠ .idleTimer now) → r.1.lastRecvMs = s.ch.lastRecvMs ∧
        (.onClose .timeout ∈ s.trace ++ r.2 ↔
          TimedOut s ∨ ∃ now, e = .idleTimer now ∧ Expires s.ch now) := by
    intro r hr he
    refine ⟨hr.lastRecvMs, ?_⟩
    simp [TimedOut, hr.calls, he]
  cases e with
  | read r replies =>
    rw [chanStep]
    split
    · obtain ⟨hrecv, htrace⟩ := readDone_untimed order hok r.bytes s.trace replies
      exact ⟨hrecv, htrace.trans (by simp [TimedOut])⟩
    · exact ⟨rfl, by simp⟩
  | readError =>
    rw [chanStep]
    split
    · exact hother (close_untimed s.ch .read (by simp)) (by simp)
    · exact ⟨rfl, by simp⟩
  | send a => exact hother (send_untimed order s.ch a) (by simp)
  | written now =>
    have h := hother (writeDone_untimed order s.ch now) (by simp)
    rw [List.append_nil] at h
    exact h
  | writeError => exact hother (writeFailed_untimed s.ch) (by simp)
  | pingTimer => exact hother (pingExpired_untimed order s.ch) (by simp)
  | idleTimer now =>
    by_cases hexp : Expires s.ch now
    · rw [chanStep, idleExpired_eq hexp]
      exact ⟨rfl, by simp [TimedOut, hexp]⟩
    · rw [chanStep, idleExpired_eq_self hexp]
      exact ⟨rfl, by simp [TimedOut, hexp]⟩

/-- An open channel has not been timed out. -/
theorem not_timedOut {s : ChannelState} (h : ChannelOk s) (hopen : s.ch.closed = false) :
    ¬ TimedOut s := by
  obtain ⟨late, calls, ⟨-, -, heq⟩ | ⟨reason, hclosed, -⟩⟩ := h.traced
  · unfold TimedOut
    rw [heq]
    simp [frameCall]
  · rw [hopen] at hclosed
    cases hclosed

/-! ## Along runs -/

/-- What holds between two events: when the timer expires, it will have been armed for
long enough. -/
structure TimerOk (x : TimedChannel) : Prop where
  chan : ChannelOk x.chan
  expiry : ∀ expiry ∈ x.idleTimer, x.chan.ch.lastRecvMs + idleLimitMs ≤ expiry

theorem timerOk_begun (id : Int32) (now delay : Nat) : TimerOk (begun id now delay) := by
  refine ⟨channelOk_started id now, ?_⟩
  rintro expiry ⟨⟩
  show now + idleLimitMs ≤ now + delay + idleLimitMs
  omega

section Step

variable {order : ArgOrder} {x y : TimedChannel} {e : Nat × ChannelEvent}

/-- An expiry that finds the channel open closes it. -/
theorem TimerOk.expires (h : TimerOk x) {now : Nat} (hdue : x.Due e.1 (.idleTimer now))
    (hopen : x.chan.ch.closed = false) : Expires x.chan.ch e.1 := by
  obtain ⟨-, expiry, harmed, hle⟩ := hdue
  have hlimit := h.expiry expiry harmed
  exact ⟨hopen, by omega⟩

/-- So the handler does not arm the timer again. -/
theorem TimerOk.not_rearmed (h : TimerOk x) {now : Nat} (hdue : x.Due e.1 (.idleTimer now)) :
    x.idleTimerAfter e.1 (.idleTimer now) = none := by
  have hclosed : (idleExpired x.chan.ch e.1).1.closed = true := by
    cases hopen : x.chan.ch.closed with
    | false => rw [idleExpired_eq (h.expires hdue hopen)]
    | true =>
      have hnot : ¬ Expires x.chan.ch e.1 := fun hexp => by simp [hexp.1] at hopen
      rw [idleExpired_eq_self hnot]
      exact hopen
  exact if_pos hclosed

theorem timerOk_step (h : TimerOk x) (hstep : TimedStep order x e y) : TimerOk y := by
  obtain ⟨-, hdue, rfl⟩ := hstep
  have hrecv := (chanStep_timer order h.chan.buffer e.2).1
  refine ⟨(chanStep_ok order h.chan e.2).1, ?_⟩
  intro expiry harmed
  have hbefore : expiry ∈ x.idleTimer := by
    obtain ⟨now, ev⟩ := e
    cases ev with
    | idleTimer t =>
      have hnone : x.idleTimerAfter now (.idleTimer t) = none := h.not_rearmed hdue
      rw [timedStep, hnone] at harmed
      cases harmed
    | read | readError | send | written | writeError | pingTimer => exact harmed
  show (chanStep order x.chan e.2).ch.lastRecvMs + idleLimitMs ≤ expiry
  rw [hrecv]
  exact h.expiry expiry hbefore

/-- The timer has closed the channel after an event exactly if it had before, or if this
is an expiry and the channel was open. -/
theorem timedOut_step (h : TimerOk x) (hstep : TimedStep order x e y) :
    TimedOut y.chan ↔
      TimedOut x.chan ∨ ∃ now, e.2 = .idleTimer now ∧ x.chan.ch.closed = false := by
  obtain ⟨-, hdue, rfl⟩ := hstep
  refine (chanStep_timer order h.chan.buffer e.2).2.trans (or_congr_right ?_)
  refine exists_congr fun now => and_congr_right fun he => ?_
  rw [he] at hdue
  have hnow : now = e.1 := hdue.1
  rw [hnow]
  exact ⟨And.left, h.expires hdue⟩

end Step

/-- An event after which the channel has been closed by the timer only if it was idle. -/
def TimesOutIdle (order : ArgOrder) (x : TimedChannel) (e : Nat × ChannelEvent)
    (y : TimedChannel) : Prop :=
  TimedStep order x e y ∧ (¬ TimedOut x.chan → TimedOut y.chan → x.Idle e.1)

/-- If the timer expires on an open channel, the channel is idle. -/
def ExpiresIdle (x : TimedChannel) (e : Nat × ChannelEvent) : Prop :=
  ∀ now, e.2 = .idleTimer now → x.chan.ch.closed = false → x.Idle e.1

/-- The channel keeps receiving: 29 seconds ago or later it was started or has received
bytes. -/
def Fed (start : Nat) (x : TimedChannel) (e : Nat × ChannelEvent) : Prop :=
  ∃ t ∈ start :: x.received, e.1 ≤ t + 29 * 1000

/-- The timer does not expire while the channel is open. -/
def NoExpiry (x : TimedChannel) (e : Nat × ChannelEvent) : Prop :=
  ∀ now, e.2 = .idleTimer now → x.chan.ch.closed = true

/-- **What the idle timer closes.** Along a run only idle channels are timed out exactly if
the timer finds the channel idle when it expires; and a channel that keeps receiving is
never timed out exactly if the timer never expires before the channel is closed. -/
theorem idle_timeouts_iff (order : ArgOrder) (id : Int32) (now delay : Nat)
    (es : List (Nat × ChannelEvent)) (y : TimedChannel) :
    (Run (TimesOutIdle order) (begun id now delay) es y ↔
      Run (guarded ExpiresIdle (TimedStep order)) (begun id now delay) es y) ∧
    (Run (staying (fun x => ¬ TimedOut x.chan) (guarded (Fed now) (TimedStep order)))
        (begun id now delay) es y ↔
      Run (guarded NoExpiry (guarded (Fed now) (TimedStep order))) (begun id now delay) es y) := by
  have hok := timerOk_begun id now delay
  constructor
  · refine Run.congr hok (fun _ _ _ h hst => timerOk_step h hst.1) ?_
    intro x e y hx
    unfold TimesOutIdle guarded ExpiresIdle
    rw [and_comm]
    refine and_congr_left fun hstep => ?_
    have hout := timedOut_step hx hstep
    constructor
    · intro hidle t he hopen
      exact hidle (not_timedOut hx.chan hopen) (hout.mpr (.inr ⟨t, he, hopen⟩))
    · intro hexp hbefore hafter
      rcases hout.mp hafter with hold | ⟨t, he, hopen⟩
      · exact absurd hold hbefore
      · exact hexp t he hopen
  · refine Run.staying_iff hok (not_timedOut hok.chan rfl) (fun _ _ _ h hst =>
      timerOk_step h hst.2) ?_
    intro x e y hx hbefore hstep
    rw [timedOut_step hx hstep.2]
    constructor
    · intro hnot t he
      exact Bool.of_not_eq_false fun hopen => hnot (.inr ⟨t, he, hopen⟩)
    · rintro hnone (hold | ⟨t, he, hopen⟩)
      · exact hbefore hold
      · rw [hnone t he] at hopen
        cases hopen

/-- Bytes arrive after 15 and after 29 seconds. One second later the timer closes the
channel. -/
theorem fed_channel_times_out :
    let r : Read := ⟨[0], by decide, by decide⟩
    let es := [(15000, .read r []), (29000, .read r []), (30000, .idleTimer 30000)]
    let t := es.foldl (timedStep .viewFirst) (begun 7 0 0)
    Run (guarded (Fed 0) (TimedStep .viewFirst)) (begun 7 0 0) es t ∧
    t.chan.trace = [.onAccept, .onClose .timeout, .closeCallback .timeout] ∧
    t.received = [29000, 15000] ∧ ¬ t.Idle 30000 := by
  intro r es t
  let x₁ := timedStep .viewFirst (begun 7 0 0) (15000, .read r [])
  let x₂ := timedStep .viewFirst x₁ (29000, .read r [])
  have hreceived₁ : x₁.received = [15000] := rfl
  have hreceived₂ : x₂.received = [29000, 15000] := rfl
  have htimer : x₂.idleTimer = some 30000 := rfl
  have hfirst : guarded (Fed 0) (TimedStep .viewFirst) (begun 7 0 0) (15000, .read r []) x₁ :=
    ⟨⟨0, .head _, by decide⟩, by decide, trivial, rfl⟩
  have hsecond : guarded (Fed 0) (TimedStep .viewFirst) x₁ (29000, .read r []) x₂ :=
    ⟨⟨15000, by rw [hreceived₁]; decide, by decide⟩, by decide, trivial, rfl⟩
  have hexpiry : guarded (Fed 0) (TimedStep .viewFirst) x₂ (30000, .idleTimer 30000) t :=
    ⟨⟨29000, by rw [hreceived₂]; decide, by decide⟩, by decide, ⟨rfl, 30000, htimer, le_refl _⟩,
      rfl⟩
  refine ⟨((Run.single hfirst).snoc hsecond).snoc hexpiry, by decide +kernel, rfl, ?_⟩
  intro hidle
  exact absurd (hidle 29000 (.head _)) (by decide)

end EcsAsioServer.AsioChannel
