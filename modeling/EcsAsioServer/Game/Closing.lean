import EcsAsioServer.Game.SessionEvents
import EcsAsioServer.Game.Locking

/-!
# How channels close

A channel closes in a call of its own object, and then `on_close` runs at once. That is the
whole event when a read or a write fails or the idle timer expires. The answers to PING, ECHO
and LOGIN are sent outside the lock and may close the channel as well; the answer to a login
comes after the player has entered the game. All other packets are sent under `mtx_`, where a
channel that closes stops the io thread.

`closing` is the channel that an event closes, as the state before it decides (`closing_iff`).
`on_close` runs on it as the last thing, in a state in which only what the event does to the
sessions has been done (`step_closes`). `stuck_iff` is the other case: the io thread is stuck
after an event exactly if the packets sent under the lock did not fit.
-/

namespace EcsAsioServer.GameServer

open Db Ecs FrameCodec Protocol StateProgram Transition

variable {s t : GameServer} {channelId : Int32} {env : Env} {e : ServerEvent}

/-- The sessions of a channel that has not closed are those that the event left. -/
theorem sessions_of_open (hstep : ServerStep env s e t) (hopen : channelId ∈ t.channels) :
    t.sessions.entities.lookup channelId = (sessionsAfter env s e).entities.lookup channelId ∧
      t.sessions.dbIds.lookup channelId = (sessionsAfter env s e).dbIds.lookup channelId ∧
      t.sessions.players = (sessionsAfter env s e).players := by
  obtain ⟨id, hsame | hleft, -⟩ := serverStep_sessions hstep
  · rw [hsame]
    exact ⟨rfl, rfl, rfl⟩
  · have hne : channelId ≠ id := by
      rintro rfl
      change channelId ∈ t.sessions.channels at hopen
      rw [hleft] at hopen
      exact (AList.mem_erase.mp hopen).1 rfl
    rw [hleft]
    exact ⟨AList.lookup_erase_ne hne, AList.lookup_erase_ne hne, rfl⟩

/-- Only the close of a channel takes it off. -/
theorem mem_channels_of_sessions (ht : t.sessions = sessionsAfter env s e)
    (hin : channelId ∈ s.channels) : channelId ∈ t.channels := by
  change channelId ∈ t.sessions.channels
  rw [ht]
  cases hevent : sessionEvent env s e with
  | none =>
    rw [sessionsAfter_none hevent]
    exact hin
  | some ev =>
    rw [sessionsAfter_some hevent]
    cases ev with
    | connect id => exact (AList.mem_insert _).mpr (.inr hin)
    | leave id => cases sessionEvent_change hevent
    | enter | travel | kill | simulate => exact hin

/-- The channel that an event closes: the call finds it open and sets `closed_`. -/
def closing (env : Env) (s : GameServer) (e : ServerEvent) : Option Int32 :=
  (ownCall env s e).bind fun c => (s.net.lookup c.1).bind fun ch =>
    if c.1 ∈ s.channels ∧ ch.closed = false ∧ (c.2 ch).1.closed = true then some c.1 else none

/-- A call closes its own channel or none. -/
theorem callChannel_mem (hm : s.mtx = false) {id : Int32}
    {call : AsioChannel → AsioChannel × List Callback}
    (hcall : ∀ ch, AsioChannel.Ends ch (call ch)) (hin : channelId ∈ s.channels) :
    channelId ∉ (after (callChannel id call) s).channels ↔ channelId = id ∧
      ∃ ch, s.net.lookup id = some ch ∧ ch.closed = false ∧ (call ch).1.closed = true := by
  cases hch : s.net.lookup id with
  | none => simp [after_ok (callChannel_absent hch call), hin]
  | some ch =>
    rcases (hcall ch).report with ⟨hsame, hnil⟩ | ⟨hopen, hclosed, reason, hcalls⟩
    · rw [after_ok (callChannel_silent hch hnil)]
      refine iff_of_false (not_not.mpr hin) ?_
      rintro ⟨-, ch', ⟨⟩, hopen, hclosed⟩
      rw [hsame, hopen] at hclosed
      cases hclosed
    · obtain ⟨ecs, hok⟩ := onClose_ok
        (show GameServer.mtx { s with net := s.net.insert id (call ch).1 } = false from hm) id
      rw [after_ok ((callChannel_closing hch hcalls).trans hok)]
      show channelId ∉ s.channels.erase id ↔ _
      simp [AList.mem_erase, hin, hopen, hclosed]

/-- A channel that is gone after a call is the one that was called. -/
theorem callChannel_closes (hm : s.mtx = false) {id : Int32}
    {call : AsioChannel → AsioChannel × List Callback} (hcall : ∀ ch, AsioChannel.Ends ch (call ch))
    (hin : channelId ∈ s.channels) (hgone : channelId ∉ (after (callChannel id call) s).channels) :
    channelId = id ∧
      ∃ net ecs, after (callChannel id call) s = closeWith { s with net } channelId ecs := by
  obtain ⟨rfl, -⟩ := (callChannel_mem hm hcall hin).mp hgone
  obtain ⟨net, heq | ⟨ecs, heq, -⟩⟩ := callChannel_free hm channelId hcall
  · rw [after_ok heq] at hgone
    exact absurd hin hgone
  · exact ⟨rfl, net, ecs, after_ok heq⟩

/-- **Which channel an event closes.** -/
theorem closing_iff (hstep : ServerStep env s e t) :
    closing env s e = some channelId ↔ channelId ∈ s.channels ∧ channelId ∉ t.channels := by
  cases step_calls hstep with
  | nothing hnone ht =>
    simp only [closing, hnone, Option.bind_none]
    exact iff_of_false (fun h => (by cases h)) fun h => h.2 (mem_channels_of_sessions ht h.1)
  | @call id call u hcall hends hu ht =>
    rw [ht]
    by_cases hin : channelId ∈ s.channels
    · rw [callChannel_mem hu.mtx hends (hu.channels ▸ hin), hu.net]
      simp only [closing, hcall, Option.bind_some, Option.bind_eq_some_iff]
      grind
    · simp only [closing, hcall, Option.bind_some, Option.bind_eq_some_iff]
      grind

/-- The channel of a player who enters survives the answer. -/
theorem entry_open_iff {entry : Entry} (hstep : ServerStep env s e t)
    (hev : sessionEvent env s e = some (.enter entry)) :
    closing env s e ≠ some entry.channelId ↔ entry.channelId ∈ t.channels := by
  rw [Ne, closing_iff hstep, not_and_not_right]
  exact ⟨fun h => h (sessionEvent_admitted hstep.1 hev).registered, fun h _ => h⟩

/-! ## A channel that has closed -/

/-- `on_close` has run for the channel, as the last thing of an event in `s`. The state `u` in
which it started has the sessions `S`, and the pool and the storage of `s`. -/
structure ClosedFrom (s : GameServer) (S : Sessions) (channelId : Int32) (u t : GameServer) :
    Prop where
  sessions : u.sessions = S
  dbPool : u.dbPool = s.dbPool
  dbStrands : u.dbStrands = s.dbStrands
  dao : u.hasPlayerDao = s.hasPlayerDao
  storage : u.storage = s.storage
  closed : ∃ ecs, t = u.closeWith channelId ecs

/-- `on_close` itself writes nothing to the database. -/
theorem ClosedFrom.db {u : GameServer} {S : Sessions} (h : ClosedFrom s S channelId u t) :
    t.storage.db = s.storage.db := by
  obtain ⟨ecs, rfl⟩ := h.closed
  rw [← h.storage]
  show (if _ then _ else _ : Storage).db = _
  split <;> rfl

/-- **How a channel closes.** -/
theorem step_closes (hstep : ServerStep env s e t) (hin : channelId ∈ s.channels)
    (hgone : channelId ∉ t.channels) :
    ∃ u, ClosedFrom s (sessionsAfter env s e) channelId u t ∧
      (∀ entry, sessionEvent env s e = some (.enter entry) → entry.channelId = channelId) ∧
      ((∀ entry, sessionEvent env s e ≠ some (.enter entry)) →
        sessionEvent env s e = none ∧ u.ecs = s.ecs) := by
  cases step_calls hstep with
  | nothing _ ht => exact absurd (mem_channels_of_sessions ht hin) hgone
  | call u _ hends hu ht =>
    rw [ht] at hgone
    obtain ⟨rfl, net, ecs, heq⟩ := callChannel_closes hu.mtx hends (hu.channels ▸ hin) hgone
    exact ⟨{ u with net }, ⟨hu.sessions, hu.dbPool, hu.dbStrands, hu.dao, hu.storage, ecs,
      ht.trans heq⟩, hu.entry, hu.ecs⟩

/-- **When the io thread gets stuck.** -/
theorem stuck_iff (hm : s.mtx = false) (hopen : RegisteredOpen s) (hstep : ServerStep env s e t) :
    t.mtx = true ↔ s.Overflows e := by
  obtain ⟨henabled, rfl⟩ := hstep
  -- all events but frames give the lock back
  have hfree : Keeps Free (fun _ => False) (act env e) → (¬s.Overflows e) →
      ((after (act env e) s).mtx = true ↔ s.Overflows e) := by
    intro hkeeps hno
    refine iff_of_false (fun hlocked => ?_) hno
    have hend : (after (act env e) s).mtx = false := (hkeeps.after hm).resolve_right id
    rw [hlocked] at hend
    cases hend
  cases e with
  | accept channelId now =>
    rw [act, after_ok (acceptChannel_ok hm channelId now)]
    exact iff_of_false Bool.false_ne_true id
  | frame channelId cmd payload =>
    have hlocked := stuck_kept.dispatch env cmd channelId payload s ⟨trivial, henabled.2⟩
    rw [act, after, dispatch] at *
    cases hmsg : messageId cmd with
    | none => exact iff_of_false (by simp [hm]) (by simp [Overflows, hmsg])
    | some msg =>
      rw [hmsg] at hlocked
      have hiff : s.Overflows (.frame channelId cmd payload) ↔
          Overflow s (s.lockedSends channelId payload msg) := by simp [Overflows, hmsg]
      rw [hiff]
      dsimp only at hlocked ⊢
      rcases handle_stops env hm hopen henabled.2 payload msg with
        ⟨hover, s', heq⟩ | ⟨hfit, a, s', heq, hs'⟩
      · rw [heq] at hlocked ⊢
        exact iff_of_true hlocked hover
      · rw [heq]
        exact iff_of_false (by simp [hs']) hfit
  | written channelId now =>
    exact hfree (free_callChannel channelId fun ch => ch.writeDone_ends env.order now) id
  | writeError channelId =>
    exact hfree (free_callChannel channelId fun ch => ch.writeFailed_ends) id
  | readError channelId => exact hfree (free_callChannel channelId fun ch => ch.close_ends .read) id
  | idleTimer channelId now =>
    exact hfree (free_callChannel channelId fun ch => ch.idleExpired_ends now) id
  | pingTimer channelId =>
    exact hfree (free_callChannel channelId fun ch => ch.pingExpired_ends env.order) id
  | flushTimer => exact hfree free_flushPlayers id
  | completion i => exact hfree (free_runCompletion env i) id
  | strand channelId out => exact hfree (.modify fun s hs => (runStrand_mtx ..).trans hs) id
  | gameThreads ecs => exact hfree (.modify fun _ hs => hs) id

end EcsAsioServer.GameServer
