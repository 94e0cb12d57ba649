import EcsAsioServer.Game.Closing

/-!
# Accounts and sessions

A login binds its channel to a row of the database in `channel_to_db_id_`, and the row is
written back from there, by the periodic flush and when the channel closes. Nothing in
`handle_login` or in its completion looks for another channel with the same row: two
connections that log in under one name are both bound to it.

An account has at most one session along a run exactly if every login that completes finds
no other channel bound to its row (`one_session_iff`).
-/

namespace EcsAsioServer

open Db Ecs FrameCodec Protocol StateProgram Transition

namespace Sessions

variable {S : Sessions} {entry : Entry} {channelId : Int32} {dbId : Int64}

theorem lookup_dbIds_enter (hdbId : entry.dbId = some dbId) :
    (S.enter entry).dbIds.lookup channelId
      = if channelId = entry.channelId then some dbId else S.dbIds.lookup channelId := by
  show (entry.dbId.elim S.dbIds (S.dbIds.insert entry.channelId)).lookup channelId = _
  rw [hdbId, Option.elim_some]
  exact lookup_insert_eq ..

/-- Only a player who enters gets a row. -/
theorem lookup_dbIds_apply {ev : SessionEvent}
    (h : (S.apply ev).dbIds.lookup channelId = some dbId) :
    S.dbIds.lookup channelId = some dbId ∨
      ∃ entry, ev = .enter entry ∧ entry.channelId = channelId ∧ entry.dbId = some dbId := by
  cases ev with
  | connect | travel | kill | simulate => exact .inl h
  | leave id => exact .inl (lookup_erase_eq_some.mp h).2
  | enter entry =>
    cases hdbId : entry.dbId with
    | none =>
      left
      rw [apply, enter, hdbId] at h
      exact h
    | some row =>
      rw [apply, lookup_dbIds_enter hdbId] at h
      split at h
      · next hid =>
        cases h
        exact .inr ⟨entry, rfl, hid.symm, hdbId⟩
      · exact .inl h

theorem lookup_dbIds_leave {id : Int32} (h : (S.leave channelId).dbIds.lookup id = some dbId) :
    id ≠ channelId ∧ S.dbIds.lookup id = some dbId :=
  lookup_erase_eq_some.mp h

end Sessions

namespace GameServer

/-! ## One session for each account -/

/-- No two channels are bound to one row of the database. -/
def OneSession (s : GameServer) : Prop :=
  ∀ channelId channelId' dbId, s.channelToDbId.lookup channelId = some dbId →
    s.channelToDbId.lookup channelId' = some dbId → channelId = channelId'

theorem oneSession_iff (s : GameServer) : OneSession s ↔
    ∀ channelId ∈ s.channelToDbId.keys, ∀ channelId' ∈ s.channelToDbId.keys,
      s.channelToDbId.lookup channelId = s.channelToDbId.lookup channelId' →
        channelId = channelId' := by
  constructor
  · intro h channelId hmem channelId' _ heq
    obtain ⟨dbId, hbound⟩ := exists_lookup hmem
    exact h channelId channelId' dbId hbound (heq.symm.trans hbound)
  · intro h channelId channelId' dbId hbound hbound'
    refine h channelId ?_ channelId' ?_ (hbound.trans hbound'.symm)
    · exact mem_of_lookup hbound
    · exact mem_of_lookup hbound'

-- The quantifiers are decided over the list of keys, not over all values of `Int32`.
instance (s : GameServer) : Decidable (OneSession s) :=
  letI alone (channelId : Int32) : Decidable (∀ channelId' ∈ s.channelToDbId.keys,
      s.channelToDbId.lookup channelId = s.channelToDbId.lookup channelId' →
        channelId = channelId') := List.decidableBAll _ _
  @decidable_of_iff' _ _ (oneSession_iff s) (@List.decidableBAll _ _ alone _)

/-- A login that the event completes finds no other channel with its row. (If the answer
closes the channel, the row is free again.) -/
def BindsFree (env : Env) (s : GameServer) (e : ServerEvent) : Prop :=
  ∀ entry dbId, sessionEvent env s e = some (.enter entry) → entry.dbId = some dbId →
    closing env s e ≠ some entry.channelId →
    ∀ channelId, s.channelToDbId.lookup channelId = some dbId → channelId = entry.channelId

section Rows

variable {env : Env} {s t : GameServer} {e : ServerEvent} {channelId : Int32} {dbId : Int64}

/-- A row that is bound after an event was bound before, or belongs to the login that the
event has completed. -/
theorem lookup_dbIds_after (h : (sessionsAfter env s e).dbIds.lookup channelId = some dbId) :
    s.channelToDbId.lookup channelId = some dbId ∨
      ∃ entry, sessionEvent env s e = some (.enter entry) ∧ entry.channelId = channelId ∧
        entry.dbId = some dbId := by
  cases hev : sessionEvent env s e with
  | none =>
    rw [sessionsAfter_none hev] at h
    exact .inl h
  | some ev =>
    rw [sessionsAfter_some hev] at h
    refine (Sessions.lookup_dbIds_apply h).imp_right ?_
    rintro ⟨entry, rfl, hentry⟩
    exact ⟨entry, rfl, hentry⟩

/-- The channel of such a login is still open. -/
theorem lookup_dbId_step (hstep : ServerStep env s e t)
    (h : t.channelToDbId.lookup channelId = some dbId) :
    s.channelToDbId.lookup channelId = some dbId ∨
      ∃ entry, sessionEvent env s e = some (.enter entry) ∧ entry.channelId = channelId ∧
        entry.dbId = some dbId ∧ channelId ∈ t.channels := by
  obtain ⟨closed, hclose, hentry⟩ := serverStep_sessions hstep
  change t.sessions.dbIds.lookup channelId = some dbId at h
  rcases hclose with hsame | hleft
  · rw [hsame] at h
    rcases lookup_dbIds_after h with hold | ⟨entry, hev, rfl, hdbId⟩
    · exact .inl hold
    · refine .inr ⟨entry, hev, rfl, hdbId, ?_⟩
      show entry.channelId ∈ t.sessions.channels
      rw [hsame, sessionsAfter_some hev]
      exact (sessionEvent_admitted hstep.1 hev).registered
  · -- the channel of the event has closed, and only that one could have got a row
    rw [hleft] at h
    obtain ⟨hne, h⟩ := Sessions.lookup_dbIds_leave h
    refine (lookup_dbIds_after h).imp_right ?_
    rintro ⟨entry, hev, rfl, -⟩
    exact absurd (hentry entry hev) hne

/-- **One event**: if each account had at most one session before, so it does afterwards
exactly if a login that completes binds its channel to a free row. -/
theorem oneSession_step (hs : OneSession s)
    (hstep : ServerStep env s e t) : OneSession t ↔ BindsFree env s e := by
  constructor
  · obtain ⟨closed, hclose, hentry⟩ := serverStep_sessions hstep
    intro ht entry dbId hev hdbId hopen channelId hbound
    rw [entry_open_iff hstep hev] at hopen
    rw [sessionsAfter_some hev] at hclose
    rcases hclose with hsame | hleft
    · -- the channel stays, so its row must not be bound to another one
      have hlookup : ∀ id, t.channelToDbId.lookup id
          = if id = entry.channelId then some dbId else s.channelToDbId.lookup id := by
        intro id
        show t.sessions.dbIds.lookup id = _
        rw [hsame]
        exact Sessions.lookup_dbIds_enter hdbId
      by_contra hne
      refine hne (ht channelId entry.channelId dbId ?_ ?_)
      · rw [hlookup, if_neg hne]
        exact hbound
      · rw [hlookup, if_pos rfl]
    · -- the answer has closed the channel
      have hgone : entry.channelId ∉ t.sessions.channels := by
        rw [hleft, hentry entry hev]
        exact fun hmem => (AList.mem_erase.mp hmem).1 rfl
      exact absurd hopen hgone
  · intro hfree channelId channelId' dbId h h'
    rcases lookup_dbId_step hstep h with hold | ⟨entry, hev, rfl, hdbId, hopen⟩
    · rcases lookup_dbId_step hstep h' with hold' | ⟨entry, hev, rfl, hdbId, hopen⟩
      · exact hs channelId channelId' dbId hold hold'
      · rw [← entry_open_iff hstep hev] at hopen
        exact hfree entry dbId hev hdbId hopen channelId hold
    · rcases lookup_dbId_step hstep h' with hold' | ⟨entry', hev', rfl, -, -⟩
      · rw [← entry_open_iff hstep hev] at hopen
        exact (hfree entry dbId hev hdbId hopen channelId' hold').symm
      · rw [hev] at hev'
        cases hev'
        rfl

end Rows

/-- **When an account has one session.** Along a run of the server no two channels are ever
bound to one row exactly if every login that completes finds its row free. -/
theorem one_session_iff (env : Env) {s t : GameServer} {es : List ServerEvent}
    (hinit : ServerInit s) :
    Run (staying OneSession (ServerStep env)) s es t ↔
      Run (guarded (BindsFree env) (ServerStep env)) s es t := by
  have hnone : OneSession s := by
    intro channelId channelId' dbId h
    rw [hinit.channelToDbId] at h
    cases h
  exact Run.staying_iff (I := fun _ => True) trivial hnone (fun _ _ _ _ _ => trivial)
    fun _ _ _ _ => oneSession_step

/-- The LOGIN of another player. -/
def leeLogin : List UInt8 := { playerName := ascii "lee", sessionToken := [] : LoginReq }.serialize

/-- Two connections log in one after the other. -/
def twoLogins (first second : List UInt8) : List ServerEvent :=
  [.accept 1 0, .accept 2 0, .frame 1 1001 first, .frame 2 1001 second, .strand 1 {}, .strand 2 {},
    .completion 0, .completion 0]

/-- A server that knows one player. -/
def kimServer : GameServer := plainServer true { rows := [kim], nextId := 2 }

/-- Two players log in on two connections. -/
theorem one_session_two_players :
    Run (guarded (BindsFree plainEnv) (ServerStep plainEnv)) kimServer
      (twoLogins kimLogin leeLogin) (execute plainEnv kimServer (twoLogins kimLogin leeLogin)) := by
  refine (one_session_iff plainEnv (plainServer_init true _)).mp ?_
  exact run_execute_staying (by decide +kernel) (by decide +kernel)

/-- The same player logs in on two connections, and both write the row. -/
theorem two_sessions_one_row :
    let t := execute plainEnv kimServer (twoLogins kimLogin kimLogin)
    Reachable ServerInit (ServerStep plainEnv) t ∧
    t.channelToDbId.lookup 1 = some 1 ∧ t.channelToDbId.lookup 2 = some 1 ∧ ¬ OneSession t := by
  intro t
  have h₁ : t.channelToDbId.lookup 1 = some 1 := by decide +kernel
  have h₂ : t.channelToDbId.lookup 2 = some 1 := by decide +kernel
  refine ⟨plainServer_reachable (by decide +kernel), h₁, h₂, ?_⟩
  intro hone
  exact absurd (hone 1 2 1 h₁ h₂) (by decide)

end GameServer

end EcsAsioServer
