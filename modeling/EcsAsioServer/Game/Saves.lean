import EcsAsioServer.Game.Lifecycle
import EcsAsioServer.Game.Closing
import EcsAsioServer.Game.Players

/-!
# The save at the end of a session

`on_close` posts the save of a player to the strand of the channel. It needs three things:
the strand, the row of the player in `channel_to_db_id_` and the entity in
`channel_to_entity_`, which must not be 0. The strand is there from `on_accept` on, and the
row from the login on. But a kill takes the entity and leaves the row: when the channel of a
killed player closes, nothing is saved. A second login as another player takes the row itself,
and an answer that does not fit while `mtx_` is held stops the io thread, after which no
channel gets through `on_close`.

`SavingStep` is an event after which no row is lost: every row that a login has bound to a
channel is still bound to it and would be saved if the channel closed, and if the channel has
closed in the event, its save has been posted. `sessions_saved_iff` says that a run consists of
such events exactly if none of its events does one of the above (nor gives a player the
entity 0, when the 32-bit ids wrap around).
-/

namespace EcsAsioServer

open Db Ecs FrameCodec Protocol Strands StateProgram Transition

namespace Sessions

/-- Every channel with a row has an entity. -/
def Savable (S : Sessions) : Prop := ∀ channelId ∈ S.dbIds, S.entity channelId ≠ 0

variable {S : Sessions} {entry : Entry} {channelId : Int32}

theorem entity_enter (channelId : Int32) :
    (S.enter entry).entity channelId
      = if channelId = entry.channelId then S.manager.nextEntityId else S.entity channelId := by
  unfold Sessions.entity
  rw [lookup_entities_enter]
  split <;> rfl

theorem entity_leave_ne {id : Int32} (h : id ≠ channelId) :
    (S.leave channelId).entity id = S.entity id :=
  congrArg (Option.getD · 0) (AList.lookup_erase_ne h)

theorem Savable.leave (h : S.Savable) (channelId : Int32) : (S.leave channelId).Savable := by
  intro id hid
  obtain ⟨hne, hid⟩ := AList.mem_erase.mp hid
  rw [entity_leave_ne hne]
  exact h id hid

/-- If the channel closes, its player is saved for the row. -/
def Saves (S : Sessions) (channelId : Int32) (dbId : Int64) : Prop :=
  S.dbIds.lookup channelId = some dbId ∧ S.entity channelId ≠ 0

/-- A kill loses the row of its victim. -/
theorem saves_kill (hs : S.Savable) :
    (∀ id dbId, S.dbIds.lookup id = some dbId → (S.kill channelId).Saves id dbId) ↔
      channelId ∉ S.dbIds := by
  constructor
  · intro h hrow
    obtain ⟨dbId, hbound⟩ := exists_lookup hrow
    exact (h channelId dbId hbound).2 (congrArg (Option.getD · 0) (AList.lookup_erase _ _))
  · intro hnone id dbId hbound
    have hne : id ≠ channelId := by
      rintro rfl
      exact hnone (mem_of_lookup hbound)
    have hsame : (S.kill channelId).entity id = S.entity id :=
      congrArg (Option.getD · 0) (AList.lookup_erase_ne hne)
    refine ⟨hbound, ?_⟩
    rw [hsame]
    exact hs id (mem_of_lookup hbound)

/-- The rows after a login, on its channel. -/
theorem saves_enter_self {dbId : Int64} : (S.enter entry).Saves entry.channelId dbId ↔
    entry.dbId.elim (S.dbIds.lookup entry.channelId) some = some dbId ∧
      S.manager.nextEntityId ≠ 0 := by
  rw [Saves, entity_enter, if_pos rfl]
  refine and_congr_left fun _ => ?_
  show (entry.dbId.elim S.dbIds (S.dbIds.insert entry.channelId)).lookup entry.channelId = _ ↔ _
  cases entry.dbId with
  | none => rfl
  | some row =>
    rw [Option.elim_some, Option.elim_some, AList.lookup_insert]

theorem saves_enter_ne {id : Int32} {dbId : Int64} (hne : id ≠ entry.channelId) :
    (S.enter entry).Saves id dbId ↔ S.Saves id dbId := by
  rw [Saves, Saves, entity_enter, if_neg hne]
  refine and_congr_left fun _ => ?_
  show (entry.dbId.elim S.dbIds (S.dbIds.insert entry.channelId)).lookup id = _ ↔ _
  cases entry.dbId with
  | none => rfl
  | some row => rw [Option.elim_some, AList.lookup_insert_ne hne]

/-- A login loses no row if its channel has none or the same, and the entity is not 0. -/
theorem saves_enter (hs : S.Savable) :
    (∀ id dbId, S.dbIds.lookup id = some dbId ∨ entry.channelId = id ∧ entry.dbId = some dbId →
      (S.enter entry).Saves id dbId) ↔
    ((entry.dbId.isSome ∨ entry.channelId ∈ S.dbIds) → S.manager.nextEntityId ≠ 0) ∧
      ∀ dbId ∈ entry.dbId, ∀ old ∈ S.dbIds.lookup entry.channelId, old = dbId := by
  constructor
  · intro h
    refine ⟨?_, ?_⟩
    · rintro (hdbId | hrow)
      · obtain ⟨dbId, hdbId⟩ := Option.isSome_iff_exists.mp hdbId
        exact (saves_enter_self.mp (h _ dbId (.inr ⟨rfl, hdbId⟩))).2
      · obtain ⟨dbId, hbound⟩ := exists_lookup hrow
        exact (saves_enter_self.mp (h _ dbId (.inl hbound))).2
    · -- both rows are the one that the channel has after the login
      intro dbId hdbId old hbound
      have hnew := (saves_enter_self.mp (h _ dbId (.inr ⟨rfl, hdbId⟩))).1
      have hold := (saves_enter_self.mp (h _ old (.inl hbound))).1
      exact Option.some.inj (hold.symm.trans hnew)
  · rintro ⟨hentity, hrebind⟩ id dbId hbound
    by_cases hid : id = entry.channelId
    · subst hid
      rw [saves_enter_self]
      rcases hbound with hbound | ⟨-, hdbId⟩
      · refine ⟨?_, hentity (.inr (mem_of_lookup hbound))⟩
        cases hdb : entry.dbId with
        | none => exact hbound
        | some row => rw [hrebind row hdb dbId hbound, Option.elim_some]
      · exact ⟨by rw [hdbId, Option.elim_some], hentity (.inl (by simp [hdbId]))⟩
    · rw [saves_enter_ne hid]
      rcases hbound with hbound | ⟨hid', -⟩
      · exact ⟨hbound, hs id (mem_of_lookup hbound)⟩
      · exact absurd hid'.symm hid

end Sessions

namespace GameServer

/-! ## What `on_close` needs -/

/-- The close of the channel posts the save of its player for the row. -/
def SavedOnClose (s : GameServer) (channelId : Int32) (dbId : Int64) : Prop :=
  ∃ t, onClose channelId s = .ok () t ∧
    t.dbPool = s.dbPool.post channelId (closeTaskOf s.ecs (s.sessions.entity channelId) dbId)

/-- A server with a database: its channels have strands. -/
structure DbReady (s : GameServer) : Prop where
  dao : s.hasPlayerDao = true
  pool : s.hasDbPool = true
  strand : ∀ id ∈ s.channels, id ∈ s.dbStrands
  bound : Within s.channelToDbId s.channels

variable {s : GameServer}

theorem dbReady_init (hinit : ServerInit s) (hdao : s.hasPlayerDao = true)
    (hpool : s.hasDbPool = true) : DbReady s := by
  refine ⟨hdao, hpool, fun id hid => ?_, hinit.channelToDbId ▸ .empty⟩
  rw [hinit.channels] at hid
  exact absurd hid (AList.notMem_empty id)

theorem Pool.post_ne (p : Pool Int32 DbTask) (channelId : Int32) (task : DbTask) :
    p ≠ p.post channelId task := by
  intro heq
  have hlen := congrArg (fun p => (p.pending channelId).length) heq
  simp at hlen

/-- `on_close` posts a save exactly if the player has an entity. -/
theorem savedOnClose_iff {channelId : Int32} {dbId : Int64} (h : DbReady s) (hm : s.mtx = false)
    (hbound : s.channelToDbId.lookup channelId = some dbId) (hpos : 0 < dbId) :
    SavedOnClose s channelId dbId ↔ s.sessions.entity channelId ≠ 0 := by
  obtain ⟨ecs, hclose⟩ := onClose_ok hm channelId
  have hid : channelId ∈ s.channelToDbId :=
    mem_of_lookup hbound
  have hpool : (s.closeWith channelId ecs).dbPool
      = if s.sessions.entity channelId ≠ 0 then
          s.dbPool.post channelId (closeTaskOf s.ecs (s.sessions.entity channelId) dbId)
        else s.dbPool := by
    unfold closeWith
    simp only [hbound, Option.getD_some, h.strand _ (h.bound _ hid), h.dao, hpos, true_and]
    rfl
  unfold SavedOnClose
  rw [hclose]
  constructor
  · rintro ⟨t, heq, hpost⟩ hzero
    cases heq
    rw [hpool, if_neg (not_not.mpr hzero)] at hpost
    exact Pool.post_ne _ _ _ hpost
  · intro hne
    refine ⟨_, rfl, ?_⟩
    rw [hpool, if_pos hne]

theorem DbReady.close (h : DbReady s) (id : Int32) (ecs : GameService ComponentType.Val) :
    DbReady (s.closeWith id ecs) where
  dao := h.dao
  pool := h.pool
  strand k hk := by
    obtain ⟨hne, hk⟩ := AList.mem_erase.mp hk
    exact AList.mem_erase.mpr ⟨hne, h.strand k hk⟩
  bound := h.bound.unregister id

theorem DbReady.accept (h : DbReady s) (id : Int32) (ch : AsioChannel) :
    DbReady (s.accepted id ch) where
  dao := h.dao
  pool := h.pool
  strand k hk := by
    show k ∈ if s.hasDbPool = true then s.dbStrands.insert id () else s.dbStrands
    rw [if_pos h.pool]
    rcases (AList.mem_insert _).mp hk with rfl | hk
    · exact (AList.mem_insert _).mpr (.inl rfl)
    · exact (AList.mem_insert _).mpr (.inr (h.strand k hk))
  bound := h.bound.register id

theorem dbReady_kept (env : Env) : ServerKept env DbReady fun s => s.mtx = true where
  mtx _ _ h := ⟨h.dao, h.pool, h.strand, h.bound⟩
  locked _ hm _ := hm
  ecs _ _ h := ⟨h.dao, h.pool, h.strand, h.bound⟩
  guild _ _ _ _ h := ⟨h.dao, h.pool, h.strand, h.bound⟩
  mainThread _ _ h := ⟨h.dao, h.pool, h.strand, h.bound⟩
  net _ _ _ _ _ _ h := ⟨h.dao, h.pool, h.strand, h.bound⟩
  close s id _ ch' ecs _ _ _ _ h :=
    DbReady.close (s := { s with net := s.net.insert id ch' })
      ⟨h.dao, h.pool, h.strand, h.bound⟩ id ecs
  stuck _ _ _ _ _ _ _ hm _ := hm
  setEntity _ _ _ _ h := ⟨h.dao, h.pool, h.strand, h.bound⟩
  eraseEntity _ _ h := ⟨h.dao, h.pool, h.strand, h.bound⟩
  setDbId _ _ dbId hid h := ⟨h.dao, h.pool, h.strand, h.bound.insert hid dbId⟩
  setMap _ _ _ _ _ h := ⟨h.dao, h.pool, h.strand, h.bound⟩
  post _ _ _ _ h := ⟨h.dao, h.pool, h.strand, h.bound⟩
  completions _ _ _ h := ⟨h.dao, h.pool, h.strand, h.bound⟩
  accept _ id ch _ _ h := h.accept id ch
  strand s id out h := by
    obtain ⟨storage, completions, heq⟩ := runStrand_eq env s id out
    rw [heq]
    exact ⟨h.dao, h.pool, h.strand, h.bound⟩
  stuck_mtx _ h := h
  stuck_ecs _ _ h := h
  stuck_strand s id out h := (runStrand_mtx env s id out).trans h

/-- The rows of sessions have positive ids. -/
def RowsPositive (s : GameServer) : Prop :=
  ∀ channelId dbId, s.channelToDbId.lookup channelId = some dbId → 0 < dbId

theorem rowsPositive_step {env : Env} {t : GameServer} {e : ServerEvent} (h : RowsPositive s)
    (hstep : ServerStep env s e t) : RowsPositive t := by
  intro channelId dbId hbound
  rcases lookup_dbId_step hstep hbound with hold | ⟨entry, hev, -, hdbId, -⟩
  · exact h channelId dbId hold
  · exact (sessionEvent_admitted hstep.1 hev).dbId_pos dbId hdbId

/-! ## Rows along a run -/

/-- A login has bound the row to the channel, before the event or in it. -/
def Bound (s : GameServer) (e : ServerEvent) (channelId : Int32) (dbId : Int64) : Prop :=
  s.channelToDbId.lookup channelId = some dbId ∨
    ∃ entry, s.entering e = some entry ∧ entry.channelId = channelId ∧ entry.dbId = some dbId

/-- What the event does for the row: the channel keeps it and its close would save it, or the
channel has closed and the save is posted. -/
structure Saved (env : Env) (s : GameServer) (e : ServerEvent) (t : GameServer)
    (channelId : Int32) (dbId : Int64) : Prop where
  kept : channelId ∈ t.channels →
    t.channelToDbId.lookup channelId = some dbId ∧ SavedOnClose t channelId dbId
  closed : channelId ∉ t.channels → ∃ u : GameServer, u.sessions = sessionsAfter env s e ∧
    t.dbPool = s.dbPool.post channelId (closeTaskOf u.ecs (u.sessions.entity channelId) dbId)

/-- An event that loses no row. -/
def SavingStep (env : Env) (s : GameServer) (e : ServerEvent) (t : GameServer) : Prop :=
  ServerStep env s e t ∧
    ∀ channelId dbId, Bound s e channelId dbId → Saved env s e t channelId dbId

/-- The answers that are sent under the lock fit if there are rows to save, no player with a
row is killed or gets the entity 0, and a channel with a row does not get another one. -/
structure KeepsSaves (s : GameServer) (e : ServerEvent) : Prop where
  room : s.Overflows e → s.channelToDbId.keys = []
  kill : ∀ target ∈ s.killed e, target ∉ s.channelToDbId
  enter : ∀ entry ∈ s.entering e, (entry.dbId.isSome ∨ entry.channelId ∈ s.channelToDbId) →
    s.ecs.entityManager.nextEntityId ≠ 0
  rebind : ∀ entry ∈ s.entering e, ∀ dbId ∈ entry.dbId,
    ∀ old ∈ s.channelToDbId.lookup entry.channelId, old = dbId

-- Over options, not over all values of the id types.
instance (s : GameServer) (e : ServerEvent) : Decidable (KeepsSaves s e) :=
  decidable_of_iff ((s.Overflows e → s.channelToDbId.keys = []) ∧
      (s.killed e).all (fun target => target ∉ s.channelToDbId) = true ∧
      (s.entering e).all (fun entry => (entry.dbId.isSome ∨ entry.channelId ∈ s.channelToDbId) →
        s.ecs.entityManager.nextEntityId ≠ 0) = true ∧
      (s.entering e).all (fun entry => entry.dbId.all fun dbId =>
        (s.channelToDbId.lookup entry.channelId).all fun old => old = dbId) = true) <| by
    simp only [Option.all_eq_true, decide_eq_true_eq]
    exact ⟨fun h => ⟨h.1, h.2.1, h.2.2.1, h.2.2.2⟩, fun h => ⟨h.room, h.kill, h.enter, h.rebind⟩⟩

theorem no_rows_iff :
    s.channelToDbId.keys = [] ↔ ∀ channelId, s.channelToDbId.lookup channelId = none := by
  rw [List.eq_nil_iff_forall_not_mem]
  exact forall_congr' fun channelId => AList.lookup_eq_none.symm

section Step

variable {env : Env} {s t : GameServer} {e : ServerEvent} {channelId : Int32} {dbId : Int64}

theorem Bound.registered (h : Bound s e channelId dbId) (hready : DbReady s)
    (hstep : ServerStep env s e t) : channelId ∈ s.channels := by
  rcases h with hbound | ⟨entry, hentry, rfl, -⟩
  · exact hready.bound _ (mem_of_lookup hbound)
  · exact (entering_admitted hstep.1 hentry).registered

theorem Bound.pos (h : Bound s e channelId dbId) (hpos : RowsPositive s)
    (hstep : ServerStep env s e t) : 0 < dbId := by
  rcases h with hbound | ⟨entry, hentry, -, hdbId⟩
  · exact hpos channelId dbId hbound
  · exact (entering_admitted hstep.1 hentry).dbId_pos dbId hdbId

/-- A row that is there afterwards was bound. -/
theorem bound_of_lookup (h : (sessionsAfter env s e).dbIds.lookup channelId = some dbId) :
    Bound s e channelId dbId := by
  refine (lookup_dbIds_after h).imp_right ?_
  rintro ⟨entry, hev, hentry⟩
  exact ⟨entry, sessionEvent_enter_iff.mp hev, hentry⟩

/-- The sessions of a channel that has not closed are those that the event left. -/
theorem saves_of_open (hstep : ServerStep env s e t) (hopen : channelId ∈ t.channels) :
    t.sessions.Saves channelId dbId ↔ (sessionsAfter env s e).Saves channelId dbId := by
  obtain ⟨hentities, hrows, -⟩ := sessions_of_open hstep hopen
  rw [Sessions.Saves, Sessions.Saves, Sessions.entity, Sessions.entity, hentities, hrows]

/-- What `on_close` posts in the end of an event. -/
theorem ClosedFrom.pool {S : Sessions} {u : GameServer} (h : ClosedFrom s S channelId u t)
    (hready : DbReady s) (hid : channelId ∈ s.channels) :
    t.dbPool = if 0 < (S.dbIds.lookup channelId).getD 0 ∧ S.entity channelId ≠ 0 then
        s.dbPool.post channelId
          (closeTaskOf u.ecs (S.entity channelId) ((S.dbIds.lookup channelId).getD 0))
      else s.dbPool := by
  obtain ⟨ecs, rfl⟩ := h.closed
  have hrow : u.channelToDbId = S.dbIds := congrArg Sessions.dbIds h.sessions
  have hentities : u.channelToEntity = S.entities := congrArg Sessions.entities h.sessions
  unfold closeWith
  dsimp only
  rw [h.dbPool, h.dbStrands, h.dao, hrow, hentities]
  simp only [hready.strand _ hid, hready.dao, true_and]
  rfl

theorem post_injective {p : Pool Int32 DbTask} {task task' : DbTask}
    (h : p.post channelId task = p.post channelId task') : task = task' := by
  have hpending := congrArg (fun p => p.pending channelId) h
  simpa using hpending

/-- **One row**, when the event gives the lock back: it is saved exactly if it is still bound
to its channel after the event, with an entity. -/
theorem saved_iff (hstep : ServerStep env s e t) (hready : DbReady s) (hready' : DbReady t)
    (htm : t.mtx = false) (hid : channelId ∈ s.channels) (hpos : 0 < dbId) :
    Saved env s e t channelId dbId ↔ (sessionsAfter env s e).Saves channelId dbId := by
  by_cases hopen : channelId ∈ t.channels
  · rw [← saves_of_open hstep hopen]
    constructor
    · intro h
      obtain ⟨hbound, hsaved⟩ := h.kept hopen
      exact ⟨hbound, (savedOnClose_iff hready' htm hbound hpos).mp hsaved⟩
    · intro h
      refine ⟨fun _ => ⟨h.1, (savedOnClose_iff hready' htm h.1 hpos).mpr h.2⟩, ?_⟩
      exact fun hgone => absurd hopen hgone
  · obtain ⟨u, hclosed, -⟩ := step_closes hstep hid hopen
    have hpool := hclosed.pool hready hid
    constructor
    · intro h
      obtain ⟨u', -, hpost⟩ := h.closed hopen
      rw [hpost] at hpool
      split at hpool
      · next hcond =>
        have htask := post_injective hpool
        unfold closeTaskOf at htask
        have hrow : dbId = ((sessionsAfter env s e).dbIds.lookup channelId).getD 0 :=
          (DbTask.close.inj htask).1
        refine ⟨?_, hcond.2⟩
        cases hlookup : (sessionsAfter env s e).dbIds.lookup channelId with
        | none =>
          rw [hlookup, Option.getD_none] at hrow
          rw [hrow] at hpos
          exact absurd hpos (by decide)
        | some row =>
          rw [hlookup, Option.getD_some] at hrow
          rw [hrow]
      · exact absurd hpool.symm (Pool.post_ne _ _ _)
    · rintro ⟨hlookup, hentity⟩
      refine ⟨fun h => absurd h hopen, fun _ => ⟨u, hclosed.sessions, ?_⟩⟩
      rw [hpool, hlookup, Option.getD_some, if_pos ⟨hpos, hentity⟩, hclosed.sessions]

/-- **All rows**: what the condition says about the sessions. -/
theorem saves_iff (hs : s.sessions.Savable) (hfit : ¬s.Overflows e)
    (htm : (after (act env e) s).mtx = false) :
    (∀ channelId dbId, Bound s e channelId dbId →
      (sessionsAfter env s e).Saves channelId dbId) ↔ KeepsSaves s e := by
  have hnokill : (∀ target, sessionEvent env s e ≠ some (.kill target)) →
      ∀ target, s.killed e ≠ some target :=
    fun h target hkilled => h target (sessionEvent_kill_iff.mpr ⟨hkilled, htm⟩)
  have hnoenter : (∀ entry, sessionEvent env s e ≠ some (.enter entry)) →
      ∀ entry, s.entering e ≠ some entry :=
    fun h entry hentry => h entry (sessionEvent_enter_iff.mpr hentry)
  -- without a player who enters, the bound rows are those of before
  have hbound_iff : (∀ entry, s.entering e ≠ some entry) → ∀ channelId dbId,
      Bound s e channelId dbId ↔ s.sessions.dbIds.lookup channelId = some dbId := by
    intro hnone channelId dbId
    refine or_iff_left ?_
    rintro ⟨entry, hentry, -⟩
    exact hnone entry hentry
  have hplain : (∀ target, s.killed e ≠ some target) → (∀ entry, s.entering e ≠ some entry) →
      (∀ channelId dbId, s.sessions.Saves channelId dbId →
        (sessionsAfter env s e).Saves channelId dbId) →
      ((∀ channelId dbId, Bound s e channelId dbId →
        (sessionsAfter env s e).Saves channelId dbId) ↔ KeepsSaves s e) := by
    intro hkill henter hsame
    refine iff_of_true ?_ ⟨fun h => absurd h hfit, fun target h => absurd h (hkill target),
      fun entry h => absurd h (henter entry), fun entry h => absurd h (henter entry)⟩
    intro channelId dbId hbound
    rw [hbound_iff henter] at hbound
    exact hsame channelId dbId ⟨hbound, hs _ (mem_of_lookup hbound)⟩
  cases hev : sessionEvent env s e with
  | none =>
    refine hplain (hnokill (by simp [hev])) (hnoenter (by simp [hev])) fun _ _ h => ?_
    rw [sessionsAfter_none hev]
    exact h
  | some ev =>
    cases ev with
    | leave id => cases sessionEvent_change hev
    | connect | travel | simulate =>
      refine hplain (hnokill (by simp [hev])) (hnoenter (by simp [hev])) fun _ _ h => ?_
      rw [sessionsAfter_some hev]
      exact h
    | kill target =>
      have hkilled : s.killed e = some target := (sessionEvent_kill_iff.mp hev).1
      have hnone : ∀ entry, s.entering e ≠ some entry := hnoenter (by simp [hev])
      simp only [hbound_iff hnone, sessionsAfter_some hev]
      refine (Sessions.saves_kill hs).trans ⟨fun hfree => ⟨fun h => absurd h hfit, ?_,
        fun entry h => absurd h (hnone entry), fun entry h => absurd h (hnone entry)⟩,
        fun h => h.kill target hkilled⟩
      rw [hkilled]
      rintro _ ⟨⟩
      exact hfree
    | enter entry =>
      have hentry : s.entering e = some entry := sessionEvent_enter_iff.mp hev
      have hnone : ∀ target, s.killed e ≠ some target := hnokill (by simp [hev])
      have hbound : ∀ channelId dbId, Bound s e channelId dbId ↔
          s.sessions.dbIds.lookup channelId = some dbId ∨
            entry.channelId = channelId ∧ entry.dbId = some dbId := by
        intro channelId dbId
        refine or_congr_right ?_
        simp [hentry]
      simp only [hbound, sessionsAfter_some hev]
      refine (Sessions.saves_enter hs).trans ⟨fun h => ⟨fun h => absurd h hfit,
        fun target h => absurd h (hnone target), ?_, ?_⟩,
        fun h => ⟨h.enter entry hentry, h.rebind entry hentry⟩⟩
      · rw [hentry]
        rintro _ ⟨⟩
        exact h.1
      · rw [hentry]
        rintro _ ⟨⟩
        exact h.2

end Step

/-! ## Along runs -/

/-- The io thread is free and every row would be saved, or the io thread is stuck and there
are no rows. -/
structure SavesReady (s : GameServer) : Prop where
  positive : RowsPositive s
  state : (s.mtx = false ∧ DbReady s ∧ RegisteredOpen s ∧ s.sessions.Savable) ∨
    (s.mtx = true ∧ s.channelToDbId.keys = [])

theorem savable_of_saves {env : Env} {t : GameServer} {e : ServerEvent}
    (hstep : ServerStep env s e t) (h : ∀ channelId dbId, Bound s e channelId dbId →
      (sessionsAfter env s e).Saves channelId dbId) : t.sessions.Savable := by
  have hafter : (sessionsAfter env s e).Savable := by
    intro channelId hrow
    obtain ⟨dbId, hlookup⟩ := exists_lookup hrow
    exact (h channelId dbId (bound_of_lookup hlookup)).2
  obtain ⟨id, hsame | hleft, -⟩ := serverStep_sessions hstep
  · rw [hsame]
    exact hafter
  · rw [hleft]
    exact hafter.leave id

section Step

variable {env : Env} {s t : GameServer} {e : ServerEvent}

/-- What one event has to show: no row is lost exactly under the condition, and then the
invariant goes on. -/
def StepSaves (env : Env) (s : GameServer) (e : ServerEvent) (t : GameServer) : Prop :=
  ((∀ channelId dbId, Bound s e channelId dbId → Saved env s e t channelId dbId) ↔
    KeepsSaves s e) ∧ (KeepsSaves s e → SavesReady t)

/-- The login is answered outside the lock. -/
theorem not_entering_of_overflows (hover : s.Overflows e) (entry : Entry) :
    s.entering e ≠ some entry := by
  intro hentry
  unfold entering at hentry
  split at hentry
  · exact hover
  · next channelId cmd payload =>
    obtain ⟨msg, hmsg, hfull⟩ := hover
    by_cases hcmd : messageId cmd = some .login
    · cases hmsg.symm.trans hcmd
      exact not_overflow_nil s hfull
    · rw [if_neg hcmd] at hentry
      cases hentry
  · cases hentry

/-- The io thread gets stuck, and no row can be saved any more. -/
theorem stepSaves_overflow (hpositive : RowsPositive t) (hm : s.mtx = false) (hready : DbReady s)
    (hopen : RegisteredOpen s) (hstep : ServerStep env s e t) (hover : s.Overflows e) :
    StepSaves env s e t := by
  have htm : t.mtx = true := (stuck_iff hm hopen hstep).mpr hover
  have hnoenter := not_entering_of_overflows hover
  have hkeeps : KeepsSaves s e ↔ ∀ channelId, s.channelToDbId.lookup channelId = none := by
    rw [← no_rows_iff]
    refine ⟨fun h => h.room hover, fun h => ⟨fun _ => h, fun target _ hrow => ?_,
      fun entry hentry => absurd hentry (hnoenter entry),
      fun entry hentry => absurd hentry (hnoenter entry)⟩⟩
    have hmem : target ∈ s.channelToDbId.keys := hrow
    rw [h] at hmem
    cases hmem
  rw [StepSaves, hkeeps]
  refine ⟨⟨fun h channelId => ?_, ?_⟩, fun hnone => ⟨hpositive, .inr ⟨htm, ?_⟩⟩⟩
  · cases hbound : s.channelToDbId.lookup channelId with
    | none => rfl
    | some dbId =>
      have hsaved := h channelId dbId (.inl hbound)
      by_cases hin : channelId ∈ t.channels
      · obtain ⟨-, u, hclose, -⟩ := hsaved.kept hin
        rw [onClose_locked htm] at hclose
        cases hclose
      · -- `on_close` would have given the lock back
        obtain ⟨u, hclosed, -⟩ := step_closes hstep (hready.bound _ (mem_of_lookup hbound)) hin
        obtain ⟨ecs, rfl⟩ := hclosed.closed
        cases htm
  · rintro hnone channelId dbId (hbound | ⟨entry, hentry, -⟩)
    · rw [hnone] at hbound
      cases hbound
    · exact absurd hentry (hnoenter entry)
  · rw [no_rows_iff]
    intro channelId
    cases hbound : t.channelToDbId.lookup channelId with
    | none => rfl
    | some dbId =>
      rcases lookup_dbId_step hstep hbound with hold | ⟨entry, hev, -⟩
      · rw [hnone] at hold
        cases hold
      · exact absurd (sessionEvent_enter_iff.mp hev) (hnoenter entry)

/-- An event whose packets fit. -/
theorem stepSaves_fits (hs : RowsPositive s) (hm : s.mtx = false) (hready : DbReady s)
    (hopen : RegisteredOpen s) (hsavable : s.sessions.Savable) (hstep : ServerStep env s e t)
    (hover : ¬s.Overflows e) : StepSaves env s e t := by
  have htm : t.mtx = false := by
    rw [← Bool.not_eq_true, stuck_iff hm hopen hstep]
    exact hover
  have hready' : DbReady t :=
    ((dbReady_kept env).step_free hready hstep).resolve_right (by simp [htm])
  have hopen' : RegisteredOpen t :=
    ((registeredOpen_kept env).step_free hopen hstep).resolve_right (by simp [htm])
  have hafter : (after (act env e) s).mtx = false := by
    rw [hstep.2]
    exact htm
  have hall := saves_iff hsavable hover hafter
  refine ⟨?_, fun h => ⟨rowsPositive_step hs hstep, .inl ⟨htm, hready', hopen',
    savable_of_saves hstep (hall.mpr h)⟩⟩⟩
  rw [← hall]
  refine forall_congr' fun channelId => forall_congr' fun dbId => forall_congr' fun hbound => ?_
  exact saved_iff hstep hready hready' htm (hbound.registered hready hstep) (hbound.pos hs hstep)

/-- Only the pool and the game threads go on, and there are no rows. -/
theorem stepSaves_stuck (hpositive : RowsPositive t) (hm : s.mtx = true)
    (hempty : s.channelToDbId.keys = []) (hstep : ServerStep env s e t) : StepSaves env s e t := by
  have hquiet : s.channelToDbId = t.channelToDbId ∧ t.mtx = true ∧ ¬s.Overflows e ∧
      s.killed e = none ∧ s.entering e = none := by
    obtain ⟨henabled, rfl⟩ := hstep
    cases e with
    | strand channelId out =>
      obtain ⟨storage, completions, heq⟩ := runStrand_eq env s channelId out
      have hact : after (act env (.strand channelId out)) s = s.runStrand env channelId out := rfl
      rw [hact, heq]
      exact ⟨rfl, hm, id, rfl, rfl⟩
    | gameThreads ecs => exact ⟨rfl, hm, id, rfl, rfl⟩
    | accept | frame | completion => exact absurd henabled.1 (by simp [hm])
    | written | writeError | readError | idleTimer | pingTimer | flushTimer =>
      exact absurd (show s.mtx = false from henabled) (by simp [hm])
  obtain ⟨hrows, htm, hover, hkilled, hentering⟩ := hquiet
  refine ⟨iff_of_true ?_ ⟨fun h => absurd h hover, by simp [hkilled], by simp [hentering],
    by simp [hentering]⟩, fun _ => ⟨hpositive, .inr ⟨htm, hrows ▸ hempty⟩⟩⟩
  rintro channelId dbId (hbound | ⟨entry, hentry, -⟩)
  · rw [no_rows_iff.mp hempty] at hbound
    cases hbound
  · rw [hentering] at hentry
    cases hentry

/-- **One event**, from a state in which all rows would be saved. -/
theorem stepSaves (hs : SavesReady s) (hstep : ServerStep env s e t) : StepSaves env s e t := by
  have hpositive := rowsPositive_step hs.positive hstep
  rcases hs.state with ⟨hm, hready, hopen, hsavable⟩ | ⟨hm, hempty⟩
  · by_cases hover : s.Overflows e
    · exact stepSaves_overflow hpositive hm hready hopen hstep hover
    · exact stepSaves_fits hs.positive hm hready hopen hsavable hstep hover
  · exact stepSaves_stuck hpositive hm hempty hstep

end Step

/-- **When sessions are saved.** In a server with a database, a run loses no row that a login
has bound to a channel exactly if all its events keep the rows: no player with a row is killed
or gets the entity 0, no channel with a row is bound to another one, and no answer under the
lock overflows a queue while there are rows. -/
theorem sessions_saved_iff (env : Env) {s t : GameServer} {es : List ServerEvent}
    (hinit : ServerInit s) (hdao : s.hasPlayerDao = true) (hpool : s.hasDbPool = true) :
    Run (SavingStep env) s es t ↔ Run (guarded KeepsSaves (ServerStep env)) s es t := by
  have hnone : ∀ channelId, s.channelToDbId.lookup channelId = none := by
    intro channelId
    rw [hinit.channelToDbId]
    rfl
  have hready : SavesReady s := by
    refine ⟨fun channelId dbId hbound => ?_,
      .inl ⟨hinit.mtx, dbReady_init hinit hdao hpool, ?_, ?_⟩⟩
    · rw [hnone] at hbound
      cases hbound
    · intro id hid
      rw [hinit.channels] at hid
      exact absurd hid (AList.notMem_empty id)
    · intro channelId hrow
      obtain ⟨dbId, hbound⟩ := exists_lookup hrow
      cases (hnone channelId).symm.trans hbound
  refine Run.congr (I := SavesReady) hready ?_ ?_
  · rintro s e t hs ⟨hstep, hsaved⟩
    have hiff := stepSaves hs hstep
    exact hiff.2 (hiff.1.mp hsaved)
  · intro s e t hs
    constructor
    · rintro ⟨hstep, hsaved⟩
      exact ⟨(stepSaves hs hstep).1.mp hsaved, hstep⟩
    · rintro ⟨hkeeps, hstep⟩
      exact ⟨hstep, (stepSaves hs hstep).1.mpr hkeeps⟩

/-- The player on channel 1 hits itself. -/
def hitSelf (skillId : UInt32) : List UInt8 :=
  { targetId := 1, skillId, x := .zero, y := .zero, z := .zero, timestamp := 0
    : AttackReq }.serialize

/-- A login, and then an attack of the player on itself. -/
def loginAndHit (skillId : UInt32) : List ServerEvent :=
  [.accept 1 0, .frame 1 1001 kimLogin, .strand 1 {}, .completion 0,
    .frame 1 1004 (hitSelf skillId)]

/-- The player survives, so the session will be saved. -/
theorem sessions_saved_survivor :
    Run (SavingStep plainEnv) kimServer (loginAndHit 0)
      (execute plainEnv kimServer (loginAndHit 0)) := by
  refine (sessions_saved_iff plainEnv (plainServer_init true _) rfl rfl).mpr ?_
  exact run_execute_guarded (by decide +kernel) (by decide +kernel)

/-- The client of a player logs in again, as another one. -/
def loginTwice : List ServerEvent :=
  [.accept 1 0, .frame 1 1001 kimLogin, .strand 1 {}, .completion 0,
    .frame 1 1001 leeLogin, .strand 1 {}, .completion 0]

/-- A player who dies keeps the row, and nothing is saved when the channel closes. After a
second login only the second player is. -/
theorem killed_player_not_saved :
    let t := execute plainEnv kimServer (loginAndHit 18)
    let closed := execute plainEnv t [.readError 1]
    let u := execute plainEnv kimServer loginTwice
    (Reachable ServerInit (ServerStep plainEnv) t ∧
      t.mtx = false ∧ t.channelToDbId.lookup 1 = some 1 ∧ ¬ SavedOnClose t 1 1 ∧
      closed.channels.keys = [] ∧ closed.dbPool.pending 1 = []) ∧
    Reachable ServerInit (ServerStep plainEnv) u ∧
      (execute plainEnv kimServer (loginTwice.take 4)).channelToDbId.lookup 1 = some 1 ∧
      (execute plainEnv u [.readError 1]).dbPool.pending 1
        = [.close 2 .zero .zero .zero 1 1 0 100 (ascii "lee")] := by
  intro t closed u
  have hreach : Reachable ServerInit (ServerStep plainEnv) t :=
    plainServer_reachable (by decide +kernel)
  have hmtx : t.mtx = false := by decide +kernel
  have hbound : t.channelToDbId.lookup 1 = some 1 := by decide +kernel
  refine ⟨⟨hreach, hmtx, hbound, ?_, by decide +kernel, by decide +kernel⟩,
    plainServer_reachable (by decide +kernel), by decide +kernel, by decide +kernel⟩
  rintro ⟨w, hclose, hpost⟩
  have hnothing : (after (onClose 1) t).dbPool.pending 1 = [] := by decide +kernel
  rw [after_ok hclose, hpost, Pool.pending_post_self] at hnothing
  exact List.append_ne_nil_of_right_ne_nil _ (List.cons_ne_nil _ _) hnothing

end GameServer

end EcsAsioServer
