import EcsAsioServer.Game.Accounts

/-!
# Entities of players

A login creates an entity for its player and enters it in `channel_to_entity_`; a kill and
`on_close` destroy the entity they find there. A second login on the same channel puts its
own entity in the place of the first one, which stays active without an owner.

- `Tied`: the entities in the map are active players, pairwise different and never 0. This
  is an invariant of the server as long as the 32-bit ids do not wrap around and the game
  threads leave the players' entities alone (`Orderly`).
- `NoLeaks`: conversely every active player belongs to one connection.
- `no_leaks_iff`: no player leaks along a run exactly if every login that brings a player
  into the game does so on a channel without an entity.
-/

namespace EcsAsioServer

open Db Ecs FrameCodec Protocol StateProgram Transition

namespace Sessions

/-- An active entity that is a player. -/
def Live (S : Sessions) (entity : Entity) : Prop :=
  S.manager.isValid entity = true ∧ (S.players entity).isSome

instance (S : Sessions) : DecidablePred S.Live := fun _ =>
  inferInstanceAs (Decidable (_ ∧ _))

/-- The channel and its entity belong together. -/
structure Linked (S : Sessions) (channelId : Int32) (entity : Entity) : Prop where
  registered : channelId ∈ S.channels
  useEcs : S.useEcs = true
  ne_zero : entity ≠ 0
  issued : entity < S.manager.nextEntityId
  live : S.Live entity

/-- The entities of the channels are players, each of one channel. -/
structure Tied (S : Sessions) : Prop where
  next_ne_zero : S.manager.nextEntityId ≠ 0
  linked : ∀ channelId entity, S.entities.lookup channelId = some entity →
    S.Linked channelId entity
  inj : ∀ channelId channelId' entity, S.entities.lookup channelId = some entity →
    S.entities.lookup channelId' = some entity → channelId = channelId'

/-- Every player belongs to a channel. -/
def Owned (S : Sessions) : Prop :=
  ∀ entity, S.Live entity → ∃ channelId, S.entities.lookup channelId = some entity

/-- The game threads create entities and change components, but no entity of a player. -/
structure Calm (S : Sessions) (manager : EntityManager) (players : Entity → Option Player) :
    Prop where
  players_eq : players = S.players
  issued : S.manager.nextEntityId ≤ manager.nextEntityId
  valid : ∀ entity, (S.players entity).isSome →
    manager.isValid entity = S.manager.isValid entity

/-- What may happen to the sessions: the ids do not wrap around, and the game threads are
calm. -/
def Orderly (S : Sessions) : SessionEvent → Prop
  | .enter _ => S.manager.nextEntityId < S.manager.nextEntityId + 1
  | .simulate manager players => S.Calm manager players
  | _ => True

variable {S : Sessions} {entry : Entry} {channelId : Int32}

theorem live_enter (entity : Entity) :
    (S.enter entry).Live entity ↔ entity = S.manager.nextEntityId ∨ S.Live entity := by
  unfold Live enter
  rw [EntityManager.isValid_createEntity, Bool.or_eq_true, decide_eq_true_iff]
  by_cases h : entity = S.manager.nextEntityId
  · subst h
    simp
  · simp [h]

theorem live_kill (entity : Entity) :
    (S.kill channelId).Live entity ↔ entity ≠ S.entity channelId ∧ S.Live entity := by
  unfold Live kill
  rw [EntityManager.isValid_destroyEntity]
  simp [and_assoc]

/-- What `leave` destroys. -/
theorem live_leave (entity : Entity) :
    (S.leave channelId).Live entity ↔
      S.Live entity ∧ ¬ (entity = S.entity channelId ∧ entity ≠ 0 ∧ S.useEcs) := by
  unfold Live leave
  dsimp only
  split
  · next hcond =>
    rw [EntityManager.isValid_destroyEntity]
    by_cases h : entity = S.entity channelId
    · subst h
      simp [hcond.1, hcond.2]
    · simp [h]
  · next hcond =>
    constructor
    · intro hlive
      refine ⟨hlive, ?_⟩
      rintro ⟨rfl, hcond'⟩
      exact hcond hcond'
    · exact fun h => h.1

theorem live_travel {mapId : Int32} (entity : Entity) :
    (S.travel channelId mapId).Live entity ↔ S.Live entity := by
  unfold Live travel
  cases S.entities.lookup channelId with
  | none => rfl
  | some e =>
    by_cases h : entity = e
    · subst h
      simp [relocate]
    · simp [relocate, h]

theorem live_simulate {manager : EntityManager} {players : Entity → Option Player}
    (h : S.Calm manager players) (entity : Entity) :
    { S with manager, players }.Live entity ↔ S.Live entity := by
  unfold Live
  dsimp only
  rw [h.players_eq]
  constructor
  · rintro ⟨hvalid, hplayer⟩
    exact ⟨(h.valid entity hplayer) ▸ hvalid, hplayer⟩
  · rintro ⟨hvalid, hplayer⟩
    exact ⟨(h.valid entity hplayer).trans hvalid, hplayer⟩

theorem nextEntityId_destroy (manager : EntityManager) (entity : Entity) :
    (manager.destroyEntity entity).nextEntityId = manager.nextEntityId := by
  unfold EntityManager.destroyEntity
  split <;> rfl

theorem lookup_entities_enter (channelId : Int32) :
    (S.enter entry).entities.lookup channelId
      = if channelId = entry.channelId then some S.manager.nextEntityId
        else S.entities.lookup channelId :=
  lookup_insert_eq ..

theorem lookup_eq_some_iff {entity : Entity} (hne : entity ≠ 0) :
    S.entities.lookup channelId = some entity ↔ S.entity channelId = entity := by
  unfold Sessions.entity
  cases S.entities.lookup channelId with
  | none => simp [hne.symm]
  | some e => simp

/-! ## The invariant -/

/-- A player enters with a new entity. -/
theorem Tied.enter (h : S.Tied) (hid : entry.channelId ∈ S.channels) (hecs : S.useEcs = true)
    (hnext : S.manager.nextEntityId < S.manager.nextEntityId + 1) : (S.enter entry).Tied := by
  constructor
  · intro hzero
    rw [show S.manager.nextEntityId + 1 = 0 from hzero] at hnext
    exact UInt32.not_lt_zero hnext
  · intro channelId entity hlookup
    rw [lookup_entities_enter] at hlookup
    split at hlookup
    · next heq =>
      cases hlookup
      subst heq
      exact ⟨hid, hecs, h.next_ne_zero, hnext, (live_enter _).mpr (.inl rfl)⟩
    · have hold := h.linked channelId entity hlookup
      exact ⟨hold.registered, hecs, hold.ne_zero, UInt32.lt_trans hold.issued hnext,
        (live_enter _).mpr (.inr hold.live)⟩
  · -- the new entity is none of the old ones
    have hfresh : ∀ channelId, S.entities.lookup channelId ≠ some S.manager.nextEntityId :=
      fun channelId hlookup => UInt32.lt_irrefl _ (h.linked channelId _ hlookup).issued
    intro channelId channelId' entity hlookup hlookup'
    rw [lookup_entities_enter] at hlookup hlookup'
    split at hlookup <;> split at hlookup'
    · next heq heq' => rw [heq, heq']
    · cases hlookup
      exact absurd hlookup' (hfresh channelId')
    · cases hlookup'
      exact absurd hlookup (hfresh channelId)
    · exact h.inj channelId channelId' entity hlookup hlookup'

/-- The channel loses its entity, and possibly its registration. -/
theorem Tied.forget (h : S.Tied) {T : Sessions}
    (hentities : T.entities = S.entities.erase channelId)
    (hchannels : ∀ id ≠ channelId, id ∈ S.channels → id ∈ T.channels)
    (hecs : T.useEcs = S.useEcs) (hnext : T.manager.nextEntityId = S.manager.nextEntityId)
    (hlive : ∀ entity ≠ S.entity channelId, S.Live entity → T.Live entity) : T.Tied := by
  constructor
  · rw [hnext]
    exact h.next_ne_zero
  · intro id entity hlookup
    rw [hentities, lookup_erase_eq_some] at hlookup
    obtain ⟨hne, hlookup⟩ := hlookup
    have hold := h.linked id entity hlookup
    refine ⟨hchannels id hne hold.registered, hecs.trans hold.useEcs, hold.ne_zero, ?_, ?_⟩
    · rw [hnext]
      exact hold.issued
    · refine hlive entity ?_ hold.live
      intro hsame
      have hsame' := (lookup_eq_some_iff hold.ne_zero).mpr hsame.symm
      exact hne (h.inj id channelId entity hlookup hsame')
  · intro id id' entity hlookup hlookup'
    rw [hentities, lookup_erase_eq_some] at hlookup hlookup'
    exact h.inj id id' entity hlookup.2 hlookup'.2

theorem Tied.kill (h : S.Tied) (channelId : Int32) : (S.kill channelId).Tied :=
  h.forget rfl (fun _ _ hid => hid) rfl (nextEntityId_destroy ..)
    fun entity hne hlive => (live_kill entity).mpr ⟨hne, hlive⟩

theorem Tied.leave (h : S.Tied) (channelId : Int32) : (S.leave channelId).Tied := by
  refine h.forget rfl (fun id hne hid => AList.mem_erase.mpr ⟨hne, hid⟩) rfl ?_
    fun entity hne hlive => (live_leave entity).mpr ⟨hlive, fun h => hne h.1⟩
  show (if _ then _ else _ : EntityManager).nextEntityId = _
  split
  · exact nextEntityId_destroy ..
  · rfl

/-- Nothing changes but the connections, the maps and what the players know. -/
theorem Tied.frame (h : S.Tied) {T : Sessions} (hentities : T.entities = S.entities)
    (hchannels : ∀ id, id ∈ S.channels → id ∈ T.channels) (hecs : T.useEcs = S.useEcs)
    (hnext : S.manager.nextEntityId ≤ T.manager.nextEntityId)
    (hlive : ∀ entity, S.Live entity → T.Live entity) : T.Tied := by
  constructor
  · intro hzero
    rw [hzero] at hnext
    exact h.next_ne_zero (UInt32.le_zero_iff.mp hnext)
  · intro id entity hlookup
    rw [hentities] at hlookup
    have hold := h.linked id entity hlookup
    exact ⟨hchannels id hold.registered, hecs.trans hold.useEcs, hold.ne_zero,
      UInt32.lt_of_lt_of_le hold.issued hnext, hlive entity hold.live⟩
  · intro id id' entity hlookup hlookup'
    rw [hentities] at hlookup hlookup'
    exact h.inj id id' entity hlookup hlookup'

/-- **One event keeps the invariant.** -/
theorem Tied.apply (h : S.Tied) {ev : SessionEvent} (horderly : S.Orderly ev)
    (hadmitted : ∀ entry, ev = .enter entry → entry.channelId ∈ S.channels ∧ S.useEcs = true) :
    (S.apply ev).Tied := by
  cases ev with
  | connect channelId =>
    refine h.frame rfl (fun id hid => ?_) rfl (UInt32.le_refl _) fun _ hlive => hlive
    exact (AList.mem_insert _).mpr (.inr hid)
  | enter entry =>
    obtain ⟨hid, hecs⟩ := hadmitted entry rfl
    exact h.enter hid hecs horderly
  | travel channelId mapId =>
    exact h.frame rfl (fun _ hid => hid) rfl (UInt32.le_refl _)
      fun entity hlive => (live_travel entity).mpr hlive
  | kill channelId => exact h.kill channelId
  | leave channelId => exact h.leave channelId
  | simulate manager players =>
    exact h.frame rfl (fun _ hid => hid) rfl horderly.issued
      fun entity hlive => (live_simulate horderly entity).mpr hlive

/-! ## Players without a channel -/

/-- A login leaves no player behind exactly if its channel had none. -/
theorem owned_enter (h : S.Tied) (howned : S.Owned) :
    (S.enter entry).Owned ↔ entry.channelId ∉ S.entities := by
  constructor
  · intro howned' hmem
    obtain ⟨old, hold⟩ := exists_lookup hmem
    have hlinked := h.linked _ _ hold
    -- the old entity is still there, but its channel has the new one
    obtain ⟨channelId, hlookup⟩ := howned' old ((live_enter old).mpr (.inr hlinked.live))
    rw [lookup_entities_enter] at hlookup
    split at hlookup
    · cases hlookup
      exact UInt32.lt_irrefl _ hlinked.issued
    · next hne => exact hne (h.inj _ _ _ hlookup hold)
  · intro hfree entity hlive
    rcases (live_enter entity).mp hlive with rfl | hlive
    · exact ⟨entry.channelId, by rw [lookup_entities_enter, if_pos rfl]⟩
    · obtain ⟨channelId, hlookup⟩ := howned entity hlive
      refine ⟨channelId, ?_⟩
      rw [lookup_entities_enter, if_neg]
      · exact hlookup
      · rintro rfl
        exact hfree (mem_of_lookup hlookup)

theorem owned_kill (howned : S.Owned) (channelId : Int32) : (S.kill channelId).Owned := by
  intro entity hlive
  obtain ⟨hne, hlive⟩ := (live_kill entity).mp hlive
  obtain ⟨id, hlookup⟩ := howned entity hlive
  refine ⟨id, lookup_erase_eq_some.mpr ⟨?_, hlookup⟩⟩
  rintro rfl
  rw [Sessions.entity, hlookup, Option.getD_some] at hne
  exact hne rfl

/-- A channel takes its player with it, and no other one. -/
theorem owned_leave (h : S.Tied) (channelId : Int32) :
    (S.leave channelId).Owned ↔ S.Owned := by
  constructor
  · intro howned entity hlive
    by_cases hown : entity = S.entity channelId ∧ entity ≠ 0 ∧ S.useEcs
    · exact ⟨channelId, (lookup_eq_some_iff hown.2.1).mpr hown.1.symm⟩
    · obtain ⟨id, hlookup⟩ := howned entity ((live_leave entity).mpr ⟨hlive, hown⟩)
      exact ⟨id, (lookup_erase_eq_some.mp hlookup).2⟩
  · intro howned entity hlive
    obtain ⟨hlive, hkept⟩ := (live_leave entity).mp hlive
    obtain ⟨id, hlookup⟩ := howned entity hlive
    refine ⟨id, lookup_erase_eq_some.mpr ⟨?_, hlookup⟩⟩
    rintro rfl
    have hlinked := h.linked id entity hlookup
    exact hkept ⟨((lookup_eq_some_iff hlinked.ne_zero).mp hlookup).symm, hlinked.ne_zero,
      hlinked.useEcs⟩

/-- **One event**: if every player had a channel before, so it does afterwards unless a
player has entered on a channel that had one. -/
theorem owned_apply (h : S.Tied) (howned : S.Owned) {ev : SessionEvent} (horderly : S.Orderly ev) :
    (S.apply ev).Owned ↔ ∀ entry, ev = .enter entry → entry.channelId ∉ S.entities := by
  cases ev with
  | enter entry =>
    refine (owned_enter h howned).trans ⟨?_, fun hfree => hfree entry rfl⟩
    rintro hfree entry' heq
    cases heq
    exact hfree
  | connect channelId => exact ⟨fun _ => nofun, fun _ => howned⟩
  | travel channelId mapId =>
    exact ⟨fun _ => nofun, fun _ entity hlive => howned entity ((live_travel entity).mp hlive)⟩
  | kill channelId => exact ⟨fun _ => nofun, fun _ => owned_kill howned channelId⟩
  | leave channelId => exact ⟨fun _ => nofun, fun _ => (owned_leave h channelId).mpr howned⟩
  | simulate manager players =>
    exact ⟨fun _ => nofun,
      fun _ entity hlive => howned entity ((live_simulate horderly entity).mp hlive)⟩

end Sessions

namespace GameServer

/-- **No leaked players**: every active player is the entity of exactly one connection. -/
def NoLeaks (s : GameServer) : Prop :=
  ∀ entity, s.sessions.Live entity →
    ∃! channelId, channelId ∈ s.channels ∧ s.channelToEntity.lookup channelId = some entity

variable {s : GameServer} {env : Env} {e : ServerEvent}

theorem noLeaks_iff (h : s.sessions.Tied) : NoLeaks s ↔ s.sessions.Owned := by
  constructor
  · intro hleaks entity hlive
    obtain ⟨channelId, ⟨-, hlookup⟩, -⟩ := hleaks entity hlive
    exact ⟨channelId, hlookup⟩
  · intro howned entity hlive
    obtain ⟨channelId, hlookup⟩ := howned entity hlive
    refine ⟨channelId, ⟨(h.linked channelId entity hlookup).registered, hlookup⟩, ?_⟩
    rintro channelId' ⟨-, hlookup'⟩
    exact h.inj channelId' channelId entity hlookup' hlookup

/-- The 32-bit ids do not wrap around, and the game threads leave players alone. -/
structure Orderly (env : Env) (s : GameServer) (e : ServerEvent) : Prop where
  ids : ∀ entry, sessionEvent env s e = some (.enter entry) →
    s.ecs.entityManager.nextEntityId < s.ecs.entityManager.nextEntityId + 1
  calm : ∀ ecs, e = .gameThreads ecs →
    s.sessions.Calm ecs.entityManager (ecs.component .player)

theorem orderly_of_ids (hio : ∀ ecs, e ≠ .gameThreads ecs)
    (hids : s.ecs.entityManager.nextEntityId < s.ecs.entityManager.nextEntityId + 1) :
    Orderly env s e :=
  ⟨fun _ _ => hids, fun ecs heq => absurd heq (hio ecs)⟩

theorem Orderly.sessions (h : Orderly env s e) {ev : SessionEvent}
    (hev : sessionEvent env s e = some ev) : s.sessions.Orderly ev := by
  cases ev with
  | enter entry => exact h.ids entry hev
  | simulate manager players =>
    cases sessionEvent_change hev
    exact h.calm _ rfl
  | connect | travel | kill | leave => trivial

/-- A player who enters does so on a channel without an entity. -/
def EntersOnce (env : Env) (s : GameServer) (e : ServerEvent) : Prop :=
  ∀ entry, sessionEvent env s e = some (.enter entry) → entry.channelId ∉ s.channelToEntity

instance (env : Env) (s : GameServer) (e : ServerEvent) : Decidable (EntersOnce env s e) :=
  match h : sessionEvent env s e with
  | some (.enter entry) =>
    decidable_of_iff (entry.channelId ∉ s.channelToEntity)
      ⟨fun hfree => by simpa [EntersOnce, h] using hfree, fun honce => honce entry h⟩
  | none | some (.connect _) | some (.travel ..) | some (.kill _) | some (.leave _)
  | some (.simulate ..) =>
    .isTrue (by simp [EntersOnce, h])

/-- No player is in the game yet. -/
structure NoPlayers (s : GameServer) : Prop where
  next_ne_zero : s.ecs.entityManager.nextEntityId ≠ 0
  none_live : ∀ entity, ¬ s.sessions.Live entity

theorem tied_init (hinit : ServerInit s) (hnone : NoPlayers s) :
    s.sessions.Tied := by
  have hentities : s.sessions.entities = ∅ := hinit.channelToEntity
  refine ⟨hnone.next_ne_zero, ?_, ?_⟩
  · intro channelId entity hlookup
    rw [hentities] at hlookup
    cases hlookup
  · intro channelId channelId' entity hlookup
    rw [hentities] at hlookup
    cases hlookup

/-- What an event does before a channel may close. -/
theorem tied_event (h : s.sessions.Tied) (horderly : Orderly env s e) (henabled : Enabled s e) :
    (sessionsAfter env s e).Tied := by
  unfold sessionsAfter
  cases hev : sessionEvent env s e with
  | none => exact h
  | some ev =>
    refine h.apply (horderly.sessions hev) ?_
    rintro entry rfl
    have hadmitted := sessionEvent_admitted henabled hev
    exact ⟨hadmitted.registered, hadmitted.useEcs⟩

theorem tied_step {t : GameServer} (h : s.sessions.Tied)
    (hstep : guarded (Orderly env) (ServerStep env) s e t) : t.sessions.Tied := by
  have hevent := tied_event h hstep.1 hstep.2.1
  obtain ⟨channelId, hsame | hleft, -⟩ := serverStep_sessions hstep.2
  · rw [hsame]
    exact hevent
  · rw [hleft]
    exact hevent.leave channelId

theorem noLeaks_step {t : GameServer} (h : s.sessions.Tied) (hs : NoLeaks s)
    (hstep : guarded (Orderly env) (ServerStep env) s e t) :
    NoLeaks t ↔ EntersOnce env s e := by
  have howned := (noLeaks_iff h).mp hs
  have hevent := tied_event h hstep.1 hstep.2.1
  have honce : (sessionsAfter env s e).Owned ↔ EntersOnce env s e := by
    unfold EntersOnce sessionsAfter
    cases hev : sessionEvent env s e with
    | none => exact ⟨fun _ => nofun, fun _ => howned⟩
    | some ev =>
      refine (Sessions.owned_apply h howned (hstep.1.sessions hev)).trans ?_
      simp only [Option.some.injEq]
      rfl
  rw [noLeaks_iff (tied_step h hstep), ← honce]
  obtain ⟨channelId, hsame | hleft, -⟩ := serverStep_sessions hstep.2
  · rw [hsame]
  · rw [hleft]
    exact Sessions.owned_leave hevent channelId

theorem kimServer_noPlayers : NoPlayers kimServer where
  next_ne_zero := by decide
  none_live entity hlive := by
    have hvalid : kimServer.sessions.manager.isValid entity = false := rfl
    rw [hlive.1] at hvalid
    cases hvalid

/-- A client sends its LOGIN twice, and then goes. -/
def doubleLogin : List ServerEvent :=
  [.accept 1 0, .frame 1 1001 kimLogin, .frame 1 1001 kimLogin, .strand 1 {}, .strand 1 {},
    .completion 0, .completion 0, .readError 1]

end GameServer

end EcsAsioServer
