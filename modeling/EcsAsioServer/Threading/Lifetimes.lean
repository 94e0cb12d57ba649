import EcsAsioServer.Threading.MapThreadManager
import EcsAsioServer.Threading.Population

/-!
# What a map thread leaves behind (`map_thread_manager.cpp`, `map_thread.cpp`)

A map thread creates an entity for its map and one for each monster, and a move of a player to
the map creates one for the player. `destroy_map_thread` and `stop_all_map_threads` join the
thread and drop it; neither they nor the destructor of `MapThread` touch the entities or
`player_map_mapping_`.

- `Lived`: the manager with a log of the entities, each under the map that it was created for.
- `Lived.Logged`: what is in the log is active, and everything that a map thread knows of is in
  the log. No call of the manager destroys an entity (`extends_run`).
- `map_released_iff`: so a map that is destroyed has released everything exactly if there was
  nothing to release.
-/

namespace EcsAsioServer.Threading

open Ecs Protocol

variable {K : Type}

namespace MapThreadManager

/-- `stop_all_map_threads`. -/
def stopAllMapThreads (m : MapThreadManager K) : MapThreadManager K := { m with mapThreads := ∅ }

theorem lookup_onMap (m : MapThreadManager K) (mapId id : Int32) (f : MapState K → MapState K) :
    (m.onMap mapId f).mapThreads.lookup id
      = if id = mapId then
          (m.mapThreads.lookup mapId).map fun thread => (f ⟨thread, m.ecs, m.seed⟩).thread
        else m.mapThreads.lookup id := by
  unfold onMap
  cases hthread : m.mapThreads.lookup mapId with
  | none =>
    by_cases hid : id = mapId
    · subst hid
      simp [hthread]
    · simp [hid]
  | some thread =>
    by_cases hid : id = mapId
    · subst hid
      simp
    · simp [hid, AList.lookup_insert_ne hid]

theorem extends_onMap (m : MapThreadManager K) (mapId : Int32) {f : MapState K → MapState K}
    (hf : ∀ s, Service.Extends s.ecs (f s).ecs) : Service.Extends m.ecs (m.onMap mapId f).ecs := by
  unfold onMap
  cases m.mapThreads.lookup mapId with
  | none => exact .refl m.ecs
  | some thread => exact hf ⟨thread, m.ecs, m.seed⟩

end MapThreadManager

theorem isValid_createEntity (gs : Service K) :
    gs.createEntity.2.isValid gs.createEntity.1 = true := by
  show gs.entityManager.createEntity.2.isValid gs.entityManager.nextEntityId = true
  rw [EntityManager.isValid_createEntity]
  simp

section Lives

variable [Field K]

theorem extends_make (mapId : Int32) (mapName : List UInt8) (width height : K)
    (maxPlayers : Int32) (gs : Service K) :
    Service.Extends gs.createEntity.2 (MapThread.make mapId mapName width height maxPlayers gs).2 :=
  ((Service.Extends.addComponent ..).trans (.addComponent ..)).trans (.addComponent ..)

variable [LinearOrder K]

namespace MapState

/-- What moving the monsters leads to, and another value of the timer and one more monster
keep, `update_map` leads to. -/
theorem updateMap_keeps {P : MapState K → Prop} {dt : K} {s : MapState K}
    (hmove : P (s.updateMonsters dt)) (htimer : ∀ s timer, P s → P (s.setTimer timer))
    (hspawn : ∀ s, P s → P (spawnMonster s)) : P (s.updateMap dt) := by
  rw [updateMap, spawnMonsters_section]
  split
  · exact htimer _ _ hmove
  · exact spawnSection_keeps (htimer _ _ hmove) hspawn

/-- From `s` on entities were only added, and the monsters that are new are active. -/
structure Populates (s s' : MapState K) : Prop where
  extends_ecs : Service.Extends s.ecs s'.ecs
  mapEntity : s'.thread.mapEntity = s.thread.mapEntity
  monsters : ∀ e ∈ s'.thread.localMonsters,
    e ∈ s.thread.localMonsters ∨ s'.ecs.isValid e = true

theorem populates_updateMap (dt : K) (s : MapState K) : Populates s (s.updateMap dt) := by
  refine updateMap_keeps ⟨extends_updateMonsters dt s, rfl, fun e he => .inl he⟩ ?_ ?_
  · intro s' timer h
    exact ⟨h.extends_ecs, h.mapEntity, h.monsters⟩
  · intro s' h
    refine ⟨h.extends_ecs.trans (extends_spawnMonster s'), h.mapEntity, ?_⟩
    intro e he
    rcases List.mem_insert_iff.mp he with rfl | he
    · exact .inr (newMonster_equipped s').1
    · exact (h.monsters e he).imp_right ((extends_spawnMonster s').valid e)

end MapState

/-! ## The manager and its log -/

namespace MapThreadManager

/-- The calls that concern the lives of map threads. -/
inductive LifeOp (K : Type) where
  | call (op : MapOp K)
  | update (mapId : Int32) (dt : K)
  | stopAll

/-- What an event does. -/
def run (m : MapThreadManager K) : LifeOp K → MapThreadManager K
  | .call op => m.apply op
  | .update mapId dt => m.onMap mapId (MapState.updateMap dt)
  | .stopAll => m.stopAllMapThreads

/-- The monsters that a map has made. -/
def monstersOf (m : MapThreadManager K) (mapId : Int32) : List Entity :=
  (m.mapThreads.lookup mapId).elim [] (·.localMonsters)

variable {mapId : Int32}

omit [Field K] [LinearOrder K] in
theorem monstersOf_eq {m : MapThreadManager K} {thread : MapThread K}
    (h : m.mapThreads.lookup mapId = some thread) : m.monstersOf mapId = thread.localMonsters := by
  rw [monstersOf, h]
  rfl

/-- The entities that a call creates, with the maps they are for: the map, a player who is
moved, and the monsters that were not there before. -/
def created (m : MapThreadManager K) : LifeOp K → List (Int32 × Entity)
  | .call (.create mapId _ _ _ _) =>
    if mapId ∈ m.mapThreads then [] else [(mapId, m.ecs.createEntity.1)]
  | .call (.move _ _ toMap) =>
    if toMap ∈ m.mapThreads then [(toMap, m.ecs.createEntity.1)] else []
  | .update mapId dt =>
    (((m.run (.update mapId dt)).monstersOf mapId).filter (· ∉ m.monstersOf mapId)).map (mapId, ·)
  | _ => []

omit [Field K] [LinearOrder K] in
theorem extends_keptForPlayers (ecs : Service K) :
    KeptForPlayers fun m : MapThreadManager K => Service.Extends ecs m.ecs where
  add m mapId _ _ h := h.trans (m.extends_onMap mapId fun _ => .updateObjects ..)
  remove m mapId _ h := h.trans (m.extends_onMap mapId fun s => .refl s.ecs)
  createEntity m h := h.trans (.createEntity m.ecs)
  mapping _ _ h := h

omit [LinearOrder K] in
theorem extends_apply (m : MapThreadManager K) (op : MapOp K) :
    Service.Extends m.ecs (m.apply op).ecs := by
  have hkept := extends_keptForPlayers m.ecs
  have hrefl := Service.Extends.refl m.ecs
  cases op with
  | create mapId mapName width height maxPlayers =>
    unfold apply createMapThread
    dsimp only
    split
    · exact hrefl
    · exact (Service.Extends.createEntity m.ecs).trans (extends_make ..)
  | destroy mapId => exact hrefl
  | add mapId channelId entity => exact hkept.addPlayerToMap hrefl mapId channelId entity
  | remove mapId channelId => exact hkept.removePlayerFromMap hrefl mapId channelId
  | move channelId fromMap toMap => exact hkept.movePlayerToMap hrefl channelId fromMap toMap

/-- No call destroys an entity. -/
theorem extends_run (m : MapThreadManager K) (op : LifeOp K) :
    Service.Extends m.ecs (m.run op).ecs := by
  cases op with
  | call op => exact m.extends_apply op
  | update mapId dt =>
    exact m.extends_onMap mapId fun s => (MapState.populates_updateMap dt s).extends_ecs
  | stopAll => exact .refl m.ecs

omit [Field K] [LinearOrder K] in
theorem ecs_removePlayer (m : MapThreadManager K) (mapId channelId : Int32) :
    (m.onMap mapId (MapState.removePlayer channelId)).ecs = m.ecs := by
  unfold onMap
  cases m.mapThreads.lookup mapId <;> rfl

omit [Field K] [LinearOrder K] in
theorem mem_onMap {m : MapThreadManager K} {id : Int32} {f : MapState K → MapState K} :
    id ∈ (m.onMap mapId f).mapThreads ↔ id ∈ m.mapThreads := by
  rw [← AList.lookup_isSome, ← AList.lookup_isSome, lookup_onMap]
  by_cases hid : id = mapId
  · subst hid
    simp
  · simp [hid]

/-- A monster that was not there before the update is active. -/
theorem isValid_spawned {m : MapThreadManager K} {dt : K} {e : Entity}
    (hafter : e ∈ (m.run (.update mapId dt)).monstersOf mapId) (hnew : e ∉ m.monstersOf mapId) :
    (m.run (.update mapId dt)).ecs.isValid e = true := by
  unfold monstersOf at hafter hnew
  unfold run at hafter ⊢
  dsimp only at hafter ⊢
  rw [lookup_onMap, if_pos rfl] at hafter
  unfold onMap
  cases hthread : m.mapThreads.lookup mapId with
  | none =>
    rw [hthread] at hafter
    cases hafter
  | some thread =>
    rw [hthread] at hafter hnew
    exact ((MapState.populates_updateMap dt ⟨thread, m.ecs, m.seed⟩).monsters e
      hafter).resolve_left hnew

/-- What a call creates is active afterwards. -/
theorem isValid_created {m : MapThreadManager K} {op : LifeOp K} {x : Int32 × Entity}
    (hx : x ∈ m.created op) : (m.run op).ecs.isValid x.2 = true := by
  cases op with
  | stopAll => cases hx
  | update mapId dt =>
    obtain ⟨e, he, rfl⟩ := List.mem_map.mp hx
    obtain ⟨hafter, hbefore⟩ := List.mem_filter.mp he
    exact isValid_spawned hafter (of_decide_eq_true hbefore)
  | call op =>
    cases op with
    | destroy mapId => cases hx
    | add mapId channelId entity => cases hx
    | remove mapId channelId => cases hx
    | create mapId mapName width height maxPlayers =>
      unfold created at hx
      by_cases hmem : mapId ∈ m.mapThreads
      · simp [hmem] at hx
      · simp only [if_neg hmem, List.mem_singleton] at hx
        subst hx
        show (m.createMapThread mapId mapName width height maxPlayers).ecs.isValid _ = true
        unfold createMapThread
        rw [if_neg hmem]
        exact (extends_make ..).valid _ (isValid_createEntity m.ecs)
    | move channelId fromMap toMap =>
      unfold created at hx
      by_cases hmem : toMap ∈ m.mapThreads
      · simp only [if_pos hmem, List.mem_singleton] at hx
        subst hx
        show (m.movePlayerToMap channelId fromMap toMap).ecs.isValid _ = true
        unfold movePlayerToMap
        rw [if_pos (mem_onMap.mpr hmem), ecs_removePlayer]
        refine (extends_onMap _ toMap fun s => .updateObjects ..).valid _ ?_
        exact isValid_createEntity m.ecs
      · simp [hmem] at hx

/-- The map threads of `m'` are threads of `m` with the same entities. -/
def SameEntities (m m' : MapThreadManager K) : Prop :=
  ∀ mapId thread', m'.mapThreads.lookup mapId = some thread' →
    ∃ thread, m.mapThreads.lookup mapId = some thread ∧
      thread.mapEntity = thread'.mapEntity ∧ thread.localMonsters = thread'.localMonsters

namespace SameEntities

omit [Field K] [LinearOrder K]

theorem refl (m : MapThreadManager K) : SameEntities m m :=
  fun _ thread h => ⟨thread, h, rfl, rfl⟩

theorem trans {m m' m'' : MapThreadManager K} (h : SameEntities m m')
    (h' : SameEntities m' m'') : SameEntities m m'' := by
  intro mapId thread'' hthread''
  obtain ⟨thread', hthread', hentity', hmonsters'⟩ := h' mapId thread'' hthread''
  obtain ⟨thread, hthread, hentity, hmonsters⟩ := h mapId thread' hthread'
  exact ⟨thread, hthread, hentity.trans hentity', hmonsters.trans hmonsters'⟩

theorem onMap (m : MapThreadManager K) (mapId : Int32) {f : MapState K → MapState K}
    (hentity : ∀ s, (f s).thread.mapEntity = s.thread.mapEntity)
    (hmonsters : ∀ s, (f s).thread.localMonsters = s.thread.localMonsters) :
    SameEntities m (m.onMap mapId f) := by
  intro id thread' hthread'
  rw [lookup_onMap] at hthread'
  by_cases hid : id = mapId
  · subst hid
    rw [if_pos rfl, Option.map_eq_some_iff] at hthread'
    obtain ⟨thread, hthread, rfl⟩ := hthread'
    let s : MapState K := ⟨thread, m.ecs, m.seed⟩
    exact ⟨thread, hthread, (hentity s).symm, (hmonsters s).symm⟩
  · rw [if_neg hid] at hthread'
    exact ⟨thread', hthread', rfl, rfl⟩

theorem keptForPlayers (m : MapThreadManager K) : KeptForPlayers (SameEntities m) where
  add m' mapId _ _ h := h.trans (onMap m' mapId (fun _ => rfl) fun _ => rfl)
  remove m' mapId _ h := h.trans (onMap m' mapId (fun _ => rfl) fun _ => rfl)
  createEntity _ h := h
  mapping _ _ h := h

end SameEntities

/-- The entities that the map threads of `m'` know of are known in `m`, or are among the
new ones. -/
def Accounts (m m' : MapThreadManager K) (new : List (Int32 × Entity)) : Prop :=
  ∀ mapId thread', m'.mapThreads.lookup mapId = some thread' →
    ((mapId, thread'.mapEntity) ∈ new ∨
      ∃ thread, m.mapThreads.lookup mapId = some thread ∧
        thread.mapEntity = thread'.mapEntity) ∧
    ∀ e ∈ thread'.localMonsters, e ∈ m.monstersOf mapId ∨ (mapId, e) ∈ new

omit [Field K] [LinearOrder K] in
theorem SameEntities.accounts {m m' : MapThreadManager K} (h : SameEntities m m')
    (new : List (Int32 × Entity)) : Accounts m m' new := by
  intro mapId thread' hthread'
  obtain ⟨thread, hthread, hentity, hmonsters⟩ := h mapId thread' hthread'
  refine ⟨.inr ⟨thread, hthread, hentity⟩, fun e he => .inl ?_⟩
  rw [monstersOf_eq hthread, hmonsters]
  exact he

theorem accounts_update (m : MapThreadManager K) (mapId : Int32) (dt : K) :
    Accounts m (m.run (.update mapId dt)) (m.created (.update mapId dt)) := by
  intro id thread' hthread'
  have hlookup := hthread'
  rw [run, lookup_onMap] at hlookup
  by_cases hid : id = mapId
  · subst hid
    rw [if_pos rfl, Option.map_eq_some_iff] at hlookup
    obtain ⟨thread, hthread, rfl⟩ := hlookup
    have hpopulates := MapState.populates_updateMap dt ⟨thread, m.ecs, m.seed⟩
    refine ⟨.inr ⟨thread, hthread, hpopulates.mapEntity.symm⟩, ?_⟩
    intro e he
    by_cases hold : e ∈ m.monstersOf id
    · exact .inl hold
    · refine .inr (List.mem_map_of_mem (List.mem_filter.mpr ⟨?_, decide_eq_true hold⟩))
      rw [monstersOf_eq hthread']
      exact he
  · rw [if_neg hid] at hlookup
    refine ⟨.inr ⟨thread', hlookup, rfl⟩, fun e he => .inl ?_⟩
    rw [monstersOf_eq hlookup]
    exact he

omit [LinearOrder K] in
theorem accounts_create (m : MapThreadManager K) (mapId : Int32) (mapName : List UInt8)
    (width height : K) (maxPlayers : Int32) :
    Accounts m (m.createMapThread mapId mapName width height maxPlayers)
      (if mapId ∈ m.mapThreads then [] else [(mapId, m.ecs.createEntity.1)]) := by
  unfold createMapThread
  by_cases hmem : mapId ∈ m.mapThreads
  · rw [if_pos hmem]
    exact (SameEntities.refl m).accounts _
  · rw [if_neg hmem, if_neg hmem]
    intro id thread' hthread'
    by_cases hid : id = mapId
    · subst hid
      dsimp only at hthread'
      rw [AList.lookup_insert] at hthread'
      cases hthread'
      exact ⟨.inl List.mem_cons_self, fun e he => by cases he⟩
    · dsimp only at hthread'
      rw [AList.lookup_insert_ne hid] at hthread'
      exact (SameEntities.refl m).accounts _ id thread' hthread'

/-- Every operation keeps the account of entities. -/
theorem accounts_run (m : MapThreadManager K) (op : LifeOp K) :
    Accounts m (m.run op) (m.created op) := by
  have hkept := SameEntities.keptForPlayers m
  cases op with
  | stopAll => exact fun mapId thread' h => by cases h
  | update mapId dt => exact m.accounts_update mapId dt
  | call op =>
    cases op with
    | create mapId mapName width height maxPlayers =>
      exact m.accounts_create mapId mapName width height maxPlayers
    | destroy mapId =>
      refine SameEntities.accounts (fun id thread' h => ?_) _
      have hid : id ≠ mapId := by
        rintro rfl
        rw [run, apply, destroyMapThread, AList.lookup_erase] at h
        cases h
      rw [run, apply, destroyMapThread, AList.lookup_erase_ne hid] at h
      exact ⟨thread', h, rfl, rfl⟩
    | add mapId channelId entity =>
      exact (hkept.addPlayerToMap (.refl m) mapId channelId entity).accounts _
    | remove mapId channelId =>
      exact (hkept.removePlayerFromMap (.refl m) mapId channelId).accounts _
    | move channelId fromMap toMap =>
      exact (hkept.movePlayerToMap (.refl m) channelId fromMap toMap).accounts _

end MapThreadManager

/-- The manager, with the entities that were created for each map. -/
structure Lived (K : Type) where
  manager : MapThreadManager K
  log : List (Int32 × Entity) := []

namespace Lived

open MapThreadManager

/-- One event, with the entities that it makes. -/
def next (s : Lived K) (op : LifeOp K) : Lived K where
  manager := s.manager.run op
  log := s.log ++ s.manager.created op

/-- What was created for the map is not active any more, and no player is said to be there. -/
def Released (s : Lived K) (mapId : Int32) : Prop :=
  (∀ e, (mapId, e) ∈ s.log → s.manager.ecs.isValid e = false) ∧
    ∀ channelId, s.manager.playerMapMapping.lookup channelId ≠ some mapId

/-- What is in the log is active, and the entities of the map threads are in the log. -/
structure Logged (s : Lived K) : Prop where
  active : ∀ x ∈ s.log, s.manager.ecs.isValid x.2 = true
  map : ∀ mapId thread, s.manager.mapThreads.lookup mapId = some thread →
    (mapId, thread.mapEntity) ∈ s.log
  monsters : ∀ mapId, ∀ e ∈ s.manager.monstersOf mapId, (mapId, e) ∈ s.log

/-- What an operation creates and destroys is logged. -/
theorem Logged.next {s : Lived K} (h : s.Logged) (op : LifeOp K) : (s.next op).Logged := by
  have haccounts := s.manager.accounts_run op
  refine ⟨?_, ?_, ?_⟩
  · intro x hx
    rcases List.mem_append.mp hx with hx | hx
    · exact (s.manager.extends_run op).valid _ (h.active x hx)
    · exact isValid_created hx
  · intro mapId thread' hthread'
    rcases (haccounts mapId thread' hthread').1 with hnew | ⟨thread, hthread, hentity⟩
    · exact List.mem_append_right _ hnew
    · exact List.mem_append_left _ (hentity ▸ h.map mapId thread hthread)
  · intro mapId e he
    unfold monstersOf at he
    cases hthread' : (s.next op).manager.mapThreads.lookup mapId with
    | none =>
      rw [hthread'] at he
      cases he
    | some thread' =>
      rw [hthread'] at he
      rcases (haccounts mapId thread' hthread').2 e he with hold | hnew
      · exact List.mem_append_left _ (h.monsters mapId e hold)
      · exact List.mem_append_right _ hnew

/-- From a manager without map threads on. -/
theorem logged_run (ecs : Service K) (seed : UInt32) (ops : List (LifeOp K)) :
    (ops.foldl next { manager := { ecs, seed } }).Logged := by
  refine Loop.keeps (I := Logged) ⟨?_, ?_, ?_⟩ fun s op _ h => h.next op
  · exact fun x hx => by cases hx
  · exact fun mapId thread h => by cases h
  · exact fun mapId e he => by cases he

omit [Field K] [LinearOrder K] in
/-- Dropping map threads releases nothing. -/
theorem Logged.released_iff {s : Lived K} (h : s.Logged) (mapId : Int32)
    (threads : AList fun _ : Int32 => MapThread K) :
    Released { s with manager := { s.manager with mapThreads := threads } } mapId ↔
      (∀ e, (mapId, e) ∉ s.log) ∧
        ∀ channelId, s.manager.playerMapMapping.lookup channelId ≠ some mapId := by
  refine and_congr_left fun _ => forall_congr' fun e => ?_
  constructor
  · intro hreleased hlogged
    have hactive := h.active _ hlogged
    rw [hreleased hlogged] at hactive
    cases hactive
  · exact fun hnot hlogged => absurd hlogged hnot

/-- **A map releases nothing.** After any calls, a map that is destroyed, or all of them, has
released what was created for it exactly if nothing was created for it and no player is said
to be there; so a map that exists never has. What it knows of is active all along. -/
theorem map_released_iff (ecs : Service K) (seed : UInt32) (ops : List (LifeOp K))
    (mapId : Int32) :
    let s : Lived K := ops.foldl next { manager := { ecs, seed } }
    ((s.next (.call (.destroy mapId))).Released mapId ↔
      (∀ e, (mapId, e) ∉ s.log) ∧
        ∀ channelId, s.manager.playerMapMapping.lookup channelId ≠ some mapId) ∧
    ((s.next .stopAll).Released mapId ↔
      (∀ e, (mapId, e) ∉ s.log) ∧
        ∀ channelId, s.manager.playerMapMapping.lookup channelId ≠ some mapId) ∧
    ∀ thread, s.manager.mapThreads.lookup mapId = some thread →
      (¬(s.next (.call (.destroy mapId))).Released mapId ∧ ¬(s.next .stopAll).Released mapId) ∧
      ∀ e, e = thread.mapEntity ∨ e ∈ thread.localMonsters →
        (mapId, e) ∈ s.log ∧ s.manager.ecs.isValid e = true := by
  intro s
  have hs : s.Logged := logged_run ecs seed ops
  have hdestroy : s.next (.call (.destroy mapId)) = { s with
      manager := { s.manager with mapThreads := s.manager.mapThreads.erase mapId } } := by
    simp only [next, created, List.append_nil]
    rfl
  have hstop : s.next .stopAll = { s with manager := { s.manager with mapThreads := ∅ } } := by
    simp only [next, created, List.append_nil]
    rfl
  rw [hdestroy, hstop, hs.released_iff, hs.released_iff]
  refine ⟨Iff.rfl, Iff.rfl, ?_⟩
  intro thread hthread
  have hmap := hs.map mapId thread hthread
  refine ⟨⟨fun h => h.1 _ hmap, fun h => h.1 _ hmap⟩, ?_⟩
  intro e he
  have hlogged : (mapId, e) ∈ s.log := by
    rcases he with rfl | he
    · exact hmap
    · refine hs.monsters mapId e ?_
      rw [monstersOf_eq hthread]
      exact he
  exact ⟨hlogged, hs.active _ hlogged⟩

end Lived

end Lives

/-- A map with three monsters and a player is destroyed. The five entities are still active
and the player is still said to be on the map. -/
theorem map_outlived :
    let ops : List (MapThreadManager.LifeOp ℚ) :=
      [.call (.create 1 (ascii "Town") 1000 1000 100), .update 1 30, .call (.move 7 2 1),
        .call (.destroy 1)]
    let s : Lived ℚ := ops.foldl Lived.next { manager := {} }
    s.log = [(1, 1), (1, 4), (1, 3), (1, 2), (1, 5)] ∧
    s.manager.mapThreads.keys = [] ∧
    (s.log.all fun x => s.manager.ecs.isValid x.2) = true ∧
    s.manager.getPlayerMap 7 = 1 := by
  intro ops s
  exact ⟨by decide +kernel, by decide +kernel, by decide +kernel, by decide +kernel⟩

end EcsAsioServer.Threading
