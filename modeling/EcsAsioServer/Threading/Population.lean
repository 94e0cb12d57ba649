import EcsAsioServer.Threading.MapThread

/-!
# Players and monsters of a map (`server/game/threading/map_thread.{hpp,cpp}`)

A map thread has its players and monsters twice: in sets of its own, with atomic counters, and
in the `MapObjectsComponent` of the map. Two threads call `update_map`, its own and the main
thread, while players come and go. All that touches the sets happens under `objects_mutex_`,
so a run is a sequence of critical sections (`MapEvent`); `spawn_timer_` is read and written
without a lock, and may have any value at any time.

- `players_agree_iff`: the two views of the players agree exactly until a player is removed or
  one too many is added. `remove_player` forgets the component, and `add_player` does not look
  at `max_players_`.
- `monster_population`: the two views of the monsters always agree, there are at most ten, and
  each is an entity with all its components.
-/

namespace EcsAsioServer.Threading

open Ecs Protocol Transition

/-! ## What the functions do to components -/

namespace Service

variable {K : Type}

theorem hasComponent_addComponent (gs : Service K) (t : SimType) (entity : Entity)
    (c : SimType.Val K t) (t' : SimType) (e : Entity) :
    (gs.addComponent t entity c).hasComponent t' e
      = (decide (t' = t ∧ e = entity) || gs.hasComponent t' e) :=
  gs.componentManager.hasComponent_addComponent t entity c t' e

/-- No entity and no component is taken away. -/
structure Extends (gs gs' : Service K) : Prop where
  valid : ∀ e, gs.isValid e = true → gs'.isValid e = true
  has : ∀ t e, gs.hasComponent t e = true → gs'.hasComponent t e = true

namespace Extends

variable {gs gs' gs'' : Service K}

theorem refl (gs : Service K) : Extends gs gs := ⟨fun _ h => h, fun _ _ h => h⟩

theorem trans (h : Extends gs gs') (h' : Extends gs' gs'') : Extends gs gs'' :=
  ⟨fun e he => h'.valid e (h.valid e he), fun t e he => h'.has t e (h.has t e he)⟩

theorem addComponent (gs : Service K) (t : SimType) (entity : Entity) (c : SimType.Val K t) :
    Extends gs (gs.addComponent t entity c) where
  valid _ h := h
  has t' e h := by rw [hasComponent_addComponent, h, Bool.or_true]

theorem createEntity (gs : Service K) : Extends gs gs.createEntity.2 where
  valid e h := by
    show gs.entityManager.createEntity.2.isValid e = true
    rw [EntityManager.isValid_createEntity, Bool.or_eq_true]
    exact .inr h
  has _ _ h := h

theorem updateObjects (gs : Service K) (mapEntity : Entity) (f : MapObjects → MapObjects) :
    Extends gs (gs.updateObjects mapEntity f) := by
  unfold Service.updateObjects
  split
  · exact addComponent ..
  · exact refl gs

end Extends

theorem component_updateObjects (gs : Service K) {t : SimType} (h : t ≠ .mapObjects)
    (mapEntity e : Entity) (f : MapObjects → MapObjects) :
    (gs.updateObjects mapEntity f).component t e = gs.component t e := by
  unfold updateObjects
  split
  · exact gs.component_addComponent_ne h mapEntity e _
  · rfl

theorem objects_updateObjects (gs : Service K) (mapEntity : Entity)
    (f : MapObjects → MapObjects) :
    (gs.updateObjects mapEntity f).objects mapEntity = (gs.objects mapEntity).map f := by
  unfold updateObjects
  cases hobjects : gs.objects mapEntity with
  | none => exact hobjects
  | some o => exact gs.component_addComponent_self .mapObjects mapEntity (f o)

end Service

/-- A component that is neither position nor velocity. -/
theorem Tracks.addComponent_other {K : Type} {m : Entity} {v p : Vec K} {gs : Service K}
    (h : Tracks m v p gs) {t : SimType} (hposition : t ≠ .position) (hvelocity : t ≠ .velocity)
    (entity : Entity) (c : SimType.Val K t) : Tracks m v p (gs.addComponent t entity c) :=
  ⟨(gs.position_addComponent t hposition entity m c).trans h.position,
    (gs.component_addComponent_ne hvelocity.symm entity m c).trans h.velocity⟩

section Monsters

variable {K : Type} [Field K]

namespace MapState

/-- The component types of a monster. -/
def monsterTypes : List SimType := [.position, .velocity, .health, .monster, .gameObject]

/-- What each component of a monster keeps, `addMonster` keeps. -/
theorem addMonster_keeps {P : Service K → Prop} {gs : Service K} {entity : Entity} (x y z : K)
    (hgs : P gs) (hadd : ∀ (gs : Service K) (t : SimType) (c : SimType.Val K t),
      t ∈ monsterTypes → P gs → P (gs.addComponent t entity c)) :
    P (addMonster entity x y z gs) :=
  hadd _ .gameObject _ (by decide) (hadd _ .monster _ (by decide) (hadd _ .health _ (by decide)
    (hadd _ .velocity _ (by decide) (hadd _ .position _ (by decide) hgs))))

variable {t : SimType}

theorem component_addMonster (gs : Service K) (h : t ∉ monsterTypes) (entity e : Entity)
    (x y z : K) :
    (addMonster entity x y z gs).component t e = gs.component t e := by
  refine addMonster_keeps (P := fun gs' => gs'.component t e = gs.component t e) x y z rfl ?_
  intro gs' t' c ht' hgs'
  have hne : t ≠ t' := by
    rintro rfl
    exact h ht'
  exact (gs'.component_addComponent_ne hne entity e c).trans hgs'

theorem extends_addMonster (gs : Service K) (entity : Entity) (x y z : K) :
    Service.Extends gs (addMonster entity x y z gs) :=
  addMonster_keeps x y z (.refl gs) fun _ _ _ _ h => h.trans (.addComponent ..)

/-- Each of the components is added at some point, and stays. -/
theorem hasComponent_addMonster (gs : Service K) (h : t ∈ monsterTypes) (entity : Entity)
    (x y z : K) :
    (addMonster entity x y z gs).hasComponent t entity = true := by
  have hadded : ∃ (gs' : Service K) (c : SimType.Val K t),
      Service.Extends (gs'.addComponent t entity c) (addMonster entity x y z gs) := by
    simp only [monsterTypes, List.mem_cons, List.not_mem_nil, or_false] at h
    rcases h with rfl | rfl | rfl | rfl | rfl
    · exact ⟨gs, _, (((Service.Extends.addComponent ..).trans (.addComponent ..)).trans
        (.addComponent ..)).trans (.addComponent ..)⟩
    · exact ⟨_, _, ((Service.Extends.addComponent ..).trans (.addComponent ..)).trans
        (.addComponent ..)⟩
    · exact ⟨_, _, (Service.Extends.addComponent ..).trans (.addComponent ..)⟩
    · exact ⟨_, _, Service.Extends.addComponent ..⟩
    · exact ⟨_, _, Service.Extends.refl _⟩
  obtain ⟨gs', c, hextends⟩ := hadded
  refine hextends.has t entity ?_
  rw [Service.hasComponent_addComponent]
  simp

/-- A new monster stands still where it appears. -/
theorem tracks_addMonster (gs : Service K) (entity : Entity) (x y z : K) :
    Tracks entity ⟨0, 0, 0⟩ ⟨x, y, z⟩ (addMonster entity x y z gs) := by
  let placed : Service K := gs.setPosition entity ⟨x, y, z⟩
  have hplaced : Tracks entity ⟨0, 0, 0⟩ ⟨x, y, z⟩
      (placed.addComponent .velocity entity (⟨0, 0, 0⟩ : Vec K)) :=
    ⟨(placed.position_addComponent .velocity (by simp) entity entity _).trans
        (gs.position_setPosition_self entity ⟨x, y, z⟩),
      placed.component_addComponent_self SimType.velocity entity (⟨0, 0, 0⟩ : Vec K)⟩
  exact ((hplaced.addComponent_other (t := .health) (by simp) (by simp) entity _).addComponent_other
    (t := .monster) (by simp) (by simp) entity _).addComponent_other
    (t := .gameObject) (by simp) (by simp) entity _

/-- The entity of the new monster. -/
def newMonster (s : MapState K) : Entity := s.ecs.entityManager.nextEntityId

theorem newMonster_mem (s : MapState K) :
    s.newMonster ∈ (spawnMonster s).thread.localMonsters := List.mem_insert_self ..

theorem component_spawnMonster (s : MapState K) (h : t ∉ monsterTypes) (hobjects : t ≠ .mapObjects)
    (e : Entity) :
    (spawnMonster s).ecs.component t e = s.ecs.component t e := by
  rw [ecs_spawnMonster, Service.component_updateObjects _ hobjects, component_addMonster _ h]
  rfl

theorem objects_spawnMonster (s : MapState K) :
    (spawnMonster s).ecs.objects s.thread.mapEntity
      = (s.ecs.objects s.thread.mapEntity).map (·.addMonster s.newMonster) := by
  rw [ecs_spawnMonster, Service.objects_updateObjects]
  exact congrArg _ (component_addMonster _ (by decide) _ _ _ _ _)

theorem extends_spawnMonster (s : MapState K) : Service.Extends s.ecs (spawnMonster s).ecs := by
  rw [ecs_spawnMonster]
  exact ((Service.Extends.createEntity _).trans (extends_addMonster ..)).trans (.updateObjects ..)

/-- The new monster is an entity with all components. -/
theorem newMonster_equipped (s : MapState K) :
    (spawnMonster s).ecs.isValid s.newMonster = true ∧
      ∀ t ∈ monsterTypes, (spawnMonster s).ecs.hasComponent t s.newMonster = true := by
  rw [ecs_spawnMonster]
  constructor
  · refine (Service.Extends.updateObjects ..).valid _ ((extends_addMonster ..).valid _ ?_)
    show s.ecs.entityManager.createEntity.2.isValid _ = true
    rw [EntityManager.isValid_createEntity]
    simp [newMonster]
  · intro t ht
    exact (Service.Extends.updateObjects ..).has _ _ (hasComponent_addMonster _ ht _ _ _ _)

/-- Where it is. -/
def spawnPoint (s : MapState K) : Vec K :=
  ⟨(nextRand s.thread.width s.seed).1, 0,
    (nextRand s.thread.height (nextRand s.thread.width s.seed).2).1⟩

theorem tracks_newMonster (s : MapState K) :
    Tracks s.newMonster ⟨0, 0, 0⟩ s.spawnPoint (spawnMonster s).ecs := by
  rw [ecs_spawnMonster]
  exact (tracks_addMonster _ s.newMonster _ _ _).updateObjects _ _

/-- The critical section of `spawn_monsters`. -/
def spawnSection (s : MapState K) : MapState K :=
  if maxMonsters ≤ s.thread.localMonsters.length then s
  else
    let spawnCount := min 3 (maxMonsters - s.thread.localMonsters.length)
    (List.range spawnCount).foldl (fun s _ => spawnMonster s) s

/-- What one more monster keeps, the critical section keeps. -/
theorem spawnSection_keeps {P : MapState K → Prop} {s : MapState K} (hs : P s)
    (hspawn : ∀ s, P s → P (spawnMonster s)) : P s.spawnSection := by
  unfold spawnSection
  split
  · exact hs
  · exact Loop.keeps hs fun s _ _ h => hspawn s h

/-- Another value of `spawn_timer_`. -/
def setTimer (timer : K) (s : MapState K) : MapState K :=
  { s with thread := { s.thread with spawnTimer := timer } }

variable [LinearOrder K]

theorem spawnMonsters_section (dt : K) (s : MapState K) :
    s.spawnMonsters dt = if s.thread.spawnTimer + dt < spawnInterval
      then s.setTimer (s.thread.spawnTimer + dt) else spawnSection (s.setTimer 0) := by
  unfold spawnMonsters spawnSection setTimer
  rfl

theorem extends_updateMonsters (dt : K) (s : MapState K) :
    Service.Extends s.ecs (s.updateMonsters dt).ecs := by
  refine Loop.keeps (I := fun gs => Service.Extends s.ecs gs) (.refl _) ?_
  intro gs e _ hgs
  refine hgs.trans ?_
  have hclamp : ∀ gs : Service K,
      Service.Extends gs (clampObjectToBounds s.thread.mapEntity e gs) := by
    intro gs
    unfold clampObjectToBounds
    split
    · exact .addComponent ..
    · exact .refl gs
  unfold MapThread.updateObjectPosition
  split
  · dsimp only
    split
    · exact .addComponent ..
    · exact (Service.Extends.addComponent ..).trans (hclamp _)
  · exact .refl gs

end MapState

end Monsters

/-! ## A map and its two callers -/

/-- Who calls `update_map`. -/
inductive Caller where
  | own | main
deriving DecidableEq, Repr

/-- How far a call of `update_map` is: in `spawn_monsters`, and in its critical section. -/
inductive Phase where
  | idle | spawning | critical
deriving DecidableEq, Repr

/-- A map, and how far each caller has come. -/
structure SharedMap (K : Type) where
  state : MapState K
  phase : Caller → Phase := fun _ => .idle

/-- The critical sections, and the unlocked part of `spawn_monsters`. -/
inductive MapEvent (K : Type) where
  | add (channelId : Int32)
  | remove (channelId : Int32)
  /-- `update_map` begins, and comes up to `spawn_monsters`. -/
  | move (who : Caller) (dt : K)
  /-- `spawn_timer_` gets some value, and the time has come or not. -/
  | tick (who : Caller) (timer : K) (due : Bool)
  | spawn (who : Caller)

namespace SharedMap

variable {K : Type} [Field K] [LinearOrder K]

/-- A caller goes on to another phase. -/
def enter (x : SharedMap K) (who : Caller) (phase : Phase) (state : MapState K) : SharedMap K :=
  { state, phase := Function.update x.phase who phase }

/-- The effect of an event, where `entityOf` gives the entities of the channels. -/
def apply (entityOf : Int32 → Entity) (x : SharedMap K) : MapEvent K → SharedMap K
  | .add channelId => { x with state := x.state.addPlayer channelId (entityOf channelId) }
  | .remove channelId => { x with state := x.state.removePlayer channelId }
  | .move who dt => x.enter who .spawning (x.state.updateMonsters dt)
  | .tick who timer due =>
    x.enter who (if due then .critical else .idle) (x.state.setTimer timer)
  | .spawn who => x.enter who .idle x.state.spawnSection

/-- The event is the next one of its caller. -/
def Ready (x : SharedMap K) : MapEvent K → Prop
  | .add _ | .remove _ => True
  | .move who dt => x.phase who = .idle ∧ 0 ≤ dt
  | .tick who _ _ => x.phase who = .spawning
  | .spawn who => x.phase who = .critical

/-- One event. -/
def MapStep (entityOf : Int32 → Entity) : SharedMap K → MapEvent K → SharedMap K → Prop :=
  guarded Ready fun x e y => x.apply entityOf e = y

section Fresh

omit [LinearOrder K]

variable (mapId : Int32) (mapName : List UInt8) (width height : K) (maxPlayers : Int32)
  (gs : Service K) (seed : UInt32)

/-- A new map thread. -/
def fresh : SharedMap K :=
  let (thread, ecs) := MapThread.make mapId mapName width height maxPlayers gs
  { state := { thread, ecs, seed } }

/-- The components of a new map. -/
theorem fresh_components :
    let s := (fresh mapId mapName width height maxPlayers gs seed).state
    s.ecs.objects s.thread.mapEntity = some {} ∧
      s.ecs.bounds s.thread.mapEntity
        = some { min := ⟨0, 0, 0⟩, max := ⟨width, height, (1000 : ℕ)⟩ } := by
  intro s
  let mapEntity := gs.createEntity.1
  let named : Service K := gs.createEntity.2.addComponent .map mapEntity
    ({ mapId, mapName, width, height, maxPlayers } : MapComponent K)
  let withObjects : Service K := named.addComponent .mapObjects mapEntity ({} : MapObjects)
  let bounds : MapBounds K := { min := ⟨0, 0, 0⟩, max := ⟨width, height, (1000 : ℕ)⟩ }
  have hecs : s.ecs = withObjects.addComponent .mapBounds mapEntity bounds := rfl
  have hobjects : GameService.component s.ecs .mapObjects mapEntity = some ({} : MapObjects) := by
    rw [hecs]
    exact (withObjects.component_addComponent_ne
      (show SimType.mapObjects ≠ .mapBounds by simp) mapEntity mapEntity bounds).trans
      (named.component_addComponent_self SimType.mapObjects mapEntity ({} : MapObjects))
  have hbounds : GameService.component s.ecs .mapBounds mapEntity = some bounds := by
    rw [hecs]
    exact withObjects.component_addComponent_self SimType.mapBounds mapEntity bounds
  exact ⟨hobjects, hbounds⟩

end Fresh

variable {entityOf : Int32 → Entity} {x y : SharedMap K}

/-! ## The players -/

/-- The two views of the players agree, and there are not too many. -/
structure Agrees (entityOf : Int32 → Entity) (x : SharedMap K) : Prop where
  count : x.state.thread.playerCount = x.state.thread.localPlayers.card
  objects : ∃ o, x.state.ecs.objects x.state.thread.mapEntity = some o ∧
    ∀ e, e ∈ o.players ↔ ∃ channelId ∈ x.state.thread.localPlayers, entityOf channelId = e
  max : (x.state.thread.localPlayers.card : Int) ≤ x.state.thread.maxPlayers.toInt

/-- Nobody is removed who is there, and nobody is added beyond `max_players_`. -/
def Room (x : SharedMap K) : MapEvent K → Prop
  | .add channelId => channelId ∈ x.state.thread.localPlayers ∨
      (x.state.thread.localPlayers.card + 1 : Int) ≤ x.state.thread.maxPlayers.toInt
  | .remove channelId => channelId ∉ x.state.thread.localPlayers
  | _ => True

/-- The same players, in both views. -/
structure SamePlayers (s s' : MapState K) : Prop where
  localPlayers : s'.thread.localPlayers = s.thread.localPlayers
  maxPlayers : s'.thread.maxPlayers = s.thread.maxPlayers
  mapEntity : s'.thread.mapEntity = s.thread.mapEntity
  objects : ∀ o, s.ecs.objects s.thread.mapEntity = some o →
    ∃ o', s'.ecs.objects s.thread.mapEntity = some o' ∧ o'.players = o.players

omit [LinearOrder K] in
theorem samePlayers_spawnSection (s : MapState K) : SamePlayers s s.spawnSection := by
  refine MapState.spawnSection_keeps (P := SamePlayers s) ⟨rfl, rfl, rfl, fun o h => ⟨o, h, rfl⟩⟩ ?_
  intro t ht
  refine ⟨ht.localPlayers, ht.maxPlayers, ht.mapEntity, ?_⟩
  intro o ho
  obtain ⟨o', ho', hplayers⟩ := ht.objects o ho
  have hspawned := t.objects_spawnMonster
  rw [ht.mapEntity, ho', Option.map_some] at hspawned
  exact ⟨_, hspawned, hplayers⟩

omit [Field K] [LinearOrder K] in
theorem Agrees.same (h : Agrees entityOf x) (hsame : SamePlayers x.state y.state) :
    Agrees entityOf y := by
  obtain ⟨o, ho, hplayers⟩ := h.objects
  obtain ⟨o', ho', heq⟩ := hsame.objects o ho
  refine ⟨y.state.thread.playerCount_eq, ⟨o', ?_, ?_⟩, ?_⟩
  · rw [hsame.mapEntity]
    exact ho'
  · rw [heq, hsame.localPlayers]
    exact hplayers
  · rw [hsame.localPlayers, hsame.maxPlayers]
    exact h.max

/-- A player who comes is in both views. -/
theorem Agrees.add_iff (h : Agrees entityOf x) (channelId : Int32) :
    Agrees entityOf (x.apply entityOf (.add channelId)) ↔ x.Room (.add channelId) := by
  obtain ⟨o, ho, hplayers⟩ := h.objects
  have hobjects : (x.apply entityOf (.add channelId)).state.ecs.objects x.state.thread.mapEntity
      = some (o.addPlayer (entityOf channelId)) := by
    have hadded := x.state.ecs.objects_updateObjects x.state.thread.mapEntity
      (·.addPlayer (entityOf channelId))
    rw [ho] at hadded
    exact hadded
  have hmem : ∀ e, e ∈ (o.addPlayer (entityOf channelId)).players ↔
      ∃ id ∈ insert channelId x.state.thread.localPlayers, entityOf id = e := by
    intro e
    rw [MapObjects.addPlayer, List.mem_insert_iff, hplayers, Finset.exists_mem_insert, eq_comm]
  have hcard : ((insert channelId x.state.thread.localPlayers).card : Int)
      ≤ x.state.thread.maxPlayers.toInt ↔ x.Room (.add channelId) := by
    show _ ↔ channelId ∈ x.state.thread.localPlayers ∨
      (x.state.thread.localPlayers.card + 1 : Int) ≤ x.state.thread.maxPlayers.toInt
    by_cases hold : channelId ∈ x.state.thread.localPlayers
    · rw [Finset.insert_eq_of_mem hold]
      exact iff_of_true h.max (.inl hold)
    · rw [Finset.card_insert_of_notMem hold, or_iff_right hold]
      push_cast
      rfl
  constructor
  · exact fun hadded => hcard.mp hadded.max
  · exact fun hroom => ⟨rfl, ⟨_, hobjects, hmem⟩, hcard.mpr hroom⟩

/-- A player who leaves stays among the objects of the map. -/
theorem Agrees.remove_iff {entityOf : Int32 ↪ Entity} (h : Agrees entityOf x)
    (channelId : Int32) :
    Agrees entityOf (x.apply entityOf (.remove channelId)) ↔ x.Room (.remove channelId) := by
  obtain ⟨o, ho, hplayers⟩ := h.objects
  constructor
  · rintro ⟨-, ⟨o', ho', hplayers'⟩, -⟩ hthere
    obtain rfl : o' = o := Option.some.inj (ho'.symm.trans ho)
    obtain ⟨id, hid, heq⟩ := (hplayers' (entityOf channelId)).mp
      ((hplayers _).mpr ⟨channelId, hthere, rfl⟩)
    rw [entityOf.injective heq] at hid
    exact Finset.notMem_erase channelId _ hid
  · intro hnone
    have hsame : x.state.thread.localPlayers.erase channelId = x.state.thread.localPlayers :=
      Finset.erase_eq_of_notMem hnone
    exact h.same ⟨hsame, rfl, rfl, fun o ho => ⟨o, ho, rfl⟩⟩

/-- **One event.** -/
theorem Agrees.step_iff {entityOf : Int32 ↪ Entity} (h : Agrees entityOf x) {e : MapEvent K}
    (hstep : MapStep entityOf x e y) : Agrees entityOf y ↔ x.Room e := by
  obtain ⟨-, rfl⟩ := hstep
  cases e with
  | add channelId => exact h.add_iff channelId
  | remove channelId => exact h.remove_iff channelId
  | move who dt =>
    refine iff_of_true (h.same ⟨rfl, rfl, rfl, fun o ho => ⟨o, ?_, rfl⟩⟩) trivial
    exact ((MapState.onlyMoves_updateMonsters dt x.state).objects _).trans ho
  | tick who timer due =>
    exact iff_of_true (h.same ⟨rfl, rfl, rfl, fun o ho => ⟨o, ho, rfl⟩⟩) trivial
  | spawn who => exact iff_of_true (h.same (samePlayers_spawnSection x.state)) trivial

/-- **The players of a map thread.** While players come and go and both threads update the map,
`player_count_` is the number of local players, the component has exactly their entities and
there are at most `max_players_` exactly if `max_players_` is not negative, nobody is removed
who is there and nobody is added beyond `max_players_`. -/
theorem players_agree_iff (entityOf : Int32 ↪ Entity) (mapId : Int32) (mapName : List UInt8)
    (width height : K) (maxPlayers : Int32) (gs : Service K) (seed : UInt32)
    (es : List (MapEvent K)) (x : SharedMap K) :
    (Agrees entityOf (fresh mapId mapName width height maxPlayers gs seed) ∧
      Run (staying (Agrees entityOf) (MapStep entityOf))
        (fresh mapId mapName width height maxPlayers gs seed) es x) ↔
    (0 ≤ maxPlayers.toInt ∧
      Run (guarded Room (MapStep entityOf))
        (fresh mapId mapName width height maxPlayers gs seed) es x) := by
  have hstart : Agrees entityOf (fresh mapId mapName width height maxPlayers gs seed) ↔
      0 ≤ maxPlayers.toInt := by
    constructor
    · exact fun hagrees => hagrees.max
    · exact fun hmax => ⟨rfl, ⟨{}, (fresh_components ..).1, by simp [fresh, MapThread.make]⟩, hmax⟩
  rw [hstart]
  refine and_congr_right fun hmax => ?_
  exact Run.staying_iff (I := fun _ => True) trivial (hstart.mpr hmax) (fun _ _ _ _ _ => trivial)
    fun _ _ _ _ h hstep => h.step_iff hstep

/-- A player comes and leaves: there is none, but the component still has the entity. -/
theorem player_left_behind :
    let start : SharedMap ℚ := fresh 1 [] 100 100 50 {} 42
    let entityOf : Int32 → Entity := fun channelId => channelId.toUInt32
    let es : List (MapEvent ℚ) := [.add 7, .remove 7]
    Function.Injective entityOf ∧
    ∃ x, Run (MapStep entityOf) start es x ∧ x.state.thread.playerCount = 0 ∧
      x.state.thread.localPlayers = ∅ ∧
      (x.state.ecs.objects x.state.thread.mapEntity).map (·.players) = some [7] ∧
      ¬ Agrees entityOf x := by
  intro start entityOf es
  have hobjects : ((es.foldl (apply entityOf) start).state.ecs.objects
      (es.foldl (apply entityOf) start).state.thread.mapEntity).map (·.players) = some [7] := rfl
  have hinjective : Function.Injective entityOf := by
    rintro ⟨a⟩ ⟨b⟩ hab
    exact congrArg Int32.ofUInt32 hab
  refine ⟨hinjective, _, Run.of_along ⟨trivial, trivial, trivial⟩, rfl, rfl, hobjects, ?_⟩
  rintro ⟨-, ⟨o, ho, hplayers⟩, -⟩
  rw [ho] at hobjects
  have hmem : (7 : Entity) ∈ o.players := by
    rw [show o.players = [7] from Option.some.inj hobjects]
    exact .head _
  obtain ⟨id, hid, -⟩ := (hplayers 7).mp hmem
  cases hid

end SharedMap

/-! ## The monsters -/

section Population

variable {K : Type} [Field K]

/-- There are at most `n` monsters, the two views of them agree, and they are entities with all
components. -/
structure MapState.Populated (n : Nat) (s : MapState K) : Prop where
  size : s.thread.localMonsters.length ≤ n
  count : s.thread.monsterCount = s.thread.localMonsters.length
  objects : ∃ o, s.ecs.objects s.thread.mapEntity = some o ∧
    ∀ e, e ∈ o.monsters ↔ e ∈ s.thread.localMonsters
  equipped : ∀ e ∈ s.thread.localMonsters, s.ecs.isValid e = true ∧
    ∀ t ∈ MapState.monsterTypes, s.ecs.hasComponent t e = true

namespace MapState.Populated

variable {n : Nat} {s s' : MapState K}

omit [Field K] in
/-- Nothing is taken away, and the views stay as they are. -/
theorem same (h : s.Populated n) (hmonsters : s'.thread.localMonsters = s.thread.localMonsters)
    (hcount : s'.thread.monsterCount = s.thread.monsterCount)
    (hobjects : ∀ o, s.ecs.objects s.thread.mapEntity = some o →
      ∃ o', s'.ecs.objects s'.thread.mapEntity = some o' ∧ o'.monsters = o.monsters)
    (hextends : Service.Extends s.ecs s'.ecs) : s'.Populated n := by
  obtain ⟨o, ho, hmem⟩ := h.objects
  obtain ⟨o', ho', heq⟩ := hobjects o ho
  refine ⟨?_, ?_, ⟨o', ho', ?_⟩, ?_⟩
  · rw [hmonsters]
    exact h.size
  · rw [hcount, hmonsters]
    exact h.count
  · rw [heq, hmonsters]
    exact hmem
  · rw [hmonsters]
    intro e he
    obtain ⟨hvalid, hhas⟩ := h.equipped e he
    exact ⟨hextends.valid e hvalid, fun t ht => hextends.has t e (hhas t ht)⟩

/-- One more monster. -/
theorem spawnMonster (h : s.Populated n) : (MapState.spawnMonster s).Populated (n + 1) := by
  obtain ⟨o, ho, hmem⟩ := h.objects
  have hmonsters : (MapState.spawnMonster s).thread.localMonsters
      = s.thread.localMonsters.insert s.newMonster := rfl
  refine ⟨?_, rfl, ⟨o.addMonster s.newMonster, ?_, ?_⟩, ?_⟩
  · have hsize := h.size
    rw [hmonsters]
    by_cases hold : s.newMonster ∈ s.thread.localMonsters
    · rw [List.length_insert_of_mem hold]
      omega
    · rw [List.length_insert_of_not_mem hold]
      omega
  · have hspawned := s.objects_spawnMonster
    rw [ho] at hspawned
    exact hspawned
  · intro e
    rw [hmonsters, MapObjects.addMonster, List.mem_insert_iff, List.mem_insert_iff, hmem]
  · rw [hmonsters]
    intro e he
    rcases List.mem_insert_iff.mp he with rfl | hold
    · exact s.newMonster_equipped
    · obtain ⟨hvalid, hhas⟩ := h.equipped e hold
      exact ⟨s.extends_spawnMonster.valid e hvalid,
        fun t ht => s.extends_spawnMonster.has t e (hhas t ht)⟩

/-- So many more monsters. -/
theorem foldl_spawnMonster (h : s.Populated n) (k : Nat) :
    ((List.range k).foldl (fun s _ => MapState.spawnMonster s) s).Populated (n + k) := by
  induction k with
  | zero => exact h
  | succ k ih =>
    rw [List.range_succ, List.foldl_append]
    exact ih.spawnMonster

/-- **The critical section** fills the map up to `MAX_MONSTERS`. -/
theorem spawnSection (h : s.Populated maxMonsters) : s.spawnSection.Populated maxMonsters := by
  unfold MapState.spawnSection
  split
  · exact h
  · next hroom =>
    have hexact : s.Populated s.thread.localMonsters.length :=
      ⟨Nat.le_refl _, h.count, h.objects, h.equipped⟩
    have hfilled := hexact.foldl_spawnMonster
      (min 3 (maxMonsters - s.thread.localMonsters.length))
    refine ⟨hfilled.size.trans ?_, hfilled.count, hfilled.objects, hfilled.equipped⟩
    omega

end MapState.Populated

namespace SharedMap

variable [LinearOrder K] {entityOf : Int32 → Entity} {x y : SharedMap K}

/-- **One event.** -/
theorem populated_step {e : MapEvent K} (h : x.state.Populated MapState.maxMonsters)
    (hstep : MapStep entityOf x e y) : y.state.Populated MapState.maxMonsters := by
  obtain ⟨-, rfl⟩ := hstep
  cases e with
  | add channelId =>
    refine h.same rfl rfl ?_ (.updateObjects ..)
    intro o ho
    have hadded := x.state.ecs.objects_updateObjects x.state.thread.mapEntity
      (·.addPlayer (entityOf channelId))
    rw [ho] at hadded
    exact ⟨_, hadded, rfl⟩
  | remove channelId => exact h.same rfl rfl (fun o ho => ⟨o, ho, rfl⟩) (.refl _)
  | move who dt =>
    refine h.same rfl rfl ?_ (x.state.extends_updateMonsters dt)
    intro o ho
    exact ⟨o, ((x.state.onlyMoves_updateMonsters dt).objects _).trans ho, rfl⟩
  | tick who timer due => exact h.same rfl rfl (fun o ho => ⟨o, ho, rfl⟩) (.refl _)
  | spawn who => exact h.spawnSection

/-- **The monsters of a map thread.** In every interleaving of the calls of `update_map` by its
own thread and the main thread, while players come and go, there are at most `MAX_MONSTERS`
monsters, `monster_count_` is their number, the component has exactly them, and each of them is
an active entity with its five components. -/
theorem monster_population (entityOf : Int32 → Entity) (mapId : Int32) (mapName : List UInt8)
    (width height : K) (maxPlayers : Int32) (gs : Service K) (seed : UInt32)
    {es : List (MapEvent K)} {x : SharedMap K}
    (hrun : Run (MapStep entityOf) (fresh mapId mapName width height maxPlayers gs seed) es x) :
    x.state.thread.localMonsters.length ≤ 10 ∧
    x.state.thread.monsterCount = x.state.thread.localMonsters.length ∧
    (∃ o, x.state.ecs.objects x.state.thread.mapEntity = some o ∧
      ∀ e, e ∈ o.monsters ↔ e ∈ x.state.thread.localMonsters) ∧
    ∀ e ∈ x.state.thread.localMonsters, x.state.ecs.isValid e = true ∧
      ∀ t ∈ [SimType.position, .velocity, .health, .monster, .gameObject],
        x.state.ecs.hasComponent t e = true := by
  have hstart : (fresh mapId mapName width height maxPlayers gs seed).state.Populated
      MapState.maxMonsters :=
    ⟨Nat.zero_le _, rfl, ⟨{}, (fresh_components ..).1, fun _ => Iff.rfl⟩, by
      simp [fresh, MapThread.make]⟩
  have hpopulated : x.state.Populated MapState.maxMonsters :=
    hrun.invariant (I := fun x => x.state.Populated MapState.maxMonsters) hstart
      fun _ _ _ h hstep => populated_step h hstep
  exact ⟨hpopulated.size, hpopulated.count, hpopulated.objects, hpopulated.equipped⟩

/-- Both threads are in `spawn_monsters` at the same time, and six monsters appear. -/
theorem monster_population_six :
    let start : SharedMap ℚ := fresh 1 [] 100 100 50 {} 42
    let es : List (MapEvent ℚ) := [.move .own 30, .tick .own 30 true, .move .main 16,
      .tick .main 0 true, .spawn .main, .spawn .own]
    ∃ x, Run (MapStep fun _ => 0) start es x ∧ x.state.thread.localMonsters.length = 6 ∧
      x.state.thread.monsterCount = 6 ∧
      ∀ e ∈ x.state.thread.localMonsters, x.state.ecs.isValid e = true := by
  intro start es
  have hrun : Run (MapStep fun _ => 0) start es (es.foldl (apply fun _ => 0) start) := by
    refine Run.of_along ⟨⟨rfl, ?_⟩, rfl, ⟨rfl, ?_⟩, rfl, rfl, rfl, trivial⟩
    · norm_num
    · norm_num
  obtain ⟨-, hcount, -, hequipped⟩ := monster_population (fun _ => 0) 1 [] 100 100 50 {} 42 hrun
  have hsix : (es.foldl (apply fun _ => 0) start).state.thread.localMonsters.length = 6 := by
    decide +kernel
  exact ⟨_, hrun, hsix, hcount.trans hsix, fun e he => (hequipped e he).1⟩

end SharedMap

end Population

end EcsAsioServer.Threading
