import EcsAsioServer.Game.GameServer
import EcsAsioServer.Lib.Loops

/-!
# Map threads (`server/game/threading/map_thread.{hpp,cpp}`)

A map thread keeps the players and the monsters of one map: it moves the monsters, and it
lets new ones appear. Its packets are in `Game.MapPackets`.

Coordinates and times are floats in the source. Here they are elements of a field `K`, and
the arithmetic is exact. `map_objects_component_` and `map_bounds_component_` point to the
components of the map's entity and are looked up here. Nothing fills `local_npcs_`,
`local_items_` and `task_queue_`, and the functions that work on them do nothing.
-/

namespace EcsAsioServer.Threading

open Ecs Protocol Transition

/-! ## Components -/

/-- `Position` and `Velocity`. -/
structure Vec (K : Type) where
  x : K
  y : K
  z : K
deriving DecidableEq, Repr

/-- `Monster`. -/
structure Monster where
  monsterType : UInt32
  level : UInt32
  hp : UInt32
  maxHp : UInt32
  targetEntity : Entity
deriving DecidableEq, Repr

/-- The constructor. -/
def Monster.make (type : UInt32) (level : UInt32 := 1) : Monster :=
  { monsterType := type, level, hp := 100, maxHp := 100, targetEntity := 0 }

/-- `NPC`. -/
structure Npc where
  npcType : UInt32
  npcName : List UInt8
  level : UInt32 := 1
  isInteractable : Bool := true
deriving DecidableEq, Repr

/-- `Item`. -/
structure Item where
  itemId : UInt32
  itemName : List UInt8
  itemType : UInt32
  quantity : UInt32 := 1
  isPickupable : Bool := true
deriving DecidableEq, Repr

/-- `GameObjectType`. -/
inductive GameObjectType where
  | player | npc | monster | item | interactiveObject | projectile | effect
deriving DecidableEq, Repr

/-- `GameObject`. -/
structure GameObject where
  type : GameObjectType
  name : List UInt8
  objectId : UInt32
  isActive : Bool := true
deriving DecidableEq, Repr

/-- `MapComponent`. -/
structure MapComponent (K : Type) where
  mapId : Int32
  mapName : List UInt8
  width : K
  height : K
  maxPlayers : Int32
deriving DecidableEq, Repr

/-- `MapObjectsComponent`: sets of entities, as lists in some order. -/
structure MapObjects where
  players : List Entity := []
  monsters : List Entity := []
  npcs : List Entity := []
  items : List Entity := []
deriving DecidableEq, Repr

/-- `add_player`. -/
def MapObjects.addPlayer (o : MapObjects) (entity : Entity) : MapObjects :=
  { o with players := o.players.insert entity }

/-- `add_monster`. -/
def MapObjects.addMonster (o : MapObjects) (entity : Entity) : MapObjects :=
  { o with monsters := o.monsters.insert entity }

/-- `MapBounds`. -/
structure MapBounds (K : Type) where
  min : Vec K
  max : Vec K
deriving DecidableEq, Repr

/-- The component types that the game threads use. -/
inductive SimType where
  | position | velocity | health | player | monster | npc | item | gameObject
  | map | mapObjects | mapBounds
deriving DecidableEq, Repr

/-- The values of a component type. -/
def SimType.Val (K : Type) : SimType → Type
  | .position | .velocity => Vec K
  | .health => Health
  | .player => Player
  | .monster => Monster
  | .npc => Npc
  | .item => Item
  | .gameObject => GameObject
  | .map => MapComponent K
  | .mapObjects => MapObjects
  | .mapBounds => MapBounds K

/-- The entities and components. -/
abbrev Service (K : Type) := GameService (SimType.Val K)

namespace Service

variable {K : Type}

/-- The position of an entity. -/
def position (gs : Service K) (entity : Entity) : Option (Vec K) := gs.component .position entity

/-- Its velocity. -/
def velocity (gs : Service K) (entity : Entity) : Option (Vec K) := gs.component .velocity entity

/-- Its part as a monster. -/
def monster (gs : Service K) (entity : Entity) : Option Monster := gs.component .monster entity

/-- Its health. -/
def health (gs : Service K) (entity : Entity) : Option Health := gs.component .health entity

/-- Writing through the pointer that `get_component<Position>` returned. -/
def setPosition (gs : Service K) (entity : Entity) (p : Vec K) : Service K :=
  gs.addComponent .position entity p

/-- The bounds of a map. -/
def bounds (gs : Service K) (mapEntity : Entity) : Option (MapBounds K) :=
  gs.component .mapBounds mapEntity

/-- The objects of a map. -/
def objects (gs : Service K) (mapEntity : Entity) : Option MapObjects :=
  gs.component .mapObjects mapEntity

/-- `if (map_objects_component_)`, something is done with it. -/
def updateObjects (mapEntity : Entity) (f : MapObjects → MapObjects) (gs : Service K) :
    Service K :=
  match gs.objects mapEntity with
  | some objects => gs.addComponent .mapObjects mapEntity (f objects)
  | none => gs

/-- The entities that `get_components` lists. -/
def entitiesWith (gs : Service K) (t : SimType) : List Entity :=
  (gs.getComponents t).1.map Prod.fst

theorem entitiesWith_eq (gs : Service K) (t : SimType) :
    gs.entitiesWith t = (gs.componentManager.store t).keys := by
  unfold entitiesWith GameService.getComponents ComponentManager.getComponents
  simp only [ComponentManager.getStore_fst, List.map_map]
  rfl

theorem nodup_entitiesWith (gs : Service K) (t : SimType) : (gs.entitiesWith t).Nodup := by
  rw [entitiesWith_eq]
  exact AList.keys_nodup _

variable {entity : Entity}

theorem mem_entitiesWith_iff {gs : Service K} {t : SimType} :
    entity ∈ gs.entitiesWith t ↔ (gs.component t entity).isSome = true := by
  rw [entitiesWith_eq]
  exact AList.lookup_isSome.symm

theorem position_setPosition_self (gs : Service K) (entity : Entity) (p : Vec K) :
    (gs.setPosition entity p).position entity = some p :=
  gs.component_addComponent_self .position entity p

theorem position_setPosition_ne (gs : Service K) {e : Entity} (h : e ≠ entity) (p : Vec K) :
    (gs.setPosition entity p).position e = gs.position e :=
  (congrFun (gs.component_addComponent .position entity p) e).trans (Function.update_of_ne h ..)

/-- A write through the pointer leaves the order in which `get_components` lists the entities. -/
theorem entitiesWith_setPosition {gs : Service K} (h : (gs.position entity).isSome = true)
    (p : Vec K) :
    (gs.setPosition entity p).entitiesWith .position = gs.entitiesWith .position := by
  rw [entitiesWith_eq, entitiesWith_eq]
  unfold setPosition GameService.addComponent ComponentManager.addComponent
  simp only [ComponentManager.getStore_fst, ComponentManager.store_setStore_self]
  exact ComponentStore.keys_add_of_mem (AList.lookup_isSome.mp h) p

/-- A component of another type does not show. -/
theorem position_addComponent (gs : Service K) (t : SimType) (h : t ≠ .position)
    (entity e : Entity) (c : SimType.Val K t) :
    position (gs.addComponent t entity c) e = gs.position e :=
  gs.component_addComponent_ne h.symm entity e c

end Service

/-! ## `MapThread` -/

/-- `player_count_` is the number of players, and the set of monsters has no duplicates. -/
structure MapThread (K : Type) where
  mapId : Int32
  mapName : List UInt8
  width : K
  height : K
  maxPlayers : Int32
  mapEntity : Entity
  running : Bool := false
  packetQueue : List Packet := []
  localPlayers : Finset Int32 := ∅
  playerCount : Nat := 0
  playerCount_eq : playerCount = localPlayers.card := by rfl
  localMonsters : List Entity := []
  localMonsters_nodup : localMonsters.Nodup := by exact List.nodup_nil
  monsterCount : Nat := 0
  spawnTimer : K

/-- What a function of a map thread works on: its own fields, the components, and the
`static` seed in `spawn_monsters`. -/
structure MapState (K : Type) where
  thread : MapThread K
  ecs : Service K
  seed : UInt32

section Players

variable {K : Type}

/-- A new set of players, with its size. -/
def MapThread.setPlayers (t : MapThread K) (players : Finset Int32) : MapThread K :=
  { t with localPlayers := players, playerCount := players.card, playerCount_eq := rfl }

/-- `add_packet`. -/
def MapThread.addPacket (t : MapThread K) (packet : Packet) : MapThread K :=
  { t with packetQueue := t.packetQueue ++ [packet] }

namespace MapState

/-- `add_player`. -/
def addPlayer (channelId : Int32) (playerEntity : Entity) (s : MapState K) : MapState K :=
  { s with
    thread := s.thread.setPlayers (insert channelId s.thread.localPlayers)
    ecs := s.ecs.updateObjects s.thread.mapEntity (·.addPlayer playerEntity) }

/-- The entity stays among the objects of the map. -/
def removePlayer (channelId : Int32) (s : MapState K) : MapState K :=
  { s with thread := s.thread.setPlayers (s.thread.localPlayers.erase channelId) }

end MapState

end Players

section Updates

variable {K : Type} [Field K]

/-- The constructor: an entity for the map, with its components. -/
def MapThread.make (mapId : Int32) (mapName : List UInt8) (width height : K)
    (maxPlayers : Int32) (gs : Service K) : MapThread K × Service K :=
  let (mapEntity, gs) := gs.createEntity
  let gs := gs.addComponent .map mapEntity { mapId, mapName, width, height, maxPlayers }
  let gs := gs.addComponent .mapObjects mapEntity {}
  let gs := gs.addComponent .mapBounds mapEntity
    { min := ⟨0, 0, 0⟩, max := ⟨width, height, (1000 : ℕ)⟩ }
  ({ mapId, mapName, width, height, maxPlayers, mapEntity, spawnTimer := 0 }, gs)

/-- Straight on for the time `dt`. -/
def Vec.advance (p v : Vec K) (dt : K) : Vec K :=
  ⟨p.x + v.x * dt, p.y + v.y * dt, p.z + v.z * dt⟩

namespace MapState

/-- `next_rand` in `spawn_monsters`. -/
def nextRand (max : K) (seed : UInt32) : K × UInt32 :=
  let seed := seed * 1664525 + 1013904223
  (((seed % 10000).toNat : K) / 10000 * max, seed)

/-- The components of a new monster. -/
def addMonster (entity : Entity) (x y z : K) (gs : Service K) : Service K :=
  let gs : Service K := gs.setPosition entity ⟨x, y, z⟩
  let gs := gs.addComponent .velocity entity (⟨0, 0, 0⟩ : Vec K)
  let gs := gs.addComponent .health entity (Health.make 100 0)
  let gs := gs.addComponent .monster entity (Monster.make 1 1)
  gs.addComponent .gameObject entity
    { type := .monster, name := ascii "Goblin", objectId := entity }

/-- One round of the loop of `spawn_monsters`. -/
def spawnMonster (s : MapState K) : MapState K :=
  let entity := s.ecs.createEntity.1
  let x := nextRand s.thread.width s.seed
  let z := nextRand s.thread.height x.2
  let gs := addMonster entity x.1 0 z.1 s.ecs.createEntity.2
  { thread := { s.thread with
      localMonsters := s.thread.localMonsters.insert entity
      localMonsters_nodup := s.thread.localMonsters_nodup.insert
      monsterCount := (s.thread.localMonsters.insert entity).length }
    ecs := gs.updateObjects s.thread.mapEntity (·.addMonster entity)
    seed := z.2 }

end MapState

variable [LinearOrder K]

/-- `is_inside`. -/
def MapBounds.isInside (b : MapBounds K) (p : Vec K) : Bool :=
  decide (p.x ≥ b.min.x ∧ p.x ≤ b.max.x ∧ p.y ≥ b.min.y ∧ p.y ≤ b.max.y ∧
    p.z ≥ b.min.z ∧ p.z ≤ b.max.z)

/-- `std::clamp`. -/
def clamp (v lo hi : K) : K := if v < lo then lo else if hi < v then hi else v

/-- `clamp_object_to_bounds`, of `MapThread` and of `MapSystem`. -/
def clampObjectToBounds (mapEntity entity : Entity) (gs : Service K) : Service K :=
  match gs.bounds mapEntity, gs.position entity with
  | some b, some p =>
    gs.setPosition entity
      ⟨clamp p.x b.min.x b.max.x, clamp p.y b.min.y b.max.y, clamp p.z b.min.z b.max.z⟩
  | _, _ => gs

namespace MapThread

/-- `is_object_in_bounds`. -/
def isObjectInBounds (mapEntity entity : Entity) (gs : Service K) : Bool :=
  match gs.bounds mapEntity, gs.position entity with
  | some b, some p => b.isInside p
  | _, _ => true

/-- `update_object_position`. -/
def updateObjectPosition (mapEntity : Entity) (dt : K) (gs : Service K) (entity : Entity) :
    Service K :=
  match gs.position entity, gs.velocity entity with
  | some p, some v =>
    let gs := gs.setPosition entity (p.advance v dt)
    if isObjectInBounds mapEntity entity gs then gs else clampObjectToBounds mapEntity entity gs
  | _, _ => gs

end MapThread

namespace MapState

/-- `update_monsters`: for each monster `update_object_position`, and two functions with an
empty body. -/
def updateMonsters (dt : K) (s : MapState K) : MapState K :=
  { s with
    ecs := s.thread.localMonsters.foldl
      (MapThread.updateObjectPosition s.thread.mapEntity dt) s.ecs }

/-- `SPAWN_INTERVAL`. -/
def spawnInterval : K := 30

/-- `MAX_MONSTERS`. -/
def maxMonsters : Nat := 10

/-- `spawn_monsters`: the timer runs, and is set to 0 also if there are enough monsters. -/
def spawnMonsters (dt : K) (s : MapState K) : MapState K :=
  let timer := s.thread.spawnTimer + dt
  if timer < spawnInterval then { s with thread := { s.thread with spawnTimer := timer } }
  else
    let s := { s with thread := { s.thread with spawnTimer := 0 } }
    if maxMonsters ≤ s.thread.localMonsters.length then s
    else
      let spawnCount := min 3 (maxMonsters - s.thread.localMonsters.length)
      (List.range spawnCount).foldl (fun s _ => spawnMonster s) s

/-- `update_map`: the functions for players, items, combat and interaction do nothing. -/
def updateMap (dt : K) (s : MapState K) : MapState K := spawnMonsters dt (updateMonsters dt s)

end MapState

end Updates

/-! ## One monster -/

/-- The entity is at `p` and has the velocity `v`. -/
structure Tracks {K : Type} (m : Entity) (v p : Vec K) (gs : Service K) : Prop where
  position : gs.position m = some p
  velocity : gs.velocity m = some v

namespace Tracks

variable {K : Type} {m entity : Entity} {v p : Vec K} {gs : Service K}

/-- A component of another entity. -/
theorem addComponent_ne (h : Tracks m v p gs) (hne : m ≠ entity) (t : SimType)
    (c : SimType.Val K t) : Tracks m v p (gs.addComponent t entity c) := by
  have hother : ∀ t', (gs.addComponent t entity c).component t' m = gs.component t' m := by
    intro t'
    by_cases ht : t' = t
    · subst ht
      rw [GameService.component_addComponent, Function.update_of_ne hne]
    · exact gs.component_addComponent_ne ht entity m c
  exact ⟨(hother .position).trans h.position, (hother .velocity).trans h.velocity⟩

theorem updateObjects (h : Tracks m v p gs) (mapEntity : Entity) (f : MapObjects → MapObjects) :
    Tracks m v p (gs.updateObjects mapEntity f) := by
  unfold Service.updateObjects
  split
  · next objects _ =>
    have hother : ∀ t, t ≠ .mapObjects →
        (gs.addComponent .mapObjects mapEntity (f objects)).component t m = gs.component t m :=
      fun t ht => gs.component_addComponent_ne ht mapEntity m (f objects)
    exact ⟨(hother .position nofun).trans h.position, (hother .velocity nofun).trans h.velocity⟩
  · exact h

end Tracks

/-- At most positions have changed. -/
structure OnlyMoves {K : Type} (gs gs' : Service K) : Prop where
  entityManager : gs'.entityManager = gs.entityManager
  component : ∀ t, t ≠ .position → ∀ e, gs'.component t e = gs.component t e

/-- The thread has the same state, and at least the same monsters. -/
structure MapThread.Grows {K : Type} (t t' : MapThread K) : Prop where
  running : t'.running = t.running
  spawnTimer : t'.spawnTimer = t.spawnTimer
  monsters : ∀ e ∈ t.localMonsters, e ∈ t'.localMonsters

namespace MapThread.Grows

variable {K : Type} {t t' t'' : MapThread K}

theorem refl (t : MapThread K) : t.Grows t := ⟨rfl, rfl, fun _ h => h⟩

theorem trans (h : t.Grows t') (h' : t'.Grows t'') : t.Grows t'' :=
  ⟨h'.running.trans h.running, h'.spawnTimer.trans h.spawnTimer,
    fun e he => h'.monsters e (h.monsters e he)⟩

end MapThread.Grows

namespace OnlyMoves

variable {K : Type} {gs gs' gs'' : Service K}

theorem refl (gs : Service K) : OnlyMoves gs gs := ⟨rfl, fun _ _ _ => rfl⟩

theorem trans (h : OnlyMoves gs gs') (h' : OnlyMoves gs' gs'') : OnlyMoves gs gs'' :=
  ⟨h'.entityManager.trans h.entityManager,
    fun t ht e => (h'.component t ht e).trans (h.component t ht e)⟩

theorem setPosition (gs : Service K) (entity : Entity) (p : Vec K) :
    OnlyMoves gs (gs.setPosition entity p) :=
  ⟨rfl, fun _ ht e => gs.component_addComponent_ne ht entity e p⟩

theorem velocity (h : OnlyMoves gs gs') (e : Entity) : gs'.velocity e = gs.velocity e :=
  h.component .velocity nofun e

theorem bounds (h : OnlyMoves gs gs') (e : Entity) : gs'.bounds e = gs.bounds e :=
  h.component .mapBounds nofun e

theorem objects (h : OnlyMoves gs gs') (e : Entity) : gs'.objects e = gs.objects e :=
  h.component .mapObjects nofun e

end OnlyMoves

section Tracks

variable {K : Type} [Field K] {m e mapEntity : Entity} {v p : Vec K} {dt : K} {gs : Service K}

theorem Vec.advance_zero (p v : Vec K) : p.advance v 0 = p := by simp [Vec.advance]

theorem Vec.advance_advance (p v : Vec K) (s t : K) :
    (p.advance v s).advance v t = p.advance v (s + t) := by
  simp only [Vec.advance, Vec.mk.injEq]
  refine ⟨?_, ?_, ?_⟩ <;> ring

variable [LinearOrder K]

omit [Field K] in
theorem onlyMoves_clamp (mapEntity e : Entity) (gs : Service K) :
    OnlyMoves gs (clampObjectToBounds mapEntity e gs) := by
  unfold clampObjectToBounds
  split
  · exact .setPosition ..
  · exact .refl gs

omit [Field K] in
theorem position_clamp_ne (h : m ≠ e) :
    (clampObjectToBounds mapEntity e gs).position m = gs.position m := by
  unfold clampObjectToBounds
  split
  · exact gs.position_setPosition_ne h _
  · rfl

namespace MapThread

theorem onlyMoves_updateObjectPosition (mapEntity : Entity) (dt : K) (gs : Service K)
    (e : Entity) : OnlyMoves gs (updateObjectPosition mapEntity dt gs e) := by
  unfold updateObjectPosition
  split
  · dsimp only
    split
    · exact .setPosition ..
    · exact (OnlyMoves.setPosition ..).trans (onlyMoves_clamp ..)
  · exact .refl gs

theorem position_updateObjectPosition_ne (h : m ≠ e) :
    (updateObjectPosition mapEntity dt gs e).position m = gs.position m := by
  unfold updateObjectPosition
  split
  · dsimp only
    split
    · exact gs.position_setPosition_ne h _
    · rw [position_clamp_ne h, gs.position_setPosition_ne h]
  · rfl

/-- An entity that stays in bounds is moved, and not clamped. -/
theorem position_updateObjectPosition (hv : gs.velocity m = some v)
    (hin : ∀ p b, gs.position m = some p → gs.bounds mapEntity = some b →
      b.isInside (p.advance v dt) = true) :
    (updateObjectPosition mapEntity dt gs m).position m
      = (gs.position m).map (·.advance v dt) := by
  unfold updateObjectPosition
  cases hp : gs.position m with
  | none => exact hp
  | some p =>
    rw [hv]
    have hself := gs.position_setPosition_self m (p.advance v dt)
    have hinside : isObjectInBounds mapEntity m (gs.setPosition m (p.advance v dt)) = true := by
      unfold isObjectInBounds
      rw [hself, (OnlyMoves.setPosition gs m _).bounds]
      cases hb : gs.bounds mapEntity with
      | none => rfl
      | some b => exact hin p b hp hb
    show (if isObjectInBounds mapEntity m (gs.setPosition m (p.advance v dt)) = true then
      gs.setPosition m (p.advance v dt) else _).position m = _
    rw [if_pos hinside, hself, Option.map_some]

end MapThread

namespace MapState

variable {s : MapState K}

theorem onlyMoves_updateMonsters (dt : K) (s : MapState K) :
    OnlyMoves s.ecs (s.updateMonsters dt).ecs :=
  Loop.keeps (.refl _) fun gs e _ hgs =>
    hgs.trans (MapThread.onlyMoves_updateObjectPosition s.thread.mapEntity dt gs e)

/-- `update_monsters` comes to each monster of the map once. -/
theorem tracks_updateMonsters (h : Tracks m v p s.ecs) (hm : m ∈ s.thread.localMonsters)
    (hin : ∀ b, s.ecs.bounds s.thread.mapEntity = some b → b.isInside (p.advance v dt) = true) :
    Tracks m v (p.advance v dt) (s.updateMonsters dt).ecs := by
  refine ⟨?_, ((onlyMoves_updateMonsters dt s).velocity m).trans h.velocity⟩
  -- until its turn comes, the monster is at `p`
  have hmoved : (s.updateMonsters dt).ecs.position m = (s.ecs.position m).map (·.advance v dt) := by
    refine Loop.read_of_mem (I := fun gs => OnlyMoves s.ecs gs ∧ gs.position m = some p)
      (·.position m) (Option.map (·.advance v dt)) ⟨.refl _, h.position⟩ ?_ ?_ ?_
      hm s.thread.localMonsters_nodup
    · rintro gs e hne ⟨hgs, hp⟩
      exact ⟨hgs.trans (MapThread.onlyMoves_updateObjectPosition ..),
        (MapThread.position_updateObjectPosition_ne hne.symm).trans hp⟩
    · intro gs e hne
      exact MapThread.position_updateObjectPosition_ne hne.symm
    · rintro gs ⟨hgs, hp⟩
      refine MapThread.position_updateObjectPosition ((hgs.velocity m).trans h.velocity) ?_
      intro p' b hp' hb
      rw [hp] at hp'
      cases hp'
      exact hin b ((hgs.bounds _).symm.trans hb)
  rw [hmoved, h.position, Option.map_some]

/-- The time that the timer has after a call, and whether it was time to spawn. -/
def spawnDue (dt : K) (s : MapState K) : Bool :=
  decide (spawnInterval ≤ s.thread.spawnTimer + dt)

/-- How many monsters a call spawns. -/
def spawnCount (dt : K) (s : MapState K) : Nat :=
  if s.spawnDue dt then min 3 (maxMonsters - s.thread.localMonsters.length) else 0

/-- The new value of the timer. -/
def resetTimer (dt : K) (s : MapState K) : MapState K :=
  { s with thread := { s.thread with
    spawnTimer := if s.spawnDue dt then 0 else s.thread.spawnTimer + dt } }

theorem spawnMonsters_eq (dt : K) (s : MapState K) :
    s.spawnMonsters dt
      = (List.range (s.spawnCount dt)).foldl (fun s _ => spawnMonster s) (s.resetTimer dt) := by
  unfold spawnMonsters spawnCount resetTimer spawnDue
  by_cases hdue : s.thread.spawnTimer + dt < spawnInterval
  · have hnot : ¬ spawnInterval ≤ s.thread.spawnTimer + dt := not_le.mpr hdue
    simp [hdue, hnot]
  · have hle : spawnInterval ≤ s.thread.spawnTimer + dt := not_lt.mp hdue
    simp only [hdue, hle, decide_true, if_true, if_false]
    split
    · next hmax => simp [Nat.sub_eq_zero_of_le hmax]
    · rfl

omit [LinearOrder K] in
theorem ecs_spawnMonster (s : MapState K) :
    (spawnMonster s).ecs =
      (addMonster s.ecs.createEntity.1 (nextRand s.thread.width s.seed).1 0
        (nextRand s.thread.height (nextRand s.thread.width s.seed).2).1
        s.ecs.createEntity.2).updateObjects s.thread.mapEntity
          (·.addMonster s.ecs.createEntity.1) := by
  rw [spawnMonster]

omit [LinearOrder K] in
/-- A new monster does not concern the others. -/
theorem tracks_spawnMonster (h : Tracks m v p s.ecs)
    (hfresh : s.ecs.entityManager.nextEntityId ≠ m) : Tracks m v p (spawnMonster s).ecs := by
  have hcreate : Tracks m v p s.ecs.createEntity.2 := ⟨h.position, h.velocity⟩
  have hne : m ≠ s.ecs.createEntity.1 := hfresh.symm
  rw [ecs_spawnMonster]
  refine Tracks.updateObjects ?_ _ _
  exact ((((hcreate.addComponent_ne hne .position _).addComponent_ne hne .velocity _
    ).addComponent_ne hne .health _).addComponent_ne hne .monster _).addComponent_ne hne
    .gameObject _

omit [LinearOrder K] in
theorem grows_spawnMonster (s : MapState K) : s.thread.Grows (spawnMonster s).thread := by
  rw [spawnMonster]
  exact ⟨rfl, rfl, fun _ hmem => List.mem_insert_of_mem hmem⟩

/-- No new monster gets the entity. -/
def Spares (m : Entity) (dt : K) (s : MapState K) : Prop :=
  Along (fun s (_ : Nat) => spawnMonster s) (fun s _ => s.ecs.entityManager.nextEntityId ≠ m)
    (s.resetTimer dt) (List.range (s.spawnCount dt))

instance (m : Entity) (dt : K) (s : MapState K) : Decidable (s.Spares m dt) :=
  inferInstanceAs (Decidable (Along ..))

theorem tracks_spawnMonsters (h : Tracks m v p s.ecs) (hspares : s.Spares m dt) :
    Tracks m v p (s.spawnMonsters dt).ecs := by
  rw [spawnMonsters_eq]
  exact Loop.along (I := fun s => Tracks m v p s.ecs) h hspares
    fun s _ hs hfresh => tracks_spawnMonster hs hfresh

theorem grows_spawnMonsters (dt : K) (s : MapState K) :
    (s.resetTimer dt).thread.Grows (s.spawnMonsters dt).thread := by
  rw [spawnMonsters_eq]
  exact Loop.keeps (I := fun t => (s.resetTimer dt).thread.Grows t.thread) (.refl _)
    fun t _ _ ht => ht.trans (grows_spawnMonster t)

/-- The monster stays in the bounds of the map, and no new one gets its entity. -/
def Unhindered (m : Entity) (v : Vec K) (dt : K) (s : MapState K) : Prop :=
  (∀ p ∈ s.ecs.position m, ∀ b ∈ s.ecs.bounds s.thread.mapEntity,
    b.isInside (p.advance v dt) = true) ∧
  (s.updateMonsters dt).Spares m dt

instance (m : Entity) (v : Vec K) (dt : K) (s : MapState K) :
    Decidable (s.Unhindered m v dt) :=
  inferInstanceAs (Decidable (_ ∧ _))

/-- **`update_map`** moves the monster. -/
theorem tracks_updateMap (h : Tracks m v p s.ecs) (hm : m ∈ s.thread.localMonsters)
    (hfree : s.Unhindered m v dt) : Tracks m v (p.advance v dt) (s.updateMap dt).ecs :=
  tracks_spawnMonsters (tracks_updateMonsters h hm fun b hb => hfree.1 p h.position b hb) hfree.2

/-- **`update_map`** lets the spawn timer run. -/
theorem grows_updateMap (dt : K) (s : MapState K) :
    (s.resetTimer dt).thread.Grows (s.updateMap dt).thread :=
  grows_spawnMonsters dt (s.updateMonsters dt)

end MapState

end Tracks

end EcsAsioServer.Threading
