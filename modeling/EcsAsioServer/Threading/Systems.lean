import EcsAsioServer.Threading.MapThread

/-!
# The systems of the game (`server/game/systems`, `server/game/ecs/system`)

`GameService::update` runs four systems, one after the other: `MovementSystem` moves
everything that has a velocity, `AISystem` chooses targets for monsters and velocities for
NPCs, `CombatSystem` only writes to the log and `MapSystem` keeps objects inside their map.
They all have the same priority, so their order is that of a hash map: it is a parameter
here, as are the square root and the random numbers.

The second half says what each system does to one entity that moves at a constant
velocity, stays in bounds and collides with nothing (`Unhindered`): `MovementSystem` moves
it, the others leave it where it is (`tracks_update`).
-/

namespace EcsAsioServer.Threading

open Ecs Transition

variable {K : Type} [Field K] [LinearOrder K]

/-- The distance of two points. -/
def distance (sqrt : K → K) (p q : Vec K) : K :=
  let dx := p.x - q.x
  let dy := p.y - q.y
  let dz := p.z - q.z
  sqrt (dx * dx + dy * dy + dz * dz)

/-! ## `MovementSystem` -/

namespace MovementSystem

/-- `set_velocity`. -/
def setVelocity (entity : Entity) (vx vy vz : K) (gs : Service K) : Service K :=
  match gs.velocity entity with
  | some _ => gs.addComponent .velocity entity (⟨vx, vy, vz⟩ : Vec K)
  | none => gs

/-- One round of `update_positions`. -/
def updatePosition (dt : K) (gs : Service K) (entity : Entity) : Service K :=
  match gs.position entity, gs.velocity entity with
  | some p, some v => gs.setPosition entity (p.advance v dt)
  | _, _ => gs

/-- `update_positions`. -/
def updatePositions (dt : K) (gs : Service K) : Service K :=
  (gs.entitiesWith .position).foldl (updatePosition dt) gs

/-- Between `MIN_BOUND` and `MAX_BOUND`. -/
def bound (c : K) : K :=
  let c := if c < -1000 then -1000 else c
  if c > 1000 then 1000 else c

/-- One round of `check_boundaries`. -/
def checkBoundary (gs : Service K) (entity : Entity) : Service K :=
  match gs.position entity with
  | some p => gs.setPosition entity ⟨bound p.x, bound p.y, bound p.z⟩
  | none => gs

/-- `check_boundaries`. -/
def checkBoundaries (gs : Service K) : Service K :=
  (gs.entitiesWith .position).foldl checkBoundary gs

/-- The two entities are closer than two collision radii. -/
def touch (sqrt : K → K) (gs : Service K) (pair : Entity × Entity) : Bool :=
  match gs.position pair.1, gs.position pair.2 with
  | some p, some q => decide (distance sqrt p q < 2)
  | _, _ => false

/-- One round of `handle_collisions`: the two are pushed apart. In exact arithmetic the
quotient by a distance of 0 is 0. -/
def collide (sqrt : K → K) (gs : Service K) (pair : Entity × Entity) : Service K :=
  match gs.position pair.1, gs.position pair.2 with
  | some p, some q =>
    if touch sqrt gs pair then
      let d := distance sqrt p q
      let separation := (2 - d) / 2
      let nx := (p.x - q.x) / d
      let ny := (p.y - q.y) / d
      let nz := (p.z - q.z) / d
      let gs := gs.setPosition pair.1
        ⟨p.x + nx * separation, p.y + ny * separation, p.z + nz * separation⟩
      gs.setPosition pair.2
        ⟨q.x - nx * separation, q.y - ny * separation, q.z - nz * separation⟩
    else gs
  | _, _ => gs

/-- The pairs `i < j`, in the order of the two loops. -/
def pairs {α : Type} : List α → List (α × α)
  | [] => []
  | a :: l => l.map (fun b => (a, b)) ++ pairs l

/-- `handle_collisions`. -/
def handleCollisions (sqrt : K → K) (gs : Service K) : Service K :=
  (pairs (gs.entitiesWith .position)).foldl (collide sqrt) gs

/-- `MovementSystem::update`. -/
def update (sqrt : K → K) (dt : K) (gs : Service K) : Service K :=
  handleCollisions sqrt (checkBoundaries (updatePositions dt gs))

end MovementSystem

/-! ## `AISystem` -/

/-- `Health::take_damage`. -/
def takeDamage (health : Health) (damage : UInt32) : Health :=
  if damage ≥ health.hp then { health with hp := 0, isAlive := false }
  else { health with hp := health.hp - damage }

namespace AISystem

/-- `set_target`. -/
def setTarget (entity target : Entity) (gs : Service K) : Service K :=
  match gs.monster entity with
  | some monster => gs.addComponent .monster entity { monster with targetEntity := target }
  | none => gs

/-- `clear_target`. -/
def clearTarget (entity : Entity) (gs : Service K) : Service K := setTarget entity 0 gs

/-- `std::numeric_limits<float>::max()`. -/
def floatMax : K := 340282346638528859811704183484516925440

/-- `find_nearest_target`. -/
def findNearestTarget (sqrt : K → K) (entity : Entity) (gs : Service K) : Service K :=
  match gs.position entity with
  | none => gs
  | some p =>
    let nearest := (gs.entitiesWith .player).foldl
      (fun (nearest : Entity × K) player => match gs.position player with
        | none => nearest
        | some q =>
          let d := distance sqrt q p
          if d < nearest.2 ∧ d < 20 then (player, d) else nearest)
      (0, floatMax)
    if nearest.1 ≠ 0 then setTarget entity nearest.1 gs else gs

/-- `attack_target`. -/
def attackTarget (entity : Entity) (gs : Service K) : Service K :=
  match gs.monster entity with
  | none => gs
  | some monster =>
    if monster.targetEntity = 0 then gs
    else match gs.health monster.targetEntity with
      | some health => gs.addComponent .health monster.targetEntity (takeDamage health 10)
      | none => gs

/-- `update_ai_state`. -/
def updateAiState (sqrt : K → K) (gs : Service K) (entity : Entity) : Service K :=
  match gs.monster entity with
  | none => gs
  | some monster =>
    if monster.targetEntity = 0 then findNearestTarget sqrt entity gs
    else match gs.health monster.targetEntity with
      | some health => if health.isAlive then attackTarget entity gs else clearTarget entity gs
      | none => clearTarget entity gs

/-- The velocity that `patrol` makes of its three random numbers. -/
def patrolVelocity (sqrt : K → K) (draw : Vec K) (range : K) : Vec K :=
  let d := sqrt (draw.x * draw.x + draw.y * draw.y + draw.z * draw.z)
  let draw := if d > range then
    ⟨draw.x / d * range, draw.y / d * range, draw.z / d * range⟩ else draw
  ⟨draw.x / 2, draw.y / 2, draw.z / 2⟩

/-- `patrol`, with the three random numbers. -/
def patrol (sqrt : K → K) (draw : Vec K) (range : K) (entity : Entity) (gs : Service K) :
    Service K :=
  match gs.position entity with
  | none => gs
  | some _ => gs.addComponent .velocity entity (patrolVelocity sqrt draw range)

/-- `update_monster_ai`. -/
def updateMonsterAi (sqrt : K → K) (gs : Service K) : Service K :=
  (gs.entitiesWith .monster).foldl (updateAiState sqrt) gs

/-- `update_npc_ai`. -/
def updateNpcAi (sqrt : K → K) (draws : Entity → Vec K) (gs : Service K) : Service K :=
  (gs.entitiesWith .npc).foldl (fun gs npc => patrol sqrt (draws npc) 10 npc gs) gs

/-- `AISystem::update`. -/
def update (sqrt : K → K) (draws : Entity → Vec K) (gs : Service K) : Service K :=
  updateNpcAi sqrt draws (updateMonsterAi sqrt gs)

end AISystem

/-! ## `MapSystem` -/

namespace MapSystem

/-- `get_objects_in_map`. -/
def getObjectsInMap (gs : Service K) (mapEntity : Entity) : List Entity :=
  match gs.objects mapEntity with
  | some o => o.players ++ o.monsters ++ o.npcs ++ o.items
  | none => []

/-- `is_object_in_bounds`: not the same as in `MapThread` if something is missing. -/
def isObjectInBounds (mapEntity entity : Entity) (gs : Service K) : Bool :=
  match gs.bounds mapEntity, gs.position entity with
  | some b, some p => b.isInside p
  | _, _ => false

/-- One round of `check_map_collisions`. -/
def checkObject (mapEntity : Entity) (gs : Service K) (entity : Entity) : Service K :=
  if isObjectInBounds mapEntity entity gs then gs else clampObjectToBounds mapEntity entity gs

/-- `check_map_collisions`. -/
def checkMapCollisions (gs : Service K) (mapEntity : Entity) : Service K :=
  (getObjectsInMap gs mapEntity).foldl (checkObject mapEntity) gs

/-- `update`: the cache of objects is left out. -/
def update (gs : Service K) : Service K := (gs.entitiesWith .map).foldl checkMapCollisions gs

end MapSystem

/-! ## `SystemManager` -/

/-- The systems of the game. -/
inductive SystemId where
  | movement | ai | combat | map
deriving DecidableEq, Repr

/-- The systems that `initialize` registers, in the order of `update_order_`. -/
structure Systems (K : Type) where
  sqrt : K → K
  updateOrder : List SystemId
  registered : updateOrder.Perm [.movement, .ai, .combat, .map]

/-- `update` of one system. -/
def Systems.update (S : Systems K) (dt : K) (draws : Entity → Vec K) (gs : Service K) :
    SystemId → Service K
  | .movement => MovementSystem.update S.sqrt dt gs
  | .ai => AISystem.update S.sqrt draws gs
  | .combat => gs
  | .map => MapSystem.update gs

/-- `update_all`. -/
def Systems.updateAll (S : Systems K) (dt : K) (draws : Entity → Vec K) (gs : Service K) :
    Service K :=
  S.updateOrder.foldl (S.update dt draws) gs

/-! ## What the systems do to one entity -/

section Tracks

variable {m e mapEntity : Entity} {v p : Vec K} {dt : K} {sqrt : K → K} {gs : Service K}

namespace MovementSystem

omit [LinearOrder K] in
theorem onlyMoves_updatePosition (dt : K) (gs : Service K) (e : Entity) :
    OnlyMoves gs (updatePosition dt gs e) := by
  unfold updatePosition
  split
  · exact .setPosition ..
  · exact .refl gs

omit [LinearOrder K] in
theorem position_updatePosition_ne (h : m ≠ e) :
    (updatePosition dt gs e).position m = gs.position m := by
  unfold updatePosition
  split
  · exact gs.position_setPosition_ne h _
  · rfl

omit [LinearOrder K] in
theorem position_updatePosition (hv : gs.velocity m = some v) :
    (updatePosition dt gs m).position m = (gs.position m).map (·.advance v dt) := by
  unfold updatePosition
  cases hp : gs.position m with
  | none => exact hp
  | some p =>
    rw [hv]
    exact gs.position_setPosition_self m (p.advance v dt)

omit [LinearOrder K] in
/-- `update_positions` comes to the entity once. -/
theorem tracks_updatePositions (h : Tracks m v p gs) :
    Tracks m v (p.advance v dt) (updatePositions dt gs) := by
  have honly : OnlyMoves gs (updatePositions dt gs) :=
    Loop.keeps (.refl _) fun t e _ ht => ht.trans (onlyMoves_updatePosition dt t e)
  refine ⟨?_, (honly.velocity m).trans h.velocity⟩
  have hmem : m ∈ gs.entitiesWith .position :=
    Service.mem_entitiesWith_iff.mpr (by
      rw [show gs.component .position m = some p from h.position]
      rfl)
  have hmoved : (updatePositions dt gs).position m = (gs.position m).map (·.advance v dt) :=
    Loop.read_of_mem (I := fun t => t.velocity m = some v) (·.position m)
      (Option.map (·.advance v dt)) h.velocity
      (fun t e _ ht => ((onlyMoves_updatePosition dt t e).velocity m).trans ht)
      (fun t e hne => position_updatePosition_ne hne.symm)
      (fun t ht => position_updatePosition ht) hmem (gs.nodup_entitiesWith .position)
  rw [hmoved, h.position, Option.map_some]

/-- The point is between `MIN_BOUND` and `MAX_BOUND`. -/
def InWorld (p : Vec K) : Prop :=
  (-1000 ≤ p.x ∧ p.x ≤ 1000) ∧ (-1000 ≤ p.y ∧ p.y ≤ 1000) ∧ (-1000 ≤ p.z ∧ p.z ≤ 1000)

instance : DecidablePred (InWorld (K := K)) := fun _ => inferInstanceAs (Decidable (_ ∧ _))

theorem bound_eq {c : K} (h : -1000 ≤ c ∧ c ≤ 1000) : bound c = c := by
  have hlow : ¬ c < -1000 := not_lt.mpr h.1
  have hhigh : ¬ c > 1000 := not_lt.mpr h.2
  simp [bound, hlow, hhigh]

theorem tracks_checkBoundaries (h : Tracks m v p gs) (hp : InWorld p) :
    Tracks m v p (checkBoundaries gs) := by
  refine Loop.keeps h ?_
  intro t e _ ht
  unfold checkBoundary
  split
  · next q hq =>
    refine ⟨?_, ((OnlyMoves.setPosition t e _).velocity m).trans ht.velocity⟩
    by_cases he : m = e
    · subst he
      rw [ht.position] at hq
      cases hq
      rw [bound_eq hp.1, bound_eq hp.2.1, bound_eq hp.2.2]
      exact t.position_setPosition_self m p
    · exact (t.position_setPosition_ne he _).trans ht.position
  · exact ht

/-- When its turn comes, no pair with the entity is too close. -/
structure Apart (sqrt : K → K) (m : Entity) (gs : Service K) : Prop where
  along : Along (collide sqrt)
    (fun gs pair => pair.1 = m ∨ pair.2 = m → touch sqrt gs pair = false) gs
    (pairs (gs.entitiesWith .position))

instance (sqrt : K → K) (m : Entity) (gs : Service K) : Decidable (Apart sqrt m gs) :=
  decidable_of_iff _ ⟨Apart.mk, Apart.along⟩

theorem onlyMoves_collide (sqrt : K → K) (gs : Service K) (pair : Entity × Entity) :
    OnlyMoves gs (collide sqrt gs pair) := by
  unfold collide
  split
  · dsimp only
    split
    · exact (OnlyMoves.setPosition ..).trans (.setPosition ..)
    · exact .refl gs
  · exact .refl gs

theorem position_collide {pair : Entity × Entity}
    (h : pair.1 = m ∨ pair.2 = m → touch sqrt gs pair = false) :
    (collide sqrt gs pair).position m = gs.position m := by
  unfold collide
  split
  · dsimp only
    split
    · next htouch =>
      -- the pair is pushed apart, so `m` is neither of the two
      rw [htouch] at h
      have hne : m ≠ pair.1 ∧ m ≠ pair.2 := by
        constructor
        · rintro rfl
          cases h (.inl rfl)
        · rintro rfl
          cases h (.inr rfl)
      rw [Service.position_setPosition_ne _ hne.2, gs.position_setPosition_ne hne.1]
    · rfl
  · rfl

theorem tracks_handleCollisions (h : Tracks m v p gs) (hapart : Apart sqrt m gs) :
    Tracks m v p (handleCollisions sqrt gs) := by
  refine Loop.along h hapart.along ?_
  intro t pair ht hpair
  exact ⟨(position_collide hpair).trans ht.position,
    ((onlyMoves_collide sqrt t pair).velocity m).trans ht.velocity⟩

/-- **`MovementSystem`** moves the entity. -/
theorem tracks_update (h : Tracks m v p gs) (hworld : InWorld (p.advance v dt))
    (hapart : Apart sqrt m (checkBoundaries (updatePositions dt gs))) :
    Tracks m v (p.advance v dt) (update sqrt dt gs) :=
  tracks_handleCollisions (tracks_checkBoundaries (tracks_updatePositions h) hworld) hapart

end MovementSystem

namespace AISystem

variable {t : SimType}

omit [Field K] [LinearOrder K] in
theorem component_setTarget (ht : t ≠ .monster) (entity target e : Entity) (gs : Service K) :
    (setTarget entity target gs).component t e = gs.component t e := by
  unfold setTarget
  split
  · exact gs.component_addComponent_ne ht entity e _
  · rfl

theorem component_findNearestTarget (ht : t ≠ .monster) (sqrt : K → K) (entity e : Entity)
    (gs : Service K) :
    (findNearestTarget sqrt entity gs).component t e = gs.component t e := by
  unfold findNearestTarget
  split
  · rfl
  · dsimp only
    split
    · exact component_setTarget ht ..
    · rfl

omit [Field K] [LinearOrder K] in
theorem component_attackTarget (ht : t ≠ .health) (entity e : Entity) (gs : Service K) :
    (attackTarget entity gs).component t e = gs.component t e := by
  unfold attackTarget
  repeat' split
  · rfl
  · rfl
  · exact gs.component_addComponent_ne ht _ e _
  · rfl

/-- A monster writes its target, or the health of its target. -/
theorem component_updateAiState (hmonster : t ≠ .monster) (hhealth : t ≠ .health) (sqrt : K → K)
    (gs : Service K) (entity e : Entity) :
    (updateAiState sqrt gs entity).component t e = gs.component t e := by
  unfold updateAiState
  repeat' split
  · rfl
  · exact component_findNearestTarget hmonster ..
  · exact component_attackTarget hhealth ..
  · exact component_setTarget hmonster ..
  · exact component_setTarget hmonster ..

theorem component_updateMonsterAi (hmonster : t ≠ .monster) (hhealth : t ≠ .health) (sqrt : K → K)
    (gs : Service K) (e : Entity) :
    (updateMonsterAi sqrt gs).component t e = gs.component t e :=
  Loop.keeps (I := fun s : Service K => s.component t e = gs.component t e) rfl
    fun s entity _ hs => (component_updateAiState hmonster hhealth sqrt s entity e).trans hs

theorem position_patrol (sqrt : K → K) (draw : Vec K) (range : K) (entity e : Entity)
    (gs : Service K) : (patrol sqrt draw range entity gs).position e = gs.position e := by
  unfold patrol
  split
  · rfl
  · exact gs.position_addComponent .velocity nofun entity e _

/-- **`AISystem`** moves nobody. -/
theorem position_update (sqrt : K → K) (draws : Entity → Vec K) (e : Entity) (gs : Service K) :
    (update sqrt draws gs).position e = gs.position e :=
  Loop.keeps (I := fun t => t.position e = gs.position e)
    (component_updateMonsterAi (t := .position) nofun nofun sqrt gs e)
    fun t npc _ ht => (position_patrol sqrt (draws npc) 10 npc e t).trans ht

theorem velocity_patrol_ne (sqrt : K → K) (draw : Vec K) (range : K) {entity : Entity}
    (h : m ≠ entity) (gs : Service K) :
    (patrol sqrt draw range entity gs).velocity m = gs.velocity m := by
  unfold patrol
  split
  · rfl
  · exact (congrFun (gs.component_addComponent .velocity entity _) m).trans
      (Function.update_of_ne h ..)

theorem velocity_patrol (sqrt : K → K) (draw : Vec K) (range : K) (gs : Service K)
    (hv : gs.velocity m = some v) (h : patrolVelocity sqrt draw range = v) :
    (patrol sqrt draw range m gs).velocity m = some v := by
  unfold patrol
  split
  · exact hv
  · rw [h]
    exact gs.component_addComponent_self .velocity m v

/-- It changes the velocity of NPCs only. -/
theorem velocity_update (hv : gs.velocity m = some v) {draws : Entity → Vec K}
    (h : m ∈ gs.entitiesWith .npc → patrolVelocity sqrt (draws m) 10 = v) :
    (update sqrt draws gs).velocity m = some v := by
  refine Loop.keeps (I := fun t : Service K => t.velocity m = some v) ?_ ?_
  · exact (component_updateMonsterAi (t := .velocity) nofun nofun sqrt gs m).trans hv
  · intro t npc hnpc ht
    by_cases hm : m = npc
    · subst hm
      rw [Service.mem_entitiesWith_iff,
        component_updateMonsterAi (t := .npc) nofun nofun] at hnpc
      exact velocity_patrol sqrt _ _ t ht (h (Service.mem_entitiesWith_iff.mpr hnpc))
    · rw [velocity_patrol_ne sqrt _ _ hm]
      exact ht

end AISystem

namespace MapSystem

/-- The point is inside all maps that have the entity among their objects. -/
def InsideMaps (m : Entity) (p : Vec K) (gs : Service K) : Prop :=
  ∀ mapEntity ∈ gs.entitiesWith .map, ∀ b ∈ gs.bounds mapEntity,
    m ∈ getObjectsInMap gs mapEntity → b.isInside p = true

instance (m : Entity) (p : Vec K) (gs : Service K) : Decidable (InsideMaps m p gs) :=
  List.decidableBAll _ _

omit [Field K] in
theorem onlyMoves_checkObject (mapEntity : Entity) (gs : Service K) (e : Entity) :
    OnlyMoves gs (checkObject mapEntity gs e) := by
  unfold checkObject
  split
  · exact .refl gs
  · exact onlyMoves_clamp ..

omit [Field K] in
/-- An object inside the bounds stays where it is, and so do the others. -/
theorem position_checkObject
    (hin : m = e → ∀ p b, gs.position m = some p → gs.bounds mapEntity = some b →
      b.isInside p = true) :
    (checkObject mapEntity gs e).position m = gs.position m := by
  unfold checkObject
  split
  · rfl
  · next hout =>
    by_cases he : m = e
    · subst he
      unfold isObjectInBounds at hout
      unfold clampObjectToBounds
      split
      · next b p hb hp =>
        rw [hb, hp] at hout
        exact absurd (hin rfl p b hp hb) hout
      · rfl
    · exact position_clamp_ne he

omit [Field K] in
theorem tracks_checkMapCollisions (h : Tracks m v p gs)
    (hin : ∀ b ∈ gs.bounds mapEntity, m ∈ getObjectsInMap gs mapEntity → b.isInside p = true) :
    OnlyMoves gs (checkMapCollisions gs mapEntity) ∧
      Tracks m v p (checkMapCollisions gs mapEntity) := by
  refine Loop.keeps (I := fun t => OnlyMoves gs t ∧ Tracks m v p t) ⟨.refl gs, h⟩ ?_
  rintro t e he ⟨honly, ht⟩
  have hmoves := onlyMoves_checkObject mapEntity t e
  refine ⟨honly.trans hmoves, ?_, (hmoves.velocity m).trans ht.velocity⟩
  refine (position_checkObject ?_).trans ht.position
  rintro rfl q b hq hb
  rw [ht.position] at hq
  cases hq
  rw [honly.bounds] at hb
  exact hin b hb he

omit [Field K] in
/-- **`MapSystem`** leaves an entity inside its maps alone. -/
theorem tracks_update (h : Tracks m v p gs) (hin : InsideMaps m p gs) :
    Tracks m v p (update gs) := by
  refine (Loop.keeps (I := fun t => OnlyMoves gs t ∧ Tracks m v p t) ⟨.refl gs, h⟩ ?_).2
  rintro t mapEntity hmap ⟨honly, ht⟩
  have hsame : getObjectsInMap t mapEntity = getObjectsInMap gs mapEntity := by
    rw [getObjectsInMap, honly.objects, getObjectsInMap]
  have hinside : ∀ b ∈ t.bounds mapEntity,
      m ∈ getObjectsInMap t mapEntity → b.isInside p = true := by
    rw [honly.bounds, hsame]
    exact hin mapEntity hmap
  obtain ⟨hmoves, htracks⟩ := tracks_checkMapCollisions ht hinside
  exact ⟨honly.trans hmoves, htracks⟩

end MapSystem

namespace Systems

variable {S : Systems K} {draws : Entity → Vec K}

/-- The entity keeps its velocity, stays inside all bounds and collides with nothing. -/
def Unhindered (S : Systems K) (m : Entity) (v : Vec K) (dt : K) (draws : Entity → Vec K)
    (gs : Service K) : SystemId → Prop
  | .movement => (∀ p ∈ gs.position m, MovementSystem.InWorld (p.advance v dt)) ∧
      MovementSystem.Apart S.sqrt m
        (MovementSystem.checkBoundaries (MovementSystem.updatePositions dt gs))
  | .ai => m ∈ gs.entitiesWith .npc → AISystem.patrolVelocity S.sqrt (draws m) 10 = v
  | .combat => True
  | .map => ∀ p ∈ gs.position m, MapSystem.InsideMaps m p gs

instance (S : Systems K) (m : Entity) (v : Vec K) (dt : K) (draws : Entity → Vec K)
    (gs : Service K) : DecidablePred (S.Unhindered m v dt draws gs) := fun id => by
  cases id <;> unfold Unhindered <;> infer_instance

/-- **One system**: `MovementSystem` moves the entity, the others do not. -/
theorem tracks_system (h : Tracks m v p gs) {id : SystemId}
    (hfree : S.Unhindered m v dt draws gs id) :
    Tracks m v (p.advance v (if id = .movement then dt else 0)) (S.update dt draws gs id) := by
  cases id with
  | movement => exact MovementSystem.tracks_update h (hfree.1 p h.position) hfree.2
  | ai =>
    rw [if_neg nofun, Vec.advance_zero]
    exact ⟨(AISystem.position_update ..).trans h.position,
      AISystem.velocity_update h.velocity hfree⟩
  | combat =>
    rw [if_neg nofun, Vec.advance_zero]
    exact h
  | map =>
    rw [if_neg nofun, Vec.advance_zero]
    exact MapSystem.tracks_update h (hfree p h.position)

/-- The systems of a list, one after the other. -/
theorem tracks_foldl {ids : List SystemId} (h : Tracks m v p gs)
    (hfree : Along (S.update dt draws) (S.Unhindered m v dt draws) gs ids) :
    Tracks m v (p.advance v (ids.count .movement * dt)) (ids.foldl (S.update dt draws) gs) := by
  induction ids generalizing p gs with
  | nil =>
    rw [List.count_nil, Nat.cast_zero, zero_mul, Vec.advance_zero]
    exact h
  | cons id ids ih =>
    have hrest := ih (tracks_system h hfree.1) hfree.2
    rw [Vec.advance_advance] at hrest
    have htime : (if id = .movement then dt else 0) + (ids.count .movement : K) * dt
        = ((id :: ids).count .movement : K) * dt := by
      rw [List.count_cons]
      cases id with
      | movement =>
        simp
        ring
      | ai | combat | map => simp
    rw [← htime]
    exact hrest

/-- **`GameService::update`** moves the entity once. -/
theorem tracks_updateAll (h : Tracks m v p gs)
    (hfree : Along (S.update dt draws) (S.Unhindered m v dt draws) gs S.updateOrder) :
    Tracks m v (p.advance v dt) (S.updateAll dt draws gs) := by
  have honce : S.updateOrder.count .movement = 1 := S.registered.count_eq .movement
  have hall := tracks_foldl h hfree
  rw [honce, Nat.cast_one, one_mul] at hall
  exact hall

end Systems

end Tracks

end EcsAsioServer.Threading
