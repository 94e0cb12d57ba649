import EcsAsioServer.Threading.Collisions

/-!
# Bounds of the world (`server/game/systems/movement_system.cpp`)

`MovementSystem::update` moves all entities, puts those outside back to the border and handles
collisions last, so entities at the border may be pushed out of the world
(`pushed_out_of_world`).

What the first two passes do has a closed form, `settled`: it reads the positions and velocities
before `update`. If entities come together in pairs only, all are in the world afterwards exactly
if each push of two settled points has room (`world_bounds_iff`). In a crowd a push moves an
entity by less than 1 and each of the others pushes it once, so nobody leaves the world who is
deep enough in it.
-/

namespace EcsAsioServer.Threading

open Ecs Transition

namespace MovementSystem

variable {gs : Service ℝ} {pair : Entity × Entity} {p q : Vec ℝ} {a b : Entity} {dt : ℝ}
  {pos : Entity → Option (Vec ℝ)}

/-- All positions are in the world. -/
def AllInWorld (gs : Service ℝ) : Prop := ∀ e p, gs.position e = some p → InWorld p

/-! ## The passes before the collisions -/

/-- The point that `check_boundaries` puts in place of `p`. -/
noncomputable def Vec.bounded (p : Vec ℝ) : Vec ℝ := ⟨bound p.x, bound p.y, bound p.z⟩

/-- Where an entity is when the collisions start, from its position and velocity before
`update`. -/
noncomputable def settled (dt : ℝ) (gs : Service ℝ) (e : Entity) : Option (Vec ℝ) :=
  (gs.position e).map fun p => Vec.bounded ((gs.velocity e).elim p (p.advance · dt))

theorem bound_mem (c : ℝ) : -1000 ≤ bound c ∧ bound c ≤ 1000 := by
  unfold bound
  dsimp only
  split_ifs <;> constructor <;> linarith

variable {e : Entity} {k : ℝ}

theorem inWorld_settled (h : settled dt gs e = some p) : InWorld p := by
  obtain ⟨q, -, rfl⟩ := Option.map_eq_some_iff.mp h
  exact ⟨bound_mem _, bound_mem _, bound_mem _⟩

/-- A pass that comes to each entity with a position once, and there writes only the position. -/
theorem position_pass {step : Service ℝ → Entity → Service ℝ} (write : Entity → Vec ℝ → Vec ℝ)
    (honly : ∀ t e, OnlyMoves t (step t e))
    (hother : ∀ t e m, m ≠ e → (step t e).position m = t.position m)
    (hself : ∀ t e, OnlyMoves gs t → (step t e).position e = (t.position e).map (write e))
    (e : Entity) :
    ((gs.entitiesWith .position).foldl step gs).position e = (gs.position e).map (write e) := by
  by_cases he : e ∈ gs.entitiesWith .position
  · exact Loop.read_of_mem (I := OnlyMoves gs) (·.position e) _ (.refl gs)
      (fun t k _ ht => ht.trans (honly t k)) (fun t k hne => hother t k e hne.symm)
      (fun t ht => hself t e ht) he (gs.nodup_entitiesWith .position)
  · have hnone : gs.position e = none := by
      by_contra hsome
      exact he (Service.mem_entitiesWith_iff.mpr (Option.ne_none_iff_isSome.mp hsome))
    have hkept := Loop.read_of_not_mem (s := gs) (fun t => t.position e)
      (fun t k hne => hother t k e hne.symm) he
    rw [hkept, hnone]
    rfl

theorem onlyMoves_checkBoundary (gs : Service ℝ) (e : Entity) :
    OnlyMoves gs (checkBoundary gs e) := by
  unfold checkBoundary
  split
  · exact .setPosition ..
  · exact .refl gs

theorem position_updatePositions (dt : ℝ) (gs : Service ℝ) (e : Entity) :
    (updatePositions dt gs).position e =
      (gs.position e).map fun p => (gs.velocity e).elim p (p.advance · dt) := by
  refine position_pass (fun e p => (gs.velocity e).elim p (p.advance · dt))
    (onlyMoves_updatePosition dt) (fun _ _ _ hne => position_updatePosition_ne hne) ?_ e
  intro t e ht
  rw [← ht.velocity e]
  cases hv : t.velocity e with
  | some v => exact position_updatePosition hv
  | none =>
    have hkept : updatePosition dt t e = t := by
      unfold updatePosition
      rw [hv]
      split
      · next h => cases h
      · rfl
    rw [hkept]
    exact Option.map_id'.symm ▸ rfl

theorem position_checkBoundaries (gs : Service ℝ) (e : Entity) :
    (checkBoundaries gs).position e = (gs.position e).map Vec.bounded := by
  refine position_pass (fun _ => Vec.bounded) onlyMoves_checkBoundary ?_ ?_ e
  · intro t e m hne
    unfold checkBoundary
    split
    · exact t.position_setPosition_ne hne _
    · rfl
  · intro t e _
    unfold checkBoundary
    cases hp : t.position e with
    | none => exact hp
    | some p => exact t.position_setPosition_self e _

/-- What the collisions start from. -/
theorem position_start (dt : ℝ) (gs : Service ℝ) :
    (checkBoundaries (updatePositions dt gs)).position = settled dt gs := by
  funext e
  rw [position_checkBoundaries, position_updatePositions, Option.map_map]
  rfl

/-- All passes list the entities in the same order. -/
theorem entitiesWith_start (dt : ℝ) (gs : Service ℝ) :
    (checkBoundaries (updatePositions dt gs)).entitiesWith .position
      = gs.entitiesWith .position := by
  have hmove : (updatePositions dt gs).entitiesWith .position = gs.entitiesWith .position := by
    refine Loop.keeps
      (I := fun t : Service ℝ => t.entitiesWith .position = gs.entitiesWith .position) rfl ?_
    intro t e _ ht
    unfold updatePosition
    split
    · next p v hp _ => rw [Service.entitiesWith_setPosition (by simp [hp]), ht]
    · exact ht
  refine Loop.keeps
    (I := fun t : Service ℝ => t.entitiesWith .position = gs.entitiesWith .position) hmove ?_
  intro t e _ ht
  unfold checkBoundary
  split
  · next p hp => rw [Service.entitiesWith_setPosition (by simp [hp]), ht]
  · exact ht

/-! ## Pairs at the border -/

/-- The push of two entities that are closer than two radii ends in the world. -/
def Room (pos : Entity → Option (Vec ℝ)) : Prop :=
  ∀ a p b q, pos a = some p → Partner pos a p b q → InWorld (pushed p q)

/-- After the pass an entity with a partner is at the end of its push, and the others are where
they were. -/
theorem Standing.allInWorld_iff (h : Standing pos [] gs)
    (hworld : ∀ e p, pos e = some p → InWorld p) (hs : Sparse pos) :
    AllInWorld gs ↔ Room pos := by
  constructor
  · intro hall a p b q hp hb
    obtain ⟨p', hp', hstands⟩ := h.stands a p hp
    have hin := hall a p' hp'
    cases hstands with
    | alone hnone => exact absurd hb (hnone b q)
    | waiting _ hpending => simp [Pending] at hpending
    | pushed hf _ _ =>
      obtain rfl := hs.partner_unique hp hb hf
      rwa [Option.some.inj (hb.position.symm.trans hf.position)]
  · intro hroom e p' hp'
    cases hpos : pos e with
    | none => cases (h.only e hpos).symm.trans hp'
    | some p =>
      obtain ⟨p'', hp'', hstands⟩ := h.stands e p hpos
      obtain rfl := Option.some.inj (hp'.symm.trans hp'')
      cases hstands with
      | alone _ => exact hworld e _ hpos
      | waiting _ _ => exact hworld e _ hpos
      | pushed hf _ _ => exact hroom e p _ _ hpos hf

/-- **Entities in pairs**: safe divisions and all in the world, for different points and room. -/
theorem allInWorld_update_sparse (hs : Sparse (settled dt gs)) :
    DivisionsSafe (checkBoundaries (updatePositions dt gs)) ∧ AllInWorld (update Real.sqrt dt gs) ↔
      Distinct (settled dt gs) ∧ Room (settled dt gs) := by
  rw [← position_start] at hs
  obtain ⟨hsafe, hstanding⟩ := handleCollisions_sparse hs
  rw [position_start] at hs hsafe hstanding
  rw [hsafe]
  exact and_congr_right fun hdistinct =>
    (hstanding hdistinct).allInWorld_iff (fun _ _ => inWorld_settled) hs

/-! ## Crowds -/

/-- At least `depth` from the border of the world. -/
structure Inside (depth : ℝ) (p : Vec ℝ) : Prop where
  x : |p.x| + depth ≤ 1000
  y : |p.y| + depth ≤ 1000
  z : |p.z| + depth ≤ 1000

theorem Inside.mono {l : ℝ} (h : Inside l p) (hkl : k ≤ l) : Inside k p :=
  ⟨by linarith [h.x], by linarith [h.y], by linarith [h.z]⟩

theorem Inside.inWorld (h : Inside 0 p) : InWorld p := by
  have hin : ∀ {c : ℝ}, |c| + 0 ≤ 1000 → -1000 ≤ c ∧ c ≤ 1000 := fun hc =>
    abs_le.mp (by linarith)
  exact ⟨hin h.x, hin h.y, hin h.z⟩

theorem abs_sub_le_distance (p q : Vec ℝ) :
    |p.x - q.x| ≤ distance Real.sqrt p q ∧ |p.y - q.y| ≤ distance Real.sqrt p q ∧
      |p.z - q.z| ≤ distance Real.sqrt p q := by
  have hx := mul_self_nonneg (p.x - q.x)
  have hy := mul_self_nonneg (p.y - q.y)
  have hz := mul_self_nonneg (p.z - q.z)
  refine ⟨Real.abs_le_sqrt ?_, Real.abs_le_sqrt ?_, Real.abs_le_sqrt ?_⟩
  · rw [pow_two]
    linarith
  · rw [pow_two]
    linarith
  · rw [pow_two]
    linarith

/-- A push moves a coordinate by at most 1. -/
theorem push_le {x y d : ℝ} (hd : 0 < d) (hd2 : d < 2) (hxy : |x - y| ≤ d)
    (h : |x| + (k + 1) ≤ 1000) : |(x + y) / (2 : ℕ) + (x - y) / d| + k ≤ 1000 := by
  have hunit : |(x - y) / d| ≤ 1 := by
    rw [abs_div, abs_of_pos hd]
    exact (div_le_one hd).mpr hxy
  have hpush : |(x - y) / d * ((2 - d) / 2)| ≤ 1 := by
    rw [abs_mul, abs_of_nonneg (by linarith : (0 : ℝ) ≤ (2 - d) / 2)]
    exact mul_le_one₀ hunit (by linarith) (by linarith)
  rw [← push_first hd.ne']
  have htriangle := abs_add_le x ((x - y) / d * ((2 - d) / 2))
  linarith

theorem Inside.pushed (h : Inside (k + 1) p) (hd : distance Real.sqrt p q ≠ 0)
    (hclose : distance Real.sqrt p q < 2) : Inside k (pushed p q) := by
  have hpos : 0 < distance Real.sqrt p q := lt_of_le_of_ne (Real.sqrt_nonneg _) hd.symm
  obtain ⟨hx, hy, hz⟩ := abs_sub_le_distance p q
  exact ⟨push_le hpos hclose hx h.x, push_le hpos hclose hy h.y, push_le hpos hclose hz h.z⟩

/-- The number of turns that an entity has. -/
def turns (rounds : List (Entity × Entity)) (e : Entity) : ℕ :=
  rounds.countP fun pair => pair.1 = e ∨ pair.2 = e

theorem turns_cons (pair : Entity × Entity) (rounds : List (Entity × Entity)) (e : Entity) :
    turns (pair :: rounds) e = turns rounds e + if pair.1 = e ∨ pair.2 = e then 1 else 0 := by
  simp [turns, List.countP_cons]

theorem turns_pairs_of_not_mem {l : List Entity} (he : e ∉ l) :
    turns (pairs l) e = 0 := by
  refine List.countP_eq_zero.mpr fun pair hpair => ?_
  obtain ⟨hfirst, hsecond⟩ := mem_of_mem_pairs hpair
  simp only [decide_eq_true_eq]
  rintro (rfl | rfl)
  · exact he hfirst
  · exact he hsecond

/-- One turn with each of the others. -/
theorem turns_pairs {l : List Entity} (hl : l.Nodup) (he : e ∈ l) :
    turns (pairs l) e + 1 = l.length := by
  induction l with
  | nil => cases he
  | cons a l ih =>
    obtain ⟨ha, hl⟩ := List.nodup_cons.mp hl
    have hsplit : turns (pairs (a :: l)) e
        = l.countP (fun b => decide (a = e ∨ b = e)) + turns (pairs l) e := by
      rw [turns, pairs, List.countP_append, List.countP_map]
      rfl
    rw [hsplit, List.length_cons]
    rcases List.mem_cons.mp he with rfl | hel
    · rw [turns_pairs_of_not_mem ha]
      simp
    · have hae : a ≠ e := by
        rintro rfl
        exact ha hel
      have hone : l.countP (fun b => decide (a = e ∨ b = e)) = 1 := by
        simp only [hae, false_or]
        exact List.count_eq_one_of_mem hl hel
      rw [hone]
      have := ih hl hel
      omega

/-- With room for all pushes that are to come, nobody is pushed out. -/
theorem allInWorld_rounds {rounds : List (Entity × Entity)}
    (hsafe : Along (collide Real.sqrt) DividesSafely gs rounds)
    (h : ∀ e p, gs.position e = some p → Inside (turns rounds e) p) :
    AllInWorld (rounds.foldl (collide Real.sqrt) gs) := by
  induction rounds generalizing gs with
  | nil => exact fun e p hp => (h e p hp |>.mono (by simp [turns])).inWorld
  | cons pair rounds ih =>
    obtain ⟨hfirst, hrest⟩ := hsafe
    rw [List.foldl_cons]
    refine ih hrest fun e r hr => ?_
    have hless : (turns rounds e : ℝ) ≤ turns (pair :: rounds) e := by
      rw [turns_cons]
      exact_mod_cast Nat.le_add_right _ _
    cases htouch : touch Real.sqrt gs pair with
    | false =>
      rw [collide_apart htouch] at hr
      exact (h e r hr).mono hless
    | true =>
      obtain ⟨p, q, hp, hq⟩ := exists_of_touch htouch
      have hd := hfirst p q hp hq htouch
      have hclose := (touch_iff hp hq).mp htouch
      rw [collide_touching hp hq htouch hd] at hr
      by_cases hsecond : e = pair.2
      · subst hsecond
        rw [Service.position_setPosition_self] at hr
        cases hr
        have hin := h pair.2 q hq
        rw [turns_cons, if_pos (.inr rfl), Nat.cast_add, Nat.cast_one] at hin
        exact hin.pushed (by rwa [distance_comm]) (by rwa [distance_comm])
      · rw [Service.position_setPosition_ne _ hsecond] at hr
        by_cases hone : e = pair.1
        · subst hone
          rw [Service.position_setPosition_self] at hr
          cases hr
          have hin := h pair.1 p hp
          rw [turns_cons, if_pos (.inl rfl), Nat.cast_add, Nat.cast_one] at hin
          exact hin.pushed hd hclose
        · rw [Service.position_setPosition_ne _ hone] at hr
          exact (h e r hr).mono hless

/-- All entities are settled so deep in the world that one push by each of the others does not
take them out. -/
def Deep (dt : ℝ) (gs : Service ℝ) : Prop :=
  ∀ e p, settled dt gs e = some p → Inside (((gs.entitiesWith .position).length - 1 : ℕ) : ℝ) p

theorem allInWorld_update_deep (h : Deep dt gs)
    (hsafe : DivisionsSafe (checkBoundaries (updatePositions dt gs))) :
    AllInWorld (update Real.sqrt dt gs) := by
  have hposition := position_start dt gs
  have hlist := entitiesWith_start dt gs
  unfold update handleCollisions
  generalize checkBoundaries (updatePositions dt gs) = start at hsafe hposition hlist ⊢
  refine allInWorld_rounds hsafe.along fun e p hp => ?_
  have he : e ∈ start.entitiesWith .position :=
    Service.mem_entitiesWith_iff.mpr (Option.isSome_iff_exists.mpr ⟨p, hp⟩)
  rw [hposition] at hp
  rw [hlist] at he ⊢
  have hturns := turns_pairs (gs.nodup_entitiesWith .position) he
  refine (h e p hp).mono ?_
  exact_mod_cast (by omega : turns (pairs (gs.entitiesWith .position)) e
    ≤ (gs.entitiesWith .position).length - 1)

/-- **Bounds of the world.** Let the entities come together in pairs only, when their velocities
have moved them and `check_boundaries` has put them into the world. After `update` all are in the
world, and no division was by 0, exactly if these points are all different and the push of
each pair has room. With no more than two entities this is always so. In a crowd all are in the
world, after divisions that were not by 0, if they are as deep in it as there are others. -/
theorem world_bounds_iff (gs : Service ℝ) (dt : ℝ) :
    let start := checkBoundaries (updatePositions dt gs)
    start.position = settled dt gs ∧
    (Sparse (settled dt gs) →
      (DivisionsSafe start ∧ AllInWorld (update Real.sqrt dt gs) ↔
        Distinct (settled dt gs) ∧ Room (settled dt gs))) ∧
    ((gs.entitiesWith .position).length ≤ 2 →
      (DivisionsSafe start ∧ AllInWorld (update Real.sqrt dt gs) ↔
        Distinct (settled dt gs) ∧ Room (settled dt gs))) ∧
    (DivisionsSafe start → Deep dt gs → AllInWorld (update Real.sqrt dt gs)) := by
  intro start
  have hsparse : Sparse (settled dt gs) →
      (DivisionsSafe start ∧ AllInWorld (update Real.sqrt dt gs) ↔
        Distinct (settled dt gs) ∧ Room (settled dt gs)) := fun hs => allInWorld_update_sparse hs
  refine ⟨position_start dt gs, hsparse, fun htwo => hsparse ?_, fun hsafe hdeep => ?_⟩
  · rw [← position_start]
    exact sparse_of_two (by rwa [entitiesWith_start])
  · exact allInWorld_update_deep hdeep hsafe

/-- An entity that stands still inside the world is where it was when the collisions start. -/
theorem tracks_standing {m : Entity} (dt : ℝ) (h : Tracks m ⟨0, 0, 0⟩ p gs) (hp : InWorld p) :
    Tracks m ⟨0, 0, 0⟩ p (checkBoundaries (updatePositions dt gs)) := by
  have hmoved : Tracks m ⟨0, 0, 0⟩ (p.advance ⟨0, 0, 0⟩ dt) (updatePositions dt gs) :=
    tracks_updatePositions h
  have hsame : p.advance ⟨0, 0, 0⟩ dt = p := by simp [Vec.advance]
  rw [hsame] at hmoved
  exact tracks_checkBoundaries hmoved hp

/-- Two entities and nothing else. -/
theorem handleCollisions_two {a b : Entity} (hlist : gs.entitiesWith .position = [a, b])
    (hab : a ≠ b) (hp : gs.position a = some p) (hq : gs.position b = some q)
    (htouch : distance Real.sqrt p q < 2) (hd : distance Real.sqrt p q ≠ 0) :
    DivisionsSafe gs ∧ (handleCollisions Real.sqrt gs).position a = some (pushed p q) := by
  have hrounds : pairs (gs.entitiesWith .position) = [(a, b)] := by rw [hlist]; rfl
  constructor
  · rw [divisionsSafe_iff, hrounds]
    refine ⟨fun p' q' hp' hq' _ => ?_, trivial⟩
    rw [← Option.some.inj (hp.symm.trans hp'), ← Option.some.inj (hq.symm.trans hq')]
    exact hd
  · rw [handleCollisions, hrounds, List.foldl_cons, List.foldl_nil,
      collide_touching hp hq ((touch_iff hp hq).mpr htouch) hd,
      Service.position_setPosition_ne _ hab, Service.position_setPosition_self]

/-- Two players at the border, less than two radii apart: one is pushed over it. -/
theorem pushed_out_of_world :
    let gs := login (login {} ⟨999, 0, 0⟩) ⟨1000, 0, 0⟩
    DivisionsSafe (checkBoundaries (updatePositions 1 gs)) ∧
    (update Real.sqrt 1 gs).position 2 = some ⟨2001 / 2, 0, 0⟩ ∧
    ¬ AllInWorld (update Real.sqrt 1 gs) := by
  intro gs
  have hfirst : Tracks 1 ⟨0, 0, 0⟩ ⟨999, 0, 0⟩ gs := ⟨rfl, rfl⟩
  have hsecond : Tracks 2 ⟨0, 0, 0⟩ ⟨1000, 0, 0⟩ gs := ⟨rfl, rfl⟩
  have hd : distance Real.sqrt ⟨1000, 0, 0⟩ ⟨999, 0, 0⟩ = 1 := by norm_num [distance_axis]
  have hpoint : pushed ⟨1000, 0, 0⟩ ⟨999, 0, 0⟩ = ⟨2001 / 2, 0, 0⟩ := by norm_num [pushed, hd]
  have hlist : (checkBoundaries (updatePositions 1 gs)).entitiesWith .position = [2, 1] := by
    decide +kernel
  have hone := (tracks_standing 1 hfirst (by norm_num [InWorld])).position
  have htwo := (tracks_standing 1 hsecond (by norm_num [InWorld])).position
  unfold update
  generalize checkBoundaries (updatePositions 1 gs) = start at hlist hone htwo ⊢
  obtain ⟨hsafe, hpush⟩ := handleCollisions_two hlist (by decide) htwo hone (by norm_num [hd])
    (by norm_num [hd])
  rw [hpoint] at hpush
  refine ⟨hsafe, hpush, fun hall => ?_⟩
  have hx : (2001 / 2 : ℝ) ≤ 1000 := (hall 2 _ hpush).1.2
  norm_num at hx

end MovementSystem

end EcsAsioServer.Threading
