import EcsAsioServer.Threading.Systems
import Mathlib.Analysis.InnerProductSpace.PiL2

/-!
# Collisions (`server/game/systems/movement_system.cpp`)

`handle_collisions` goes through all pairs of entities and pushes those apart that are closer
than two collision radii: each of the two ends at a distance of 1 from the point in the middle
(`pushed`). Here coordinates are real numbers.

For the direction it divides by the distance, which is 0 if the two are at the same point when
their turn comes. This happens to players who log in at the default position, and also to
entities that an earlier push has put to the same point (`collisions_divide_by_zero`).

If entities come together in pairs only, with all others far enough away (`Sparse`), no push has
an effect on a later one: then the pass divides by 0 exactly if two entities are at one point
before it (`collisions_divide_iff`). The invariant of the pass is `Standing`: each entity is
where it was, and after the turn with its partner where `pushed` puts it. With three entities
close together the points before the pass do not decide it (`crowd_separates`).
-/

namespace EcsAsioServer.Threading

open Ecs Transition

namespace MovementSystem

variable {gs : Service ℝ} {pair : Entity × Entity} {p q : Vec ℝ}

/-! ## Divisions -/

theorem distance_comm (p q : Vec ℝ) : distance Real.sqrt p q = distance Real.sqrt q p := by
  simp only [distance]
  congr 1
  ring

theorem distance_eq_zero_iff : distance Real.sqrt p q = 0 ↔ p = q := by
  simp only [distance]
  constructor
  · intro h
    have hx := mul_self_nonneg (p.x - q.x)
    have hy := mul_self_nonneg (p.y - q.y)
    have hz := mul_self_nonneg (p.z - q.z)
    have hsum := (Real.sqrt_eq_zero (add_nonneg (add_nonneg hx hy) hz)).mp h
    -- a sum of squares is 0 only if each of them is
    have hx0 := mul_self_eq_zero.mp (show (p.x - q.x) * (p.x - q.x) = 0 by linarith)
    have hy0 := mul_self_eq_zero.mp (show (p.y - q.y) * (p.y - q.y) = 0 by linarith)
    have hz0 := mul_self_eq_zero.mp (show (p.z - q.z) * (p.z - q.z) = 0 by linarith)
    cases p
    cases q
    rw [Vec.mk.injEq]
    exact ⟨sub_eq_zero.mp hx0, sub_eq_zero.mp hy0, sub_eq_zero.mp hz0⟩
  · rintro rfl
    simp

theorem touch_iff (hp : gs.position pair.1 = some p) (hq : gs.position pair.2 = some q) :
    touch Real.sqrt gs pair = true ↔ distance Real.sqrt p q < 2 := by
  rw [touch, hp, hq]
  exact decide_eq_true_iff

theorem exists_of_touch (h : touch Real.sqrt gs pair = true) :
    ∃ p q, gs.position pair.1 = some p ∧ gs.position pair.2 = some q := by
  unfold touch at h
  split at h
  · next p q hp hq => exact ⟨p, q, hp, hq⟩
  · cases h

/-- If the round divides by the distance, it is not 0. -/
def DividesSafely (gs : Service ℝ) (pair : Entity × Entity) : Prop :=
  ∀ p q, gs.position pair.1 = some p → gs.position pair.2 = some q →
    touch Real.sqrt gs pair = true → distance Real.sqrt p q ≠ 0

/-- The two entities are at different points. -/
def Separate (gs : Service ℝ) (pair : Entity × Entity) : Prop :=
  ∀ p q, gs.position pair.1 = some p → gs.position pair.2 = some q → p ≠ q

theorem dividesSafely_iff (gs : Service ℝ) (pair : Entity × Entity) :
    DividesSafely gs pair ↔ Separate gs pair := by
  constructor
  · intro hsafe p q hp hq heq
    have hzero : distance Real.sqrt p q = 0 := distance_eq_zero_iff.mpr heq
    have htouch : distance Real.sqrt p q < 2 := by
      rw [hzero]
      norm_num
    exact hsafe p q hp hq ((touch_iff hp hq).mpr htouch) hzero
  · intro hseparate p q hp hq _ hzero
    exact hseparate p q hp hq (distance_eq_zero_iff.mp hzero)

/-- All divisions of `handle_collisions` are by a distance that is not 0. -/
structure DivisionsSafe (gs : Service ℝ) : Prop where
  along : Along (collide Real.sqrt) DividesSafely gs (pairs (gs.entitiesWith .position))

theorem divisionsSafe_iff (gs : Service ℝ) : DivisionsSafe gs ↔
    Along (collide Real.sqrt) DividesSafely gs (pairs (gs.entitiesWith .position)) :=
  ⟨DivisionsSafe.along, DivisionsSafe.mk⟩

/-! ## Pushes -/

/-- Where `handle_collisions` puts the first of two entities: at a distance of 1 from the point
in the middle. -/
noncomputable def pushed (p q : Vec ℝ) : Vec ℝ :=
  let d := distance Real.sqrt p q
  ⟨(p.x + q.x) / (2 : ℕ) + (p.x - q.x) / d, (p.y + q.y) / (2 : ℕ) + (p.y - q.y) / d,
    (p.z + q.z) / (2 : ℕ) + (p.z - q.z) / d⟩

theorem push_first {a b d : ℝ} (hd : d ≠ 0) :
    a + (a - b) / d * ((2 - d) / 2) = (a + b) / (2 : ℕ) + (a - b) / d := by
  push_cast
  field_simp
  ring

theorem push_second {a b d : ℝ} (hd : d ≠ 0) :
    b - (a - b) / d * ((2 - d) / 2) = (b + a) / (2 : ℕ) + (b - a) / d := by
  push_cast
  field_simp
  ring

theorem collide_touching (hp : gs.position pair.1 = some p) (hq : gs.position pair.2 = some q)
    (htouch : touch Real.sqrt gs pair = true) (hd : distance Real.sqrt p q ≠ 0) :
    collide Real.sqrt gs pair =
      (gs.setPosition pair.1 (pushed p q)).setPosition pair.2 (pushed q p) := by
  rw [collide, hp, hq]
  dsimp only
  rw [if_pos htouch]
  simp only [push_first hd, push_second hd, pushed, distance_comm q p]

theorem collide_apart (h : touch Real.sqrt gs pair = false) : collide Real.sqrt gs pair = gs := by
  unfold collide
  rw [h]
  split <;> rfl

/-- The point of the Euclidean space. -/
noncomputable def point (p : Vec ℝ) : EuclideanSpace ℝ (Fin 3) :=
  WithLp.toLp _ ![p.x, p.y, p.z]

theorem distance_eq_dist (p q : Vec ℝ) : distance Real.sqrt p q = dist (point p) (point q) := by
  rw [EuclideanSpace.dist_eq, Fin.sum_univ_three]
  simp only [distance, point, Real.dist_eq, sq_abs]
  congr 1
  simp [pow_two]

theorem distance_triangle (p q r : Vec ℝ) :
    distance Real.sqrt p r ≤ distance Real.sqrt p q + distance Real.sqrt q r := by
  simp only [distance_eq_dist]
  exact dist_triangle _ _ _

/-- The point in the middle. -/
noncomputable def middle (p q : Vec ℝ) : Vec ℝ :=
  ⟨(p.x + q.x) / (2 : ℕ), (p.y + q.y) / (2 : ℕ), (p.z + q.z) / (2 : ℕ)⟩

theorem distance_middle (p q : Vec ℝ) :
    distance Real.sqrt (middle p q) p = distance Real.sqrt p q / 2 := by
  have hsq : ∀ a b : ℝ, (a + b) / (2 : ℕ) - a = (b - a) / 2 := by
    intro a b
    push_cast
    ring
  simp only [distance, middle, hsq]
  rw [show (q.x - p.x) / 2 * ((q.x - p.x) / 2) + (q.y - p.y) / 2 * ((q.y - p.y) / 2)
      + (q.z - p.z) / 2 * ((q.z - p.z) / 2)
      = ((p.x - q.x) * (p.x - q.x) + (p.y - q.y) * (p.y - q.y) + (p.z - q.z) * (p.z - q.z)) / 2 ^ 2
      by ring, Real.sqrt_div' _ (by norm_num), Real.sqrt_sq (by norm_num)]

theorem distance_middle_pushed (hd : distance Real.sqrt p q ≠ 0) :
    distance Real.sqrt (middle p q) (pushed p q) = 1 := by
  have hsq : distance Real.sqrt p q ^ 2
      = (p.x - q.x) * (p.x - q.x) + (p.y - q.y) * (p.y - q.y) + (p.z - q.z) * (p.z - q.z) := by
    exact Real.sq_sqrt (add_nonneg (add_nonneg (mul_self_nonneg _) (mul_self_nonneg _))
      (mul_self_nonneg _))
  have hsum : distance Real.sqrt (middle p q) (pushed p q)
      = Real.sqrt (((p.x - q.x) * (p.x - q.x) + (p.y - q.y) * (p.y - q.y)
        + (p.z - q.z) * (p.z - q.z)) / distance Real.sqrt p q ^ 2) := by
    simp only [distance, middle, pushed]
    congr 1
    ring
  rw [hsum, ← hsq, div_self (pow_ne_zero 2 hd), Real.sqrt_one]

/-! ## Pairs -/

variable {a b c : Entity}

theorem ne_of_mem_pairs {l : List Entity} (hl : l.Nodup) (h : pair ∈ pairs l) :
    pair.1 ≠ pair.2 := by
  induction l with
  | nil => cases h
  | cons a l ih =>
    rw [List.nodup_cons] at hl
    rcases List.mem_append.mp h with h | h
    · obtain ⟨b, hb, rfl⟩ := List.mem_map.mp h
      intro (heq : a = b)
      exact hl.1 (heq ▸ hb)
    · exact ih hl.2 h

theorem mem_of_mem_pairs {l : List Entity} (h : pair ∈ pairs l) : pair.1 ∈ l ∧ pair.2 ∈ l := by
  induction l with
  | nil => cases h
  | cons a l ih =>
    rcases List.mem_append.mp h with h | h
    · obtain ⟨b, hb, rfl⟩ := List.mem_map.mp h
      exact ⟨.head _, .tail _ hb⟩
    · exact ⟨.tail _ (ih h).1, .tail _ (ih h).2⟩

/-- The two entities have a turn in `rounds`. -/
def Pending (rounds : List (Entity × Entity)) (a b : Entity) : Prop :=
  (a, b) ∈ rounds ∨ (b, a) ∈ rounds

theorem pending_pairs {l : List Entity} (ha : a ∈ l) (hb : b ∈ l) (hab : a ≠ b) :
    Pending (pairs l) a b := by
  induction l with
  | nil => cases ha
  | cons e l ih =>
    have hfirst : ∀ {x}, x ∈ l → (e, x) ∈ pairs (e :: l) := fun hx =>
      List.mem_append_left _ (List.mem_map_of_mem hx)
    rcases List.mem_cons.mp ha with rfl | hal
    · exact .inl (hfirst (List.mem_of_ne_of_mem hab.symm hb))
    · rcases List.mem_cons.mp hb with rfl | hbl
      · exact .inr (hfirst hal)
      · exact (ih hal hbl).imp (List.mem_append_right _) (List.mem_append_right _)

/-- Two entities have one turn. -/
theorem pairwise_pairs {l : List Entity} (hl : l.Nodup) :
    (pairs l).Pairwise fun x y => ¬ Pending [y] x.1 x.2 := by
  induction l with
  | nil => exact .nil
  | cons e l ih =>
    obtain ⟨he, hl⟩ := List.nodup_cons.mp hl
    refine List.pairwise_append.mpr ⟨?_, ih hl, ?_⟩
    · refine List.pairwise_map.mpr ((List.Nodup.pairwise_of_forall_ne hl fun x hx y _ hne => ?_))
      rintro (h | h)
      · exact hne (Prod.mk.inj (List.mem_singleton.mp h)).2
      · exact he ((Prod.mk.inj (List.mem_singleton.mp h)).1 ▸ hx)
    · rintro x hx y hy (h | h)
      · obtain ⟨z, hz, rfl⟩ := List.mem_map.mp hx
        rw [← List.mem_singleton.mp h] at hy
        exact he (mem_of_mem_pairs hy).1
      · obtain ⟨z, hz, rfl⟩ := List.mem_map.mp hx
        rw [← List.mem_singleton.mp h] at hy
        exact he (mem_of_mem_pairs hy).2

theorem pending_comm {rounds : List (Entity × Entity)} :
    Pending rounds a b ↔ Pending rounds b a :=
  or_comm

theorem pending_cons {rounds : List (Entity × Entity)} {e f : Entity} :
    Pending ((a, b) :: rounds) e f ↔
      (e = a ∧ f = b) ∨ (e = b ∧ f = a) ∨ Pending rounds e f := by
  simp only [Pending, List.mem_cons, Prod.mk.injEq]
  tauto

/-! ## Entities in pairs -/

variable {pos : Entity → Option (Vec ℝ)}

/-- Apart from pairs, all keep away from each other: if two entities are closer than two radii,
the others are so far from the point in the middle that no push can reach them. -/
structure Sparse (pos : Entity → Option (Vec ℝ)) : Prop where
  lone : ∀ {a b c p q r}, pos a = some p → pos b = some q → pos c = some r → a ≠ b → c ≠ a →
    c ≠ b → distance Real.sqrt p q < 2 → 3 ≤ distance Real.sqrt (middle p q) r
  couple : ∀ {a b c d p q r s}, pos a = some p → pos b = some q → pos c = some r →
    pos d = some s → a ≠ b → c ≠ d → c ≠ a → c ≠ b → d ≠ a → d ≠ b →
    distance Real.sqrt p q < 2 → distance Real.sqrt r s < 2 →
    4 ≤ distance Real.sqrt (middle p q) (middle r s)

/-- No two entities are at one point. -/
def Distinct (pos : Entity → Option (Vec ℝ)) : Prop :=
  ∀ a b p q, a ≠ b → pos a = some p → pos b = some q → p ≠ q

/-- `b` is at `q`, closer than two radii to `a` at `p`. -/
structure Partner (pos : Entity → Option (Vec ℝ)) (a : Entity) (p : Vec ℝ) (b : Entity)
    (q : Vec ℝ) : Prop where
  ne : b ≠ a
  position : pos b = some q
  close : distance Real.sqrt p q < 2

theorem Partner.middle_lt (h : Partner pos a p b q) :
    distance Real.sqrt (middle p q) p < 1 := by
  have hclose := h.close
  rw [distance_middle]
  linarith

/-- There is at most one partner. -/
theorem Sparse.partner_unique {r : Vec ℝ} (hs : Sparse pos) (hp : pos a = some p)
    (hb : Partner pos a p b q) (hc : Partner pos a p c r) : b = c := by
  by_contra hne
  have hfar := hs.lone hp hb.position hc.position hb.ne.symm hc.ne (Ne.symm hne) hb.close
  have htriangle := distance_triangle (middle p q) p r
  have hmiddle := hb.middle_lt
  have hclose := hc.close
  linarith

/-- Where an entity that was at `p` first is, when `rounds` are left. -/
inductive Stands (pos : Entity → Option (Vec ℝ)) (rounds : List (Entity × Entity)) (e : Entity)
    (p : Vec ℝ) : Vec ℝ → Prop
  | alone : (∀ f q, ¬ Partner pos e p f q) → Stands pos rounds e p p
  | waiting {f : Entity} {q : Vec ℝ} : Partner pos e p f q → Pending rounds e f →
      Stands pos rounds e p p
  | pushed {f : Entity} {q : Vec ℝ} : Partner pos e p f q → distance Real.sqrt p q ≠ 0 →
      ¬ Pending rounds e f → Stands pos rounds e p (pushed p q)

/-- An entity is where it was, without a partner, or no more than 1 from the middle. -/
theorem Stands.reach {rounds : List (Entity × Entity)} {p' : Vec ℝ}
    (h : Stands pos rounds a p p') :
    (p' = p ∧ ∀ f q, ¬ Partner pos a p f q) ∨
    ∃ f q, Partner pos a p f q ∧ distance Real.sqrt (middle p q) p' ≤ 1 := by
  cases h with
  | alone hnone => exact .inl ⟨rfl, hnone⟩
  | waiting hf _ => exact .inr ⟨_, _, hf, hf.middle_lt.le⟩
  | pushed hf hd _ => exact .inr ⟨_, _, hf, (distance_middle_pushed hd).le⟩

/-- Two entities that keep away from each other do so all the time. -/
theorem Sparse.far {rounds : List (Entity × Entity)} {p' q' : Vec ℝ} (hs : Sparse pos)
    (hab : a ≠ b) (hp : pos a = some p) (hq : pos b = some q)
    (hfar : 2 ≤ distance Real.sqrt p q) (ha : Stands pos rounds a p p')
    (hb : Stands pos rounds b q q') : 2 ≤ distance Real.sqrt p' q' := by
  have hlone : ∀ {a b c p p' q r}, a ≠ c → pos a = some p → pos c = some r →
      Partner pos a p b q → b ≠ c → distance Real.sqrt (middle p q) p' ≤ 1 →
      2 ≤ distance Real.sqrt p' r := by
    intro a b c p p' q r hac hp hr hpartner hbc hreach
    have hthree := hs.lone hp hpartner.position hr hpartner.ne.symm hac.symm hbc.symm hpartner.close
    have htriangle := distance_triangle (middle p q) p' r
    linarith
  rcases ha.reach with ⟨rfl, -⟩ | ⟨f, r, hf, hreach⟩
  · rcases hb.reach with ⟨rfl, -⟩ | ⟨g, s, hg, hreach'⟩
    · exact hfar
    · have hga : g ≠ a := by
        rintro rfl
        have hclose := hg.close
        rw [Option.some.inj (hg.position.symm.trans hp), distance_comm] at hclose
        linarith
      rw [distance_comm]
      exact hlone hab.symm hq hp hg hga hreach'
  · have hfb : f ≠ b := by
      rintro rfl
      have hclose := hf.close
      rw [Option.some.inj (hf.position.symm.trans hq)] at hclose
      linarith
    rcases hb.reach with ⟨rfl, -⟩ | ⟨g, s, hg, hreach'⟩
    · exact hlone hab hp hq hf hfb hreach
    · have hga : g ≠ a := by
        rintro rfl
        have hclose := hg.close
        rw [Option.some.inj (hg.position.symm.trans hp), distance_comm] at hclose
        linarith
      have hgf : g ≠ f := by
        -- otherwise `f` is the partner of both
        rintro rfl
        have hback : Partner pos g r a p := by
          have hclose := hf.close
          rw [distance_comm] at hclose
          exact ⟨hf.ne.symm, hp, hclose⟩
        have hback' : Partner pos g r b q := by
          have hclose := hg.close
          rw [Option.some.inj (hg.position.symm.trans hf.position), distance_comm] at hclose
          exact ⟨hfb.symm, hq, hclose⟩
        exact hab (hs.partner_unique hf.position hback hback')
      have hfour := hs.couple hp hf.position hq hg.position hf.ne.symm hg.ne.symm hab.symm
        hfb.symm hga hgf hf.close hg.close
      have hleft := distance_triangle (middle p r) p' (middle q s)
      have hright := distance_triangle p' q' (middle q s)
      rw [distance_comm q'] at hright
      linarith

/-- All entities stand where the rounds before `rounds` have put them. -/
structure Standing (pos : Entity → Option (Vec ℝ)) (rounds : List (Entity × Entity))
    (gs : Service ℝ) : Prop where
  stands : ∀ e p, pos e = some p → ∃ p', gs.position e = some p' ∧ Stands pos rounds e p p'
  only : ∀ e, pos e = none → gs.position e = none

/-- A pair that does not touch stays. -/
theorem Standing.skip {rounds : List (Entity × Entity)} (h : Standing pos ((a, b) :: rounds) gs)
    (hp : pos a = some p) (hq : pos b = some q) (hfar : 2 ≤ distance Real.sqrt p q) :
    Standing pos rounds gs := by
  refine ⟨fun e r hr => ?_, h.only⟩
  obtain ⟨r', hr', hstands⟩ := h.stands e r hr
  refine ⟨r', hr', ?_⟩
  cases hstands with
  | alone hnone => exact .alone hnone
  | waiting hf hpending =>
    refine .waiting hf ?_
    have hclose := hf.close
    rcases pending_cons.mp hpending with ⟨rfl, rfl⟩ | ⟨rfl, rfl⟩ | hrest
    · rw [Option.some.inj (hr.symm.trans hp), Option.some.inj (hf.position.symm.trans hq)] at hclose
      linarith
    · rw [Option.some.inj (hr.symm.trans hq), Option.some.inj (hf.position.symm.trans hp),
        distance_comm] at hclose
      linarith
    · exact hrest
  | pushed hf hd hdone =>
    exact .pushed hf hd fun hpending => hdone (pending_cons.mpr (.inr (.inr hpending)))

theorem Sparse.waits {rounds : List (Entity × Entity)} (hs : Sparse pos)
    (hb : Partner pos a p b q) (hp : pos a = some p) (hturn : Pending rounds a b)
    (h : Standing pos rounds gs) : gs.position a = some p := by
  obtain ⟨p', hp', hstands⟩ := h.stands a p hp
  cases hstands with
  | alone hnone => exact absurd hb (hnone _ _)
  | waiting _ _ => exact hp'
  | pushed hf _ hdone =>
    rw [hs.partner_unique hp hf hb] at hdone
    exact absurd hturn hdone

/-- Two entities that touch are pushed apart. -/
theorem Standing.push {rounds : List (Entity × Entity)} (h : Standing pos ((a, b) :: rounds) gs)
    (hp : pos a = some p) (hb : Partner pos a p b q) (hd : distance Real.sqrt p q ≠ 0)
    (hlast : ¬ Pending rounds a b) :
    Standing pos rounds ((gs.setPosition a (pushed p q)).setPosition b (pushed q p)) := by
  have hback : Partner pos b q a p := ⟨hb.ne.symm, hp, by rw [distance_comm]; exact hb.close⟩
  refine ⟨fun e r hr => ?_, fun e hnone => ?_⟩
  · by_cases heb : e = b
    · subst heb
      cases hb.position.symm.trans hr
      exact ⟨_, Service.position_setPosition_self .., .pushed hback (by rwa [distance_comm])
        fun hpending => hlast (pending_comm.mp hpending)⟩
    by_cases hea : e = a
    · subst hea
      cases hp.symm.trans hr
      exact ⟨_, (Service.position_setPosition_ne _ heb _).trans
        (Service.position_setPosition_self ..), .pushed hb hd hlast⟩
    obtain ⟨r', hr', hstands⟩ := h.stands e r hr
    refine ⟨r', (Service.position_setPosition_ne _ heb _).trans
      ((Service.position_setPosition_ne _ hea _).trans hr'), ?_⟩
    cases hstands with
    | alone hnone => exact .alone hnone
    | waiting hf hpending =>
      refine .waiting hf ?_
      rcases pending_cons.mp hpending with ⟨rfl, -⟩ | ⟨rfl, -⟩ | hrest
      · exact absurd rfl hea
      · exact absurd rfl heb
      · exact hrest
    | pushed hf hd hdone =>
      exact .pushed hf hd fun hpending => hdone (pending_cons.mpr (.inr (.inr hpending)))
  · have hea : e ≠ a := by
      rintro rfl
      cases hp.symm.trans hnone
    have heb : e ≠ b := by
      rintro rfl
      cases hb.position.symm.trans hnone
    rw [Service.position_setPosition_ne _ heb, Service.position_setPosition_ne _ hea]
    exact h.only e hnone

/-- One round: the two divide safely exactly if they were at different points at first. -/
theorem Standing.round {rounds : List (Entity × Entity)} (hs : Sparse pos)
    (h : Standing pos ((a, b) :: rounds) gs) (hab : a ≠ b) (hp : pos a = some p)
    (hq : pos b = some q) (hlast : ¬ Pending rounds a b) :
    (DividesSafely gs (a, b) ↔ p ≠ q) ∧
    (p ≠ q → Standing pos rounds (collide Real.sqrt gs (a, b))) := by
  by_cases hclose : distance Real.sqrt p q < 2
  · have hb : Partner pos a p b q := ⟨hab.symm, hq, hclose⟩
    have ha : Partner pos b q a p := ⟨hab, hp, by rwa [distance_comm]⟩
    have hturn : Pending ((a, b) :: rounds) a b := .inl (.head _)
    have hpa : gs.position a = some p := hs.waits hb hp hturn h
    have hqb : gs.position b = some q := hs.waits ha hq (pending_comm.mp hturn) h
    constructor
    · rw [dividesSafely_iff]
      constructor
      · intro hseparate
        exact hseparate p q hpa hqb
      · intro hne p' q' hp' hq'
        rwa [← Option.some.inj (hpa.symm.trans hp'), ← Option.some.inj (hqb.symm.trans hq')]
    · intro hne
      have hd : distance Real.sqrt p q ≠ 0 := fun hzero => hne (distance_eq_zero_iff.mp hzero)
      have htouch : touch Real.sqrt gs (a, b) = true := (touch_iff hpa hqb).mpr hclose
      rw [collide_touching hpa hqb htouch hd]
      exact h.push hp hb hd hlast
  · have hfar : 2 ≤ distance Real.sqrt p q := not_lt.mp hclose
    have htouch : touch Real.sqrt gs (a, b) = false := by
      obtain ⟨p', hp', hstandsa⟩ := h.stands a p hp
      obtain ⟨q', hq', hstandsb⟩ := h.stands b q hq
      have hkept := hs.far hab hp hq hfar hstandsa hstandsb
      rw [Bool.eq_false_iff]
      exact fun htouch => not_lt.mpr hkept ((touch_iff hp' hq').mp htouch)
    have hne : p ≠ q := by
      rintro rfl
      rw [distance_eq_zero_iff.mpr rfl] at hfar
      norm_num at hfar
    refine ⟨iff_of_true (fun _ _ _ _ ht => ?_) hne, fun _ => ?_⟩
    · rw [htouch] at ht
      cases ht
    · rw [collide_apart htouch]
      exact h.skip hp hq hfar

/-- The whole pass. -/
theorem Standing.rounds {rounds : List (Entity × Entity)} (hs : Sparse pos)
    (hturns : rounds.Pairwise fun x y => ¬ Pending [y] x.1 x.2)
    (hpairs : ∀ pair ∈ rounds, pair.1 ≠ pair.2 ∧ (pos pair.1).isSome ∧ (pos pair.2).isSome)
    (h : Standing pos rounds gs) :
    (Along (collide Real.sqrt) DividesSafely gs rounds ↔
      ∀ pair ∈ rounds, pos pair.1 ≠ pos pair.2) ∧
    ((∀ pair ∈ rounds, pos pair.1 ≠ pos pair.2) →
      Standing pos [] (rounds.foldl (collide Real.sqrt) gs)) := by
  induction rounds generalizing gs with
  | nil => exact ⟨iff_of_true trivial (by simp), fun _ => h⟩
  | cons pair rounds ih =>
    obtain ⟨a, b⟩ := pair
    obtain ⟨hfirst, hturns⟩ := List.pairwise_cons.mp hturns
    obtain ⟨hab, hpa, hqb⟩ := hpairs (a, b) (.head _)
    obtain ⟨p, hp⟩ := Option.isSome_iff_exists.mp hpa
    obtain ⟨q, hq⟩ := Option.isSome_iff_exists.mp hqb
    have hlast : ¬ Pending rounds a b := by
      rintro (hturn | hturn)
      · exact hfirst _ hturn (.inl (.head _))
      · exact hfirst _ hturn (.inr (.head _))
    obtain ⟨hsafe, hnext⟩ := h.round hs hab hp hq hlast
    have hhead : pos a ≠ pos b ↔ p ≠ q := by
      rw [hp, hq, ne_eq, Option.some.injEq]
    have htail : ∀ pair ∈ rounds, pair.1 ≠ pair.2 ∧ (pos pair.1).isSome ∧ (pos pair.2).isSome :=
      fun pair hpair => hpairs pair (.tail _ hpair)
    rw [List.forall_mem_cons, hhead, Along, hsafe, List.foldl_cons]
    constructor
    · exact and_congr_right fun hne => (ih hturns htail (hnext hne)).1
    · rintro ⟨hne, hrest⟩
      exact (ih hturns htail (hnext hne)).2 hrest

/-! ## The pass -/

/-- Before the first round an entity is alone or waits for the turn with its partner. -/
theorem standing_start (gs : Service ℝ) :
    Standing gs.position (pairs (gs.entitiesWith .position)) gs := by
  refine ⟨fun e p hp => ⟨p, hp, ?_⟩, fun _ hnone => hnone⟩
  by_cases hpartner : ∃ f q, Partner gs.position e p f q
  · obtain ⟨f, q, hf⟩ := hpartner
    have hmem : ∀ {e p}, gs.position e = some p → e ∈ gs.entitiesWith .position := fun h =>
      Service.mem_entitiesWith_iff.mpr (Option.isSome_iff_exists.mpr ⟨_, h⟩)
    exact .waiting hf (pending_pairs (hmem hp) (hmem hf.position) hf.ne.symm)
  · exact .alone fun f q hf => hpartner ⟨f, q, hf⟩

theorem distinct_iff_pairs (gs : Service ℝ) :
    (∀ pair ∈ pairs (gs.entitiesWith .position), gs.position pair.1 ≠ gs.position pair.2) ↔
      Distinct gs.position := by
  constructor
  · intro h a b p q hab hp hq heq
    have hmem : ∀ {e p}, gs.position e = some p → e ∈ gs.entitiesWith .position := fun h =>
      Service.mem_entitiesWith_iff.mpr (Option.isSome_iff_exists.mpr ⟨_, h⟩)
    have hsame : gs.position a = gs.position b := by rw [hp, hq, heq]
    rcases pending_pairs (hmem hp) (hmem hq) hab with hturn | hturn
    · exact h _ hturn hsame
    · exact h _ hturn hsame.symm
  · intro h pair hpair heq
    obtain ⟨hfirst, -⟩ := mem_of_mem_pairs hpair
    obtain ⟨p, hp⟩ := Option.isSome_iff_exists.mp (Service.mem_entitiesWith_iff.mp hfirst)
    exact h _ _ p p (ne_of_mem_pairs (gs.nodup_entitiesWith .position) hpair) hp
      (heq.symm.trans hp) rfl

/-- Entities in pairs: the pass divides safely exactly if no two are at one point, and puts
each entity that has a partner to the end of its push. -/
theorem handleCollisions_sparse (hs : Sparse gs.position) :
    (DivisionsSafe gs ↔ Distinct gs.position) ∧
    (Distinct gs.position → Standing gs.position [] (handleCollisions Real.sqrt gs)) := by
  have hpairs : ∀ pair ∈ pairs (gs.entitiesWith .position),
      pair.1 ≠ pair.2 ∧ (gs.position pair.1).isSome ∧ (gs.position pair.2).isSome := by
    intro pair hpair
    obtain ⟨hfirst, hsecond⟩ := mem_of_mem_pairs hpair
    exact ⟨ne_of_mem_pairs (gs.nodup_entitiesWith .position) hpair,
      Service.mem_entitiesWith_iff.mp hfirst, Service.mem_entitiesWith_iff.mp hsecond⟩
  have hpass := (standing_start gs).rounds hs (pairwise_pairs (gs.nodup_entitiesWith .position))
    hpairs
  rw [distinct_iff_pairs, ← divisionsSafe_iff] at hpass
  exact hpass

/-- Two entities are not enough for anything else to be close. -/
theorem sparse_of_two (htwo : (gs.entitiesWith .position).length ≤ 2) : Sparse gs.position := by
  have hthree : ∀ {a b c p q r}, gs.position a = some p → gs.position b = some q →
      gs.position c = some r → a ≠ b → c ≠ a → c ≠ b → False := by
    intro a b c p q r hp hq hr hab hca hcb
    have hmem : ∀ {e p}, gs.position e = some p → e ∈ gs.entitiesWith .position := fun h =>
      Service.mem_entitiesWith_iff.mpr (Option.isSome_iff_exists.mpr ⟨_, h⟩)
    have hsub : [a, b, c].Subperm (gs.entitiesWith .position) := by
      refine List.subperm_of_subset (by simp [hab, hca.symm, hcb.symm]) ?_
      intro e he
      simp only [List.mem_cons, List.not_mem_nil, or_false] at he
      rcases he with rfl | rfl | rfl
      · exact hmem hp
      · exact hmem hq
      · exact hmem hr
    have hlength := hsub.length_le
    simp only [List.length_cons, List.length_nil] at hlength
    omega
  constructor
  · intro a b c p q r hp hq hr hab hca hcb _
    exact (hthree hp hq hr hab hca hcb).elim
  · intro a b c d p q r s hp hq hr _ hab _ hca hcb _ _ _ _
    exact (hthree hp hq hr hab hca hcb).elim

/-- The first two entities are at one point. -/
theorem not_divisionsSafe_of_first {l : List Entity}
    (hlist : gs.entitiesWith .position = a :: b :: l) (h : gs.position a = gs.position b) :
    ¬ DivisionsSafe gs := by
  rw [divisionsSafe_iff, hlist]
  rintro ⟨hfirst, -⟩
  have ha : a ∈ gs.entitiesWith .position := by simp [hlist]
  obtain ⟨p, hp⟩ := Option.isSome_iff_exists.mp (Service.mem_entitiesWith_iff.mp ha)
  exact (dividesSafely_iff gs (a, b)).mp hfirst p p hp (h.symm.trans hp) rfl

/-- What `handle_login` adds for a player at `p`, as far as `MovementSystem` reads it. -/
noncomputable def login (gs : Service ℝ) (p : Vec ℝ) : Service ℝ :=
  let (player, gs) := gs.createEntity
  (gs.addComponent .position player p).addComponent .velocity player (⟨0, 0, 0⟩ : Vec ℝ)

/-- **Divisions by the distance.** If the entities come together in pairs only, no division of
`handle_collisions` is by 0 exactly if no two entities are at one point before the pass. With no
more than two entities this is always so. Whatever the others do, there is a division by 0 if
the first two entities of the listing are at one point; so it is if two or more players have all
logged in at the default position. -/
theorem collisions_divide_iff (gs : Service ℝ) :
    (Sparse gs.position → (DivisionsSafe gs ↔ Distinct gs.position)) ∧
    ((gs.entitiesWith .position).length ≤ 2 → (DivisionsSafe gs ↔ Distinct gs.position)) ∧
    ∀ a b l, gs.entitiesWith .position = a :: b :: l → gs.position a = gs.position b →
      ¬ DivisionsSafe gs :=
  ⟨fun hs => (handleCollisions_sparse hs).1,
    fun htwo => (handleCollisions_sparse (sparse_of_two htwo)).1,
    fun _ _ _ => not_divisionsSafe_of_first⟩

theorem distance_axis (a b : ℝ) : distance Real.sqrt ⟨a, 0, 0⟩ ⟨b, 0, 0⟩ = |a - b| := by
  simp [distance, Real.sqrt_mul_self_eq_abs]

/-- Two players log in at the default position. And three entities at different points: the
push of the first pair puts one of them to the point of the third, where the next pair finds
both. -/
theorem collisions_divide_by_zero :
    ¬ DivisionsSafe (login (login {} ⟨0, 0, 0⟩) ⟨0, 0, 0⟩) ∧
    ¬ DivisionsSafe (login (login (login {} ⟨-1 / 2, 0, 0⟩) ⟨1, 0, 0⟩) ⟨0, 0, 0⟩) := by
  constructor
  · rintro ⟨⟨hfirst, -⟩⟩
    exact (dividesSafely_iff _ (2, 1)).mp hfirst _ _ rfl rfl rfl
  · rintro ⟨⟨-, hnext, -⟩⟩
    replace hnext : DividesSafely (collide Real.sqrt _ (3, 2)) (3, 1) := hnext
    have hd : distance Real.sqrt ⟨0, 0, 0⟩ ⟨1, 0, 0⟩ = 1 := by simp [distance_axis]
    have hpoint : pushed ⟨0, 0, 0⟩ ⟨1, 0, 0⟩ = ⟨-1 / 2, 0, 0⟩ := by norm_num [pushed, hd]
    rw [collide_touching (p := ⟨0, 0, 0⟩) (q := ⟨1, 0, 0⟩) rfl rfl
      ((touch_iff rfl rfl).mpr (by norm_num [hd])) (by norm_num [hd]), hpoint] at hnext
    refine (dividesSafely_iff _ (3, 1)).mp hnext ⟨-1 / 2, 0, 0⟩ ⟨-1 / 2, 0, 0⟩ ?_ ?_ rfl
    · exact (Service.position_setPosition_ne _ (by decide) _).trans
        (Service.position_setPosition_self ..)
    · exact (Service.position_setPosition_ne _ (by decide) _).trans
        (Service.position_setPosition_ne _ (by decide) _)

/-- Two entities on a line: the first one is the farther one. -/
theorem collide_axis {x y : ℝ} (hab : a ≠ b) (hp : gs.position a = some ⟨x, 0, 0⟩)
    (hq : gs.position b = some ⟨y, 0, 0⟩) (hne : y < x) (hclose : x < y + 2) :
    let gs' := collide Real.sqrt gs (a, b)
    gs'.position a = some ⟨(x + y) / 2 + 1, 0, 0⟩ ∧
    gs'.position b = some ⟨(x + y) / 2 - 1, 0, 0⟩ ∧
    ∀ e, e ≠ a → e ≠ b → gs'.position e = gs.position e := by
  have hd : distance Real.sqrt ⟨x, 0, 0⟩ ⟨y, 0, 0⟩ = x - y := by
    rw [distance_axis, abs_of_pos (sub_pos.mpr hne)]
  have hpos : x - y ≠ 0 := (sub_pos.mpr hne).ne'
  have hfirst : pushed ⟨x, 0, 0⟩ ⟨y, 0, 0⟩ = ⟨(x + y) / 2 + 1, 0, 0⟩ := by
    simp [pushed, hd, hpos]
  have hsecond : pushed ⟨y, 0, 0⟩ ⟨x, 0, 0⟩ = ⟨(x + y) / 2 - 1, 0, 0⟩ := by
    have hquotient : (y - x) / (x - y) = -1 := by
      rw [← neg_sub, neg_div, div_self hpos]
    rw [pushed, distance_comm]
    simp only [hd, hquotient]
    norm_num
    ring
  intro gs'
  have htouch : touch Real.sqrt gs (a, b) = true :=
    (touch_iff hp hq).mpr (by rw [hd]; linarith)
  have heq : gs' = (gs.setPosition a _).setPosition b _ :=
    collide_touching hp hq htouch (by rw [hd]; exact hpos)
  rw [heq, hfirst, hsecond]
  refine ⟨?_, Service.position_setPosition_self .., fun e hea heb => ?_⟩
  · rw [Service.position_setPosition_ne _ hab, Service.position_setPosition_self]
  · rw [Service.position_setPosition_ne _ heb, Service.position_setPosition_ne _ hea]

/-- Two entities at one point and a third one next to them: the turns with the third one come
first and take the two apart. -/
theorem crowd_separates :
    let gs := login (login (login {} ⟨0, 0, 0⟩) ⟨0, 0, 0⟩) ⟨1, 0, 0⟩
    ¬ Distinct gs.position ∧ DivisionsSafe gs := by
  intro gs
  constructor
  · intro h
    exact h 1 2 ⟨0, 0, 0⟩ ⟨0, 0, 0⟩ (by decide) rfl rfl rfl
  · have hlist : gs.entitiesWith .position = [3, 2, 1] := rfl
    have h1 : gs.position 1 = some ⟨0, 0, 0⟩ := rfl
    have h2 : gs.position 2 = some ⟨0, 0, 0⟩ := rfl
    have h3 : gs.position 3 = some ⟨1, 0, 0⟩ := rfl
    have hsafe : ∀ {t : Service ℝ} {a b : Entity} {x y : ℝ}, t.position a = some ⟨x, 0, 0⟩ →
        t.position b = some ⟨y, 0, 0⟩ → x ≠ y → DividesSafely t (a, b) := by
      intro t a b x y hp hq hne
      rw [dividesSafely_iff]
      intro p q hp' hq' heq
      rw [hp] at hp'
      rw [hq] at hq'
      cases hp'
      cases hq'
      exact hne (congrArg Vec.x heq)
    rw [divisionsSafe_iff, hlist]
    generalize gs = start at h1 h2 h3
    obtain ⟨h3', h2', hkept⟩ := collide_axis (by decide) h3 h2 (by norm_num) (by norm_num)
    have h1' := (hkept 1 (by decide) (by decide)).trans h1
    obtain ⟨-, h1'', hkept'⟩ := collide_axis (by decide) h3' h1' (by norm_num) (by norm_num)
    have h2'' := (hkept' 2 (by decide) (by decide)).trans h2'
    exact ⟨hsafe h3 h2 (by norm_num), hsafe h3' h1' (by norm_num), hsafe h2'' h1'' (by norm_num),
      trivial⟩

end MovementSystem

end EcsAsioServer.Threading
