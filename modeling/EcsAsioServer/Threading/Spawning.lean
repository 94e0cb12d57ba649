import EcsAsioServer.Threading.Population

/-!
# Where monsters appear (`server/game/threading/map_thread.cpp`)

`spawn_monsters` draws `x` from the width and `z` from the height of the map, and puts `y` to 0.
The bounds of the map are its width for `x`, its height for `y` and 1000 for `z`. So monsters
appear inside the bounds for every seed exactly if the highest `z` is at most 1000
(`spawn_inside_iff`), and then the next update leaves them where they are.
-/

namespace EcsAsioServer.Threading

open Ecs Protocol Transition

variable {K : Type} [Field K]

namespace MapState

/-- The random numbers without their range. -/
def nextSeed (seed : UInt32) : UInt32 := seed * 1664525 + 1013904223

theorem nextRand_eq (max : K) (seed : UInt32) :
    nextRand max seed = (((nextSeed seed % 10000).toNat : K) / 10000 * max, nextSeed seed) := rfl

variable [LinearOrder K]

/-- The monsters that a call creates are inside the bounds of the map, and the next update
leaves them where they are. -/
def SpawnsInside (dt : K) (s : MapState K) : Prop :=
  ∀ m ∈ (s.spawnMonsters dt).thread.localMonsters, m ∉ s.thread.localMonsters →
    ∃ p b, (s.spawnMonsters dt).ecs.position m = some p ∧
      (s.spawnMonsters dt).ecs.bounds s.thread.mapEntity = some b ∧ b.isInside p = true ∧
      ∀ dt', ((s.spawnMonsters dt).updateMonsters dt').ecs.position m = some p

/-- The size of the map, and its bounds. -/
structure Sized (width height : K) (s : MapState K) : Prop where
  width_eq : s.thread.width = width
  height_eq : s.thread.height = height
  bounds : s.ecs.bounds s.thread.mapEntity
    = some { min := ⟨0, 0, 0⟩, max := ⟨width, height, (1000 : ℕ)⟩ }

omit [LinearOrder K] in
theorem Sized.spawnMonster {width height : K} {s : MapState K} (h : s.Sized width height) :
    (MapState.spawnMonster s).Sized width height :=
  ⟨h.width_eq, h.height_eq,
    (s.component_spawnMonster (t := .mapBounds) (by decide) (by simp) _).trans h.bounds⟩

section Inside

variable [IsStrictOrderedRing K] {width height : K} {s : MapState K}

/-- A random number is in its range. -/
theorem nextRand_bounds {max : K} (hmax : 0 ≤ max) (seed : UInt32) :
    0 ≤ (nextRand max seed).1 ∧ (nextRand max seed).1 ≤ max * (9999 / 10000) := by
  rw [nextRand_eq]
  have hlt : (nextSeed seed % 10000).toNat ≤ 9999 := by
    have hmod : (nextSeed seed % 10000).toNat = (nextSeed seed).toNat % 10000 := UInt32.toNat_mod ..
    omega
  have hcast : ((nextSeed seed % 10000).toNat : K) ≤ 9999 := by exact_mod_cast hlt
  constructor
  · exact mul_nonneg (div_nonneg (Nat.cast_nonneg _) (by norm_num)) hmax
  · calc ((nextSeed seed % 10000).toNat : K) / 10000 * max
        ≤ 9999 / 10000 * max := by gcongr
      _ = max * (9999 / 10000) := mul_comm _ _

/-- A monster appears inside if the range of `z` is inside. -/
theorem isInside_spawnPoint (h : s.Sized width height) (hwidth : 0 ≤ width) (hheight : 0 ≤ height)
    (hlow : height * (9999 / 10000) ≤ 1000) :
    ({ min := ⟨0, 0, 0⟩, max := ⟨width, height, (1000 : ℕ)⟩ } : MapBounds K).isInside s.spawnPoint
      = true := by
  have hx := nextRand_bounds hwidth s.seed
  have hz := nextRand_bounds hheight (nextRand width s.seed).2
  have hless : width * (9999 / 10000) ≤ width := by
    have hfraction : (9999 / 10000 : K) ≤ 1 := by norm_num
    exact mul_le_of_le_one_right hwidth hfraction
  simp only [MapBounds.isInside, spawnPoint, h.width_eq, h.height_eq, decide_eq_true_eq, ge_iff_le]
  refine ⟨hx.1, hx.2.trans hless, le_refl 0, hheight, hz.1, ?_⟩
  exact_mod_cast hz.2.trans hlow

/-- What a call of `spawn_monsters` has done so far: the map is the same, and the new monsters
stand inside it. -/
structure SpawnedInside (s₀ s : MapState K) (width height : K) : Prop where
  sized : s.Sized width height
  mapEntity : s.thread.mapEntity = s₀.thread.mapEntity
  inside : ∀ m ∈ s.thread.localMonsters, m ∉ s₀.thread.localMonsters → ∃ p,
    Tracks m ⟨0, 0, 0⟩ p s.ecs ∧
    ({ min := ⟨0, 0, 0⟩, max := ⟨width, height, (1000 : ℕ)⟩ } : MapBounds K).isInside p = true

theorem SpawnedInside.spawnMonster {s₀ : MapState K} (h : SpawnedInside s₀ s width height)
    (hwidth : 0 ≤ width) (hheight : 0 ≤ height) (hlow : height * (9999 / 10000) ≤ 1000) :
    SpawnedInside s₀ (MapState.spawnMonster s) width height := by
  refine ⟨h.sized.spawnMonster, h.mapEntity, ?_⟩
  intro m hm hnew
  by_cases heq : m = s.newMonster
  · subst heq
    exact ⟨s.spawnPoint, s.tracks_newMonster, isInside_spawnPoint h.sized hwidth hheight hlow⟩
  · have hold : m ∈ s.thread.localMonsters := (List.mem_insert_iff.mp hm).resolve_left heq
    obtain ⟨p, htracks, hinside⟩ := h.inside m hold hnew
    exact ⟨p, tracks_spawnMonster htracks (Ne.symm heq), hinside⟩

/-- **A call of `spawn_monsters`** on a map that is not too high. -/
theorem spawnsInside (h : s.Sized width height) (hwidth : 0 ≤ width) (hheight : 0 ≤ height)
    (hlow : height * (9999 / 10000) ≤ 1000) (dt : K) : s.SpawnsInside dt := by
  have hspawned : SpawnedInside s (s.spawnMonsters dt) width height := by
    rw [spawnMonsters_eq]
    refine Loop.keeps (I := fun t => SpawnedInside s t width height) ?_
      fun t _ _ ht => ht.spawnMonster hwidth hheight hlow
    exact ⟨⟨h.width_eq, h.height_eq, h.bounds⟩, rfl, fun m hm hnew => absurd hm hnew⟩
  intro m hm hnew
  obtain ⟨p, htracks, hinside⟩ := hspawned.inside m hm hnew
  have hbounds := hspawned.sized.bounds
  rw [hspawned.mapEntity] at hbounds
  refine ⟨p, _, htracks.position, hbounds, hinside, ?_⟩
  intro dt'
  -- it stands still, so it is not clamped
  have hstill : p.advance ⟨0, 0, 0⟩ dt' = p := by simp [Vec.advance]
  have hnext : Tracks m ⟨0, 0, 0⟩ (p.advance ⟨0, 0, 0⟩ dt')
      ((s.spawnMonsters dt).updateMonsters dt').ecs := by
    refine tracks_updateMonsters htracks hm ?_
    intro b hb
    rw [hspawned.mapEntity, hbounds] at hb
    cases hb
    rw [hstill]
    exact hinside
  rw [hstill] at hnext
  exact hnext.position

end Inside

end MapState

namespace SharedMap

variable [LinearOrder K] {entityOf : Int32 → Entity} {x y : SharedMap K} {width height : K}

/-- The size and the bounds of a map do not change. -/
theorem sized_step {e : MapEvent K} (h : x.state.Sized width height)
    (hstep : MapStep entityOf x e y) : y.state.Sized width height := by
  obtain ⟨-, rfl⟩ := hstep
  cases e with
  | add channelId =>
    exact ⟨h.width_eq, h.height_eq,
      (x.state.ecs.component_updateObjects (t := .mapBounds) (by simp) _ _ _).trans h.bounds⟩
  | remove channelId => exact ⟨h.width_eq, h.height_eq, h.bounds⟩
  | move who dt =>
    exact ⟨h.width_eq, h.height_eq,
      ((x.state.onlyMoves_updateMonsters dt).bounds _).trans h.bounds⟩
  | tick who timer due => exact ⟨h.width_eq, h.height_eq, h.bounds⟩
  | spawn who =>
    exact MapState.spawnSection_keeps (P := MapState.Sized width height) h
      fun _ hs => hs.spawnMonster

omit [LinearOrder K] in
theorem sized_fresh (mapId : Int32) (mapName : List UInt8) (width height : K)
    (maxPlayers : Int32) (gs : Service K) (seed : UInt32) :
    (fresh mapId mapName width height maxPlayers gs seed).state.Sized width height :=
  ⟨rfl, rfl, (fresh_components ..).2⟩

/-- With this seed the third monster gets the highest `z` that there is. -/
theorem low_of_spawnsInside {s : MapState K} (h : s.Sized width height)
    (hseed : s.seed = 1897622609) (hempty : s.thread.localMonsters = [])
    (htimer : s.thread.spawnTimer = 0) (hinside : s.SpawnsInside 30) :
    height * (9999 / 10000) ≤ 1000 := by
  let two := (List.range 2).foldl (fun s _ => MapState.spawnMonster s) (s.resetTimer 30)
  have hcount : s.spawnCount 30 = 3 := by
    simp [MapState.spawnCount, MapState.spawnDue, MapState.spawnInterval, htimer, hempty,
      MapState.maxMonsters]
  have hcall : s.spawnMonsters 30 = MapState.spawnMonster two := by
    rw [MapState.spawnMonsters_eq, hcount]
    rfl
  have hsized : two.Sized width height :=
    Loop.keeps (I := MapState.Sized width height) ⟨h.width_eq, h.height_eq, h.bounds⟩
      fun _ _ _ hs => hs.spawnMonster
  rw [MapState.SpawnsInside, hcall, hempty] at hinside
  obtain ⟨p, b, hp, hb, hin, -⟩ := hinside two.newMonster two.newMonster_mem List.not_mem_nil
  have hpoint : p = two.spawnPoint :=
    Option.some.inj (hp.symm.trans two.tracks_newMonster.position)
  have hbounds : b = { min := ⟨0, 0, 0⟩, max := ⟨width, height, (1000 : ℕ)⟩ } :=
    Option.some.inj (hb.symm.trans hsized.spawnMonster.bounds)
  have hz : p.z = ((9999 : ℕ) : K) / 10000 * height := by
    have hdraw : (MapState.nextSeed (MapState.nextSeed two.seed) % 10000).toNat = 9999 := by
      show (MapState.nextSeed (MapState.nextSeed (MapState.nextSeed (MapState.nextSeed
        (MapState.nextSeed (MapState.nextSeed s.seed))))) % 10000).toNat = 9999
      rw [hseed]
      decide
    rw [hpoint, MapState.spawnPoint, hsized.height_eq, MapState.nextRand_eq, MapState.nextRand_eq,
      hdraw]
  rw [hbounds, MapBounds.isInside, decide_eq_true_eq, hz] at hin
  have hle := hin.2.2.2.2.2
  push_cast at hle
  rw [mul_comm]
  exact hle

variable [IsStrictOrderedRing K]

/-- **Where monsters appear.** For every seed, and whatever has happened on the map before, the
monsters that `spawn_monsters` creates are inside the bounds of the map exactly if the highest
`z` that it draws is not above the bound of 1000. -/
theorem spawn_inside_iff (entityOf : Int32 → Entity) (mapId : Int32) (mapName : List UInt8)
    (hwidth : 0 ≤ width) (hheight : 0 ≤ height) (maxPlayers : Int32) (gs : Service K) :
    (∀ seed es x dt, Run (MapStep entityOf)
        (fresh mapId mapName width height maxPlayers gs seed) es x → x.state.SpawnsInside dt) ↔
      height * (9999 / 10000) ≤ 1000 := by
  constructor
  · intro hall
    exact low_of_spawnsInside (sized_fresh ..) rfl rfl rfl (hall 1897622609 [] _ 30 .nil)
  · intro hlow seed es x dt hrun
    have hsized : x.state.Sized width height :=
      hrun.invariant (I := fun x => x.state.Sized width height) (sized_fresh ..)
        fun _ _ _ h hstep => sized_step h hstep
    exact MapState.spawnsInside hsized hwidth hheight hlow dt

/-- On a map of 100 by 100 all monsters appear inside. -/
theorem spawn_inside_small : (fresh 1 [] (100 : ℚ) 100 50 {} 42).state.SpawnsInside 30 :=
  (spawn_inside_iff (fun _ => 0) 1 [] (by norm_num) (by norm_num) 50 {}).mpr (by norm_num)
    42 [] _ 30 .nil

/-- The third monster on a map of 2000 by 2000, with the seed of the source: it appears at a `z`
of 1126.4, and the next update puts it at 1000. -/
theorem spawned_outside :
    let s : MapState ℚ := (fresh 1 [] 2000 2000 50 {} 42).state
    let s' := s.spawnMonsters 30
    s'.thread.localMonsters = [4, 3, 2] ∧ s'.ecs.position 4 = some ⟨8261 / 5, 0, 5632 / 5⟩ ∧
      MapThread.isObjectInBounds s.thread.mapEntity 4 s'.ecs = false ∧
      (s'.updateMonsters 1).ecs.position 4 = some ⟨8261 / 5, 0, 1000⟩ ∧ ¬ s.SpawnsInside 30 := by
  intro s s'
  have hmonsters : s'.thread.localMonsters = [4, 3, 2] := by decide +kernel
  have hposition : s'.ecs.position 4 = some ⟨8261 / 5, 0, 5632 / 5⟩ := by decide +kernel
  have hnext : (s'.updateMonsters 1).ecs.position 4 = some ⟨8261 / 5, 0, 1000⟩ := by
    decide +kernel
  refine ⟨hmonsters, hposition, by decide +kernel, hnext, ?_⟩
  intro hinside
  have hfourth : (4 : Entity) ∈ s'.thread.localMonsters := by
    rw [hmonsters]
    exact .head _
  obtain ⟨p, b, hp, -, -, hstays⟩ := hinside 4 hfourth List.not_mem_nil
  rw [hposition] at hp
  have hsame := (hstays 1).symm.trans hnext
  rw [← hp] at hsame
  revert hsame
  decide +kernel

end SharedMap

end EcsAsioServer.Threading
