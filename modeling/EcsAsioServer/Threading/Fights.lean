import EcsAsioServer.Threading.Combat
import EcsAsioServer.Threading.Simulation

/-!
# Monsters and their targets (`server/game/systems/ai_system.cpp`)

`AISystem` gives each monster a turn, in the order of a hash map. A monster without a target
takes the nearest player within 20 units. A monster with a target hits it for 10 hit points
as long as it is alive, wherever it is, and lets go of it when it is dead.

- `damage_taken`: over any rounds of the systems, an entity is hit exactly once in each round
  by each monster that hunts it when the round starts, until it is dead. The orders of the
  monsters and of the systems make no difference.
- `hunted_to_death`: a monster does not let go of a living target.
- `idle_monster_chooses_nearest`: the choice of a target.
- `only_players_harmed`: nobody but players is ever hit.

Only the systems run here: nobody logs in or out, heals or appears between the rounds.
-/

namespace EcsAsioServer.Threading

open Ecs Transition
open Loops (plainSystems)

/-! ## Hits -/

/-- The health after `k` hits. -/
def wounded (k : Nat) (h : Health) : Health :=
  if h.isAlive = true ∧ 0 < k then
    { h with hp := UInt32.ofNat (h.hp.toNat - 10 * k), isAlive := decide (10 * k < h.hp.toNat) }
  else h

theorem wounded_zero (h : Health) : wounded 0 h = h := by simp [wounded]

theorem map_wounded_zero (o : Option Health) : o.map (wounded 0) = o := by
  cases o with
  | none => rfl
  | some h => rw [Option.map_some, wounded_zero]

variable {h : Health}

theorem wounded_dead (hdead : h.isAlive = false) (k : Nat) : wounded k h = h := by
  simp [wounded, hdead]

theorem wounded_one (halive : h.isAlive = true) :
    wounded 1 h = takeDamage h 10 := by
  have hten : (10 : UInt32) ≥ h.hp ↔ ¬ 10 * 1 < h.hp.toNat :=
    UInt32.le_iff_toNat_le.trans not_lt.symm
  have hround : UInt32.ofNat (h.hp.toNat - 10 * 1) = (takeDamage h 10).hp := by
    rw [← UInt32.ofNat_toNat (x := (takeDamage h 10).hp), hp_takeDamage]
    rfl
  simp only [wounded, halive, Nat.zero_lt_one, and_self, if_true]
  rw [hround]
  unfold takeDamage
  by_cases hlt : 10 * 1 < h.hp.toNat
  · rw [if_neg (hten.not.mpr (not_not.mpr hlt)), decide_eq_true hlt, ← halive]
  · rw [if_pos (hten.mpr hlt), decide_eq_false hlt]

theorem hp_wounded (halive : h.isAlive = true) (k : Nat) :
    (wounded k h).hp.toNat = h.hp.toNat - 10 * k := by
  rcases Nat.eq_zero_or_pos k with rfl | hk
  · rw [wounded_zero, Nat.mul_zero, Nat.sub_zero]
  · have hlt : h.hp.toNat - 10 * k < 2 ^ 32 := lt_of_le_of_lt (Nat.sub_le ..) h.hp.toNat_lt
    have hwounded : (wounded k h).hp = UInt32.ofNat (h.hp.toNat - 10 * k) := by
      simp [wounded, halive, hk]
    rw [hwounded, UInt32.toNat_ofNat_of_lt' hlt]

theorem isAlive_wounded_iff (halive : h.isAlive = true) (k : Nat) :
    (wounded k h).isAlive = true ↔ k = 0 ∨ 10 * k < h.hp.toNat := by
  rcases Nat.eq_zero_or_pos k with rfl | hk
  · rw [wounded_zero]
    exact iff_of_true halive (.inl rfl)
  · simp [wounded, halive, hk, hk.ne']

/-- Hits add up, and a dead target takes none. -/
theorem wounded_wounded (k l : Nat) (h : Health) :
    wounded l (wounded k h) = wounded (k + l) h := by
  rcases Nat.eq_zero_or_pos k with rfl | hk
  · rw [wounded_zero, Nat.zero_add]
  rcases Nat.eq_zero_or_pos l with rfl | hl
  · rw [wounded_zero, Nat.add_zero]
  cases halive : h.isAlive with
  | false => rw [wounded_dead halive, wounded_dead halive, wounded_dead halive]
  | true =>
    have hsum : 0 < k + l := Nat.add_pos_left hk l
    have hlt := h.hp.toNat_lt
    have hround : (UInt32.ofNat (h.hp.toNat - 10 * k)).toNat = h.hp.toNat - 10 * k :=
      UInt32.toNat_ofNat_of_lt' (lt_of_le_of_lt (Nat.sub_le ..) hlt)
    by_cases hleft : 10 * k < h.hp.toNat
    · have hhits : h.hp.toNat - 10 * k - 10 * l = h.hp.toNat - 10 * (k + l) := by omega
      have hlives : 10 * l < h.hp.toNat - 10 * k ↔ 10 * (k + l) < h.hp.toNat := by omega
      simp only [wounded, halive, hk, hl, hsum, hleft, and_self, if_true, decide_true, hround,
        hhits, hlives]
    · have hgone : h.hp.toNat - 10 * (k + l) = h.hp.toNat - 10 * k := by omega
      have hdead : ¬ 10 * (k + l) < h.hp.toNat := by omega
      simp only [wounded, halive, hk, hsum, hleft, hdead, hgone, and_self, if_true,
        decide_false, Bool.false_eq_true, false_and, if_false]

theorem Service.entitiesWith_addComponent_ne {K : Type} (gs : Service K) {t t' : SimType}
    (h : t' ≠ t) (e : Entity) (c : SimType.Val K t) :
    entitiesWith (gs.addComponent t e c) t' = gs.entitiesWith t' := by
  rw [entitiesWith_eq, entitiesWith_eq]
  simp [GameService.addComponent, ComponentManager.addComponent,
    ComponentManager.store_setStore_ne _ h]

namespace AISystem

variable {K : Type}

/-! ## Targets -/

/-- The target of a monster, 0 for none. -/
def target (gs : Service K) (m : Entity) : Entity :=
  ((gs.monster m).map Monster.targetEntity).getD 0

/-- The monster hits the entity when its turn comes. -/
def Hunts (gs : Service K) (m e : Entity) : Prop := target gs m = e ∧ e ≠ 0

instance (gs : Service K) (m e : Entity) : Decidable (Hunts gs m e) :=
  inferInstanceAs (Decidable (_ ∧ _))

theorem hunts_congr {gs gs' : Service K} {m e : Entity} (h : target gs' m = target gs m) :
    Hunts gs' m e ↔ Hunts gs m e := by
  unfold Hunts
  rw [h]

/-- How many monsters hunt the entity. -/
def hunters (gs : Service K) (e : Entity) : Nat :=
  (gs.entitiesWith .monster).countP fun m => decide (Hunts gs m e)

/-- The entity is a player. -/
def isPlayer (gs : Service K) (e : Entity) : Bool := (gs.component .player e).isSome

theorem isSome_of_target {gs : Service K} {m : Entity} (h : target gs m ≠ 0) :
    (gs.monster m).isSome = true := by
  by_contra hnone
  rw [target, Option.not_isSome_iff_eq_none.mp hnone] at h
  exact h rfl

theorem monster_setTarget (m e : Entity) (gs : Service K) :
    (setTarget m e gs).monster
      = Function.update gs.monster m ((gs.monster m).map ({ · with targetEntity := e })) := by
  unfold setTarget
  cases hmonster : gs.monster m with
  | none =>
    show gs.monster = _
    rw [Option.map_none, ← hmonster, Function.update_eq_self]
  | some monster => exact gs.component_addComponent .monster m _

theorem target_setTarget {m e : Entity} {gs : Service K} (h : (gs.monster m).isSome = true) :
    target (setTarget m e gs) m = e := by
  obtain ⟨monster, hmonster⟩ := Option.isSome_iff_exists.mp h
  simp [target, monster_setTarget, hmonster]

theorem target_addHealth (gs : Service K) (m e : Entity) (h : Health) :
    target (gs.addComponent .health e h) m = target gs m :=
  congrArg (fun o => (o.map Monster.targetEntity).getD 0)
    (gs.component_addComponent_ne (nofun : SimType.monster ≠ .health) e m h)

variable [Field K] [LinearOrder K] {sqrt : K → K} {gs : Service K} {m e : Entity}

/-- One player of `find_nearest_target`. -/
def closer (sqrt : K → K) (gs : Service K) (p : Vec K) (range : K) (nearest : Entity × K)
    (player : Entity) : Entity × K :=
  (gs.position player).elim nearest fun q =>
    if distance sqrt q p < nearest.2 ∧ distance sqrt q p < range then (player, distance sqrt q p)
    else nearest

/-- The player that `find_nearest_target` comes to, and its distance; the range is 20. -/
def nearest (sqrt : K → K) (gs : Service K) (p : Vec K) (range : K) : Entity × K :=
  (gs.entitiesWith .player).foldl (closer sqrt gs p range) (0, floatMax)

variable {p : Vec K}

theorem findNearestTarget_eq (hp : gs.position m = some p) :
    findNearestTarget sqrt m gs = if (nearest sqrt gs p 20).1 ≠ 0
      then setTarget m (nearest sqrt gs p 20).1 gs else gs := by
  unfold findNearestTarget
  rw [hp]
  dsimp only
  rw [List.foldl_ext _ (closer sqrt gs p 20)]
  · rfl
  · intro n player _
    unfold closer
    cases gs.position player with
    | none => rfl
    | some q => rfl

/-! ## One turn -/

/-- **What one turn can do**: nothing, take a target, hit the target, or let go of it. -/
theorem updateAiState_cases (sqrt : K → K) (gs : Service K) (m : Entity) :
    (target gs m = 0 ∧
      ((gs.monster m).isSome = true → ∀ p ∈ gs.position m, (nearest sqrt gs p 20).1 = 0) ∧
      updateAiState sqrt gs m = gs) ∨
    (target gs m = 0 ∧ (gs.monster m).isSome = true ∧
      ∃ p, gs.position m = some p ∧ (nearest sqrt gs p 20).1 ≠ 0 ∧
      updateAiState sqrt gs m = setTarget m (nearest sqrt gs p 20).1 gs) ∨
    (target gs m ≠ 0 ∧ ∃ h, gs.health (target gs m) = some h ∧ h.isAlive = true ∧
      updateAiState sqrt gs m = gs.addComponent .health (target gs m) (takeDamage h 10)) ∨
    (target gs m ≠ 0 ∧ (∀ h ∈ gs.health (target gs m), h.isAlive = false) ∧
      updateAiState sqrt gs m = setTarget m 0 gs) := by
  unfold updateAiState
  cases hmonster : gs.monster m with
  | none => exact .inl ⟨by simp [target, hmonster], nofun, rfl⟩
  | some monster =>
    have htarget : target gs m = monster.targetEntity := by simp [target, hmonster]
    rw [htarget]
    dsimp only
    by_cases hnone : monster.targetEntity = 0
    · rw [if_pos hnone]
      cases hp : gs.position m with
      | none => exact .inl ⟨hnone, nofun, by simp [findNearestTarget, hp]⟩
      | some p =>
        rw [findNearestTarget_eq hp]
        by_cases hfound : (nearest sqrt gs p 20).1 = 0
        · refine .inl ⟨hnone, ?_, if_neg (not_not.mpr hfound)⟩
          rintro - _ ⟨⟩
          exact hfound
        · exact .inr (.inl ⟨hnone, rfl, p, rfl, hfound, if_pos hfound⟩)
    · rw [if_neg hnone]
      cases hhealth : gs.health monster.targetEntity with
      | none => exact .inr (.inr (.inr ⟨hnone, nofun, rfl⟩))
      | some h =>
        dsimp only
        cases halive : h.isAlive with
        | false =>
          refine .inr (.inr (.inr ⟨hnone, ?_, if_neg Bool.false_ne_true⟩))
          rintro _ ⟨⟩
          exact halive
        | true =>
          refine .inr (.inr (.inl ⟨hnone, h, rfl, halive, ?_⟩))
          simp [attackTarget, hmonster, hnone, hhealth]

theorem isPlayer_updateAiState (sqrt : K → K) (gs : Service K) (m e : Entity) :
    isPlayer (updateAiState sqrt gs m) e = isPlayer gs e :=
  congrArg Option.isSome
    (component_updateAiState (nofun : SimType.player ≠ .monster) nofun sqrt gs m e)

/-- It is the turn of one monster only. -/
theorem monster_updateAiState_ne {m' : Entity} (hne : m' ≠ m) :
    (updateAiState sqrt gs m).monster m' = gs.monster m' := by
  have hset : ∀ e, (setTarget m e gs).monster m' = gs.monster m' := fun e => by
    rw [monster_setTarget, Function.update_of_ne hne]
  rcases updateAiState_cases sqrt gs m with ⟨-, -, heq⟩ | ⟨-, -, p, -, -, heq⟩ |
    ⟨-, h, -, -, heq⟩ | ⟨-, -, heq⟩ <;> rw [heq]
  · exact hset _
  · exact gs.component_addComponent_ne (nofun : SimType.monster ≠ .health) ..
  · exact hset _

/-- In its own turn a monster keeps its target, lets go of it or takes a nearest player. -/
theorem target_updateAiState_self (sqrt : K → K) (gs : Service K) (m : Entity) :
    target (updateAiState sqrt gs m) m = target gs m ∨ target (updateAiState sqrt gs m) m = 0 ∨
    ∃ p, (nearest sqrt gs p 20).1 ≠ 0 ∧
      target (updateAiState sqrt gs m) m = (nearest sqrt gs p 20).1 := by
  rcases updateAiState_cases sqrt gs m with ⟨-, -, heq⟩ | ⟨-, hmonster, p, -, hfound, heq⟩ |
    ⟨-, h, -, -, heq⟩ | ⟨hsome, -, heq⟩ <;> rw [heq]
  · exact .inl rfl
  · exact .inr (.inr ⟨p, hfound, target_setTarget hmonster⟩)
  · exact .inl (target_addHealth ..)
  · exact .inr (.inl (target_setTarget (isSome_of_target hsome)))

/-- The monster hits the entity that it hunts, and no other. -/
theorem health_updateAiState (sqrt : K → K) (gs : Service K) (m e : Entity) :
    (updateAiState sqrt gs m).health e
      = if Hunts gs m e then (gs.health e).map (wounded 1) else gs.health e := by
  have hset : ∀ e', (setTarget m e' gs).health e = gs.health e := fun e' =>
    component_setTarget (nofun : SimType.health ≠ .monster) ..
  rcases updateAiState_cases sqrt gs m with ⟨hnone, -, heq⟩ | ⟨hnone, -, p, -, -, heq⟩ |
    ⟨hsome, h, hh, halive, heq⟩ | ⟨hsome, hdead, heq⟩ <;> rw [heq]
  · rw [if_neg fun hhunts => hhunts.2 (hhunts.1.symm.trans hnone)]
  · rw [hset, if_neg fun hhunts => hhunts.2 (hhunts.1.symm.trans hnone)]
  · have hupdate : Service.health (gs.addComponent .health (target gs m) (takeDamage h 10))
        = Function.update gs.health (target gs m) (some (takeDamage h 10)) :=
      gs.component_addComponent .health (target gs m) _
    rw [hupdate]
    by_cases he : target gs m = e
    · subst he
      rw [Function.update_self, if_pos ⟨rfl, hsome⟩, hh, Option.map_some, wounded_one halive]
    · rw [Function.update_of_ne (Ne.symm he), if_neg fun hhunts => he hhunts.1]
  · rw [hset]
    split
    · next hhunts =>
      rw [hhunts.1] at hdead
      cases hh : gs.health e with
      | none => rfl
      | some h => rw [Option.map_some, wounded_dead (hdead h hh)]
    · rfl

/-! ## One pass, in any order -/

theorem target_updateAiState_ne {m' : Entity} (hne : m' ≠ m) :
    target (updateAiState sqrt gs m) m' = target gs m' := by
  rw [target, monster_updateAiState_ne hne, target]

/-- By induction on the monsters that are left: their targets are those of the beginning. -/
theorem health_turns (sqrt : K → K) (gs : Service K) (e : Entity) {ms : List Entity}
    (hnodup : ms.Nodup) :
    (ms.foldl (updateAiState sqrt) gs).health e
      = (gs.health e).map (wounded (ms.countP fun m => decide (Hunts gs m e))) := by
  induction ms generalizing gs with
  | nil => exact (map_wounded_zero _).symm
  | cons m ms ih =>
    obtain ⟨hm, hrest⟩ := List.nodup_cons.mp hnodup
    have hsame : ms.countP (fun m' => decide (Hunts (updateAiState sqrt gs m) m' e))
        = ms.countP fun m' => decide (Hunts gs m' e) := by
      refine List.countP_congr fun m' hm' => ?_
      rw [decide_eq_true_iff, decide_eq_true_iff]
      exact hunts_congr (target_updateAiState_ne fun heq => hm (heq ▸ hm'))
    rw [List.foldl_cons, ih _ hrest, hsame, health_updateAiState, List.countP_cons]
    by_cases hhunts : Hunts gs m e
    · simp [hhunts, wounded_wounded, Function.comp_def, Nat.add_comm]
    · simp [hhunts]

/-! ## Who fights -/

/-- At most positions and velocities have changed. -/
structure SameFighters (gs gs' : Service K) : Prop where
  component : ∀ t, t ≠ .position → t ≠ .velocity → ∀ e, gs'.component t e = gs.component t e

namespace SameFighters

variable {gs' gs'' : Service K}

omit [Field K] [LinearOrder K]

theorem refl (gs : Service K) : SameFighters gs gs := ⟨fun _ _ _ _ => rfl⟩

theorem trans (h : SameFighters gs gs') (h' : SameFighters gs' gs'') : SameFighters gs gs'' :=
  ⟨fun t hp hv e => (h'.component t hp hv e).trans (h.component t hp hv e)⟩

theorem of_onlyMoves (h : OnlyMoves gs gs') : SameFighters gs gs' :=
  ⟨fun t hp _ e => h.component t hp e⟩

theorem health (h : SameFighters gs gs') (e : Entity) : gs'.health e = gs.health e :=
  h.component .health nofun nofun e

theorem isPlayer (h : SameFighters gs gs') (e : Entity) :
    AISystem.isPlayer gs' e = AISystem.isPlayer gs e :=
  congrArg Option.isSome (h.component .player nofun nofun e)

theorem target (h : SameFighters gs gs') (m : Entity) :
    AISystem.target gs' m = AISystem.target gs m := by
  have hmonster : gs'.monster m = gs.monster m := h.component .monster nofun nofun m
  rw [AISystem.target, hmonster, AISystem.target]

/-- The number does not depend on the order of the monsters. -/
theorem hunters (h : SameFighters gs gs') (e : Entity) :
    AISystem.hunters gs' e = AISystem.hunters gs e := by
  have hperm : (gs'.entitiesWith .monster).Perm (gs.entitiesWith .monster) := by
    refine (List.perm_ext_iff_of_nodup (gs'.nodup_entitiesWith _)
      (gs.nodup_entitiesWith _)).mpr fun m => ?_
    rw [Service.mem_entitiesWith_iff, Service.mem_entitiesWith_iff,
      h.component .monster nofun nofun m]
  unfold AISystem.hunters
  rw [hperm.countP_eq]
  refine List.countP_congr fun m _ => ?_
  rw [decide_eq_true_iff, decide_eq_true_iff]
  exact hunts_congr (h.target m)

end SameFighters

theorem SameFighters.patrol (sqrt : K → K) (draw : Vec K) (range : K) (npc : Entity)
    (gs : Service K) : SameFighters gs (patrol sqrt draw range npc gs) := by
  unfold AISystem.patrol
  split
  · exact .refl gs
  · exact ⟨fun t _ hv e => gs.component_addComponent_ne hv npc e _⟩

theorem SameFighters.updateNpcAi (sqrt : K → K) (draws : Entity → Vec K) (gs : Service K) :
    SameFighters gs (updateNpcAi sqrt draws gs) :=
  Loop.keeps (.refl gs) fun t npc _ ht => ht.trans (.patrol sqrt (draws npc) 10 npc t)

/-- **One pass**: the hits of all monsters that hunt the entity. -/
theorem health_update (sqrt : K → K) (draws : Entity → Vec K) (gs : Service K) (e : Entity) :
    (update sqrt draws gs).health e = (gs.health e).map (wounded (hunters gs e)) :=
  ((SameFighters.updateNpcAi sqrt draws _).health e).trans
    (health_turns sqrt gs e (gs.nodup_entitiesWith .monster))

/-! ## The search for a target does not see the turns of other monsters -/

theorem entitiesWith_player_updateAiState (sqrt : K → K) (gs : Service K) (m : Entity) :
    (updateAiState sqrt gs m).entitiesWith .player = gs.entitiesWith .player := by
  have hset : ∀ e, (setTarget m e gs).entitiesWith .player = gs.entitiesWith .player := by
    intro e
    unfold setTarget
    split
    · exact gs.entitiesWith_addComponent_ne (nofun : SimType.player ≠ .monster) ..
    · rfl
  rcases updateAiState_cases sqrt gs m with ⟨-, -, heq⟩ | ⟨-, -, p, -, -, heq⟩ |
    ⟨-, h, -, -, heq⟩ | ⟨-, -, heq⟩ <;> rw [heq]
  · exact hset _
  · exact gs.entitiesWith_addComponent_ne (nofun : SimType.player ≠ .health) ..
  · exact hset _

theorem nearest_congr {gs' : Service K} (hposition : gs'.position = gs.position)
    (hplayers : gs'.entitiesWith .player = gs.entitiesWith .player) :
    nearest sqrt gs' p 20 = nearest sqrt gs p 20 := by
  unfold nearest closer
  rw [hplayers, hposition]

/-- A monster without a target takes the nearest player in range. -/
theorem target_update_idle (draws : Entity → Vec K) (hmonster : (gs.monster m).isSome = true)
    (hidle : target gs m = 0) (hp : gs.position m = some p) :
    target (update sqrt draws gs) m = (nearest sqrt gs p 20).1 := by
  rw [update, (SameFighters.updateNpcAi sqrt draws _).target]
  refine Loop.read_of_mem (I := fun t => t.position = gs.position ∧
      t.entitiesWith .player = gs.entitiesWith .player ∧ t.monster m = gs.monster m)
    (target · m) (fun _ => (nearest sqrt gs p 20).1) ⟨rfl, rfl, rfl⟩ ?_ ?_ ?_
    (Service.mem_entitiesWith_iff.mpr hmonster) (gs.nodup_entitiesWith .monster)
  · rintro t m' hne ⟨hposition, hplayers, hsame⟩
    exact ⟨(funext fun e => component_updateAiState (t := .position) nofun nofun sqrt t m' e).trans
      hposition,
      (entitiesWith_player_updateAiState sqrt t m').trans hplayers,
      (monster_updateAiState_ne hne.symm).trans hsame⟩
  · intro t m' hne
    exact target_updateAiState_ne hne.symm
  · rintro t ⟨hposition, hplayers, hsame⟩
    have hpt : t.position m = some p := by rw [hposition, hp]
    have hidlet : target t m = 0 := by
      rw [target, hsame]
      exact hidle
    rw [← hsame] at hmonster
    rw [← nearest_congr hposition hplayers]
    rcases updateAiState_cases sqrt t m with ⟨-, hnone, heq⟩ | ⟨-, -, p', hp', -, heq⟩ |
      ⟨hsome, -⟩ | ⟨hsome, -⟩
    · rw [heq, hidlet, hnone hmonster p hpt]
    · rw [hpt] at hp'
      cases hp'
      rw [heq]
      exact target_setTarget hmonster
    · exact absurd hidlet hsome
    · exact absurd hidlet hsome

end AISystem

/-- A monster that hunts a player, the player and an idle monster close to both. -/
def skirmish : Service ℚ :=
  let gs : Service ℚ := {}
  let gs := gs.addComponent .monster 1 { Monster.make 1 with targetEntity := 2 }
  let gs := gs.addComponent .player 2 (Player.make (Protocol.ascii "Ann") 1)
  let gs := gs.addComponent .position 2 (⟨0, 0, 0⟩ : Vec ℚ)
  let gs := gs.addComponent .health 2 (Health.make 15)
  let gs := gs.addComponent .monster 3 (Monster.make 1)
  let gs := gs.addComponent .position 3 (⟨1, 2, 0⟩ : Vec ℚ)
  gs.addComponent .health 3 Health.make

/-! ## Rounds of all systems -/

namespace Systems

open AISystem

variable {K : Type} [Field K] [LinearOrder K] {S : Systems K} {gs : Service K} {m e : Entity}

theorem onlyMoves_movement (sqrt : K → K) (dt : K) (gs : Service K) :
    OnlyMoves gs (MovementSystem.update sqrt dt gs) := by
  have hpositions : OnlyMoves gs (MovementSystem.updatePositions dt gs) :=
    Loop.keeps (.refl gs) fun t e _ ht => ht.trans (MovementSystem.onlyMoves_updatePosition dt t e)
  have hbounds : OnlyMoves gs (MovementSystem.checkBoundaries
      (MovementSystem.updatePositions dt gs)) := by
    refine Loop.keeps hpositions fun t e _ ht => ht.trans ?_
    unfold MovementSystem.checkBoundary
    split
    · exact .setPosition ..
    · exact .refl t
  exact Loop.keeps hbounds fun t pair _ ht =>
    ht.trans (MovementSystem.onlyMoves_collide sqrt t pair)

omit [Field K] in
theorem onlyMoves_map (gs : Service K) : OnlyMoves gs (MapSystem.update gs) :=
  Loop.keeps (.refl gs) fun t mapEntity _ ht => ht.trans <|
    Loop.keeps (.refl t) fun t' e _ ht' =>
      ht'.trans (MapSystem.onlyMoves_checkObject mapEntity t' e)

theorem sameFighters {id : SystemId} (hid : id ≠ .ai) (dt : K) (draws : Entity → Vec K)
    (gs : Service K) : SameFighters gs (S.update dt draws gs id) := by
  cases id with
  | movement => exact .of_onlyMoves (onlyMoves_movement ..)
  | ai => exact absurd rfl hid
  | combat => exact .refl gs
  | map => exact .of_onlyMoves (onlyMoves_map gs)

/-- What the other systems do not see, and `AISystem` keeps, a round keeps. -/
theorem updateAll_keeps {I : Service K → Prop} (dt : K) (draws : Entity → Vec K)
    (hsame : ∀ gs gs', SameFighters gs gs' → I gs → I gs')
    (hturn : ∀ gs m, I gs → I (updateAiState S.sqrt gs m)) (hI : I gs) :
    I (S.updateAll dt draws gs) := by
  refine Loop.keeps hI fun t id _ ht => ?_
  by_cases hid : id = .ai
  · subst hid
    exact hsame _ _ (.updateNpcAi S.sqrt draws _) (Loop.keeps ht fun t' m _ ht' => hturn t' m ht')
  · exact hsame _ _ (sameFighters hid dt draws t) ht

theorem isPlayer_updateAll (S : Systems K) (dt : K) (draws : Entity → Vec K) (gs : Service K)
    (e : Entity) : isPlayer (S.updateAll dt draws gs) e = isPlayer gs e :=
  updateAll_keeps (I := fun t => isPlayer t e = isPlayer gs e) dt draws
    (fun _ _ hsame ht => (hsame.isPlayer e).trans ht)
    (fun t m ht => (isPlayer_updateAiState S.sqrt t m e).trans ht) rfl

/-- `AISystem` runs once in a round, and the hunters do not change before. -/
theorem health_updateAll (S : Systems K) (dt : K) (draws : Entity → Vec K) (gs : Service K)
    (e : Entity) :
    (S.updateAll dt draws gs).health e = (gs.health e).map (wounded (hunters gs e)) := by
  have hmem : SystemId.ai ∈ S.updateOrder := S.registered.mem_iff.mpr (by decide)
  have hnodup : S.updateOrder.Nodup := S.registered.nodup_iff.mpr (by decide)
  refine Loop.read_of_mem (I := fun t => hunters t e = hunters gs e) (·.health e)
    (Option.map (wounded (hunters gs e))) rfl ?_ ?_ ?_ hmem hnodup
  · intro t id hid ht
    exact ((sameFighters hid dt draws t).hunters e).trans ht
  · intro t id hid
    exact (sameFighters hid dt draws t).health e
  · intro t ht
    rw [← ht]
    exact AISystem.health_update S.sqrt draws t e

/-- What comes from outside to one round. -/
structure Round (K : Type) where
  dt : K
  draws : Entity → Vec K

/-- Round after round. -/
def rounds (S : Systems K) (gs : Service K) (rs : List (Round K)) : Service K :=
  rs.foldl (fun gs r => S.updateAll r.dt r.draws gs) gs

/-- The hits that the entity takes: in each round, one from each of its hunters. -/
def hits (S : Systems K) (e : Entity) : Service K → List (Round K) → Nat
  | _, [] => 0
  | gs, r :: rs => hunters gs e + hits S e (S.updateAll r.dt r.draws gs) rs

theorem health_rounds (S : Systems K) (gs : Service K) (e : Entity) (rs : List (Round K)) :
    (S.rounds gs rs).health e = (gs.health e).map (wounded (S.hits e gs rs)) := by
  induction rs generalizing gs with
  | nil => exact (map_wounded_zero _).symm
  | cons r rs ih =>
    show (S.rounds (S.updateAll r.dt r.draws gs) rs).health e = _
    rw [ih, health_updateAll, Option.map_map]
    congr 1
    funext h
    exact wounded_wounded ..

/-- Two rounds in which no NPC wants to move. -/
def twoRounds : List (Round ℚ) := [⟨1, fun _ => ⟨0, 0, 0⟩⟩, ⟨1, fun _ => ⟨0, 0, 0⟩⟩]

/-- **Damage is accounted for**: whatever the orders of monsters and systems are, the entity
has lost 10 hit points for each hunter in each round, and died when none were left. -/
theorem damage_taken (S : Systems K) (rs : List (Round K)) {h : Health}
    (hh : gs.health e = some h) (halive : h.isAlive = true) :
    ∃ h', (S.rounds gs rs).health e = some h' ∧
      h'.hp.toNat = h.hp.toNat - 10 * S.hits e gs rs ∧
      (h'.isAlive = true ↔ S.hits e gs rs = 0 ∨ 10 * S.hits e gs rs < h.hp.toNat) ∧
      h'.maxHp = h.maxHp ∧ h'.mp = h.mp ∧ h'.maxMp = h.maxMp := by
  refine ⟨wounded (S.hits e gs rs) h, ?_, hp_wounded halive _, isAlive_wounded_iff halive _, ?_⟩
  · rw [health_rounds, hh, Option.map_some]
  · unfold wounded
    split
    · exact ⟨rfl, rfl, rfl⟩
    · exact ⟨rfl, rfl, rfl⟩

/-- The player is hit once in the first round and, when the idle monster has chosen it, twice in
the second one. -/
theorem damage_taken_skirmish :
    plainSystems.hits 2 skirmish twoRounds = 3 ∧
    ∃ h', (plainSystems.rounds skirmish twoRounds).health 2 = some h' ∧
      h'.hp.toNat = 15 - 10 * plainSystems.hits 2 skirmish twoRounds ∧
      (h'.isAlive = true ↔ plainSystems.hits 2 skirmish twoRounds = 0 ∨
        10 * plainSystems.hits 2 skirmish twoRounds < 15) ∧
      h'.maxHp = 15 ∧ h'.mp = 50 ∧ h'.maxMp = 50 :=
  ⟨by decide +kernel, damage_taken plainSystems twoRounds (h := Health.make 15)
    (by decide +kernel) rfl⟩

/-! ## A hunt ends with the target's death -/

/-- The entity has no health to lose. -/
def Dead (gs : Service K) (e : Entity) : Prop := ∀ h ∈ gs.health e, h.isAlive = false

omit [Field K] [LinearOrder K] in
theorem Dead.of_wounded {gs gs' : Service K} {k : Nat} (hdead : Dead gs e)
    (h : gs'.health e = (gs.health e).map (wounded k)) : Dead gs' e := by
  intro h' hh'
  rw [Option.mem_def, h, Option.map_eq_some_iff] at hh'
  obtain ⟨h₀, hh₀, rfl⟩ := hh'
  rw [wounded_dead (hdead h₀ hh₀)]
  exact hdead h₀ hh₀

theorem Dead.updateAiState (hdead : Dead gs e) (sqrt : K → K) (m : Entity) :
    Dead (updateAiState sqrt gs m) e := by
  have hturn := health_updateAiState sqrt gs m e
  split at hturn
  · exact hdead.of_wounded hturn
  · unfold Dead
    rw [hturn]
    exact hdead

/-- A monster lets go of its target in its own turn, and only of a dead one. -/
theorem hunts_or_dead_updateAiState (m' : Entity) (h : Hunts gs m e ∨ Dead gs e) :
    Hunts (updateAiState S.sqrt gs m') m e ∨ Dead (updateAiState S.sqrt gs m') e := by
  rcases h with hhunts | hdead
  · by_cases hm : m = m'
    · subst hm
      obtain ⟨rfl, hsome⟩ := hhunts
      rcases updateAiState_cases S.sqrt gs m with ⟨hnone, -⟩ | ⟨hnone, -⟩ | ⟨-, h, -, -, heq⟩ |
        ⟨-, hdead, -⟩
      · exact absurd hnone hsome
      · exact absurd hnone hsome
      · rw [heq]
        exact .inl ⟨target_addHealth .., hsome⟩
      · exact .inr (Dead.updateAiState hdead S.sqrt m)
    · exact .inl ((hunts_congr (target_updateAiState_ne hm)).mpr hhunts)
  · exact .inr (hdead.updateAiState S.sqrt m')

theorem hunts_or_dead_updateAll (dt : K) (draws : Entity → Vec K) (hhunts : Hunts gs m e) :
    Hunts (S.updateAll dt draws gs) m e ∨ Dead (S.updateAll dt draws gs) e := by
  refine updateAll_keeps (I := fun t => Hunts t m e ∨ Dead t e) dt draws ?_ ?_ (.inl hhunts)
  · intro t t' hsame ht
    refine ht.imp (hunts_congr (hsame.target m)).mpr fun hdead => ?_
    unfold Dead
    rw [hsame.health]
    exact hdead
  · intro t m' ht
    exact hunts_or_dead_updateAiState m' ht

omit [Field K] [LinearOrder K] in
theorem hunters_pos (hhunts : Hunts gs m e) : 0 < hunters gs e := by
  have hmem : m ∈ gs.entitiesWith .monster := by
    refine Service.mem_entitiesWith_iff.mpr (isSome_of_target fun hnone => ?_)
    exact hhunts.2 (hhunts.1.symm.trans hnone)
  exact List.countP_pos_iff.mpr ⟨m, hmem, decide_eq_true hhunts⟩

/-- Until the target is dead, each round brings a hit. -/
theorem length_le_hits (rs : List (Round K)) (hhunts : Hunts gs m e) :
    rs.length ≤ S.hits e gs rs ∨ Dead (S.rounds gs rs) e := by
  induction rs generalizing gs with
  | nil => exact .inl (Nat.le_refl 0)
  | cons r rs ih =>
    rcases hunts_or_dead_updateAll (S := S) r.dt r.draws hhunts with hnext | hdead
    · refine (ih hnext).imp_left fun hle => ?_
      have hone := hunters_pos hhunts
      show rs.length + 1 ≤ hunters gs e + S.hits e (S.updateAll r.dt r.draws gs) rs
      omega
    · exact .inr (hdead.of_wounded (health_rounds S _ e rs))

/-- **A monster hunts its target to death**, wherever the target goes: after one round for
each 10 hit points the target is dead. -/
theorem hunted_to_death (S : Systems K) (rs : List (Round K)) (hhunts : Hunts gs m e)
    {h : Health} (hh : gs.health e = some h) (halive : h.isAlive = true) (hrs : rs ≠ [])
    (hle : h.hp.toNat ≤ 10 * rs.length) :
    ∃ h', (S.rounds gs rs).health e = some h' ∧ h'.hp = 0 ∧ h'.isAlive = false := by
  have hpos : 0 < rs.length := List.length_pos_iff.mpr hrs
  have hfinal : (S.rounds gs rs).health e = some (wounded (S.hits e gs rs) h) := by
    rw [health_rounds, hh, Option.map_some]
  have hdead : (wounded (S.hits e gs rs) h).isAlive = false := by
    rcases length_le_hits (S := S) rs hhunts with hhits | hdead
    · refine Bool.eq_false_iff.mpr ?_
      rw [Ne, isAlive_wounded_iff halive]
      omega
    · exact hdead _ hfinal
  refine ⟨_, hfinal, ?_, hdead⟩
  have hgone : ¬ (S.hits e gs rs = 0 ∨ 10 * S.hits e gs rs < h.hp.toNat) := by
    rw [← isAlive_wounded_iff halive, hdead]
    exact Bool.false_ne_true
  apply UInt32.toNat_inj.mp
  rw [hp_wounded halive]
  show h.hp.toNat - 10 * S.hits e gs rs = 0
  omega

theorem hunted_to_death_skirmish :
    ∃ h', (plainSystems.rounds skirmish twoRounds).health 2 = some h' ∧ h'.hp = 0 ∧
      h'.isAlive = false :=
  hunted_to_death plainSystems twoRounds (m := 1) (h := Health.make 15) (by decide +kernel)
    (by decide +kernel) rfl nofun (by decide +kernel)

end Systems

/-! ## The choice of a target -/

section Choice

open AISystem Systems

variable {K : Type} [Field K] [LinearOrder K] [IsStrictOrderedRing K] {sqrt : K → K}
  {gs : Service K} {p : Vec K} {m e : Entity}

/-- What the loop of `find_nearest_target` knows after some players: it found none in range,
or one that no other is closer than. -/
def Nearest (sqrt : K → K) (gs : Service K) (p : Vec K) (range : K) (seen : List Entity)
    (n : Entity × K) : Prop :=
  (n = (0, floatMax) ∧ ∀ e ∈ seen, ∀ q ∈ gs.position e, range ≤ distance sqrt q p) ∨
  (n.1 ∈ seen ∧ (∃ q ∈ gs.position n.1, n.2 = distance sqrt q p) ∧ n.2 < range ∧
    ∀ e ∈ seen, ∀ q ∈ gs.position e, n.2 ≤ distance sqrt q p)

theorem twenty_le_floatMax : (20 : K) ≤ floatMax := by
  unfold floatMax
  norm_num

omit [IsStrictOrderedRing K] in
/-- One more player is looked at. -/
theorem Nearest.closer {range : K} (hrange : range ≤ floatMax) {seen : List Entity}
    {n : Entity × K} (h : Nearest sqrt gs p range seen n) (player : Entity) :
    Nearest sqrt gs p range (seen ++ [player]) (closer sqrt gs p range n player) := by
  have hall : ∀ {P : Vec K → Prop}, (∀ e ∈ seen, ∀ q ∈ gs.position e, P q) →
      (∀ q ∈ gs.position player, P q) → ∀ e ∈ seen ++ [player], ∀ q ∈ gs.position e, P q :=
    fun hseen hself => List.forall_mem_append.mpr ⟨hseen, List.forall_mem_singleton.mpr hself⟩
  unfold AISystem.closer
  cases hq : gs.position player with
  | none =>
    -- a player without a position is skipped
    rw [hq] at hall
    rcases h with ⟨hnone, hfar⟩ | ⟨hmem, hdist, hnear, hleast⟩
    · exact .inl ⟨hnone, hall hfar nofun⟩
    · exact .inr ⟨List.mem_append_left _ hmem, hdist, hnear, hall hleast nofun⟩
  | some q =>
    rw [hq] at hall
    show Nearest sqrt gs p range _ (if _ then _ else _)
    split
    · next hcloser =>
      refine .inr ⟨List.mem_append_right _ (.head _), ⟨q, hq, rfl⟩, hcloser.2, hall ?_ ?_⟩
      · intro e he q' hq'
        rcases h with ⟨-, hfar⟩ | ⟨-, -, -, hleast⟩
        · exact hcloser.2.le.trans (hfar e he q' hq')
        · exact hcloser.1.le.trans (hleast e he q' hq')
      · rintro _ ⟨⟩
        exact le_rfl
    · next hnot =>
      rcases h with ⟨hnone, hfar⟩ | ⟨hmem, hdist, hnear, hleast⟩
      · refine .inl ⟨hnone, hall hfar ?_⟩
        rintro _ ⟨⟩
        refine not_lt.mp fun hlt => hnot ⟨?_, hlt⟩
        rw [hnone]
        exact hlt.trans_le hrange
      · refine .inr ⟨List.mem_append_left _ hmem, hdist, hnear, hall hleast ?_⟩
        rintro _ ⟨⟩
        exact not_lt.mp fun hlt => hnot ⟨hlt, hlt.trans hnear⟩

theorem nearest_nearest (sqrt : K → K) (gs : Service K) (p : Vec K) :
    Nearest sqrt gs p 20 (gs.entitiesWith .player) (nearest sqrt gs p 20) := by
  unfold nearest
  -- the players that the loop has seen are the part of the list before
  induction gs.entitiesWith .player using List.reverseRecOn with
  | nil => exact .inl ⟨rfl, List.forall_mem_nil _⟩
  | append_singleton seen player ih =>
    rw [List.foldl_append]
    exact Nearest.closer twenty_le_floatMax ih player

/-- A player that was found is a player. -/
theorem isPlayer_nearest (h : (nearest sqrt gs p 20).1 ≠ 0) :
    isPlayer gs (nearest sqrt gs p 20).1 = true := by
  rcases nearest_nearest sqrt gs p with ⟨hnone, -⟩ | ⟨hmem, -⟩
  · exact absurd (congrArg Prod.fst hnone) h
  · exact Service.mem_entitiesWith_iff.mp hmem

/-- **An idle monster** has, after `AISystem`, a target that is a nearest player and closer
than 20 units, or none if no player is that close. -/
theorem idle_monster_chooses_nearest (draws : Entity → Vec K)
    (hzero : isPlayer gs 0 = false) (hmonster : (gs.monster m).isSome = true)
    (hidle : target gs m = 0) (hp : gs.position m = some p) :
    (target (AISystem.update sqrt draws gs) m = 0 ∧
      ∀ e, isPlayer gs e = true → ∀ q ∈ gs.position e, 20 ≤ distance sqrt q p) ∨
    (target (AISystem.update sqrt draws gs) m ≠ 0 ∧
      isPlayer gs (target (AISystem.update sqrt draws gs) m) = true ∧
      ∃ q ∈ gs.position (target (AISystem.update sqrt draws gs) m), distance sqrt q p < 20 ∧
        ∀ e, isPlayer gs e = true → ∀ q' ∈ gs.position e,
          distance sqrt q p ≤ distance sqrt q' p) := by
  rw [target_update_idle draws hmonster hidle hp]
  rcases nearest_nearest sqrt gs p with ⟨hnone, hfar⟩ | ⟨hmem, ⟨q, hq, hdist⟩, hrange, hleast⟩
  · exact .inl ⟨congrArg Prod.fst hnone, fun e he => hfar e (Service.mem_entitiesWith_iff.mpr he)⟩
  · have hplayer : isPlayer gs (nearest sqrt gs p 20).1 = true :=
      Service.mem_entitiesWith_iff.mp hmem
    rw [hdist] at hrange hleast
    refine .inr ⟨?_, hplayer, q, hq, hrange, fun e he =>
      hleast e (Service.mem_entitiesWith_iff.mpr he)⟩
    intro hfound
    rw [hfound, hzero] at hplayer
    cases hplayer

/-- An idle monster, and a player close to it. -/
noncomputable def encounter : Service ℝ :=
  let gs : Service ℝ := {}
  let gs := gs.addComponent .player 2 (Player.make (Protocol.ascii "Ann") 1)
  let gs := gs.addComponent .position 2 (⟨0, 0, 0⟩ : Vec ℝ)
  let gs := gs.addComponent .monster 3 (Monster.make 1)
  gs.addComponent .position 3 (⟨3, 4, 0⟩ : Vec ℝ)

theorem idle_monster_chooses_nearest_encounter :
    let after := AISystem.update Real.sqrt (fun _ => ⟨0, 0, 0⟩) encounter
    target after 3 ≠ 0 ∧ isPlayer encounter (target after 3) = true := by
  intro after
  have hclose : distance Real.sqrt ⟨0, 0, 0⟩ ⟨3, 4, 0⟩ < 20 := by
    rw [distance, Real.sqrt_lt' (by norm_num)]
    norm_num
  rcases @idle_monster_chooses_nearest ℝ _ _ _ Real.sqrt encounter ⟨3, 4, 0⟩ 3
    (fun _ => ⟨0, 0, 0⟩) rfl rfl rfl rfl with ⟨-, hfar⟩ | ⟨hsome, hplayer, -⟩
  · exact absurd (hfar 2 rfl ⟨0, 0, 0⟩ rfl) (not_le.mpr hclose)
  · exact ⟨hsome, hplayer⟩

/-! ## Nobody but players is hit -/

/-- Every target is a player. -/
def OnPlayers (gs : Service K) : Prop := ∀ m, target gs m ≠ 0 → isPlayer gs (target gs m) = true

omit [Field K] [LinearOrder K] [IsStrictOrderedRing K] in
theorem onPlayers_iff : OnPlayers gs ↔ ∀ m ∈ gs.entitiesWith .monster,
    target gs m ≠ 0 → isPlayer gs (target gs m) = true :=
  ⟨fun h m _ => h m, fun h m hm => h m (Service.mem_entitiesWith_iff.mpr (isSome_of_target hm)) hm⟩

-- The monsters are those of a list: all values of `Entity` are never tried.
instance (gs : Service K) : Decidable (OnPlayers gs) :=
  @decidable_of_iff' _ _ onPlayers_iff (List.decidableBAll _ _)

omit [Field K] [LinearOrder K] [IsStrictOrderedRing K] in
theorem OnPlayers.hunters_eq_zero (h : OnPlayers gs) (he : isPlayer gs e = false) :
    hunters gs e = 0 := by
  refine List.countP_eq_zero.mpr fun m _ => ?_
  rw [decide_eq_true_iff]
  rintro ⟨rfl, hsome⟩
  exact Bool.false_ne_true (he.symm.trans (h m hsome))

theorem OnPlayers.updateAiState (h : OnPlayers gs) (sqrt : K → K) (m : Entity) :
    OnPlayers (updateAiState sqrt gs m) := by
  intro m' hm'
  rw [isPlayer_updateAiState]
  by_cases hm : m' = m
  · subst hm
    rcases target_updateAiState_self sqrt gs m' with hsame | hnone | ⟨p, hfound, htarget⟩
    · rw [hsame] at hm' ⊢
      exact h m' hm'
    · exact absurd hnone hm'
    · rw [htarget]
      exact isPlayer_nearest hfound
  · rw [target_updateAiState_ne hm] at hm' ⊢
    exact h m' hm'

theorem OnPlayers.updateAll (h : OnPlayers gs) (S : Systems K) (dt : K)
    (draws : Entity → Vec K) : OnPlayers (S.updateAll dt draws gs) := by
  refine S.updateAll_keeps dt draws ?_ (fun t m ht => ht.updateAiState S.sqrt m) h
  intro t t' hsame ht m hm
  rw [hsame.target] at hm ⊢
  rw [hsame.isPlayer]
  exact ht m hm

/-- **Only players are harmed**: if all targets are players, they are so after any rounds,
and nobody else has lost hit points. -/
theorem only_players_harmed (S : Systems K) (rs : List (Round K)) (h : OnPlayers gs)
    (he : isPlayer gs e = false) :
    OnPlayers (S.rounds gs rs) ∧ (S.rounds gs rs).health e = gs.health e := by
  have hrun : OnPlayers (S.rounds gs rs) ∧ isPlayer (S.rounds gs rs) e = false ∧
      (S.rounds gs rs).health e = gs.health e := by
    refine Loop.keeps (I := fun t => OnPlayers t ∧ isPlayer t e = false ∧
      t.health e = gs.health e) ⟨h, he, rfl⟩ ?_
    rintro t r - ⟨ht, hte, hhealth⟩
    refine ⟨ht.updateAll S r.dt r.draws, ?_, ?_⟩
    · rw [S.isPlayer_updateAll]
      exact hte
    · rw [S.health_updateAll, ht.hunters_eq_zero hte, map_wounded_zero]
      exact hhealth
  exact ⟨hrun.1, hrun.2.2⟩

theorem only_players_harmed_skirmish :
    OnPlayers (plainSystems.rounds skirmish twoRounds) ∧
      (plainSystems.rounds skirmish twoRounds).health 3
        = skirmish.health 3 :=
  only_players_harmed plainSystems twoRounds (by decide +kernel) (by decide +kernel)

end Choice

end EcsAsioServer.Threading
