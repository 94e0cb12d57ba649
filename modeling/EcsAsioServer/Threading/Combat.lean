import EcsAsioServer.Threading.Systems
import EcsAsioServer.Game.Handlers

/-!
# Damage and healing (`components/health.hpp`, `systems/combat_system.cpp`)

Two implementations change the hit points. The member functions of `Health` keep
`is_alive` up to date, and `AISystem::attack_target` uses them. `CombatSystem` writes `hp`
alone. Both heal with a 32-bit sum before the minimum with `max_hp` is taken.

Healing saturates exactly as long as that sum does not wrap (`heal_saturates_iff`). The
hit points never exceed their maximum, in either implementation; `is_alive` stays right
exactly as long as `CombatSystem` neither kills nor revives and no sum wraps to 0
(`health_sound_iff`).
-/

namespace EcsAsioServer.Ecs

/-- `Health::heal`. -/
def Health.heal (health : Health) (amount : UInt32) : Health :=
  let hp := min (health.hp + amount) health.maxHp
  { health with hp, isAlive := if 0 < hp then true else health.isAlive }

end EcsAsioServer.Ecs

namespace EcsAsioServer.Threading

open Db Ecs Transition
open GameServer (hp_damaged)

/-! ## `CombatSystem` -/

section CombatSystem

variable {K : Type}

/-- `if (health)`, something is done with it. -/
def Service.updateHealth (entity : Entity) (f : Health → Health) (gs : Service K) : Service K :=
  match gs.health entity with
  | some health => gs.addComponent .health entity (f health)
  | none => gs

theorem Service.health_updateHealth (entity : Entity) (f : Health → Health) (gs : Service K) :
    (gs.updateHealth entity f).health
      = Function.update gs.health entity ((gs.health entity).map f) := by
  unfold updateHealth
  cases hhealth : gs.health entity with
  | none =>
    show gs.health = _
    rw [Option.map_none, ← hhealth, Function.update_eq_self]
  | some health => exact gs.component_addComponent .health entity (f health)

namespace CombatSystem

/-- What `heal` does to the component; for `take_damage` it is `damaged`. -/
def healed (amount : UInt32) (health : Health) : Health :=
  { health with hp := min health.maxHp (health.hp + amount) }

/-- `CombatSystem::take_damage`. -/
def takeDamage (entity : Entity) (damage : UInt32) (gs : Service K) : Service K :=
  gs.updateHealth entity (GameServer.damaged damage)

/-- `CombatSystem::attack`. -/
def attack (_attacker target : Entity) (gs : Service K) : Service K :=
  takeDamage target 10 gs

/-- `CombatSystem::heal`. -/
def heal (entity : Entity) (amount : UInt32) (gs : Service K) : Service K :=
  gs.updateHealth entity (healed amount)

/-- `CombatSystem::get_hp`. -/
def getHp (entity : Entity) (gs : Service K) : UInt32 :=
  match gs.health entity with
  | some health => health.hp
  | none => 0

end CombatSystem

end CombatSystem

/-! ## The hit points after each call, as numbers -/

theorem toNat_min (a b : UInt32) : (min a b).toNat = min a.toNat b.toNat := by
  show (if a ≤ b then a else b).toNat = _
  rw [apply_ite UInt32.toNat, Nat.min_def]
  rfl

theorem hp_heal (health : Health) (amount : UInt32) :
    (health.heal amount).hp.toNat
      = min ((health.hp.toNat + amount.toNat) % 2 ^ 32) health.maxHp.toNat := by
  show (min (health.hp + amount) health.maxHp).toNat = _
  rw [toNat_min, UInt32.toNat_add]

theorem hp_healed (amount : UInt32) (health : Health) :
    (CombatSystem.healed amount health).hp = (health.heal amount).hp := by
  apply UInt32.toNat_inj.mp
  rw [hp_heal]
  show (min health.maxHp (health.hp + amount)).toNat = _
  rw [toNat_min, UInt32.toNat_add, Nat.min_comm]

theorem hp_takeDamage (health : Health) (damage : UInt32) :
    (takeDamage health damage).hp.toNat = health.hp.toNat - damage.toNat := by
  unfold takeDamage
  split
  · rename_i h
    rw [Nat.sub_eq_zero_of_le (UInt32.le_iff_toNat_le.mp h)]
    rfl
  · rename_i h
    exact UInt32.toNat_sub_of_le _ _ (UInt32.le_of_lt (UInt32.not_le.mp h))

/-! ## Healing -/

section Healing

variable {health : Health} (hle : health.hp ≤ health.maxHp)

include hle

theorem hp_heal_eq_min_iff (amount : UInt32) :
    (health.heal amount).hp.toNat = min health.maxHp.toNat (health.hp.toNat + amount.toNat) ↔
      health.hp.toNat + amount.toNat < 2 ^ 32 := by
  have hmax := health.maxHp.toNat_lt
  have hamount := amount.toNat_lt
  rw [UInt32.le_iff_toNat_le] at hle
  rw [hp_heal]
  omega

theorem hp_le_heal_iff (amount : UInt32) :
    health.hp ≤ (health.heal amount).hp ↔ health.hp.toNat + amount.toNat < 2 ^ 32 := by
  rw [UInt32.le_iff_toNat_le]
  by_cases hsum : health.hp.toNat + amount.toNat < 2 ^ 32
  · rw [(hp_heal_eq_min_iff hle amount).mpr hsum]
    exact iff_of_true (le_min (UInt32.le_iff_toNat_le.mp hle) (Nat.le_add_right ..)) hsum
  · have hamount := amount.toNat_lt
    have hwrapped : (health.hp.toNat + amount.toNat) % 2 ^ 32 < health.hp.toNat := by omega
    rw [hp_heal]
    exact iff_of_false (fun h => absurd (h.trans (min_le_left ..)) (not_le.mpr hwrapped)) hsum

/-- Two healings that together wrap are one only if the first wraps already or is not cut
off. -/
theorem hp_heal_heal_iff {a b : UInt32} (hsum : a.toNat + b.toNat < 2 ^ 32) :
    ((health.heal a).heal b).hp = (health.heal (a + b)).hp ↔
      health.hp.toNat + a.toNat + b.toNat < 2 ^ 32 ∨
      2 ^ 32 ≤ health.hp.toNat + a.toNat ∨ health.hp.toNat + a.toNat ≤ health.maxHp.toNat := by
  have hmax := health.maxHp.toNat_lt
  rw [UInt32.le_iff_toNat_le] at hle
  have hmax' : (health.heal a).maxHp = health.maxHp := rfl
  rw [← UInt32.toNat_inj, hp_heal, hp_heal, hp_heal, hmax', UInt32.toNat_add,
    Nat.mod_eq_of_lt hsum]
  by_cases hfirst : health.hp.toNat + a.toNat < 2 ^ 32
  · rw [Nat.mod_eq_of_lt hfirst]
    omega
  · omega

end Healing

namespace CombatSystem

variable {K : Type} {gs : Service K} {entity : Entity} {health : Health}

theorem health_heal (h : gs.health entity = some health) (amount : UInt32) :
    (heal entity amount gs).health entity = some (healed amount health) := by
  show (gs.updateHealth entity (healed amount)).health entity = _
  rw [Service.health_updateHealth, Function.update_self, h]
  rfl

theorem getHp_heal (h : gs.health entity = some health) (amount : UInt32) :
    getHp entity (heal entity amount gs) = (health.heal amount).hp := by
  unfold getHp
  rw [health_heal h]
  exact hp_healed amount health

theorem getHp_heal_heal (h : gs.health entity = some health) (a b : UInt32) :
    getHp entity (heal entity b (heal entity a gs)) = ((health.heal a).heal b).hp := by
  rw [getHp_heal (health_heal h a), ← UInt32.toNat_inj, hp_heal, hp_heal, hp_healed]
  rfl

/-- **Healing saturates** as long as the sum of 32 bits does not wrap, in both
implementations, which always agree on the hit points. -/
theorem heal_saturates_iff (hhealth : gs.health entity = some health)
    (hle : health.hp ≤ health.maxHp) (a b : UInt32) :
    getHp entity (heal entity a gs) = (health.heal a).hp ∧
    ((health.heal a).hp.toNat = min health.maxHp.toNat (health.hp.toNat + a.toNat) ↔
      health.hp.toNat + a.toNat < 2 ^ 32) ∧
    (health.hp ≤ (health.heal a).hp ↔ health.hp.toNat + a.toNat < 2 ^ 32) ∧
    (a.toNat + b.toNat < 2 ^ 32 →
      getHp entity (heal entity b (heal entity a gs)) = ((health.heal a).heal b).hp ∧
      getHp entity (heal entity (a + b) gs) = (health.heal (a + b)).hp ∧
      (((health.heal a).heal b).hp = (health.heal (a + b)).hp ↔
        health.hp.toNat + a.toNat + b.toNat < 2 ^ 32 ∨
        2 ^ 32 ≤ health.hp.toNat + a.toNat ∨
        health.hp.toNat + a.toNat ≤ health.maxHp.toNat)) :=
  ⟨getHp_heal hhealth a, hp_heal_eq_min_iff hle a, hp_le_heal_iff hle a, fun hsum =>
    ⟨getHp_heal_heal hhealth a b, getHp_heal hhealth (a + b), hp_heal_heal_iff hle hsum⟩⟩

end CombatSystem

/-- The components of one entity, with these hit points. -/
def oneHealth (health : Health) : Service ℚ :=
  ({} : Service ℚ).addComponent .health 1 health

theorem health_oneHealth (health : Health) :
    (oneHealth health).health = Function.update (fun _ => none) 1 (some health) :=
  ({} : Service ℚ).component_addComponent .health 1 health

theorem CombatSystem.heal_saturates_forty :
    let health : Health := { Health.make 100 50 with hp := 40 }
    (oneHealth health).health 1 = some health ∧ (health.heal 30).hp = 70 ∧
      health.hp ≤ (health.heal 30).hp ∧ ((health.heal 30).heal 50).hp = (health.heal 80).hp := by
  intro health
  have hhealth : (oneHealth health).health 1 = some health := by
    rw [health_oneHealth, Function.update_self]
  obtain ⟨-, hmin, hmono, hsum⟩ := heal_saturates_iff hhealth (by decide) 30 50
  refine ⟨hhealth, ?_, hmono.mpr (by decide), (hsum (by decide)).2.2.mpr (.inl (by decide))⟩
  exact UInt32.toNat_inj.mp (hmin.mpr (by decide))

/-- A healing by 2^32 − 1 takes one hit point. -/
theorem CombatSystem.heal_lowers :
    let health : Health := { Health.make 100 50 with hp := 40 }
    (health.heal 4294967295).hp = 39 ∧
      getHp 1 (heal 1 4294967295 (oneHealth health)) = 39 := by
  decide +kernel

/-! ## Hit points and `is_alive` -/

/-- What a `Health` should always be. -/
structure Sound (health : Health) : Prop where
  bounded : health.hp ≤ health.maxHp
  alive : health.isAlive = true ↔ 0 < health.hp

/-- The component that `handle_login` makes from a row. -/
def restored (record : PlayerRecord) : Health :=
  { Health.make record.maxHp.toUInt32 50 with hp := record.hp.toUInt32 }

/-- A login gives the player this component. -/
theorem enterGame_health {s : GameServer} (hm : s.mtx = false) (hecs : s.config.useEcs = true)
    (channelId : Int32) (playerName : List UInt8) (record : PlayerRecord) :
    ∃ player t, GameServer.enterGame channelId playerName record s = .ok player t ∧
      (t.ecs.component .health player : Option Health) = some (restored record) := by
  obtain ⟨ecs, hok, -, -, -, hhealth, -⟩ :=
    GameServer.enterGame_ok hm hecs channelId playerName record
  exact ⟨_, _, hok, hhealth⟩

/-- The ways in which a `Health` comes to be. -/
inductive Built : Health → Prop where
  | constructed {maxHp : UInt32} (maxMp : UInt32) (hpos : 0 < maxHp) :
      Built (Health.make maxHp maxMp)
  | restored {record : PlayerRecord} (hnonneg : 0 ≤ record.hp) (hle : record.hp ≤ record.maxHp) :
      Built (restored record)

theorem toUInt32_le {a b : Int32} (ha : 0 ≤ a) (hab : a ≤ b) : a.toUInt32 ≤ b.toUInt32 := by
  rw [Int32.le_iff_toInt_le] at ha hab
  have hcast : ∀ c : Int32, 0 ≤ c.toInt → (c.toUInt32.toNat : Int) = c.toInt := by
    intro c hc
    have hsign := BitVec.toInt_eq_toNat_cond c.toBitVec
    have hlt := c.toBitVec.isLt
    change (c.toBitVec.toNat : Int) = c.toBitVec.toInt
    change 0 ≤ c.toBitVec.toInt at hc
    split at hsign <;> omega
  have ha' := hcast a ha
  have hb' := hcast b (ha.trans hab)
  rw [UInt32.le_iff_toNat_le]
  omega

/-- A dead player comes back alive, with no hit points. -/
theorem Built.sound_iff {health : Health} (h : Built health) :
    health.hp ≤ health.maxHp ∧ (Sound health ↔ 0 < health.hp) := by
  have halive : health.isAlive = true := by cases h <;> rfl
  have hle : health.hp ≤ health.maxHp := by
    cases h with
    | constructed => exact UInt32.le_refl _
    | restored hnonneg hle => exact toUInt32_le hnonneg hle
  refine ⟨hle, fun hs => hs.alive.mp halive, fun hpos => ⟨hle, ?_⟩⟩
  simp only [halive, hpos]

/-- The four ways in which a `Health` changes: the member functions, and what
`CombatSystem` does. -/
inductive HealthChange where
  | takeDamage (damage : UInt32)
  | heal (amount : UInt32)
  | damaged (damage : UInt32)
  | healed (amount : UInt32)
deriving DecidableEq, Repr

namespace HealthChange

/-- What a change does. -/
def apply : HealthChange → Health → Health
  | takeDamage damage => (Threading.takeDamage · damage)
  | heal amount => (·.heal amount)
  | damaged damage => GameServer.damaged damage
  | healed amount => CombatSystem.healed amount

/-- When the change leaves `is_alive` right: `CombatSystem` may not kill or revive, and no
sum may wrap to 0. -/
def KeepsSound (health : Health) : HealthChange → Prop
  | takeDamage _ => True
  | heal amount => health.hp = 0 ∨ health.hp + amount ≠ 0
  | damaged damage => health.hp = 0 ∨ damage < health.hp
  | healed amount =>
    if health.hp = 0 then amount = 0 ∨ health.maxHp = 0 else health.hp + amount ≠ 0

instance (health : Health) : DecidablePred (KeepsSound health)
  | takeDamage _ => .isTrue trivial
  | heal amount => inferInstanceAs (Decidable (health.hp = 0 ∨ health.hp + amount ≠ 0))
  | damaged damage => inferInstanceAs (Decidable (health.hp = 0 ∨ damage < health.hp))
  | healed amount => inferInstanceAs (Decidable
      (if health.hp = 0 then amount = 0 ∨ health.maxHp = 0 else health.hp + amount ≠ 0))

theorem maxHp_apply (c : HealthChange) (health : Health) :
    (c.apply health).maxHp = health.maxHp := by
  cases c with
  | takeDamage damage =>
    show (Threading.takeDamage health damage).maxHp = _
    unfold Threading.takeDamage
    split <;> rfl
  | _ => rfl

variable {health : Health}

theorem bounded_apply (c : HealthChange) (h : health.hp ≤ health.maxHp) :
    (c.apply health).hp ≤ (c.apply health).maxHp := by
  rw [UInt32.le_iff_toNat_le] at h
  rw [maxHp_apply, UInt32.le_iff_toNat_le]
  cases c with
  | takeDamage damage => exact (hp_takeDamage health damage).trans_le ((Nat.sub_le ..).trans h)
  | heal amount => exact (hp_heal health amount).trans_le (Nat.min_le_right ..)
  | damaged damage => exact (hp_damaged damage health).trans_le ((Nat.sub_le ..).trans h)
  | healed amount =>
    show (CombatSystem.healed amount health).hp.toNat ≤ _
    rw [hp_healed]
    exact (hp_heal health amount).trans_le (Nat.min_le_right ..)

theorem alive_takeDamage (h : Sound health) (damage : UInt32) :
    (Threading.takeDamage health damage).isAlive = true ↔
      0 < (Threading.takeDamage health damage).hp := by
  unfold Threading.takeDamage
  split
  · simp
  · rename_i hlt
    have hlt := UInt32.not_le.mp hlt
    rw [UInt32.lt_iff_toNat_lt, UInt32.toNat_sub_of_le _ _ (UInt32.le_of_lt hlt)]
    rw [UInt32.lt_iff_toNat_lt] at hlt
    exact h.alive.trans (UInt32.lt_iff_toNat_lt.trans (by simp; omega))

/-- What `CombatSystem` leaves of the hit points must be 0 exactly if it was before. -/
theorem alive_hp_iff (h : Sound health) (hp : UInt32) :
    (health.isAlive = true ↔ 0 < hp) ↔ (health.hp.toNat = 0 ↔ hp.toNat = 0) := by
  rw [h.alive, UInt32.lt_iff_toNat_lt, UInt32.lt_iff_toNat_lt, UInt32.toNat_zero,
    Nat.pos_iff_ne_zero, Nat.pos_iff_ne_zero, not_iff_not]

theorem alive_heal_iff (h : Sound health) (amount : UInt32) :
    ((health.heal amount).isAlive = true ↔ 0 < (health.heal amount).hp) ↔
      health.hp = 0 ∨ health.hp + amount ≠ 0 := by
  have hbounded := UInt32.le_iff_toNat_le.mp h.bounded
  have hhp := hp_heal health amount
  have halive : (health.heal amount).isAlive
    = if 0 < (health.heal amount).hp then true else health.isAlive := rfl
  rw [halive, ← UInt32.toNat_inj, ne_eq, ← UInt32.toNat_inj, UInt32.toNat_add, UInt32.toNat_zero]
  by_cases hpos : 0 < (health.heal amount).hp
  · rw [if_pos hpos]
    rw [UInt32.lt_iff_toNat_lt, UInt32.toNat_zero] at hpos
    refine iff_of_true (iff_of_true rfl (UInt32.lt_iff_toNat_lt.mpr hpos)) ?_
    omega
  · -- nothing is left: it was so before, or the sum has wrapped
    rw [if_neg hpos, alive_hp_iff h]
    rw [UInt32.lt_iff_toNat_lt, UInt32.toNat_zero] at hpos
    omega

/-- A change of a sound `Health` gives a sound one exactly under the condition. -/
theorem sound_apply_iff (h : Sound health) (c : HealthChange) :
    Sound (c.apply health) ↔ c.KeepsSound health := by
  have hiff : Sound (c.apply health) ↔
      ((c.apply health).isAlive = true ↔ 0 < (c.apply health).hp) :=
    ⟨fun hs => hs.alive, fun halive => ⟨bounded_apply c h.bounded, halive⟩⟩
  have hbounded := UInt32.le_iff_toNat_le.mp h.bounded
  rw [hiff]
  cases c with
  | takeDamage damage => exact iff_of_true (alive_takeDamage h damage) trivial
  | heal amount => exact alive_heal_iff h amount
  | damaged damage =>
    refine (alive_hp_iff h _).trans ?_
    show (_ ↔ (GameServer.damaged damage health).hp.toNat = 0) ↔
      health.hp = 0 ∨ damage < health.hp
    rw [hp_damaged, ← UInt32.toNat_inj, UInt32.lt_iff_toNat_lt, UInt32.toNat_zero]
    omega
  | healed amount =>
    refine (alive_hp_iff h _).trans ?_
    show (_ ↔ (CombatSystem.healed amount health).hp.toNat = 0) ↔
      if health.hp = 0 then amount = 0 ∨ health.maxHp = 0 else health.hp + amount ≠ 0
    rw [hp_healed, hp_heal]
    simp only [← UInt32.toNat_inj, ne_eq, UInt32.toNat_zero, UInt32.toNat_add]
    have hamount := amount.toNat_lt
    split <;> omega

end HealthChange

/-! ## Sequences of calls -/

/-- The events that change health. -/
inductive CombatEvent where
  /-- `Health::take_damage`. -/
  | healthTakeDamage (entity : Entity) (damage : UInt32)
  /-- `Health::heal`. -/
  | healthHeal (entity : Entity) (amount : UInt32)
  | attack (attacker target : Entity)
  | takeDamage (entity : Entity) (damage : UInt32)
  | heal (entity : Entity) (amount : UInt32)
  /-- `AISystem::attack_target`. -/
  | attackTarget (entity : Entity)
deriving DecidableEq, Repr

section Runs

variable {K : Type}

namespace CombatEvent

/-- What an event does. -/
def run (gs : Service K) : CombatEvent → Service K
  | healthTakeDamage entity damage => gs.updateHealth entity (Threading.takeDamage · damage)
  | healthHeal entity amount => gs.updateHealth entity (·.heal amount)
  | attack attacker target => CombatSystem.attack attacker target gs
  | takeDamage entity damage => CombatSystem.takeDamage entity damage gs
  | heal entity amount => CombatSystem.heal entity amount gs
  | attackTarget entity => AISystem.attackTarget entity gs

/-- Whose hit points change. -/
def target (gs : Service K) : CombatEvent → Option Entity
  | healthTakeDamage entity _ | healthHeal entity _ | attack _ entity | takeDamage entity _
  | heal entity _ => some entity
  | attackTarget entity => (gs.monster entity).bind fun monster =>
      if monster.targetEntity = 0 then none else some monster.targetEntity

/-- How they change. -/
def change : CombatEvent → HealthChange
  | healthTakeDamage _ damage => .takeDamage damage
  | healthHeal _ amount => .heal amount
  | attack _ _ => .damaged 10
  | takeDamage _ damage => .damaged damage
  | heal _ amount => .healed amount
  | attackTarget _ => .takeDamage 10

theorem run_eq (gs : Service K) (e : CombatEvent) :
    e.run gs = (e.target gs).elim gs fun entity => gs.updateHealth entity e.change.apply := by
  cases e with
  | attackTarget entity =>
    cases hmonster : gs.monster entity with
    | none => simp [run, AISystem.attackTarget, target, hmonster]
    | some monster =>
      by_cases hzero : monster.targetEntity = 0
      · simp [run, AISystem.attackTarget, target, hmonster, hzero]
      · simp only [run, AISystem.attackTarget, target, hmonster, if_neg hzero, Option.bind_some,
          Option.elim_some]
        rfl
  | _ => rfl

/-- Only the hit points of the target change. -/
theorem health_run (gs : Service K) (e : CombatEvent) (entity : Entity) :
    (e.run gs).health entity
      = if e.target gs = some entity then (gs.health entity).map e.change.apply
        else gs.health entity := by
  rw [run_eq]
  cases htarget : e.target gs with
  | none => rfl
  | some entity' =>
    show (gs.updateHealth entity' e.change.apply).health entity = _
    rw [Service.health_updateHealth]
    by_cases h : entity' = entity
    · rw [h, Function.update_self, if_pos rfl]
    · rw [Function.update_of_ne (Ne.symm h), if_neg (by simpa using h)]

/-- The change leaves `is_alive` of the target right. -/
def StaysSound (gs : Service K) (e : CombatEvent) : Prop :=
  ∀ entity health, e.target gs = some entity → gs.health entity = some health →
    e.change.KeepsSound health

end CombatEvent

/-- All hit points are within their bounds. -/
def HpBounded (gs : Service K) : Prop :=
  ∀ entity health, gs.health entity = some health → health.hp ≤ health.maxHp

/-- `hp <= max_hp`, and `is_alive` exactly if `hp > 0`, for every entity. -/
def AllSound (gs : Service K) : Prop :=
  ∀ entity health, gs.health entity = some health → Sound health

/-- One event. -/
def CombatStep (gs : Service K) (e : CombatEvent) (t : Service K) : Prop := e.run gs = t

theorem hpBounded_step {gs t : Service K} {e : CombatEvent} (h : HpBounded gs)
    (hstep : CombatStep gs e t) : HpBounded t := by
  subst hstep
  intro entity health hhealth
  rw [CombatEvent.health_run] at hhealth
  split at hhealth
  · obtain ⟨before, hbefore, rfl⟩ := Option.map_eq_some_iff.mp hhealth
    exact e.change.bounded_apply (h entity before hbefore)
  · exact h entity health hhealth

/-- **One call** keeps all of them right exactly if it does so for its target. -/
theorem allSound_step_iff {gs t : Service K} {e : CombatEvent} (h : AllSound gs)
    (hstep : CombatStep gs e t) : AllSound t ↔ e.StaysSound gs := by
  subst hstep
  constructor
  · intro hsound entity health htarget hhealth
    refine (HealthChange.sound_apply_iff (h entity health hhealth) e.change).mp
      (hsound entity _ ?_)
    rw [CombatEvent.health_run, if_pos htarget, hhealth]
    rfl
  · intro hstays entity health hhealth
    rw [CombatEvent.health_run] at hhealth
    split at hhealth
    · rename_i htarget
      obtain ⟨before, hbefore, rfl⟩ := Option.map_eq_some_iff.mp hhealth
      exact (HealthChange.sound_apply_iff (h entity before hbefore) e.change).mpr
        (hstays entity before htarget hbefore)
    · exact h entity health hhealth

/-- **Health invariant**: from components built by the constructor or restored by a login,
the hit points stay within their bounds in every sequence of calls. `is_alive` is right all
along exactly if nobody was restored dead, and every call leaves the `is_alive` of its
target right. -/
theorem health_sound_iff {gs t : Service K} {es : List CombatEvent}
    (hbuilt : ∀ entity health, gs.health entity = some health → Built health) :
    (Run CombatStep gs es t → HpBounded t) ∧
    (AllSound gs ∧ Run (staying AllSound CombatStep) gs es t ↔
      (∀ entity health, gs.health entity = some health → 0 < health.hp) ∧
        Run (guarded (fun gs e => e.StaysSound gs) CombatStep) gs es t) := by
  have hstart : AllSound gs ↔ ∀ entity health, gs.health entity = some health → 0 < health.hp :=
    forall₃_congr fun entity health hhealth => (hbuilt entity health hhealth).sound_iff.2
  constructor
  · intro hrun
    refine hrun.invariant ?_ fun _ _ _ h hstep => hpBounded_step h hstep
    exact fun entity health hhealth => (hbuilt entity health hhealth).sound_iff.1
  · rw [← hstart]
    refine and_congr_right fun hsound => ?_
    exact Run.staying_iff (I := fun _ => True) trivial hsound (fun _ _ _ _ _ => trivial)
      fun _ _ _ _ h hstep => allSound_step_iff h hstep

end Runs

theorem built_oneHealth {health : Health} (h : Built health) (entity : Entity) (health' : Health)
    (hhealth : (oneHealth health).health entity = some health') : Built health' := by
  rw [health_oneHealth, Function.update_apply] at hhealth
  split at hhealth
  · cases hhealth
    exact h
  · cases hhealth

/-- Two calls of `CombatSystem` that leave hit points. -/
theorem health_sound_two :
    let gs := oneHealth (Health.make 100 50)
    Run (staying AllSound CombatStep) gs [.takeDamage 1 30, .heal 1 20]
      (CombatSystem.heal 1 20 (CombatSystem.takeDamage 1 30 gs)) := by
  intro gs
  let gs' := CombatSystem.takeDamage 1 30 gs
  have hhealth : gs.health = Function.update (fun _ => none) 1 (some (Health.make 100 50)) :=
    health_oneHealth _
  have hhealth' : gs'.health 1 = some { Health.make 100 50 with hp := 70 } := by
    show (gs.updateHealth 1 _).health 1 = _
    rw [Service.health_updateHealth, Function.update_self, hhealth, Function.update_self]
    rfl
  refine ((health_sound_iff (built_oneHealth (.constructed 50 (by decide)))).2.mpr ⟨?_, ?_⟩).2
  · intro entity health h
    rw [hhealth, Function.update_apply] at h
    split at h
    · cases h
      decide
    · cases h
  · have hfirst : (CombatEvent.takeDamage 1 30).StaysSound gs := by
      intro entity health htarget h
      cases htarget
      rw [hhealth, Function.update_self] at h
      cases h
      decide
    have hsecond : (CombatEvent.heal 1 20).StaysSound gs' := by
      intro entity health htarget h
      cases htarget
      rw [hhealth'] at h
      cases h
      decide
    exact (Run.single ⟨hfirst, rfl⟩).append (.single ⟨hsecond, rfl⟩)

/-- `CombatSystem::take_damage` leaves a player without hit points alive. -/
theorem dead_stays_alive :
    let gs := oneHealth (Health.make 100 50)
    (∀ entity health, gs.health entity = some health → Built health) ∧
      (CombatSystem.takeDamage 1 100 gs).health 1
        = some { Health.make 100 50 with hp := 0, isAlive := true } ∧
      ¬ AllSound (CombatSystem.takeDamage 1 100 gs) := by
  intro gs
  have hdead : (CombatSystem.takeDamage 1 100 gs).health 1
      = some { Health.make 100 50 with hp := 0, isAlive := true } := by
    show (gs.updateHealth 1 _).health 1 = _
    rw [Service.health_updateHealth, Function.update_self, health_oneHealth, Function.update_self]
    rfl
  refine ⟨built_oneHealth (.constructed 50 (by decide)), hdead, fun hsound => ?_⟩
  exact absurd ((hsound 1 _ hdead).alive.mp rfl) (by decide)

end EcsAsioServer.Threading
