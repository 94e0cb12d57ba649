import EcsAsioServer.Game.Ecs
import EcsAsioServer.Lib.Loops

/-!
# Identifiers of entities (`server/game/ecs/entity.{hpp,cpp}`)

`EntityManager` issues identifiers one after the other, starting at 1, and counts the active
entities in a field of its own. There are calls for one entity and calls for many;
`create_entities` adds to the counter once, after its loop.

A call for many is a sequence of calls for one (`foldl_singles`), so an invariant has to be
shown for single calls only. While fewer than 2³² - 1 identifiers have been issued, all of
them are different and none is 0, and the counter is right (`entity_ids`).
-/

namespace EcsAsioServer.Ecs

open Transition

namespace EntityManager

/-- One round of the loop of `create_entities`. -/
def issue (r : List Entity × EntityManager) : List Entity × EntityManager :=
  let entity := r.2.nextEntityId
  (r.1 ++ [entity],
    { r.2 with
      activeEntities := insert entity r.2.activeEntities
      nextEntityId := r.2.nextEntityId + 1 })

/-- `create_entities`. -/
def createEntities (em : EntityManager) (count : UInt32) : List Entity × EntityManager :=
  let r := (List.range count.toNat).foldl (fun r _ => issue r) ([], em)
  (r.1, { r.2 with entityCount := r.2.entityCount + count })

/-- `destroy_entities`: the body of the loop is that of `destroy_entity`. -/
def destroyEntities (em : EntityManager) (entities : List Entity) : EntityManager :=
  entities.foldl destroyEntity em

/-- `create_entity`, with the identifier put to those of earlier calls. -/
def createNext (r : List Entity × EntityManager) : List Entity × EntityManager :=
  let (entity, em) := r.2.createEntity
  (r.1 ++ [entity], em)

/-- `n` calls of `create_entity`. -/
def createTimes (em : EntityManager) (n : Nat) : List Entity × EntityManager :=
  (List.range n).foldl (fun r _ => createNext r) ([], em)

/-- The two loops differ in the counter. -/
theorem foldl_issue (n : Nat) (r : List Entity × EntityManager) :
    (List.range n).foldl (fun r _ => createNext r) r =
      let s := (List.range n).foldl (fun r _ => issue r) r
      (s.1, { s.2 with entityCount := s.2.entityCount + UInt32.ofNat n }) := by
  induction n with
  | zero =>
    obtain ⟨ids, em⟩ := r
    simp
  | succ n ih =>
    rw [List.range_succ, List.foldl_append, List.foldl_append, ih]
    simp only [List.foldl_cons, List.foldl_nil, createNext, createEntity, issue, UInt32.ofNat_add,
      UInt32.add_assoc]
    rfl

/-- **`create_entities`** is so many calls of `create_entity`. -/
theorem createEntities_eq (em : EntityManager) (count : UInt32) :
    em.createEntities count = em.createTimes count.toNat := by
  rw [createTimes, foldl_issue, UInt32.ofNat_toNat]
  rfl

theorem mem_destroyEntity {em : EntityManager} {entity e : Entity} :
    e ∈ (em.destroyEntity entity).activeEntities ↔ e ≠ entity ∧ e ∈ em.activeEntities := by
  unfold destroyEntity
  split
  · exact Finset.mem_erase
  · next hnone =>
    refine ⟨fun he => ⟨?_, he⟩, fun he => he.2⟩
    rintro rfl
    exact hnone he

theorem destroyEntity_of_not_mem {em : EntityManager} {entity : Entity}
    (h : entity ∉ em.activeEntities) : em.destroyEntity entity = em := if_neg h

/-- The order of two calls does not matter. -/
theorem destroyEntity_comm (em : EntityManager) (a b : Entity) :
    (em.destroyEntity a).destroyEntity b = (em.destroyEntity b).destroyEntity a := by
  by_cases ha : a ∈ em.activeEntities
  · by_cases hb : b ∈ em.activeEntities
    · by_cases hab : a = b
      · rw [hab]
      · simp [destroyEntity, ha, hb, hab, Ne.symm hab, Finset.erase_right_comm]
    · have hb' : b ∉ (em.destroyEntity a).activeEntities := fun h => hb (mem_destroyEntity.mp h).2
      rw [destroyEntity_of_not_mem hb, destroyEntity_of_not_mem hb']
  · have ha' : a ∉ (em.destroyEntity b).activeEntities := fun h => ha (mem_destroyEntity.mp h).2
    rw [destroyEntity_of_not_mem ha, destroyEntity_of_not_mem ha']

/-- **`destroy_entities`** is calls of `destroy_entity`, in any order. -/
theorem destroyEntities_perm (em : EntityManager) {l l' : List Entity} (h : l.Perm l') :
    em.destroyEntities l = l'.foldl destroyEntity em :=
  h.foldl_eq' (fun a _ b _ em => em.destroyEntity_comm a b) em

end EntityManager

/-! ## Sequences of calls -/

/-- The calls of a manager. -/
inductive EntityOp where
  | create
  | createMany (count : UInt32)
  | destroy (entity : Entity)
  | destroyMany (entities : List Entity)
deriving DecidableEq, Repr

/-- The manager, and the identifiers that it has issued, in their order. -/
structure EntityLog where
  manager : EntityManager := {}
  issued : List Entity := []

namespace EntityLog

/-- One call, with the ids that it issues. -/
def apply (log : EntityLog) : EntityOp → EntityLog
  | .create =>
    let (entity, manager) := log.manager.createEntity
    { manager, issued := log.issued ++ [entity] }
  | .createMany count =>
    let (entities, manager) := log.manager.createEntities count
    { manager, issued := log.issued ++ entities }
  | .destroy entity => { log with manager := log.manager.destroyEntity entity }
  | .destroyMany entities => { log with manager := log.manager.destroyEntities entities }

/-- The calls for one entity that a call stands for. -/
def singles : EntityOp → List EntityOp
  | .create => [.create]
  | .createMany count => List.replicate count.toNat .create
  | .destroy entity => [.destroy entity]
  | .destroyMany entities => entities.map .destroy

theorem foldl_create (log : EntityLog) (n : Nat) :
    (List.replicate n .create).foldl apply log =
      { manager := (log.manager.createTimes n).2
        issued := log.issued ++ (log.manager.createTimes n).1 } := by
  induction n with
  | zero => simp [EntityManager.createTimes]
  | succ n ih =>
    rw [List.replicate_succ', List.foldl_append, ih, EntityManager.createTimes,
      EntityManager.createTimes, List.range_succ, List.foldl_append]
    simp [apply, EntityManager.createNext]

theorem foldl_destroy (log : EntityLog) (entities : List Entity) :
    (entities.map .destroy).foldl apply log
      = { log with manager := log.manager.destroyEntities entities } := by
  induction entities generalizing log with
  | nil => rfl
  | cons entity entities ih =>
    rw [List.map_cons, List.foldl_cons, ih]
    rfl

theorem apply_eq (log : EntityLog) (op : EntityOp) :
    log.apply op = (singles op).foldl apply log := by
  cases op with
  | create | destroy => rfl
  | createMany count =>
    rw [singles, foldl_create, apply, EntityManager.createEntities_eq]
  | destroyMany entities => exact (foldl_destroy log entities).symm

/-- Every sequence of calls is one of calls for single entities. -/
theorem foldl_singles (log : EntityLog) (ops : List EntityOp) :
    ops.foldl apply log = (ops.flatMap singles).foldl apply log := by
  induction ops generalizing log with
  | nil => rfl
  | cons op ops ih => rw [List.foldl_cons, ih, List.flatMap_cons, List.foldl_append, ← apply_eq]

/-- A call for one entity. -/
def Single : EntityOp → Prop
  | .create | .destroy _ => True
  | _ => False

theorem single_of_mem {op e : EntityOp} (h : e ∈ singles op) : Single e := by
  cases op with
  | create | destroy =>
    obtain rfl := List.mem_singleton.mp h
    trivial
  | createMany count =>
    obtain rfl := (List.mem_replicate.mp h).2
    trivial
  | destroyMany entities =>
    obtain ⟨entity, -, rfl⟩ := List.mem_map.mp h
    trivial

/-- The identifiers so far are 1, 2, 3 and so on, and the counter is right. -/
structure Numbered (log : EntityLog) : Prop where
  next : log.manager.nextEntityId.toNat = log.issued.length + 1
  issued : log.issued.map UInt32.toNat = List.range' 1 log.issued.length
  active : ∀ e ∈ log.manager.activeEntities, e ∈ log.issued
  count : log.manager.entityCount.toNat = log.manager.activeEntities.card

namespace Numbered

variable {log : EntityLog}

theorem nodup (h : log.Numbered) : log.issued.Nodup := by
  refine List.Nodup.of_map UInt32.toNat ?_
  rw [h.issued]
  exact List.nodup_range'

theorem pos (h : log.Numbered) {e : Entity} (he : e ∈ log.issued) :
    1 ≤ e.toNat ∧ e.toNat ≤ log.issued.length := by
  have hmem : e.toNat ∈ List.range' 1 log.issued.length := by
    rw [← h.issued]
    exact List.mem_map_of_mem he
  have := List.mem_range'_1.mp hmem
  omega

/-- The next identifier is new. -/
theorem next_not_mem (h : log.Numbered) : log.manager.nextEntityId ∉ log.issued := by
  intro hmem
  have hpos := h.pos hmem
  have hnext := h.next
  omega

theorem card_le (h : log.Numbered) : log.manager.activeEntities.card ≤ log.issued.length := by
  have hsub : log.manager.activeEntities ⊆ log.issued.toFinset := fun e he =>
    List.mem_toFinset.mpr (h.active e he)
  exact (Finset.card_le_card hsub).trans (List.toFinset_card_le _)

/-- The counter is not taken below 0. -/
theorem count_destroyEntity (h : log.Numbered) {entity : Entity}
    (hactive : entity ∈ log.manager.activeEntities) :
    (log.manager.destroyEntity entity).entityCount.toNat + 1
      = log.manager.entityCount.toNat := by
  have hcard : 0 < log.manager.activeEntities.card := Finset.card_pos.mpr ⟨entity, hactive⟩
  have hle : (1 : UInt32) ≤ log.manager.entityCount := by
    rw [UInt32.le_iff_toNat_le, h.count]
    exact hcard
  rw [EntityManager.destroyEntity, if_pos hactive, UInt32.toNat_sub_of_le _ _ hle, h.count]
  have hone : (1 : UInt32).toNat = 1 := rfl
  omega

theorem create (h : log.Numbered) (hroom : log.issued.length + 1 < 2 ^ 32 - 1) :
    (log.apply .create).Numbered := by
  have hfresh : log.manager.nextEntityId ∉ log.manager.activeEntities := fun hmem =>
    h.next_not_mem (h.active _ hmem)
  have hone : (1 : UInt32).toNat = 1 := rfl
  have hlength : (log.apply .create).issued.length = log.issued.length + 1 := by
    simp [apply]
  refine ⟨?_, ?_, ?_, ?_⟩
  · show (log.manager.nextEntityId + 1).toNat = _
    rw [UInt32.toNat_add, h.next, hlength, hone, Nat.mod_eq_of_lt (by omega)]
  · rw [hlength, List.range'_concat, ← h.issued]
    show (log.issued ++ [log.manager.nextEntityId]).map _ = _
    rw [List.map_append, List.map_cons, List.map_nil, h.next]
    simp [Nat.add_comm]
  · intro e he
    rcases Finset.mem_insert.mp he with rfl | hold
    · exact List.mem_append_right _ (.head _)
    · exact List.mem_append_left _ (h.active e hold)
  · show (log.manager.entityCount + 1).toNat = (insert _ log.manager.activeEntities).card
    have hcard := h.card_le
    rw [UInt32.toNat_add, h.count, hone, Nat.mod_eq_of_lt (by omega),
      Finset.card_insert_of_notMem hfresh]

theorem destroy (h : log.Numbered) (entity : Entity) : (log.apply (.destroy entity)).Numbered := by
  by_cases hactive : entity ∈ log.manager.activeEntities
  · have hcount := h.count_destroyEntity hactive
    have hcard := Finset.card_erase_add_one hactive
    refine ⟨?_, h.issued, ?_, ?_⟩
    · show (log.manager.destroyEntity entity).nextEntityId.toNat = _
      rw [EntityManager.destroyEntity, if_pos hactive]
      exact h.next
    · intro e he
      exact h.active e (EntityManager.mem_destroyEntity.mp he).2
    · have herased : (log.manager.destroyEntity entity).activeEntities
          = log.manager.activeEntities.erase entity := by
        rw [EntityManager.destroyEntity, if_pos hactive]
      show (log.manager.destroyEntity entity).entityCount.toNat
        = (log.manager.destroyEntity entity).activeEntities.card
      rw [herased]
      have := h.count
      omega
  · rw [apply, EntityManager.destroyEntity_of_not_mem hactive]
    exact h

end Numbered

/-- **One call** for an entity, while there are identifiers left. -/
theorem numbered_step {log : EntityLog} {op : EntityOp} (hop : Single op)
    (h : log.issued.length < 2 ^ 32 - 1 → log.Numbered)
    (hroom : (log.apply op).issued.length < 2 ^ 32 - 1) : (log.apply op).Numbered := by
  cases op with
  | create =>
    have hlength : (log.apply .create).issued.length = log.issued.length + 1 := by simp [apply]
    rw [hlength] at hroom
    exact (h (by omega)).create hroom
  | destroy entity => exact (h hroom).destroy entity
  | createMany | destroyMany => cases hop

/-- **Every sequence of calls** that issues fewer than 2³² - 1 identifiers. -/
theorem numbered_run (ops : List EntityOp)
    (hroom : (ops.foldl apply {}).issued.length < 2 ^ 32 - 1) : (ops.foldl apply {}).Numbered := by
  rw [foldl_singles] at hroom ⊢
  refine Loop.keeps (I := fun log : EntityLog => log.issued.length < 2 ^ 32 - 1 → log.Numbered)
    (fun _ => ?_) ?_ hroom
  · exact ⟨rfl, rfl, by simp, rfl⟩
  · intro log op hop h
    obtain ⟨op', -, hop'⟩ := List.mem_flatMap.mp hop
    exact numbered_step (single_of_mem hop') h

/-- **Identifiers of entities.** In every sequence of calls that issues fewer than 2³² - 1
identifiers, these are all different and not 0. Then `entity_count_` is the number of active
entities, also at any point of a `destroy_entities`, and is never taken below 0.
`create_entities` and `destroy_entities` do what the calls for single entities do, the latter
in any order. -/
theorem entity_ids (ops : List EntityOp)
    (hroom : (ops.foldl apply {}).issued.length < 2 ^ 32 - 1) :
    let log := ops.foldl apply {}
    (∀ e ∈ log.issued, e ≠ 0) ∧ log.issued.Nodup ∧
    log.manager.entityCount.toNat = log.manager.activeEntities.card ∧
    (∀ entities, ∀ e ∈ (log.manager.destroyEntities entities).activeEntities,
      ((log.manager.destroyEntities entities).destroyEntity e).entityCount.toNat + 1
        = (log.manager.destroyEntities entities).entityCount.toNat) ∧
    (∀ count, log.manager.createEntities count = log.manager.createTimes count.toNat) ∧
    ∀ entities order : List Entity, order.Perm entities →
      log.manager.destroyEntities entities =
        order.foldl EntityManager.destroyEntity log.manager := by
  intro log
  have hnumbered : log.Numbered := numbered_run ops hroom
  refine ⟨?_, hnumbered.nodup, hnumbered.count, ?_, log.manager.createEntities_eq, ?_⟩
  · rintro e he rfl
    have hpos := (hnumbered.pos he).1
    cases hpos
  · intro entities e he
    -- destroying some entities is one more call
    have hlater : (log.apply (.destroyMany entities)).Numbered := by
      have hrun := numbered_run (ops ++ [.destroyMany entities])
      rw [List.foldl_append] at hrun
      exact hrun hroom
    exact hlater.count_destroyEntity he
  · intro entities order hperm
    exact log.manager.destroyEntities_perm hperm.symm

/-- Three entities, of which the second is destroyed twice. -/
theorem entity_ids_three :
    let log := [EntityOp.createMany 3, .destroyMany [2, 7, 2]].foldl apply {}
    log.issued = [1, 2, 3] ∧ log.issued.Nodup ∧ log.manager.entityCount.toNat = 2 := by
  intro log
  have hids := entity_ids [.createMany 3, .destroyMany [2, 7, 2]] (by decide)
  exact ⟨rfl, hids.2.1, hids.2.2.1.trans (by decide)⟩

end EntityLog

end EcsAsioServer.Ecs
