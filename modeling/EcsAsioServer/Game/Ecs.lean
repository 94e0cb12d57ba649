import EcsAsioServer.Lib.Transition
import EcsAsioServer.Game.Components
import Mathlib.Data.List.AList

/-!
# The entity component system (`server/game/ecs/{entity,component,game_service}`)

Entities are bare numbers; `EntityManager` issues them and knows which are active.
`ComponentManager` keeps one store for each component type, created on first use.
The component types are a parameter: `τ` stands for `std::type_index` and `Val t`
for the values of type `t`.

`destroy_entity` is meant to take an entity's components with it:
`GameService::destroy_entity` calls `remove_all_components`, whose loop over the
stores has an empty body. So an entity that is destroyed while it has components
keeps them. `Owned` (only active entities have components) survives a call of
`destroy_entity` exactly when the entity was stripped before (`owned_step_iff`).
-/

namespace EcsAsioServer.Ecs

open Transition

/-- `Entity`: an identifier and nothing else. -/
abbrev Entity := UInt32

/-! ## `EntityManager` -/

/-- `EntityManager`. -/
structure EntityManager where
  activeEntities : Finset Entity := ∅
  nextEntityId : UInt32 := 1
  entityCount : UInt32 := 0
deriving DecidableEq

namespace EntityManager

/-- `create_entity`; ids wrap around. -/
def createEntity (em : EntityManager) : Entity × EntityManager :=
  let entity := em.nextEntityId
  (entity, {
    activeEntities := insert entity em.activeEntities
    nextEntityId := em.nextEntityId + 1
    entityCount := em.entityCount + 1 })

/-- `destroy_entity`; the components stay. -/
def destroyEntity (em : EntityManager) (entity : Entity) : EntityManager :=
  if entity ∈ em.activeEntities then
    { em with
      activeEntities := em.activeEntities.erase entity
      entityCount := em.entityCount - 1 }
  else em

/-- `is_valid`. -/
def isValid (em : EntityManager) (entity : Entity) : Bool := decide (entity ∈ em.activeEntities)

theorem isValid_createEntity (em : EntityManager) (e : Entity) :
    em.createEntity.2.isValid e = (decide (e = em.nextEntityId) || em.isValid e) := by
  simp [createEntity, isValid]

theorem isValid_destroyEntity (em : EntityManager) (entity e : Entity) :
    (em.destroyEntity entity).isValid e = (decide (e ≠ entity) && em.isValid e) := by
  unfold destroyEntity
  split
  · simp [isValid]
  · next h =>
    by_cases he : e = entity
    · subst he
      simp [isValid, h]
    · simp [he]

end EntityManager

/-! ## `ComponentManager` -/

variable {τ : Type} [DecidableEq τ] {Val : τ → Type}

/-- `ComponentStore<T>`: the map `components_`. -/
abbrev ComponentStore (V : Type) := AList fun _ : Entity => V

namespace ComponentStore

variable {V : Type}

/-- `add`, `components_[entity] = component`: an entity that is there keeps its place in the
iteration order. A write through the pointer that `get` returned is the same assignment. -/
def add (store : ComponentStore V) (entity : Entity) (component : V) : ComponentStore V :=
  if entity ∈ store then store.replace entity component else store.insert entity component

/-- By induction on the entries: the first one with the key is replaced. -/
theorem dlookup_kreplace {entries : List ((_ : Entity) × V)} {entity : Entity}
    (h : entity ∈ entries.keys) (component : V) (e : Entity) :
    (entries.kreplace entity component).dlookup e
      = if e = entity then some component else entries.dlookup e := by
  have hcons : ∀ (e' : Entity) (c : V) (l : List ((_ : Entity) × V)), e ≠ e' →
      List.dlookup e (⟨e', c⟩ :: l) = l.dlookup e := fun e' c l hne =>
    List.dlookup_cons_ne l ⟨e', c⟩ hne
  unfold List.kreplace
  induction entries with
  | nil => simp at h
  | cons entry entries ih =>
    obtain ⟨e', c⟩ := entry
    rw [List.lookmap_cons]
    by_cases hhead : entity = e'
    · subst hhead
      by_cases he : e = entity
      · subst he
        simp
      · simp only [if_true, if_neg he]
        rw [hcons _ _ _ he, hcons _ _ _ he]
    · have hrest : entity ∈ entries.keys := by simpa [hhead] using h
      by_cases he : e = e'
      · subst he
        simp [hhead, Ne.symm hhead]
      · simp only [hhead, if_false]
        rw [hcons _ _ _ he, hcons _ _ _ he, ih hrest]

/-- What the store has after an assignment. -/
theorem lookup_add (store : ComponentStore V) (entity : Entity) (component : V) (e : Entity) :
    (store.add entity component).lookup e
      = if e = entity then some component else store.lookup e := by
  unfold add
  by_cases hmem : entity ∈ store
  · rw [if_pos hmem]
    exact dlookup_kreplace hmem component e
  · rw [if_neg hmem]
    by_cases he : e = entity
    · subst he
      simp
    · rw [AList.lookup_insert_ne he, if_neg he]

/-- The iteration order after a write to a component that is there. -/
theorem keys_add_of_mem {store : ComponentStore V} {entity : Entity} (h : entity ∈ store)
    (component : V) : (store.add entity component).keys = store.keys := by
  rw [add, if_pos h, AList.keys_replace]

end ComponentStore

/-- `ComponentManager`: the map `stores_`. -/
structure ComponentManager (Val : τ → Type) where
  stores : AList fun t : τ => ComponentStore (Val t)

namespace ComponentManager

/-- `get_store<T>`: creates the store on first use. -/
def getStore (cm : ComponentManager Val) (t : τ) :
    ComponentStore (Val t) × ComponentManager Val :=
  match cm.stores.lookup t with
  | some store => (store, cm)
  | none => (∅, ⟨cm.stores.insert t ∅⟩)

/-- Writing a store back. -/
def setStore (cm : ComponentManager Val) (t : τ) (store : ComponentStore (Val t)) :
    ComponentManager Val :=
  ⟨cm.stores.insert t store⟩

/-- `add_component`. -/
def addComponent (cm : ComponentManager Val) (t : τ) (entity : Entity) (component : Val t) :
    ComponentManager Val :=
  let (store, cm) := cm.getStore t
  cm.setStore t (ComponentStore.add store entity component)

/-- `remove_component`. -/
def removeComponent (cm : ComponentManager Val) (t : τ) (entity : Entity) :
    ComponentManager Val :=
  -- the store is created even if there is nothing to remove
  let (store, cm) := cm.getStore t
  cm.setStore t (store.erase entity)

/-- `get_component<T>`: the component, and the manager with the store created. -/
def getComponent (cm : ComponentManager Val) (t : τ) (entity : Entity) :
    Option (Val t) × ComponentManager Val :=
  let (store, cm) := cm.getStore t
  (store.lookup entity, cm)

/-- `has_component<T>` does not create the store. -/
def hasComponent (cm : ComponentManager Val) (t : τ) (entity : Entity) : Bool :=
  match cm.stores.lookup t with
  | none => false
  | some store => (store.lookup entity).isSome

/-- `get_components<T>`: the snapshot that the systems iterate over. -/
def getComponents (cm : ComponentManager Val) (t : τ) :
    List (Entity × Val t) × ComponentManager Val :=
  let (store, cm) := cm.getStore t
  (store.entries.map fun c => (c.1, c.2), cm)

/-- `remove_all_components`: the body of the loop over the stores is a TODO. -/
def removeAllComponents (cm : ComponentManager Val) (_entity : Entity) :
    ComponentManager Val :=
  cm.stores.entries.foldl (fun cm _ => cm) cm

/-- The store of a type, empty when it does not exist. -/
def store (cm : ComponentManager Val) (t : τ) : ComponentStore (Val t) :=
  (cm.stores.lookup t).getD ∅

@[simp] theorem getStore_fst (cm : ComponentManager Val) (t : τ) :
    (cm.getStore t).1 = cm.store t := by
  unfold getStore store
  cases cm.stores.lookup t <;> rfl

/-- Creating a store does not show. -/
@[simp] theorem store_getStore (cm : ComponentManager Val) (t t' : τ) :
    (cm.getStore t).2.store t' = cm.store t' := by
  unfold getStore
  cases h : cm.stores.lookup t with
  | some _ => rfl
  | none =>
    by_cases ht : t' = t
    · subst ht
      simp [store, h]
    · simp [store, AList.lookup_insert_ne ht]

@[simp] theorem store_setStore_self (cm : ComponentManager Val) (t : τ)
    (s : ComponentStore (Val t)) : (cm.setStore t s).store t = s := by
  simp [setStore, store]

theorem store_setStore_ne (cm : ComponentManager Val) {t t' : τ} (h : t' ≠ t)
    (s : ComponentStore (Val t)) : (cm.setStore t s).store t' = cm.store t' := by
  simp [setStore, store, AList.lookup_insert_ne h]

theorem hasComponent_eq (cm : ComponentManager Val) (t : τ) (e : Entity) :
    cm.hasComponent t e = ((cm.store t).lookup e).isSome := by
  unfold hasComponent store
  cases cm.stores.lookup t <;> rfl

theorem hasComponent_addComponent (cm : ComponentManager Val) (t : τ) (entity : Entity)
    (c : Val t) (t' : τ) (e : Entity) :
    (cm.addComponent t entity c).hasComponent t' e
      = (decide (t' = t ∧ e = entity) || cm.hasComponent t' e) := by
  simp only [hasComponent_eq, addComponent, getStore_fst]
  by_cases ht : t' = t
  · subst ht
    rw [store_setStore_self, ComponentStore.lookup_add]
    by_cases he : e = entity
    · simp [he]
    · simp [he]
  · rw [store_setStore_ne _ ht, store_getStore]
    simp [ht]

theorem hasComponent_removeComponent (cm : ComponentManager Val) (t : τ) (entity : Entity)
    (t' : τ) (e : Entity) :
    (cm.removeComponent t entity).hasComponent t' e
      = (!decide (t' = t ∧ e = entity) && cm.hasComponent t' e) := by
  simp only [hasComponent_eq, removeComponent, getStore_fst]
  by_cases ht : t' = t
  · subst ht
    rw [store_setStore_self]
    by_cases he : e = entity
    · subst he
      simp
    · simp [he, AList.lookup_erase_ne he]
  · rw [store_setStore_ne _ ht, store_getStore]
    simp [ht]

omit [DecidableEq τ] in
/-- The loop of `remove_all_components` changes nothing. -/
@[simp] theorem removeAllComponents_eq (cm : ComponentManager Val) (entity : Entity) :
    cm.removeAllComponents entity = cm := by
  unfold removeAllComponents
  induction cm.stores.entries with
  | nil => rfl
  | cons _ _ ih => exact ih

/-- A snapshot lists the entities that have the component. -/
theorem mem_getComponents_iff (cm : ComponentManager Val) (t : τ) (e : Entity) :
    (∃ c, (e, c) ∈ (cm.getComponents t).1) ↔ cm.hasComponent t e = true := by
  rw [hasComponent_eq, AList.lookup_isSome]
  unfold getComponents
  simp only [getStore_fst, List.mem_map]
  constructor
  · rintro ⟨c, ⟨e', c'⟩, hmem, heq⟩
    obtain ⟨rfl, -⟩ := Prod.mk.inj heq
    exact List.mem_keys_of_mem hmem
  · intro h
    obtain ⟨c, hc⟩ := List.exists_of_mem_keys h
    exact ⟨c, ⟨e, c⟩, hc, rfl⟩

end ComponentManager

/-! ## `GameService` -/

/-- `GameService`. -/
structure GameService (Val : τ → Type) where
  entityManager : EntityManager := {}
  componentManager : ComponentManager Val := ⟨∅⟩

namespace GameService

/-- `create_entity`. -/
def createEntity (gs : GameService Val) : Entity × GameService Val :=
  let (entity, em) := gs.entityManager.createEntity
  (entity, { gs with entityManager := em })

/-- `destroy_entity`: first the components, then the entity. -/
def destroyEntity (gs : GameService Val) (entity : Entity) : GameService Val :=
  let cm := gs.componentManager.removeAllComponents entity
  let em := gs.entityManager.destroyEntity entity
  { entityManager := em, componentManager := cm }

/-- `is_valid`. -/
def isValid (gs : GameService Val) (entity : Entity) : Bool := gs.entityManager.isValid entity

/-- `add_component`. -/
def addComponent (gs : GameService Val) (t : τ) (entity : Entity) (component : Val t) :
    GameService Val :=
  { gs with componentManager := gs.componentManager.addComponent t entity component }

/-- `remove_component`. -/
def removeComponent (gs : GameService Val) (t : τ) (entity : Entity) : GameService Val :=
  { gs with componentManager := gs.componentManager.removeComponent t entity }

/-- `get_component`; the store is made if there is none. -/
def getComponent (gs : GameService Val) (t : τ) (entity : Entity) :
    Option (Val t) × GameService Val :=
  let (c, cm) := gs.componentManager.getComponent t entity
  (c, { gs with componentManager := cm })

/-- `has_component`. -/
def hasComponent (gs : GameService Val) (t : τ) (entity : Entity) : Bool :=
  gs.componentManager.hasComponent t entity

/-- `get_components`. -/
def getComponents (gs : GameService Val) (t : τ) :
    List (Entity × Val t) × GameService Val :=
  let (cs, cm) := gs.componentManager.getComponents t
  (cs, { gs with componentManager := cm })

/-- The component of an entity. -/
def component (gs : GameService Val) (t : τ) (entity : Entity) : Option (Val t) :=
  (gs.componentManager.store t).lookup entity

@[simp] theorem getComponent_fst (gs : GameService Val) (t : τ) (entity : Entity) :
    (gs.getComponent t entity).1 = gs.component t entity := by
  simp [getComponent, ComponentManager.getComponent, component]

/-- Reading a component may create a store, which does not show. -/
@[simp] theorem component_getComponent (gs : GameService Val) (t t' : τ) (entity e : Entity) :
    (gs.getComponent t entity).2.component t' e = gs.component t' e := by
  simp [getComponent, ComponentManager.getComponent, component]

/-- The same entities and components: the two differ at most in stores that are empty. -/
structure Same (gs gs' : GameService Val) : Prop where
  entityManager : gs'.entityManager = gs.entityManager
  component : ∀ t e, gs'.component t e = gs.component t e

theorem Same.refl (gs : GameService Val) : Same gs gs := ⟨rfl, fun _ _ => rfl⟩

theorem Same.trans {gs gs' gs'' : GameService Val} (h : Same gs gs') (h' : Same gs' gs'') :
    Same gs gs'' :=
  ⟨h'.entityManager.trans h.entityManager, fun t e => (h'.component t e).trans (h.component t e)⟩

theorem same_getComponent (gs : GameService Val) (t : τ) (entity : Entity) :
    Same gs (gs.getComponent t entity).2 :=
  ⟨rfl, fun t' e => gs.component_getComponent t t' entity e⟩

/-- Components outlive their entity. -/
theorem component_destroyEntity (gs : GameService Val) (entity : Entity) (t : τ) (e : Entity) :
    (gs.destroyEntity entity).component t e = gs.component t e := by
  simp [destroyEntity, component]

theorem Same.destroyEntity {gs gs' : GameService Val} (h : Same gs gs') (entity : Entity) :
    Same (gs.destroyEntity entity) (gs'.destroyEntity entity) where
  entityManager := congrArg (·.destroyEntity entity) h.entityManager
  component t e := by
    rw [component_destroyEntity, component_destroyEntity]
    exact h.component t e

theorem component_addComponent (gs : GameService Val) (t : τ) (entity : Entity) (c : Val t) :
    (gs.addComponent t entity c).component t
      = Function.update (gs.component t) entity (some c) := by
  funext e
  by_cases he : e = entity
  · subst he
    simp [addComponent, ComponentManager.addComponent, component, ComponentStore.lookup_add]
  · simp [addComponent, ComponentManager.addComponent, component, ComponentStore.lookup_add, he]

theorem component_addComponent_self (gs : GameService Val) (t : τ) (entity : Entity)
    (c : Val t) : (gs.addComponent t entity c).component t entity = some c := by
  simp [addComponent, ComponentManager.addComponent, component, ComponentStore.lookup_add]

theorem component_addComponent_ne (gs : GameService Val) {t t' : τ} (h : t' ≠ t)
    (entity e : Entity) (c : Val t) :
    (gs.addComponent t entity c).component t' e = gs.component t' e := by
  simp [addComponent, ComponentManager.addComponent, component,
    ComponentManager.store_setStore_ne _ h]

theorem component_addComponent_other (gs : GameService Val) {t t' : τ} {entity e : Entity}
    (h : e ≠ entity) (c : Val t) :
    (gs.addComponent t entity c).component t' e = gs.component t' e := by
  by_cases ht : t' = t
  · subst ht
    rw [component_addComponent, Function.update_of_ne h]
  · exact gs.component_addComponent_ne ht entity e c

theorem component_removeComponent_ne (gs : GameService Val) {t t' : τ} (h : t' ≠ t)
    (entity e : Entity) : (gs.removeComponent t entity).component t' e = gs.component t' e := by
  simp [removeComponent, ComponentManager.removeComponent, component,
    ComponentManager.store_setStore_ne _ h]

end GameService

/-! ## Runs of operations -/

/-- The operations of `GameService` that change who owns what. -/
inductive EcsOp (Val : τ → Type) where
  | create
  | destroy (entity : Entity)
  | add (t : τ) (entity : Entity) (component : Val t)
  | remove (t : τ) (entity : Entity)

/-- The effect of an operation. -/
def ecsApply (gs : GameService Val) : EcsOp Val → GameService Val
  | .create => gs.createEntity.2
  | .destroy entity => gs.destroyEntity entity
  | .add t entity component => gs.addComponent t entity component
  | .remove t entity => gs.removeComponent t entity

/-- Components are only added to valid entities. -/
def EcsStep (gs : GameService Val) (op : EcsOp Val) (gs' : GameService Val) : Prop :=
  (∀ t entity component, op = .add t entity component → gs.isValid entity = true) ∧
    ecsApply gs op = gs'

/-- Every entity with a component is active. -/
def Owned (gs : GameService Val) : Prop :=
  ∀ t e, gs.hasComponent t e = true → gs.isValid e = true

/-- The entity has no component of any type. -/
def Stripped (gs : GameService Val) (entity : Entity) : Prop :=
  ∀ t, gs.hasComponent t entity = false

/-- The condition on the operations of a run: only stripped entities are
destroyed. -/
def DestroysStripped (gs : GameService Val) : EcsOp Val → Prop
  | .destroy entity => Stripped gs entity
  | _ => True

theorem hasComponent_destroyEntity (gs : GameService Val) (entity : Entity) (t : τ) (e : Entity) :
    (gs.destroyEntity entity).hasComponent t e = gs.hasComponent t e := by
  simp [GameService.destroyEntity, GameService.hasComponent]

omit [DecidableEq τ] in
theorem isValid_destroyEntity (gs : GameService Val) (entity e : Entity) :
    (gs.destroyEntity entity).isValid e = (decide (e ≠ entity) && gs.isValid e) :=
  gs.entityManager.isValid_destroyEntity entity e

/-- **One operation**: from a state in which only active entities have components,
an operation leads to such a state exactly when it destroys no entity that still has
a component. -/
theorem owned_step_iff {gs gs' : GameService Val} {op : EcsOp Val} (h : Owned gs)
    (hstep : EcsStep gs op gs') : Owned gs' ↔ DestroysStripped gs op := by
  obtain ⟨hvalid, rfl⟩ := hstep
  cases op with
  | create =>
    refine iff_of_true ?_ trivial
    intro t e hhas
    show gs.entityManager.createEntity.2.isValid e = true
    rw [EntityManager.isValid_createEntity, Bool.or_eq_true]
    exact .inr (h t e hhas)
  | destroy entity =>
    constructor
    · -- a component left behind would belong to an entity that is not active
      intro howned t
      by_contra hhas
      rw [Bool.not_eq_false] at hhas
      have hv := howned t entity (by
        rw [ecsApply, hasComponent_destroyEntity]
        exact hhas)
      rw [ecsApply, isValid_destroyEntity] at hv
      simp at hv
    · intro hstripped t e hhas
      rw [ecsApply, hasComponent_destroyEntity] at hhas
      rw [ecsApply, isValid_destroyEntity, Bool.and_eq_true, decide_eq_true_iff]
      refine ⟨?_, h t e hhas⟩
      rintro rfl
      rw [hstripped t] at hhas
      cases hhas
  | add t entity component =>
    refine iff_of_true ?_ trivial
    intro t' e hhas
    show gs.isValid e = true
    have hor : decide (t' = t ∧ e = entity) = true ∨ gs.hasComponent t' e = true := by
      rw [← Bool.or_eq_true]
      exact (gs.componentManager.hasComponent_addComponent t entity component t' e).symm.trans hhas
    rcases hor with hnew | hold
    · rw [(of_decide_eq_true hnew).2]
      exact hvalid t entity component rfl
    · exact h t' e hold
  | remove t entity =>
    refine iff_of_true ?_ trivial
    intro t' e hhas
    show gs.isValid e = true
    have hand : _ = true :=
      (gs.componentManager.hasComponent_removeComponent t entity t' e).symm.trans hhas
    rw [Bool.and_eq_true] at hand
    exact h t' e hand.2

theorem owned_empty : Owned ({} : GameService Val) := by
  intro t e hhas
  cases hhas

/-- **Ownership along runs.** From a fresh service, in every run in which
`destroy_entity` is only called on entities without components, every entity that
has a component or occurs in a snapshot is active; right after `destroy_entity(e)`
no component of `e` is left and no snapshot contains it; and the condition is exact:
a `destroy_entity` that violates it breaks ownership at once. -/
theorem ecsRun_owned {ops : List (EcsOp Val)} {gs : GameService Val}
    (hrun : Run (guarded DestroysStripped EcsStep) {} ops gs) :
    (∀ t e, gs.hasComponent t e = true → gs.isValid e = true) ∧
    (∀ t e, (∃ c, (e, c) ∈ (gs.getComponents t).1) → gs.isValid e = true) ∧
    (∀ entity, DestroysStripped gs (.destroy entity) →
      (∀ t, (gs.destroyEntity entity).hasComponent t entity = false) ∧
      ∀ t c, (entity, c) ∉ ((gs.destroyEntity entity).getComponents t).1) ∧
    (∀ entity, Owned (gs.destroyEntity entity) ↔ DestroysStripped gs (.destroy entity)) := by
  have howned : Owned gs := by
    refine hrun.invariant owned_empty ?_
    rintro gs op gs' h ⟨hok, hstep⟩
    exact (owned_step_iff h hstep).mpr hok
  refine ⟨howned, ?_, ?_, ?_⟩
  · intro t e hmem
    exact howned t e ((gs.componentManager.mem_getComponents_iff t e).mp hmem)
  · intro entity hstripped
    have hnone : ∀ t, (gs.destroyEntity entity).hasComponent t entity = false := by
      intro t
      rw [hasComponent_destroyEntity]
      exact hstripped t
    refine ⟨hnone, ?_⟩
    intro t c hmem
    have hhas := ((gs.destroyEntity entity).componentManager.mem_getComponents_iff t entity).mp
      ⟨c, hmem⟩
    exact Bool.false_ne_true ((hnone t).symm.trans hhas)
  · intro entity
    exact owned_step_iff howned (show EcsStep gs (.destroy entity) _ from ⟨by simp, rfl⟩)

/-- An entity that is given a component, stripped of it and destroyed. -/
theorem ecsRun_owned_stripped :
    ∃ gs : GameService ComponentType.Val,
      Run (guarded DestroysStripped EcsStep) {}
        [.create, .add .health 1 (Health.make 100 50), .remove .health 1] gs ∧
      gs.isValid 1 = true ∧ (gs.destroyEntity 1).hasComponent .health 1 = false := by
  let gs₁ : GameService ComponentType.Val := ecsApply {} .create
  let gs₂ := ecsApply gs₁ (.add .health 1 (Health.make 100 50))
  let gs₃ := ecsApply gs₂ (.remove .health 1)
  have hvalid : gs₁.isValid 1 = true := by decide
  have h₁ : Run (guarded DestroysStripped EcsStep) {} [.create] gs₁ :=
    .single ⟨trivial, by simp, rfl⟩
  have hadd : guarded DestroysStripped EcsStep gs₁ (.add .health 1 (Health.make 100 50)) gs₂ := by
    refine ⟨trivial, ?_, rfl⟩
    rintro t entity component ⟨⟩
    exact hvalid
  have hremove : guarded DestroysStripped EcsStep gs₂ (.remove .health 1) gs₃ :=
    ⟨trivial, by simp, rfl⟩
  have h₃ := (h₁.snoc hadd).snoc hremove
  have hstripped : DestroysStripped gs₃ (.destroy 1) := by
    rintro ⟨⟩ <;> decide
  exact ⟨gs₃, h₃, hvalid, ((ecsRun_owned h₃).2.2.1 1 hstripped).1 .health⟩

/-- The first entity is given a `Health` component and destroyed: it is not active
any more, but has the component and stands in the snapshot that the systems use. -/
theorem destroyEntity_keeps_component :
    let gs : GameService ComponentType.Val :=
      ecsApply (ecsApply {} .create) (.add .health 1 (Health.make 100 50))
    gs.isValid 1 = true ∧ (gs.destroyEntity 1).isValid 1 = false ∧
      (gs.destroyEntity 1).hasComponent .health 1 = true ∧
      ((gs.destroyEntity 1).getComponents .health).1 = [(1, Health.make 100 50)] ∧
      ¬ Owned (gs.destroyEntity 1) := by
  intro gs
  have hinvalid : (gs.destroyEntity 1).isValid 1 = false := by decide
  have hhas : (gs.destroyEntity 1).hasComponent .health 1 = true := by decide
  refine ⟨by decide, hinvalid, hhas, rfl, ?_⟩
  intro howned
  rw [howned .health 1 hhas] at hinvalid
  cases hinvalid

end EcsAsioServer.Ecs
