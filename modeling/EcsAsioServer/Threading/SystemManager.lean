import EcsAsioServer.Threading.Systems
import Mathlib.Data.List.Sort

/-!
# The order of the systems (`server/game/ecs/system.{hpp,cpp}`)

`SystemManager` has one system of each type and a list of pointers, `update_order_`, that
`update_all` goes through. The list is sorted by priority when a system is registered or
unregistered. `set_priority` and `set_enabled` change the system and not the list.

So every system that is registered and enabled runs exactly once, but the order may be out of
date. It is right at any time exactly if a system that runs is only given a priority between
those of the systems that run before and after it, and a system is only enabled if its
priority is such a one (`update_order_iff`).

The iteration order of `systems_` is not specified, and neither is the order in which
`std::sort` puts equal priorities: each event that sorts has a listing of the types, and the
sort is stable.
-/

namespace EcsAsioServer.Threading

open Transition

/-- The fields of the base class. -/
structure System where
  enabled : Bool := true
  priority : Int32 := 0
deriving DecidableEq, Repr

/-- `τ` stands for `std::type_index`. A pointer in `update_order_` is given by the type of its
system. -/
structure SystemManager (τ : Type) where
  systems : AList fun _ : τ => System := ∅
  updateOrder : List τ := []

namespace SystemManager

variable {τ : Type} [DecidableEq τ]

/-- The priority that the sort reads. -/
def getPriority (m : SystemManager τ) (t : τ) : Int32 :=
  (m.systems.lookup t).elim 0 (·.priority)

/-- `is_enabled`. -/
def isEnabled (m : SystemManager τ) (t : τ) : Bool :=
  (m.systems.lookup t).elim false (·.enabled)

/-- `rebuild_update_order`. -/
def rebuildUpdateOrder (listing : List τ) (m : SystemManager τ) : SystemManager τ :=
  { m with updateOrder := listing.insertionSort fun a b => m.getPriority a ≤ m.getPriority b }

/-- `register_system`: `made` is what the constructor makes. -/
def registerSystem (t : τ) (made : System) (listing : List τ) (m : SystemManager τ) :
    SystemManager τ :=
  if t ∈ m.systems then m
  else rebuildUpdateOrder listing { m with systems := m.systems.insert t made }

/-- `unregister_system`. -/
def unregisterSystem (t : τ) (listing : List τ) (m : SystemManager τ) : SystemManager τ :=
  rebuildUpdateOrder listing { m with systems := m.systems.erase t }

/-- Writing through the pointer that `get_system` returned, if it is not null. -/
def modifySystem (t : τ) (f : System → System) (m : SystemManager τ) : SystemManager τ :=
  match m.systems.lookup t with
  | some s => { m with systems := m.systems.insert t (f s) }
  | none => m

/-- `set_priority`, on the system itself. -/
def setPriority (t : τ) (priority : Int32) (m : SystemManager τ) : SystemManager τ :=
  m.modifySystem t fun s => { s with priority }

/-- `set_enabled`, on the system itself. -/
def setEnabled (t : τ) (enabled : Bool) (m : SystemManager τ) : SystemManager τ :=
  m.modifySystem t fun s => { s with enabled }

/-- `update_all`: the systems whose `update` is called, one after the other. -/
def updateAll (m : SystemManager τ) : List τ := m.updateOrder.filter m.isEnabled

end SystemManager

/-- The calls of a manager and of its systems. -/
inductive SystemOp (τ : Type) where
  | register (t : τ) (made : System) (listing : List τ)
  | unregister (t : τ) (listing : List τ)
  | setPriority (t : τ) (priority : Int32)
  | setEnabled (t : τ) (enabled : Bool)

namespace SystemManager

variable {τ : Type} [DecidableEq τ]

/-- One call. -/
def apply (m : SystemManager τ) : SystemOp τ → SystemManager τ
  | .register t made listing => m.registerSystem t made listing
  | .unregister t listing => m.unregisterSystem t listing
  | .setPriority t priority => m.setPriority t priority
  | .setEnabled t enabled => m.setEnabled t enabled

/-- The listing has the types of all systems. -/
def Lists (m : SystemManager τ) : SystemOp τ → Prop
  | .register t made listing => t ∉ m.systems → listing.Perm (m.systems.insert t made).keys
  | .unregister t listing => listing.Perm (m.systems.erase t).keys
  | _ => True

instance (m : SystemManager τ) : DecidablePred m.Lists := fun op => by
  cases op <;> unfold Lists <;> infer_instance

/-- One call. -/
def SystemStep : SystemManager τ → SystemOp τ → SystemManager τ → Prop :=
  guarded Lists fun m op m' => m.apply op = m'

/-- The systems run in the order of their priorities. -/
def InOrder (m : SystemManager τ) : Prop :=
  m.updateAll.Pairwise fun a b => m.getPriority a ≤ m.getPriority b

/-- The priority is between those of the systems that run before and after the system. -/
def InPlace (m : SystemManager τ) (t : τ) (priority : Int32) : Prop :=
  ∀ before after, m.updateOrder = before ++ t :: after →
    (∀ a ∈ before, m.isEnabled a = true → m.getPriority a ≤ priority) ∧
    ∀ a ∈ after, m.isEnabled a = true → priority ≤ m.getPriority a

/-- No system that runs is given a priority out of its place, or is enabled out of its
place. -/
def KeepsPlace (m : SystemManager τ) : SystemOp τ → Prop
  | .setPriority t priority => m.isEnabled t = true → m.InPlace t priority
  | .setEnabled t enabled => t ∈ m.systems → enabled = true → m.InPlace t (m.getPriority t)
  | _ => True

/-- The call sorts the list. -/
def Sorts (m : SystemManager τ) : SystemOp τ → Prop
  | .register t _ _ => t ∉ m.systems
  | .unregister _ _ => True
  | _ => False

/-! ## What a call does -/

variable {m m' : SystemManager τ} {t : τ}

theorem mem_of_isEnabled (h : m.isEnabled t = true) : t ∈ m.systems := by
  rw [← AList.lookup_isSome]
  unfold isEnabled at h
  cases hlookup : m.systems.lookup t with
  | none =>
    rw [hlookup] at h
    cases h
  | some s => rfl

/-- The list has the registered systems, each once. -/
def Complete (m : SystemManager τ) : Prop := m.updateOrder.Perm m.systems.keys

omit [DecidableEq τ] in
theorem Complete.nodup (h : m.Complete) : m.updateOrder.Nodup :=
  h.nodup_iff.mpr (AList.keys_nodup _)

omit [DecidableEq τ] in
theorem Complete.mem_iff (h : m.Complete) : t ∈ m.updateOrder ↔ t ∈ m.systems :=
  List.Perm.mem_iff h

theorem complete_rebuild {listing : List τ} (h : listing.Perm m.systems.keys) :
    (m.rebuildUpdateOrder listing).Complete :=
  (List.perm_insertionSort _ listing).trans h

theorem inOrder_rebuild (m : SystemManager τ) (listing : List τ) :
    (m.rebuildUpdateOrder listing).InOrder := by
  let le := fun a b => m.getPriority a ≤ m.getPriority b
  have : Std.Total le := ⟨fun a b => Int32.le_total (m.getPriority a) (m.getPriority b)⟩
  have : IsTrans τ le := ⟨fun _ _ _ hab hbc => Int32.le_trans hab hbc⟩
  exact (List.pairwise_insertionSort le listing).filter _

/-- The fields of one system have changed, and nothing else. -/
structure Changes (m : SystemManager τ) (t : τ) (s : System) (m' : SystemManager τ) : Prop where
  registered : t ∈ m.systems
  keys : m'.systems.keys.Perm m.systems.keys
  updateOrder : m'.updateOrder = m.updateOrder
  enabled : m'.isEnabled t = s.enabled
  priority : m'.getPriority t = s.priority
  enabled_ne : ∀ a, a ≠ t → m'.isEnabled a = m.isEnabled a
  priority_ne : ∀ a, a ≠ t → m'.getPriority a = m.getPriority a

theorem modifySystem_cases (m : SystemManager τ) (t : τ) (f : System → System) :
    (t ∉ m.systems ∧ m.modifySystem t f = m) ∨
      ∃ s, m.systems.lookup t = some s ∧ m.Changes t (f s) (m.modifySystem t f) := by
  unfold modifySystem
  cases hlookup : m.systems.lookup t with
  | none => exact .inl ⟨AList.lookup_eq_none.mp hlookup, rfl⟩
  | some s =>
    have hmem : t ∈ m.systems := AList.lookup_isSome.mp (by rw [hlookup]; rfl)
    refine .inr ⟨s, rfl, hmem, ?_, rfl, ?_, ?_, ?_, ?_⟩
    · rw [AList.keys_insert]
      exact (List.perm_cons_erase hmem).symm
    · simp [isEnabled]
    · simp [getPriority]
    · intro a ha
      simp [isEnabled, AList.lookup_insert_ne ha]
    · intro a ha
      simp [getPriority, AList.lookup_insert_ne ha]

variable {s : System} {op : SystemOp τ}

theorem Changes.complete (h : m.Changes t s m') (hm : m.Complete) : m'.Complete := by
  rw [Complete, h.updateOrder]
  exact hm.trans h.keys.symm

/-- The systems around `t` run as before, and `t` runs if it is enabled now. -/
theorem Changes.updateAll_eq (h : m.Changes t s m') {before after : List τ}
    (horder : m.updateOrder = before ++ t :: after) (hnodup : m.updateOrder.Nodup) :
    m'.updateAll = before.filter m.isEnabled ++
      ((if s.enabled then [t] else []) ++ after.filter m.isEnabled) := by
  rw [horder, List.nodup_middle, List.nodup_cons, List.mem_append, not_or] at hnodup
  have hsame : ∀ l : List τ, t ∉ l → l.filter m'.isEnabled = l.filter m.isEnabled := by
    intro l hl
    refine List.filter_congr fun a ha => h.enabled_ne a ?_
    rintro rfl
    exact hl ha
  rw [updateAll, h.updateOrder, horder, List.filter_append, List.filter_cons, h.enabled,
    hsame before hnodup.1.1, hsame after hnodup.1.2]
  cases s.enabled <;> rfl

section Around

variable {s : System} {before after : List τ}

omit [DecidableEq τ] in
/-- `t` is in the list once. -/
theorem not_mem_around (horder : m.updateOrder = before ++ t :: after)
    (hnodup : m.updateOrder.Nodup) : t ∉ before ∧ t ∉ after := by
  rw [horder, List.nodup_middle, List.nodup_cons, List.mem_append, not_or] at hnodup
  exact hnodup.1

/-- What it is to be in place, in terms of the new priorities. -/
theorem Changes.inPlace_iff (h : m.Changes t s m')
    (horder : m.updateOrder = before ++ t :: after) (hnodup : m.updateOrder.Nodup) :
    m.InPlace t s.priority ↔
      (∀ a ∈ before.filter m.isEnabled, m'.getPriority a ≤ m'.getPriority t) ∧
      ∀ a ∈ after.filter m.isEnabled, m'.getPriority t ≤ m'.getPriority a := by
  have haround := not_mem_around horder hnodup
  have hbefore : ∀ a ∈ before, m'.getPriority a = m.getPriority a := fun a ha =>
    h.priority_ne a fun heq => haround.1 (heq ▸ ha)
  have hafter : ∀ a ∈ after, m'.getPriority a = m.getPriority a := fun a ha =>
    h.priority_ne a fun heq => haround.2 (heq ▸ ha)
  simp only [List.mem_filter, and_imp, h.priority]
  constructor
  · intro hin
    obtain ⟨hlow, hhigh⟩ := hin before after horder
    refine ⟨fun a ha hrun => ?_, fun a ha hrun => ?_⟩
    · rw [hbefore a ha]
      exact hlow a ha hrun
    · rw [hafter a ha]
      exact hhigh a ha hrun
  · rintro ⟨hlow, hhigh⟩ before' after' horder'
    obtain ⟨rfl, -, rfl⟩ := (List.append_cons_inj_of_notMem haround.1 haround.2).mp
      (horder.symm.trans horder')
    refine ⟨fun a ha hrun => ?_, fun a ha hrun => ?_⟩
    · rw [← hbefore a ha]
      exact hlow a ha hrun
    · rw [← hafter a ha]
      exact hhigh a ha hrun

/-- The systems around `t` are in order if they were before. -/
theorem Changes.inOrder_around (h : m.Changes t s m')
    (horder : m.updateOrder = before ++ t :: after) (hnodup : m.updateOrder.Nodup)
    (hm : m.InOrder) : (before.filter m.isEnabled ++ after.filter m.isEnabled).Pairwise
      fun a b => m'.getPriority a ≤ m'.getPriority b := by
  have haround := not_mem_around horder hnodup
  have hne : ∀ a ∈ before ++ after, a ≠ t := by
    rintro a ha rfl
    exact (not_or.mpr haround) (List.mem_append.mp ha)
  have hsub : (before.filter m.isEnabled ++ after.filter m.isEnabled).Sublist m.updateAll := by
    rw [updateAll, horder, ← List.filter_append]
    exact (List.Sublist.append_left (List.sublist_cons_self t after) before).filter _
  refine (hm.sublist hsub).imp_of_mem ?_
  intro a b ha hb hab
  rw [← List.filter_append] at ha hb
  rw [h.priority_ne a (hne a (List.mem_of_mem_filter ha)),
    h.priority_ne b (hne b (List.mem_of_mem_filter hb))]
  exact hab

end Around

/-- **One change.** The order stays right exactly if the system does not run, or runs in its
place. -/
theorem Changes.inOrder_iff (h : m.Changes t s m') (hcomplete : m.Complete) (hm : m.InOrder) :
    m'.InOrder ↔ (s.enabled = true → m.InPlace t s.priority) := by
  obtain ⟨before, after, horder⟩ := List.append_of_mem (hcomplete.mem_iff.mpr h.registered)
  have hnodup := hcomplete.nodup
  have hothers := h.inOrder_around horder hnodup hm
  rw [InOrder, h.updateAll_eq horder hnodup]
  cases henabled : s.enabled with
  | false => exact iff_of_true hothers (by simp)
  | true =>
    rw [h.inPlace_iff horder hnodup, forall_prop_of_true rfl]
    rw [List.pairwise_append] at hothers ⊢
    simp only [if_true, List.singleton_append, List.pairwise_cons, List.mem_cons, forall_eq_or_imp]
    constructor
    · rintro ⟨-, ⟨hafter, -⟩, hcross⟩
      exact ⟨fun a ha => (hcross a ha).1, hafter⟩
    · rintro ⟨hlow, hhigh⟩
      exact ⟨hothers.1, ⟨hhigh, hothers.2.1⟩, fun a ha => ⟨hlow a ha, hothers.2.2 a ha⟩⟩

/-! ## Sequences of calls -/

omit [DecidableEq τ] in
theorem complete_empty : Complete ({} : SystemManager τ) := List.Perm.refl _

/-- **One call** leaves each registered system once in the list. -/
theorem complete_step (hm : m.Complete) (hstep : SystemStep m op m') :
    m'.Complete := by
  obtain ⟨hlists, rfl⟩ := hstep
  -- the two setters
  have hmodify : ∀ t f, (m.modifySystem t f).Complete := by
    intro t f
    rcases m.modifySystem_cases t f with ⟨-, hsame⟩ | ⟨s, -, hchanges⟩
    · rw [hsame]
      exact hm
    · exact hchanges.complete hm
  cases op with
  | register t made listing =>
    show (m.registerSystem t made listing).Complete
    unfold registerSystem
    split
    · exact hm
    · next hnew => exact complete_rebuild (hlists hnew)
  | unregister t listing => exact complete_rebuild hlists
  | setPriority t priority => exact hmodify t _
  | setEnabled t enabled => exact hmodify t _

/-- A call that sorts puts everything right. -/
theorem inOrder_of_sorts (hsorts : m.Sorts op) (hstep : SystemStep m op m') :
    m'.InOrder := by
  obtain ⟨-, rfl⟩ := hstep
  cases op with
  | register t made listing =>
    show (m.registerSystem t made listing).InOrder
    rw [registerSystem, if_neg hsorts]
    exact inOrder_rebuild _ listing
  | unregister t listing => exact inOrder_rebuild _ listing
  | setPriority | setEnabled => cases hsorts

/-- **One call** keeps the order exactly if it keeps the systems in their places. -/
theorem inOrder_step (hcomplete : m.Complete) (hm : m.InOrder) (hstep : SystemStep m op m') :
    m'.InOrder ↔ m.KeepsPlace op := by
  have happly := hstep.2
  cases op with
  | register t made listing =>
    refine iff_of_true ?_ trivial
    by_cases hmem : t ∈ m.systems
    · have hsame : m.apply (.register t made listing) = m := if_pos hmem
      rw [← happly, hsame]
      exact hm
    · exact inOrder_of_sorts (show m.Sorts (.register t made listing) from hmem) hstep
  | unregister t listing =>
    exact iff_of_true (inOrder_of_sorts (show m.Sorts (.unregister t listing) from trivial) hstep)
      trivial
  | setPriority t priority =>
    rw [← happly]
    rcases m.modifySystem_cases t fun s => { s with priority } with
      ⟨hnone, hsame⟩ | ⟨s, hlookup, hchanges⟩
    · show (m.modifySystem t _).InOrder ↔ _
      rw [hsame]
      exact iff_of_true hm fun henabled => absurd (mem_of_isEnabled henabled) hnone
    · have henabled : m.isEnabled t = s.enabled := by rw [isEnabled, hlookup]; rfl
      show _ ↔ (m.isEnabled t = true → m.InPlace t priority)
      rw [henabled]
      exact hchanges.inOrder_iff hcomplete hm
  | setEnabled t enabled =>
    rw [← happly]
    rcases m.modifySystem_cases t fun s => { s with enabled } with
      ⟨hnone, hsame⟩ | ⟨s, hlookup, hchanges⟩
    · show (m.modifySystem t _).InOrder ↔ _
      rw [hsame]
      exact iff_of_true hm fun hmem => absurd hmem hnone
    · have hpriority : m.getPriority t = s.priority := by rw [getPriority, hlookup]; rfl
      show _ ↔ (t ∈ m.systems → enabled = true → m.InPlace t (m.getPriority t))
      rw [hpriority, forall_prop_of_true hchanges.registered]
      exact hchanges.inOrder_iff hcomplete hm

/-- **The order of the systems.** After every sequence of calls `update_all` runs each system
that is registered and enabled exactly once, and no other. The sequences in which it would run
them in the order of their priorities at any time are those in which each call keeps them in
their places; a call that sorts puts the order right again. -/
theorem update_order_iff (ops : List (SystemOp τ)) (m : SystemManager τ) :
    (Run SystemStep {} ops m → m.updateAll.Nodup ∧
      ∀ t, t ∈ m.updateAll ↔ ∃ s, m.systems.lookup t = some s ∧ s.enabled = true) ∧
    (Run (staying InOrder SystemStep) {} ops m ↔ Run (guarded KeepsPlace SystemStep) {} ops m) ∧
    ∀ op m', Run SystemStep {} ops m → m.Sorts op → SystemStep m op m' → m'.InOrder := by
  refine ⟨?_, ?_, ?_⟩
  · intro hrun
    have hcomplete : m.Complete :=
      hrun.invariant complete_empty fun _ _ _ h hstep => complete_step h hstep
    refine ⟨hcomplete.nodup.filter _, ?_⟩
    intro t
    rw [updateAll, List.mem_filter]
    constructor
    · rintro ⟨-, henabled⟩
      obtain ⟨s, hs⟩ := exists_lookup (mem_of_isEnabled henabled)
      rw [isEnabled, hs] at henabled
      exact ⟨s, hs, henabled⟩
    · rintro ⟨s, hs, henabled⟩
      have hrun : m.isEnabled t = true := by
        rw [isEnabled, hs]
        exact henabled
      exact ⟨hcomplete.mem_iff.mpr (mem_of_isEnabled hrun), hrun⟩
  · exact Run.staying_iff complete_empty List.Pairwise.nil
      (fun _ _ _ h hstep => complete_step h hstep)
      fun _ _ _ hcomplete hm hstep => inOrder_step hcomplete hm hstep
  · exact fun op m' _ hsorts hstep => inOrder_of_sorts hsorts hstep

/-- The AI is to come after the movement, but its priority is set when both are registered. The
listing has the system that was registered last first. -/
theorem late_priority :
    let ops : List (SystemOp SystemId) := [.register .movement {} [.movement],
      .register .ai {} [.ai, .movement], .setPriority .ai 5]
    ∃ m, Run SystemStep {} ops m ∧ m.updateAll = [.ai, .movement] ∧ m.getPriority .ai = 5 ∧
      m.getPriority .movement = 0 ∧ ¬ m.InOrder := by
  intro ops
  have hrun : Run SystemStep {} ops (ops.foldl apply {}) := Run.of_along (by decide)
  have hupdate : (ops.foldl apply {}).updateAll = [.ai, .movement] := by decide
  refine ⟨_, hrun, hupdate, by decide, by decide, ?_⟩
  rw [InOrder, hupdate]
  decide

/-! ## The systems of the game -/

/-- What `initialize` does. -/
def registrations (l₁ l₂ l₃ l₄ : List SystemId) : List (SystemOp SystemId) :=
  [.register .movement {} l₁, .register .ai {} l₂, .register .combat {} l₃, .register .map {} l₄]

/-- **After `initialize`** every system runs, in an order that is not specified. -/
theorem updateAll_registrations {l₁ l₂ l₃ l₄ : List SystemId} {m : SystemManager SystemId}
    (hrun : Run SystemStep {} (registrations l₁ l₂ l₃ l₄) m) :
    m.updateAll = m.updateOrder ∧ m.updateOrder.Perm [.movement, .ai, .combat, .map] := by
  have hcomplete : m.Complete :=
    hrun.invariant complete_empty fun _ _ _ h hstep => complete_step h hstep
  have hsystems : m.systems = AList.insert .map {} (AList.insert .combat {}
      (AList.insert .ai {} (AList.insert .movement {} ∅))) := by
    rw [hrun.of_guarded.eq_foldl]
    rfl
  constructor
  · refine List.filter_eq_self.mpr fun t _ => ?_
    rw [isEnabled, hsystems]
    cases t <;> rfl
  · refine hcomplete.trans ?_
    rw [hsystems]
    decide

/-- The systems that `GameService::update` runs. -/
def toSystems {K : Type} (sqrt : K → K) {l₁ l₂ l₃ l₄ : List SystemId}
    (m : SystemManager SystemId) (hrun : Run SystemStep {} (registrations l₁ l₂ l₃ l₄) m) :
    Systems K where
  sqrt
  updateOrder := m.updateAll
  registered := by
    rw [(updateAll_registrations hrun).1]
    exact (updateAll_registrations hrun).2

end SystemManager

end EcsAsioServer.Threading
