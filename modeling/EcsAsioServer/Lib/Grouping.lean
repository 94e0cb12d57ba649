import Mathlib.Data.List.Nodup
import Mathlib.Logic.Function.Basic
import Mathlib.Tactic

/-!
# Groups and the index of their members

Two maps that ought to be inverse to each other: from a group to the list of its
members, and from a member to its group. A group comes into being with one member
(`found`), takes members in (`enter`) and loses them (`leave`); the last one to leave
ends it.

`Linked` is the half of the correspondence that every operation keeps, even when a
group is founded over an existing one: who is listed in a group is indexed there. The
other half, that whoever is indexed in a group is listed there, needs fresh keys
(`Inverse`).
-/

universe u v

/-- The members of each group, and the group of each member. -/
structure Grouping (κ : Type u) (ι : Type v) where
  groups : κ → Option (List ι)
  index : ι → Option κ

namespace Grouping

variable {κ : Type u} {ι : Type v} [DecidableEq κ] [DecidableEq ι]

/-- The group `k` with the only member `i`. -/
def found (G : Grouping κ ι) (k : κ) (i : ι) : Grouping κ ι where
  groups := Function.update G.groups k (some [i])
  index := Function.update G.index i (some k)

/-- `i` comes last into the group `k`, which has the members `l`. -/
def enter (G : Grouping κ ι) (k : κ) (l : List ι) (i : ι) : Grouping κ ι where
  groups := Function.update G.groups k (some (l ++ [i]))
  index := Function.update G.index i (some k)

/-- A group without members does not exist. -/
def kept (l : List ι) : Option (List ι) := if l = [] then none else some l

/-- `i` leaves the group `k`, which has the members `l`. -/
def leave (G : Grouping κ ι) (k : κ) (l : List ι) (i : ι) : Grouping κ ι where
  groups := Function.update G.groups k (kept (l.filter (· ≠ i)))
  index := Function.update G.index i none

omit [DecidableEq κ] [DecidableEq ι] in
theorem kept_eq_some {l l' : List ι} : kept l = some l' ↔ l' = l ∧ l ≠ [] := by
  unfold kept
  split
  · next h => simp [h]
  · next h => simp [h, eq_comm]

theorem update_eq_some {α : Type*} {β : Type*} [DecidableEq α] {f : α → Option β} {a x : α}
    {o : Option β} {b : β} :
    Function.update f a o x = some b ↔ (x = a ∧ o = some b) ∨ (x ≠ a ∧ f x = some b) := by
  by_cases hx : x = a
  · subst hx
    simp
  · simp [hx]

/-! ## Members are indexed -/

/-- Every member is indexed in its group, once, and no group is empty. -/
structure Linked (G : Grouping κ ι) : Prop where
  index_of_mem : ∀ {k l i}, G.groups k = some l → i ∈ l → G.index i = some k
  nonempty : ∀ {k l}, G.groups k = some l → l ≠ []
  nodup : ∀ {k l}, G.groups k = some l → l.Nodup

namespace Linked

variable {G : Grouping κ ι} {k : κ} {l : List ι} {i : ι}

omit [DecidableEq κ] [DecidableEq ι] in
/-- Who is not indexed in a group is not listed in it. -/
theorem not_mem (h : Linked G) (hl : G.groups k = some l) (hi : G.index i ≠ some k) : i ∉ l :=
  fun hmem => hi (h.index_of_mem hl hmem)

/-- One group and one member change, consistently with each other. -/
theorem update (h : Linked G) {o : Option (List ι)} {new : Option κ}
    (hold : ∀ {k' l'}, k' ≠ k → G.groups k' = some l' → i ∉ l')
    (hmem : ∀ {l'}, o = some l' → l' ≠ [] ∧ l'.Nodup ∧
      ∀ j ∈ l', (j = i ∧ new = some k) ∨ (j ≠ i ∧ G.index j = some k)) :
    Linked ⟨Function.update G.groups k o, Function.update G.index i new⟩ := by
  constructor
  · intro k' l' j hl' hj
    rcases update_eq_some.mp hl' with ⟨rfl, ho⟩ | ⟨hk, hgroup⟩
    · rcases (hmem ho).2.2 j hj with ⟨rfl, hnew⟩ | ⟨hne, hidx⟩
      · exact update_eq_some.mpr (.inl ⟨rfl, hnew⟩)
      · exact update_eq_some.mpr (.inr ⟨hne, hidx⟩)
    · have hne : j ≠ i := by
        rintro rfl
        exact hold hk hgroup hj
      exact update_eq_some.mpr (.inr ⟨hne, h.index_of_mem hgroup hj⟩)
  · intro k' l' hl'
    rcases update_eq_some.mp hl' with ⟨rfl, ho⟩ | ⟨-, hgroup⟩
    · exact (hmem ho).1
    · exact h.nonempty hgroup
  · intro k' l' hl'
    rcases update_eq_some.mp hl' with ⟨rfl, ho⟩ | ⟨-, hgroup⟩
    · exact (hmem ho).2.1
    · exact h.nodup hgroup

theorem found (h : Linked G) (hi : G.index i = none) (k : κ) : Linked (G.found k i) := by
  refine h.update (fun _ hl' => h.not_mem hl' (by simp [hi])) ?_
  rintro l' ⟨⟩
  refine ⟨List.cons_ne_nil _ _, List.nodup_singleton i, ?_⟩
  intro j hj
  exact .inl ⟨List.mem_singleton.mp hj, rfl⟩

theorem enter (h : Linked G) (hl : G.groups k = some l) (hi : G.index i = none) :
    Linked (G.enter k l i) := by
  have hnew : i ∉ l := h.not_mem hl (by simp [hi])
  refine h.update (fun _ hl' => h.not_mem hl' (by simp [hi])) ?_
  rintro l' ⟨⟩
  refine ⟨by simp, ?_, ?_⟩
  · rw [← List.concat_eq_append]
    exact (h.nodup hl).concat hnew
  · intro j hj
    rcases List.mem_append.mp hj with hold | hlast
    · refine .inr ⟨?_, h.index_of_mem hl hold⟩
      rintro rfl
      exact hnew hold
    · exact .inl ⟨List.mem_singleton.mp hlast, rfl⟩

theorem leave (h : Linked G) (hl : G.groups k = some l) (hi : G.index i = some k) :
    Linked (G.leave k l i) := by
  refine h.update (fun hne hl' => h.not_mem hl' ?_) ?_
  · rw [hi]
    exact fun heq => hne (Option.some.inj heq).symm
  · intro l' hl'
    obtain ⟨rfl, hne⟩ := kept_eq_some.mp hl'
    refine ⟨hne, (h.nodup hl).filter _, ?_⟩
    intro j hj
    obtain ⟨hmem, hji⟩ := List.mem_filter.mp hj
    exact .inr ⟨of_decide_eq_true hji, h.index_of_mem hl hmem⟩

/-- Leaving a group that no longer exists. -/
theorem leave_gone (h : Linked G) (hl : G.groups k = none) (hi : G.index i = some k) :
    Linked ⟨G.groups, Function.update G.index i none⟩ := by
  have hself : Function.update G.groups k none = G.groups := by
    rw [← hl, Function.update_eq_self]
  rw [← hself]
  refine h.update (fun hne hl' => h.not_mem hl' ?_) ?_
  · rw [hi]
    exact fun heq => hne (Option.some.inj heq).symm
  · rintro l' ⟨⟩

end Linked

/-! ## The two maps are inverse -/

/-- Every member is indexed in its group, and who is indexed in a group is listed
there. -/
structure Inverse (G : Grouping κ ι) : Prop extends Linked G where
  listed : ∀ {k i}, G.index i = some k → ∃ l, G.groups k = some l ∧ i ∈ l

namespace Inverse

variable {G : Grouping κ ι} {k : κ} {l : List ι} {i : ι}

omit [DecidableEq κ] [DecidableEq ι] in
theorem index_iff (h : Inverse G) :
    G.index i = some k ↔ ∃ l, G.groups k = some l ∧ i ∈ l := by
  constructor
  · exact h.listed
  · rintro ⟨l, hl, hi⟩
    exact h.index_of_mem hl hi

/-- A group founded under a fresh key. -/
theorem found (h : Inverse G) (hk : G.groups k = none) (hi : G.index i = none) :
    Inverse (G.found k i) := by
  refine ⟨h.toLinked.found hi k, ?_⟩
  intro k' j hj
  rcases update_eq_some.mp hj with ⟨rfl, hnew⟩ | ⟨-, hj⟩
  · obtain rfl := Option.some.inj hnew
    exact ⟨[j], Function.update_self .., List.mem_singleton_self j⟩
  · obtain ⟨l', hl', hmem⟩ := h.listed hj
    have hne : k' ≠ k := by
      rintro rfl
      rw [hk] at hl'
      cases hl'
    exact ⟨l', update_eq_some.mpr (.inr ⟨hne, hl'⟩), hmem⟩

theorem enter (h : Inverse G) (hl : G.groups k = some l) (hi : G.index i = none) :
    Inverse (G.enter k l i) := by
  refine ⟨h.toLinked.enter hl hi, ?_⟩
  intro k' j hj
  rcases update_eq_some.mp hj with ⟨rfl, hnew⟩ | ⟨-, hj⟩
  · obtain rfl := Option.some.inj hnew
    exact ⟨l ++ [j], Function.update_self .., by simp⟩
  · obtain ⟨l', hl', hmem⟩ := h.listed hj
    by_cases hk : k' = k
    · subst hk
      rw [hl] at hl'
      obtain rfl := Option.some.inj hl'
      exact ⟨l ++ [i], Function.update_self .., List.mem_append_left _ hmem⟩
    · exact ⟨l', update_eq_some.mpr (.inr ⟨hk, hl'⟩), hmem⟩

theorem leave (h : Inverse G) (hl : G.groups k = some l) (hi : G.index i = some k) :
    Inverse (G.leave k l i) := by
  refine ⟨h.toLinked.leave hl hi, ?_⟩
  intro k' j hj
  rcases update_eq_some.mp hj with ⟨-, hnone⟩ | ⟨hji, hj⟩
  · cases hnone
  · obtain ⟨l', hl', hmem⟩ := h.listed hj
    by_cases hk : k' = k
    · subst hk
      rw [hl] at hl'
      obtain rfl := Option.some.inj hl'
      have hstays : j ∈ l.filter (· ≠ i) := List.mem_filter.mpr ⟨hmem, decide_eq_true hji⟩
      have hkept : kept (l.filter (· ≠ i)) = some (l.filter (· ≠ i)) :=
        kept_eq_some.mpr ⟨rfl, List.ne_nil_of_mem hstays⟩
      exact ⟨_, update_eq_some.mpr (.inl ⟨rfl, hkept⟩), hstays⟩
    · exact ⟨l', update_eq_some.mpr (.inr ⟨hk, hl'⟩), hmem⟩

end Inverse

end Grouping
