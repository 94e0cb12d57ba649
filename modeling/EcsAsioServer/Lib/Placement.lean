import Mathlib.Data.Finset.Basic
import Mathlib.Logic.Function.Basic
import Mathlib.Tactic

/-!
# Places, their members, and a table

A place that exists has a set of members, and a table says of everyone where they are. The
operations name a place and trust their caller that it is the right one: none of them looks
into the table.

`Matches` says that the table and the sets agree, so that nobody is in two places. For each
operation there is the exact condition under which it keeps this (`matches_apply_iff`):
- a place can always be created;
- only an empty place can be destroyed;
- who enters or leaves a place must not be in another one;
- who moves must be in one of the two places that the caller names, or nowhere, and if the
  destination does not exist, not in the place that the caller takes them from.
-/

universe u v

/-- The members of each place that exists, and the place of each member. -/
structure Placement (κ : Type u) (ι : Type v) where
  members : κ → Option (Finset ι)
  table : ι → Option κ

namespace Placement

variable {κ : Type u} {ι : Type v}

/-- `i` is a member of the place `k`. -/
def At (P : Placement κ ι) (i : ι) (k : κ) : Prop := ∃ s, P.members k = some s ∧ i ∈ s

/-- The place exists. -/
def Exists (P : Placement κ ι) (k : κ) : Prop := (P.members k).isSome = true

instance (P : Placement κ ι) : DecidablePred P.Exists :=
  fun k => inferInstanceAs (Decidable ((P.members k).isSome = true))

/-- **The table matches the places**: nobody is in two places, and the table has the place
`k` for `i` exactly if `k` exists and `i` is there. -/
structure Matches (P : Placement κ ι) : Prop where
  unique : ∀ {i k k'}, P.At i k → P.At i k' → k = k'
  table_iff : ∀ {i k}, P.table i = some k ↔ P.At i k

variable {P : Placement κ ι}

theorem matches_iff : P.Matches ↔ ∀ i k, P.table i = some k ↔ P.At i k := by
  constructor
  · exact fun h i k => h.table_iff
  · intro h
    refine ⟨?_, fun {i k} => h i k⟩
    intro i k k' hk hk'
    exact Option.some.inj (((h i k).mpr hk).symm.trans ((h i k').mpr hk'))

/-! ## Operations -/

variable [DecidableEq κ] [DecidableEq ι]

/-- A new place, empty; an old one stays as it is. -/
def create (P : Placement κ ι) (k : κ) : Placement κ ι :=
  { P with members := Function.update P.members k (some ((P.members k).getD ∅)) }

/-- The table keeps its entries. -/
def destroy (P : Placement κ ι) (k : κ) : Placement κ ι :=
  { P with members := Function.update P.members k none }

/-- `i` comes to a place, for the set of its members. -/
def insertAt (P : Placement κ ι) (k : κ) (i : ι) : Placement κ ι :=
  { P with members := Function.update P.members k ((P.members k).map (insert i)) }

/-- `i` goes from a place, for the set of its members. -/
def eraseAt (P : Placement κ ι) (k : κ) (i : ι) : Placement κ ι :=
  { P with members := Function.update P.members k ((P.members k).map (Finset.erase · i)) }

/-- The entry of the table. -/
def setTable (P : Placement κ ι) (i : ι) (o : Option κ) : Placement κ ι :=
  { P with table := Function.update P.table i o }

/-- The item is put into the group, and the table set. -/
def add (P : Placement κ ι) (k : κ) (i : ι) : Placement κ ι :=
  if P.Exists k then (P.insertAt k i).setTable i (some k) else P

/-- The item is taken out, and its entry cleared. -/
def remove (P : Placement κ ι) (k : κ) (i : ι) : Placement κ ι :=
  if P.Exists k then (P.eraseAt k i).setTable i none else P

/-- First out of the old place, then into the new one. -/
def move (P : Placement κ ι) (i : ι) (k k' : κ) : Placement κ ι := (P.eraseAt k i).add k' i

/-! ## Who is where afterwards -/

section At

variable {P : Placement κ ι} {i j : ι} {k k' : κ}

omit [DecidableEq ι] in
theorem at_update {o : Option (Finset ι)} {table : ι → Option κ} :
    At ⟨Function.update P.members k o, table⟩ j k' ↔
      (k' = k ∧ ∃ s, o = some s ∧ j ∈ s) ∨ (k' ≠ k ∧ P.At j k') := by
  unfold At
  by_cases hk : k' = k
  · subst hk
    simp
  · simp [hk]

omit [DecidableEq ι] in
theorem at_create : (P.create k).At j k' ↔ P.At j k' := by
  unfold create
  rw [at_update]
  by_cases hk : k' = k
  · subst hk
    cases hmem : P.members k' <;> simp [At, hmem]
  · simp [hk]

omit [DecidableEq ι] in
theorem at_destroy : (P.destroy k).At j k' ↔ k' ≠ k ∧ P.At j k' := by
  unfold destroy
  rw [at_update]
  simp

theorem at_insertAt (h : P.Exists k) :
    (P.insertAt k i).At j k' ↔ (k' = k ∧ j = i) ∨ P.At j k' := by
  obtain ⟨s, hs⟩ := Option.isSome_iff_exists.mp h
  unfold insertAt
  rw [at_update, hs]
  by_cases hk : k' = k
  · subst hk
    simp [At, hs]
  · simp [hk]

theorem at_eraseAt : (P.eraseAt k i).At j k' ↔ P.At j k' ∧ ¬ (k' = k ∧ j = i) := by
  unfold eraseAt
  rw [at_update]
  by_cases hk : k' = k
  · subst hk
    cases hmem : P.members k' <;> simp [At, hmem, and_comm]
  · simp [hk]

theorem at_eraseAt_self : (P.eraseAt k i).At i k' ↔ P.At i k' ∧ k' ≠ k := by
  simp [at_eraseAt]

theorem exists_eraseAt : (P.eraseAt k i).Exists k' ↔ P.Exists k' := by
  unfold Exists eraseAt
  by_cases hk : k' = k
  · subst hk
    simp
  · simp [hk]

theorem exists_insertAt : (P.insertAt k i).Exists k' ↔ P.Exists k' := by
  unfold Exists insertAt
  by_cases hk : k' = k
  · subst hk
    simp
  · simp [hk]

theorem exists_move {j : κ} : (P.move i k k').Exists j ↔ P.Exists j := by
  unfold move add
  split
  · exact exists_insertAt.trans exists_eraseAt
  · exact exists_eraseAt

/-- The table has the destination of a move, if it exists. -/
theorem table_move (h : P.Exists k') :
    (P.move i k k').table = Function.update P.table i (some k') := by
  unfold move add
  rw [if_pos (exists_eraseAt.mpr h)]
  rfl

/-- Taking `i` from a place changes nothing exactly if `i` is not there. -/
theorem eraseAt_eq_self : P.eraseAt k i = P ↔ ¬ P.At i k := by
  constructor
  · intro heq hat
    rw [← heq, at_eraseAt] at hat
    exact hat.2 ⟨rfl, rfl⟩
  · intro hnot
    have hsame : (P.members k).map (Finset.erase · i) = P.members k := by
      cases hmem : P.members k with
      | none => rfl
      | some s => exact congrArg some (Finset.erase_eq_of_notMem fun hi => hnot ⟨s, hmem, hi⟩)
    unfold eraseAt
    rw [hsame, Function.update_eq_self]

end At

/-! ## When the table still matches -/

section Matches

variable {P Q : Placement κ ι} {i : ι} {k k' : κ}

omit [DecidableEq κ] in
/-- Only `i` has moved: the table matches exactly if its new entry does. -/
theorem matches_entry_iff (h : P.Matches) {o : Option κ}
    (htable : Q.table = Function.update P.table i o)
    (hother : ∀ j k, j ≠ i → (Q.At j k ↔ P.At j k)) :
    Q.Matches ↔ ∀ k, o = some k ↔ Q.At i k := by
  rw [matches_iff, htable]
  constructor
  · intro hall k
    have hi := hall i k
    rwa [Function.update_self] at hi
  · intro hi j k
    by_cases hj : j = i
    · subst hj
      rw [Function.update_self]
      exact hi k
    · rw [Function.update_of_ne hj, hother j k hj]
      exact h.table_iff

omit [DecidableEq ι] in
theorem matches_create (h : P.Matches) (k : κ) : (P.create k).Matches := by
  rw [matches_iff]
  intro j k'
  rw [at_create]
  exact h.table_iff

omit [DecidableEq ι] in
theorem matches_destroy_iff (h : P.Matches) : (P.destroy k).Matches ↔ ∀ i, ¬ P.At i k := by
  constructor
  · intro hdestroyed i hat
    -- the table would have the place that is gone
    have hgone : (P.destroy k).At i k := hdestroyed.table_iff.mp (h.table_iff.mpr hat)
    exact (at_destroy.mp hgone).1 rfl
  · intro hempty
    rw [matches_iff]
    intro j k'
    rw [at_destroy]
    refine h.table_iff.trans ⟨?_, And.right⟩
    intro hat
    refine ⟨?_, hat⟩
    rintro rfl
    exact hempty j hat

theorem matches_add_iff (h : P.Matches) :
    (P.add k i).Matches ↔ (P.Exists k → ∀ p ∈ P.table i, p = k) := by
  unfold add
  by_cases hk : P.Exists k
  · rw [if_pos hk]
    refine (matches_entry_iff h rfl fun j p hj => ?_).trans ?_
    · show (P.insertAt k i).At j p ↔ _
      simp [at_insertAt hk, hj]
    · have hat : ∀ p, ((P.insertAt k i).setTable i (some k)).At i p ↔
          p = k ∨ P.table i = some p := by
        intro p
        show (P.insertAt k i).At i p ↔ _
        rw [at_insertAt hk, h.table_iff]
        simp
      simp only [hat, hk, Option.mem_def, forall_true_left, Option.some.injEq]
      exact forall_congr' fun p => by grind
  · rw [if_neg hk]
    exact iff_of_true h fun hex => absurd hex hk

theorem matches_remove_iff (h : P.Matches) :
    (P.remove k i).Matches ↔ (P.Exists k → ∀ p ∈ P.table i, p = k) := by
  unfold remove
  by_cases hk : P.Exists k
  · rw [if_pos hk]
    refine (matches_entry_iff h rfl fun j p hj => ?_).trans ?_
    · show (P.eraseAt k i).At j p ↔ _
      simp [at_eraseAt, hj]
    · have hat : ∀ p, ((P.eraseAt k i).setTable i none).At i p ↔ P.table i = some p ∧ p ≠ k := by
        intro p
        rw [h.table_iff]
        exact at_eraseAt_self
      simp only [hat, hk, Option.mem_def, forall_true_left]
      exact forall_congr' fun p => by grind
  · rw [if_neg hk]
    exact iff_of_true h fun hex => absurd hex hk

theorem matches_move_iff (h : P.Matches) :
    (P.move i k k').Matches ↔
      if P.Exists k' then ∀ p ∈ P.table i, p = k ∨ p = k' else P.table i ≠ some k := by
  unfold move add
  by_cases hk : P.Exists k'
  · have hk' : (P.eraseAt k i).Exists k' := exists_eraseAt.mpr hk
    rw [if_pos hk, if_pos hk']
    refine (matches_entry_iff h rfl fun j p hj => ?_).trans ?_
    · show ((P.eraseAt k i).insertAt k' i).At j p ↔ _
      simp [at_insertAt hk', at_eraseAt, hj]
    · have hat : ∀ p, (((P.eraseAt k i).insertAt k' i).setTable i (some k')).At i p ↔
          p = k' ∨ P.table i = some p ∧ p ≠ k := by
        intro p
        show ((P.eraseAt k i).insertAt k' i).At i p ↔ _
        rw [at_insertAt hk', at_eraseAt_self, h.table_iff]
        simp
      simp only [hat, Option.mem_def, Option.some.injEq]
      exact forall_congr' fun p => by grind
  · rw [if_neg hk, if_neg fun hex => hk (exists_eraseAt.mp hex)]
    -- `i` is out of the old place, and the table does not know
    refine (matches_entry_iff (i := i) (o := P.table i) h ?_ fun j p hj => ?_).trans ?_
    · exact (Function.update_eq_self ..).symm
    · simp [at_eraseAt, hj]
    · simp only [at_eraseAt_self, ← h.table_iff]
      constructor
      · intro hall heq
        exact ((hall k).mp heq).2 rfl
      · intro hne p
        refine ⟨fun heq => ⟨heq, ?_⟩, And.left⟩
        rintro rfl
        exact hne heq

end Matches

/-! ## Sequences of operations -/

/-- An operation, with the arguments of its caller. -/
inductive Op (κ : Type u) (ι : Type v) where
  | create (k : κ)
  | destroy (k : κ)
  | add (k : κ) (i : ι)
  | remove (k : κ) (i : ι)
  | move (i : ι) (k k' : κ)

/-- One operation. -/
def apply (P : Placement κ ι) : Op κ ι → Placement κ ι
  | .create k => P.create k
  | .destroy k => P.destroy k
  | .add k i => P.add k i
  | .remove k i => P.remove k i
  | .move i k k' => P.move i k k'

/-- The caller is right about the place. -/
def Knows (P : Placement κ ι) : Op κ ι → Prop
  | .create _ => True
  | .destroy k => ∀ s ∈ P.members k, s = ∅
  | .add k i | .remove k i => P.Exists k → ∀ p ∈ P.table i, p = k
  | .move i k k' =>
    if P.Exists k' then ∀ p ∈ P.table i, p = k ∨ p = k' else P.table i ≠ some k

instance (P : Placement κ ι) : DecidablePred P.Knows := fun op => by
  cases op <;> unfold Knows <;> infer_instance

/-- **One operation.** -/
theorem matches_apply_iff (h : P.Matches) (op : Op κ ι) :
    (P.apply op).Matches ↔ P.Knows op := by
  cases op with
  | create k => exact iff_of_true (matches_create h k) trivial
  | destroy k =>
    refine (matches_destroy_iff h).trans ?_
    constructor
    · intro hempty s hs
      exact Finset.eq_empty_of_forall_notMem fun i hi => hempty i ⟨s, hs, hi⟩
    · rintro hempty i ⟨s, hs, hi⟩
      rw [hempty s hs] at hi
      exact absurd hi (Finset.notMem_empty i)
  | add k i => exact matches_add_iff h
  | remove k i => exact matches_remove_iff h
  | move i k k' => exact matches_move_iff h

/-- **A destination that does not exist**: the move changes nothing exactly if the caller
is right. -/
theorem move_eq_self_iff (h : P.Matches) {k' : κ} (hk : ¬ P.Exists k') (i : ι) (k : κ) :
    P.move i k k' = P ↔ P.Knows (.move i k k') := by
  have hmove : P.move i k k' = P.eraseAt k i := if_neg fun hex => hk (exists_eraseAt.mp hex)
  have hknows : P.Knows (.move i k k') ↔ P.table i ≠ some k := by simp only [Knows, if_neg hk]
  rw [hmove, hknows, eraseAt_eq_self, ← h.table_iff]

end Placement
