import Mathlib.Logic.Function.Basic
import Mathlib.Tactic

/-!
# Flags that let one party in

A flag that is taken with an atomic exchange (`test_and_set`, or `compare_exchange` from
`false` to `true`) lets one party at a time into a section; leaving the section clears it.
`Held flag inside holder` says that the flag tells the truth: it is set exactly while the
section has a holder, and the holder is the only party inside.

The rules are the ways in which a step can change the section: somebody enters through the
cleared flag, the holder leaves or passes its place on, or nothing happens to the section.
-/

namespace Flag

universe u v

variable {κ : Type u} {flag : Bool} {inside inside' : κ → Prop} {holder : Option κ} {k k' : κ}

/-- The flag is set exactly while the section has a holder, who alone is inside. -/
structure Held (flag : Bool) (inside : κ → Prop) (holder : Option κ) : Prop where
  set_eq : flag = holder.isSome
  inside_iff : ∀ k, inside k ↔ holder = some k

namespace Held

theorem of_inside (h : Held flag inside holder) (hk : inside k) : holder = some k :=
  (h.inside_iff k).mp hk

theorem eq_none (h : Held false inside holder) : holder = none :=
  Option.not_isSome_iff_eq_none.mp (by simp [← h.set_eq])

theorem flag_eq_true (h : Held flag inside holder) (hk : inside k) : flag = true := by
  rw [h.set_eq, h.of_inside hk, Option.isSome_some]

/-- **Mutual exclusion.** -/
theorem unique (h : Held flag inside holder) (hk : inside k) (hk' : inside k') : k = k' :=
  Option.some.inj ((h.of_inside hk).symm.trans (h.of_inside hk'))

theorem same (h : Held flag inside holder) (hsame : ∀ k, inside' k ↔ inside k) :
    Held flag inside' holder :=
  ⟨h.set_eq, fun k => (hsame k).trans (h.inside_iff k)⟩

/-- Entering through the cleared flag, which is set. -/
theorem enter (h : Held false inside holder) (hself : inside' k)
    (hother : ∀ j, j ≠ k → (inside' j ↔ inside j)) : Held true inside' (some k) := by
  refine ⟨rfl, fun j => ?_⟩
  by_cases hj : j = k
  · subst hj
    exact iff_of_true hself rfl
  · rw [hother j hj, h.inside_iff, h.eq_none, Option.some.injEq]
    exact iff_of_false (Option.some_ne_none j).symm (Ne.symm hj)

/-- The holder leaves and clears the flag. -/
theorem leave (h : Held flag inside holder) (hk : inside k) (hself : ¬ inside' k)
    (hother : ∀ j, j ≠ k → (inside' j ↔ inside j)) : Held false inside' none := by
  refine ⟨rfl, fun j => iff_of_false ?_ (Option.some_ne_none j).symm⟩
  intro hj
  by_cases hjk : j = k
  · exact hself (hjk ▸ hj)
  · exact hjk (h.unique ((hother j hjk).mp hj) hk)

/-- The holder passes its place on; the flag stays set. -/
theorem pass (h : Held flag inside holder) (hk : inside k) (hself : ¬ inside' k)
    (hnew : inside' k') (hother : ∀ j, j ≠ k → j ≠ k' → (inside' j ↔ inside j)) :
    Held flag inside' (some k') := by
  refine ⟨h.flag_eq_true hk, fun j => ?_⟩
  by_cases hj' : j = k'
  · subst hj'
    exact iff_of_true hnew rfl
  · refine iff_of_false (fun hj => ?_) fun heq => hj' (Option.some.inj heq).symm
    by_cases hjk : j = k
    · exact hself (hjk ▸ hj)
    · exact hjk (h.unique ((hother j hjk hj').mp hj) hk)

end Held

/-! ## Sections of a program

The parties are threads, and who is inside depends on the place that each has reached. -/

section Places

variable {ι : Type u} {α : Type v} [DecidableEq ι] (P : α → Bool) {pc : ι → α} {t : ι} {p : α}
  {holder : Option ι}

/-- A thread moves on without entering or leaving the section. -/
theorem Held.move (h : Held flag (fun u => P (pc u) = true) holder) (hp : P p = P (pc t)) :
    Held flag (fun u => P (Function.update pc t p u) = true) holder := by
  refine h.same fun u => ?_
  by_cases hu : u = t
  · subst hu
    rw [Function.update_self, hp]
  · rw [Function.update_of_ne hu]

theorem Held.moveIn (h : Held false (fun u => P (pc u) = true) holder) (hp : P p = true) :
    Held true (fun u => P (Function.update pc t p u) = true) (some t) := by
  refine h.enter ?_ fun u hu => ?_
  · rwa [Function.update_self]
  · rw [Function.update_of_ne hu]

theorem Held.moveOut (h : Held flag (fun u => P (pc u) = true) holder) (ht : P (pc t) = true)
    (hp : P p = false) : Held false (fun u => P (Function.update pc t p u) = true) none := by
  refine h.leave ht ?_ fun u hu => ?_
  · rw [Function.update_self, hp]
    exact Bool.false_ne_true
  · rw [Function.update_of_ne hu]

end Places

end Flag
