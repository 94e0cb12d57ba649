import Mathlib.Data.List.Nodup
import Mathlib.Tactic

/-!
# Leases

A fixed stock of resources is lent to holders. `Leased stock free held` says that every
resource of the stock is in the list `free` once or with one holder, and that nothing else
is. The rules say what keeps it: `take` lends the first free resource, `give` returns one to
the end of the list, `pass` moves whatever one holder has to another.
-/

namespace Leases

universe u v

variable {ρ : Type u} {η : Type v}

/-- Every resource of the stock is free or held, never both, and nothing else is. -/
structure Leased (stock : ρ → Prop) (free : List ρ) (held : η → Option ρ) : Prop where
  nodup : free.Nodup
  covers : ∀ r, stock r ↔ r ∈ free ∨ ∃ h, held h = some r
  apart : ∀ r ∈ free, ∀ h, held h ≠ some r
  unique : ∀ r h h', held h = some r → held h' = some r → h = h'

namespace Leased

variable {stock : ρ → Prop} {free : List ρ} {held : η → Option ρ} {r : ρ} {h o : η}

/-- Everything is free at the start. -/
theorem start (hnodup : free.Nodup) (hstock : ∀ r, stock r ↔ r ∈ free)
    (hheld : ∀ h, held h = none) : Leased stock free held where
  nodup := hnodup
  covers r := by simp [hstock r, hheld]
  apart r _ h := by simp [hheld]
  unique r h h' hr := by simp [hheld] at hr

/-- A resource is free once and held by nobody, or held by exactly one holder. -/
theorem free_or_held [DecidableEq ρ] (hl : Leased stock free held) (hr : stock r) :
    (free.count r = 1 ∧ ∀ h, held h ≠ some r) ∨ (r ∉ free ∧ ∃! h, held h = some r) := by
  rcases (hl.covers r).mp hr with hfree | ⟨h, hheld⟩
  · exact .inl ⟨List.count_eq_one_of_mem hl.nodup hfree, hl.apart r hfree⟩
  · refine .inr ⟨fun hfree => hl.apart r hfree h hheld, h, hheld, ?_⟩
    intro h' hheld'
    exact hl.unique r h' h hheld' hheld

variable [DecidableEq η]

theorem update_eq_some_iff {x : Option ρ} {h' : η} :
    Function.update held h x h' = some r ↔
      h' = h ∧ x = some r ∨ h' ≠ h ∧ held h' = some r := by
  by_cases hh : h' = h
  · subst hh
    simp
  · simp [hh]

/-- The first free resource is lent to a holder that has none. -/
theorem take (hl : Leased stock (r :: free) held) (hnone : held h = none) :
    Leased stock free (Function.update held h (some r)) := by
  obtain ⟨hnot, hnodup⟩ := List.nodup_cons.mp hl.nodup
  have hlent : ∀ h', held h' ≠ some r := hl.apart r List.mem_cons_self
  refine ⟨hnodup, ?_, ?_, ?_⟩
  · intro q
    rw [hl.covers, List.mem_cons]
    simp only [update_eq_some_iff, Option.some.injEq]
    constructor
    · rintro ((rfl | hfree) | ⟨h', hheld⟩)
      · exact .inr ⟨h, .inl ⟨rfl, rfl⟩⟩
      · exact .inl hfree
      · refine .inr ⟨h', .inr ⟨?_, hheld⟩⟩
        rintro rfl
        rw [hnone] at hheld
        cases hheld
    · rintro (hfree | ⟨h', ⟨-, rfl⟩ | ⟨-, hheld⟩⟩)
      · exact .inl (.inr hfree)
      · exact .inl (.inl rfl)
      · exact .inr ⟨h', hheld⟩
  · intro q hfree h'
    rw [Ne, update_eq_some_iff]
    rintro (⟨-, hq⟩ | ⟨-, hheld⟩)
    · exact hnot (Option.some.inj hq ▸ hfree)
    · exact hl.apart q (List.mem_cons_of_mem _ hfree) h' hheld
  · intro q h₁ h₂ h₁q h₂q
    rw [update_eq_some_iff] at h₁q h₂q
    rcases h₁q with ⟨rfl, hq⟩ | ⟨-, h₁q⟩ <;> rcases h₂q with ⟨rfl, hq'⟩ | ⟨-, h₂q⟩
    · rfl
    · exact absurd (hq ▸ h₂q) (hlent h₂)
    · exact absurd (hq' ▸ h₁q) (hlent h₁)
    · exact hl.unique q h₁ h₂ h₁q h₂q

/-- Nothing changes when a holder that has nothing loses it. -/
theorem skip (hl : Leased stock free held) (hnone : held h = none) :
    Leased stock free (Function.update held h none) := by
  rw [← hnone, Function.update_eq_self]
  exact hl

/-- A held resource is put at the end of the free ones. -/
theorem give (hl : Leased stock free held) (hheld : held h = some r) :
    Leased stock (free ++ [r]) (Function.update held h none) := by
  have hnot : r ∉ free := fun hfree => hl.apart r hfree h hheld
  refine ⟨?_, ?_, ?_, ?_⟩
  · exact List.nodup_append.mpr ⟨hl.nodup, List.nodup_singleton r, by grind⟩
  · intro q
    rw [hl.covers, List.mem_append, List.mem_singleton]
    simp only [update_eq_some_iff, reduceCtorEq, and_false, false_or]
    constructor
    · rintro (hfree | ⟨h', hh'⟩)
      · exact .inl (.inl hfree)
      · by_cases hh : h' = h
        · subst hh
          exact .inl (.inr (Option.some.inj (hh'.symm.trans hheld)))
        · exact .inr ⟨h', hh, hh'⟩
    · rintro ((hfree | rfl) | ⟨h', -, hh'⟩)
      · exact .inl hfree
      · exact .inr ⟨h, hheld⟩
      · exact .inr ⟨h', hh'⟩
  · intro q hfree h'
    rw [Ne, update_eq_some_iff]
    rintro (⟨-, ⟨⟩⟩ | ⟨hh, hh'⟩)
    rcases List.mem_append.mp hfree with hfree | hq
    · exact hl.apart q hfree h' hh'
    · rw [List.mem_singleton.mp hq] at hh'
      exact hh (hl.unique r h' h hh' hheld)
  · intro q h₁ h₂ h₁q h₂q
    rw [update_eq_some_iff] at h₁q h₂q
    rcases h₁q with ⟨-, ⟨⟩⟩ | ⟨-, h₁q⟩
    rcases h₂q with ⟨-, ⟨⟩⟩ | ⟨-, h₂q⟩
    exact hl.unique q h₁ h₂ h₁q h₂q

/-- What one holder has, if it has something, goes to another that has nothing. -/
theorem pass (hl : Leased stock free held) (hnone : held h = none) :
    Leased stock free (Function.update (Function.update held o none) h (held o)) := by
  have hiff : ∀ q h', Function.update (Function.update held o none) h (held o) h' = some q ↔
      h' = h ∧ held o = some q ∨ h' ≠ h ∧ h' ≠ o ∧ held h' = some q := by
    intro q h'
    rw [update_eq_some_iff, update_eq_some_iff]
    simp
  refine ⟨hl.nodup, ?_, ?_, ?_⟩
  · intro q
    rw [hl.covers]
    refine or_congr_right ?_
    simp only [hiff]
    constructor
    · rintro ⟨h', hh'⟩
      by_cases ho : h' = o
      · subst ho
        exact ⟨h, .inl ⟨rfl, hh'⟩⟩
      · refine ⟨h', .inr ⟨?_, ho, hh'⟩⟩
        rintro rfl
        rw [hnone] at hh'
        cases hh'
    · rintro ⟨h', ⟨-, hq⟩ | ⟨-, -, hq⟩⟩
      · exact ⟨o, hq⟩
      · exact ⟨h', hq⟩
  · intro q hfree h'
    rw [Ne, hiff]
    rintro (⟨-, hq⟩ | ⟨-, -, hq⟩)
    · exact hl.apart q hfree o hq
    · exact hl.apart q hfree h' hq
  · intro q h₁ h₂ h₁q h₂q
    rw [hiff] at h₁q h₂q
    rcases h₁q with ⟨rfl, hq⟩ | ⟨-, ho, h₁q⟩ <;> rcases h₂q with ⟨rfl, hq'⟩ | ⟨-, ho', h₂q⟩
    · rfl
    · exact absurd (hl.unique q h₂ o h₂q hq) ho'
    · exact absurd (hl.unique q h₁ o h₁q hq') ho
    · exact hl.unique q h₁ h₂ h₁q h₂q

end Leased

end Leases
