import Mathlib.Order.Bounds.Basic
import Mathlib.Tactic

/-!
# Labelled transition systems

A system is a relation `step s e t`: event `e` takes state `s` to state `t`.
`Run step s es t` is a finite run with the list of its events. The rules below
are the ways in which a property of whole runs is reduced to single steps:

- `Run.invariant`: what the first state has and every step keeps, the last state has;
- `guarded`: the runs whose events all meet a condition on the state before them;
- `Run.guarded_iff`: when a step leads to a good state exactly under a condition,
  a run ends in a good state exactly when all its steps meet the condition;
- `Run.staying_iff`: the same for runs that may leave the good states and come back.

`Run.foldl` and `Run.of_along` give the runs of a system whose step is a function.
-/

namespace Transition

universe u v

variable {σ : Type u} {ε : Type v}

/-- A finite run from `s` to `t` with events `es`, extended at its end. -/
inductive Run (step : σ → ε → σ → Prop) (s : σ) : List ε → σ → Prop where
  | nil : Run step s [] s
  | snoc {es : List ε} {t u : σ} {e : ε} :
      Run step s es t → step t e u → Run step s (es ++ [e]) u

/-- The states some run from an initial state leads to. -/
def Reachable (init : σ → Prop) (step : σ → ε → σ → Prop) (t : σ) : Prop :=
  ∃ s es, init s ∧ Run step s es t

/-- The steps whose event meets the condition `ok` in the state before. -/
def guarded (ok : σ → ε → Prop) (step : σ → ε → σ → Prop) (s : σ) (e : ε) (t : σ) : Prop :=
  ok s e ∧ step s e t

/-- The steps into a state with `P`; their runs are the runs that stay in `P`. -/
def staying (P : σ → Prop) (step : σ → ε → σ → Prop) (s : σ) (e : ε) (t : σ) : Prop :=
  step s e t ∧ P t

/-- All events meet the condition in the run of a deterministic system. -/
def Along (f : σ → ε → σ) (ok : σ → ε → Prop) : σ → List ε → Prop
  | _, [] => True
  | s, e :: es => ok s e ∧ Along f ok (f s e) es

instance {f : σ → ε → σ} {ok : σ → ε → Prop} [∀ s, DecidablePred (ok s)] :
    (s : σ) → DecidablePred (Along f ok s) := by
  intro s es
  induction es generalizing s with
  | nil => exact .isTrue trivial
  | cons e es ih => exact @instDecidableAnd _ _ _ (ih _)

namespace Run

variable {step : σ → ε → σ → Prop} {s t u : σ} {es es' : List ε} {e : ε}

theorem single (h : step s e t) : Run step s [e] t := nil.snoc h

theorem append (h : Run step s es t) (h' : Run step t es' u) : Run step s (es ++ es') u := by
  induction h' with
  | nil => simpa using h
  | snoc _ hstep ih =>
    rw [← List.append_assoc]
    exact ih.snoc hstep

variable {I P : σ → Prop} {ok : σ → ε → Prop}

/-- **Invariant rule**: a property of the first state that every step keeps is a
property of the last state. -/
theorem invariant (hrun : Run step s es t) (hs : I s) (hstep : ∀ s e t, I s → step s e t → I t) :
    I t := by
  induction hrun with
  | nil => exact hs
  | snoc _ hst ih => exact hstep _ _ _ ih hst

/-- A weaker step relation has the same runs and possibly more. -/
theorem mono {step' : σ → ε → σ → Prop} (hrun : Run step s es t)
    (h : ∀ s e t, step s e t → step' s e t) : Run step' s es t := by
  induction hrun with
  | nil => exact .nil
  | snoc _ hst ih => exact ih.snoc (h _ _ _ hst)

/-- Steps that are the same wherever an invariant holds have the same runs. -/
theorem congr {step' : σ → ε → σ → Prop} (hI : I s) (hkeep : ∀ s e t, I s → step s e t → I t)
    (h : ∀ s e t, I s → (step s e t ↔ step' s e t)) :
    Run step s es t ↔ Run step' s es t := by
  constructor
  · intro hrun
    induction hrun with
    | nil => exact .nil
    | snoc hpre hst ih => exact ih.snoc ((h _ _ _ (hpre.invariant hI hkeep)).mp hst)
  · intro hrun
    induction hrun with
    | nil => exact .nil
    | snoc _ hst ih => exact ih.snoc ((h _ _ _ (ih.invariant hI hkeep)).mpr hst)

/-- The run of a deterministic system on given events. -/
theorem foldl (f : σ → ε → σ) (s : σ) (es : List ε) :
    Run (fun s e t => f s e = t) s es (es.foldl f s) := by
  induction es using List.reverseRecOn with
  | nil => exact .nil
  | append_singleton es e ih =>
    rw [List.foldl_append]
    exact ih.snoc rfl

/-- A deterministic system has no other runs. -/
theorem eq_foldl {f : σ → ε → σ} (hrun : Run (fun s e t => f s e = t) s es t) :
    t = es.foldl f s := by
  induction hrun with
  | nil => rfl
  | snoc _ hst ih => rw [List.foldl_append, ← ih, List.foldl_cons, List.foldl_nil, hst]

/-- The run of a deterministic system whose events meet a condition. -/
theorem of_along {f : σ → ε → σ} (h : Along f ok s es) :
    Run (guarded ok fun s e t => f s e = t) s es (es.foldl f s) := by
  induction es generalizing s with
  | nil => exact .nil
  | cons e es ih => exact (single ⟨h.1, rfl⟩).append (ih h.2)

/-- Forgetting the conditions of a guarded run. -/
theorem of_guarded (hrun : Run (guarded ok step) s es t) :
    Run step s es t :=
  hrun.mono fun _ _ _ h => h.2

/-- **Guard rule**: if a step leads to a good state exactly from a good state and
under the condition `ok`, a run from a good state ends in one exactly when all its
steps meet the condition. -/
theorem guarded_iff (hrun : Run step s es t) (hI : I s) (hP : P s)
    (hkeep : ∀ s e t, I s → step s e t → I t)
    (hstep : ∀ s e t, I s → step s e t → (P t ↔ P s ∧ ok s e)) :
    P t ↔ Run (guarded ok step) s es t := by
  constructor
  · intro hgood
    induction hrun with
    | nil => exact .nil
    | snoc hpre hst ih =>
      obtain ⟨hgood', hok⟩ := (hstep _ _ _ (hpre.invariant hI hkeep) hst).mp hgood
      exact (ih hgood').snoc ⟨hok, hst⟩
  · intro hguarded
    refine (hguarded.invariant (I := fun s => I s ∧ P s) ⟨hI, hP⟩ ?_).2
    rintro s e t ⟨hs, hgood⟩ ⟨hok, hst⟩
    exact ⟨hkeep s e t hs hst, (hstep s e t hs hst).mpr ⟨hgood, hok⟩⟩

/-- A run that stays in the good states ends in one. -/
theorem staying_end (hrun : Run (staying P step) s es t) (hP : P s) : P t :=
  hrun.invariant hP fun _ _ _ _ hst => hst.2

/-- **Staying rule**: if a step from a good state leads to a good state exactly under
the condition `ok`, the runs that stay in the good states are those whose steps all meet
the condition. -/
theorem staying_iff (hI : I s) (hP : P s) (hkeep : ∀ s e t, I s → step s e t → I t)
    (hstep : ∀ s e t, I s → P s → step s e t → (P t ↔ ok s e)) :
    Run (staying P step) s es t ↔ Run (guarded ok step) s es t := by
  constructor
  · intro hrun
    induction hrun with
    | nil => exact .nil
    | snoc hpre hst ih =>
      have hmid := hpre.invariant (I := fun s => I s ∧ P s) ⟨hI, hP⟩
        fun s e t hs hst => ⟨hkeep s e t hs.1 hst.1, hst.2⟩
      exact ih.snoc ⟨(hstep _ _ _ hmid.1 hmid.2 hst.1).mp hst.2, hst.1⟩
  · intro hrun
    induction hrun with
    | nil => exact .nil
    | snoc hpre hst ih =>
      have hmid := ih.invariant (I := fun s => I s ∧ P s) ⟨hI, hP⟩
        fun s e t hs hst => ⟨hkeep s e t hs.1 hst.1, hst.2⟩
      exact ih.snoc ⟨hst.2, (hstep _ _ _ hmid.1 hmid.2 hst.2).mpr hst.1⟩

end Run

/-- **Invariant rule for reachable states.** -/
theorem Reachable.invariant {init : σ → Prop} {step : σ → ε → σ → Prop} {I : σ → Prop}
    {t : σ} (h : Reachable init step t) (hinit : ∀ s, init s → I s)
    (hstep : ∀ s e t, I s → step s e t → I t) : I t := by
  obtain ⟨s, es, hs, hrun⟩ := h
  exact hrun.invariant (hinit s hs) hstep

/-- **Peak rule**: a field that every step raises to the new value of another one is
the greatest value the other has had along the run. -/
theorem isGreatest_foldl {α : Type*} [LinearOrder α] (f : σ → ε → σ) (value peak : σ → α)
    {I : σ → Prop} {s : σ} (hs : I s) (heq : peak s = value s)
    (hkeep : ∀ s e, I s → I (f s e))
    (hstep : ∀ s e, I s → value s ≤ peak s → peak (f s e) = max (peak s) (value (f s e)))
    (es : List ε) :
    I (es.foldl f s) ∧
      IsGreatest {n | ∃ pre, pre <+: es ∧ value (pre.foldl f s) = n} (peak (es.foldl f s)) := by
  induction es using List.reverseRecOn with
  | nil =>
    refine ⟨hs, ⟨[], List.prefix_rfl, heq.symm⟩, ?_⟩
    rintro n ⟨pre, hpre, rfl⟩
    rw [List.prefix_nil.mp hpre]
    exact heq.ge
  | append_singleton es e ih =>
    obtain ⟨hI, hmem, hub⟩ := ih
    have hpeak := hstep _ e hI (hub ⟨es, List.prefix_rfl, rfl⟩)
    rw [List.foldl_append, List.foldl_cons, List.foldl_nil]
    refine ⟨hkeep _ e hI, ?_, ?_⟩
    · rcases max_choice (peak (es.foldl f s)) (value (f (es.foldl f s) e)) with hold | hnew
      · obtain ⟨pre, hpre, hval⟩ := hmem
        exact ⟨pre, hpre.trans (List.prefix_append es [e]), by rw [hval, hpeak, hold]⟩
      · refine ⟨es ++ [e], List.prefix_rfl, ?_⟩
        rw [hpeak, hnew, List.foldl_append, List.foldl_cons, List.foldl_nil]
    · rintro n ⟨pre, hpre, rfl⟩
      rw [hpeak]
      rcases List.prefix_concat_iff.mp hpre with rfl | hpre
      · rw [List.foldl_append, List.foldl_cons, List.foldl_nil]
        exact le_max_right _ _
      · exact le_max_of_le_left (hub ⟨pre, hpre, rfl⟩)

end Transition
