import Mathlib.Tactic

/-!
# Strands

A pool of workers runs tasks that are posted under a key. Tasks of one key form a
strand: they run one at a time, in the order in which they were posted. Nothing is
said about tasks of different keys, so the pool may run the head of any strand next.

`Pool` is the state of such a pool: the tasks still to run, and those that have run,
oldest first.
-/

namespace Strands

variable {κ τ : Type} [DecidableEq κ]

/-- The tasks that wait on each strand, and those that have run. -/
structure Pool (κ τ : Type) where
  pending : κ → List τ
  done : List (κ × τ)

namespace Pool

/-- Nothing posted, nothing run. -/
def empty : Pool κ τ := ⟨fun _ => [], []⟩

/-- Posting a task to the strand of `k`. -/
def post (p : Pool κ τ) (k : κ) (t : τ) : Pool κ τ :=
  { p with pending := Function.update p.pending k (p.pending k ++ [t]) }

/-- The pool after the head of the strand of `k` has run. -/
def advance (p : Pool κ τ) (k : κ) : Pool κ τ :=
  match p.pending k with
  | [] => p
  | t :: rest => ⟨Function.update p.pending k rest, p.done ++ [(k, t)]⟩

@[simp] theorem pending_post_self (p : Pool κ τ) (k : κ) (t : τ) :
    (p.post k t).pending k = p.pending k ++ [t] :=
  Function.update_self ..

theorem pending_post_ne (p : Pool κ τ) {k k' : κ} (h : k' ≠ k) (t : τ) :
    (p.post k t).pending k' = p.pending k' :=
  Function.update_of_ne h ..

theorem pending_advance_self (p : Pool κ τ) (k : κ) :
    (p.advance k).pending k = (p.pending k).tail := by
  unfold advance
  cases h : p.pending k with
  | nil => exact h
  | cons t rest => exact Function.update_self ..

theorem pending_advance_ne (p : Pool κ τ) {k k' : κ} (h : k' ≠ k) :
    (p.advance k).pending k' = p.pending k' := by
  unfold advance
  cases p.pending k with
  | nil => rfl
  | cons t rest => exact Function.update_of_ne h ..

theorem done_advance (p : Pool κ τ) (k : κ) :
    (p.advance k).done = p.done ++ ((p.pending k).head?.map (k, ·)).toList := by
  unfold advance
  cases p.pending k with
  | nil => simp
  | cons t rest => rfl

/-! ## Running a strand on -/

/-- The pool after `n` more tasks of the strand of `k`. -/
def advanceN (p : Pool κ τ) (k : κ) : Nat → Pool κ τ
  | 0 => p
  | n + 1 => (p.advanceN k n).advance k

theorem pending_advanceN_self (p : Pool κ τ) (k : κ) (n : Nat) :
    (p.advanceN k n).pending k = (p.pending k).drop n := by
  induction n with
  | zero => rfl
  | succ n ih => rw [advanceN, pending_advance_self, ih, List.tail_drop]

theorem pending_advanceN_ne (p : Pool κ τ) {k k' : κ} (h : k' ≠ k) (n : Nat) :
    (p.advanceN k n).pending k' = p.pending k' := by
  induction n with
  | zero => rfl
  | succ n ih => rw [advanceN, pending_advance_ne _ h, ih]

theorem done_advanceN (p : Pool κ τ) (k : κ) (n : Nat) :
    (p.advanceN k n).done = p.done ++ ((p.pending k).take n).map (k, ·) := by
  induction n with
  | zero => simp [advanceN]
  | succ n ih =>
    rw [advanceN, done_advance, ih, pending_advanceN_self, List.head?_drop, List.take_add_one,
      List.map_append, List.append_assoc]
    congr 2
    cases (p.pending k)[n]? <;> rfl

end Pool

end Strands
