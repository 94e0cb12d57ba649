import Mathlib.Data.List.GetD
import Mathlib.Tactic

/-!
# A binary heap in a list

The heap functions of the C++ standard library as GCC has them: the children of place `i` are
`2 * i + 1` and `2 * i + 2`, and a hole is moved instead of a value. `pop` moves the hole at
the top down to a leaf, always to the child that is not less than its sibling, and lets the last
value go up from there.

- `push_perm`, `pop_perm`, `drain_perm`: nothing is lost or doubled. A move of the hole
  permutes the list that has the value in the hole (`set_move_perm`).
- `push_map`, `drain_map`: the heap only looks at the comparison, so it does the same to the
  images of the values under a function that keeps it.
-/

namespace BinaryHeap

universe u

variable {α : Type u} (lt : α → α → Bool)

/-- The value in the hole goes up past the parents that are less. Every round at least halves
the place of the hole, which is the number of rounds at first. -/
def siftUp (value : α) : Nat → Nat → List α → List α
  | 0, hole, a => a.set hole value
  | rounds + 1, hole, a =>
    let parent := (hole - 1) / 2
    if 0 < hole ∧ lt (a.getD parent value) value = true then
      siftUp value rounds parent (a.set hole (a.getD parent value))
    else a.set hole value

/-- The hole goes down while it has two children. -/
def moveDown (value : α) : Nat → Nat → List α → Nat × List α
  | 0, hole, a => (hole, a)
  | rounds + 1, hole, a =>
    if hole < (a.length - 1) / 2 then
      let right := 2 * (hole + 1)
      let child :=
        if lt (a.getD right value) (a.getD (right - 1) value) then right - 1 else right
      moveDown value rounds child (a.set hole (a.getD child value))
    else (hole, a)

/-- It may have a single child then. -/
def moveToLast (value : α) (hole : Nat) (a : List α) : Nat × List α :=
  if a.length % 2 = 0 ∧ hole = (a.length - 2) / 2 then
    (2 * (hole + 1) - 1, a.set hole (a.getD (2 * (hole + 1) - 1) value))
  else (hole, a)

/-- `value` is put into a heap with a hole at the top. -/
def adjust (value : α) (a : List α) : List α :=
  let down := moveDown lt value a.length 0 a
  let last := moveToLast value down.1 down.2
  siftUp lt value last.1 last.1 last.2

/-- The new element goes to the end and rises. -/
def push (x : α) (a : List α) : List α := siftUp lt x a.length a.length (a ++ [x])

/-- The top, and the heap without it. -/
def pop : List α → Option (α × List α)
  | [] => none
  | [x] => some (x, [])
  | x :: y :: a =>
    some (x, adjust lt ((y :: a).getLast (List.cons_ne_nil y a)) (x :: (y :: a).dropLast))

/-- The values that `n` calls of `pop` give. -/
def drain : Nat → List α → List α
  | 0, _ => []
  | n + 1, a =>
    match pop lt a with
    | none => []
    | some (x, rest) => x :: drain n rest

/-! ## Permutations -/

variable {a : List α} {value : α} {hole : Nat}

theorem cons_set_perm {i : Nat} (hi : i < a.length) (v : α) :
    (a[i] :: a.set i v).Perm (v :: a) := by
  have hsplit : a = a.take i ++ a[i] :: a.drop (i + 1) := by simp
  rw [List.set_eq_take_append_cons_drop, if_pos hi]
  calc (a[i] :: (a.take i ++ v :: a.drop (i + 1))).Perm
        (a[i] :: v :: (a.take i ++ a.drop (i + 1))) := List.perm_middle.cons _
    _ |>.Perm (v :: a[i] :: (a.take i ++ a.drop (i + 1))) := List.Perm.swap ..
    _ |>.Perm (v :: (a.take i ++ a[i] :: a.drop (i + 1))) := List.perm_middle.symm.cons _
    _ = v :: a := by rw [← hsplit]

/-- A move of the hole: what is taken to its old place leaves a hole behind. -/
theorem set_move_perm {i j : Nat} (hi : i < a.length) (hj : j < a.length) (hij : i ≠ j) (v : α) :
    ((a.set i (a.getD j v)).set j v).Perm (a.set i v) := by
  rw [List.getD_eq_getElem a v hj]
  have hj' : j < (a.set i a[j]).length := by simpa using hj
  have hget : (a.set i a[j])[j] = a[j] := List.getElem_set_ne hij hj'
  have hlast := cons_set_perm hj' v
  rw [hget] at hlast
  -- both sides, with what was in the two places before, are `v`, `a[j]` and `a`
  have hmoved : (a[i] :: a[j] :: (a.set i a[j]).set j v).Perm (v :: a[j] :: a) :=
    calc (a[i] :: a[j] :: (a.set i a[j]).set j v).Perm (a[i] :: v :: a.set i a[j]) :=
          hlast.cons _
      _ |>.Perm (v :: a[i] :: a.set i a[j]) := List.Perm.swap ..
      _ |>.Perm (v :: a[j] :: a) := (cons_set_perm hi a[j]).cons _
  have hdirect : (a[i] :: a[j] :: a.set i v).Perm (v :: a[j] :: a) :=
    calc (a[i] :: a[j] :: a.set i v).Perm (a[j] :: a[i] :: a.set i v) := List.Perm.swap ..
      _ |>.Perm (a[j] :: v :: a) := (cons_set_perm hi v).cons _
      _ |>.Perm (v :: a[j] :: a) := List.Perm.swap ..
  exact ((hmoved.trans hdirect.symm).cons_inv).cons_inv

theorem siftUp_perm (value : α) (rounds hole : Nat) (a : List α) (hhole : hole < a.length) :
    (siftUp lt value rounds hole a).Perm (a.set hole value) := by
  induction rounds generalizing hole a with
  | zero => rfl
  | succ rounds ih =>
    rw [siftUp]
    split
    next hup =>
      have hparent : (hole - 1) / 2 < hole := by omega
      refine (ih _ _ (by simpa using hparent.trans hhole)).trans ?_
      exact set_move_perm hhole (hparent.trans hhole) hparent.ne' value
    next => rfl

theorem getD_mem_cons (a : List α) (i : Nat) (v : α) : a.getD i v ∈ v :: a := by
  rcases Nat.lt_or_ge i a.length with hi | hi
  · rw [List.getD_eq_getElem a v hi]
    exact List.mem_cons_of_mem _ (List.getElem_mem hi)
  · rw [List.getD_eq_default a v hi]
    exact List.mem_cons_self

/-- The hole goes from `hole` in `a` further down, to `r.1` in `r.2`: it stays in the list, what
is before it is not touched, and the list with the value in the hole is permuted. -/
structure Moves (value : α) (hole : Nat) (a : List α) (r : Nat × List α) : Prop where
  hole_lt : r.1 < r.2.length
  hole_le : hole ≤ r.1
  before : ∀ i < hole, r.2[i]? = a[i]?
  subset : r.2 ⊆ value :: a
  perm : (r.2.set r.1 value).Perm (a.set hole value)

theorem Moves.refl (h : hole < a.length) :
    Moves value hole a (hole, a) :=
  ⟨h, le_rfl, fun _ _ => rfl, List.subset_cons_self _ _, .rfl⟩

theorem Moves.to_child {child : Nat} {r : Nat × List α} (hchild : child < a.length)
    (hlt : hole < child) (h : Moves value child (a.set hole (a.getD child value)) r) :
    Moves value hole a r where
  hole_lt := h.hole_lt
  hole_le := hlt.le.trans h.hole_le
  before i hi := (h.before i (hi.trans hlt)).trans (List.getElem?_set_ne hi.ne')
  subset x hx := by
    rcases List.mem_cons.mp (h.subset hx) with rfl | hx
    · exact List.mem_cons_self
    · rcases List.mem_or_eq_of_mem_set hx with hx | rfl
      · exact List.mem_cons_of_mem _ hx
      · exact getD_mem_cons a child value
  perm := h.perm.trans (set_move_perm (hlt.trans hchild) hchild hlt.ne value)

theorem Moves.trans {r r' : Nat × List α} (h : Moves value hole a r) (h' : Moves value r.1 r.2 r') :
    Moves value hole a r' where
  hole_lt := h'.hole_lt
  hole_le := h.hole_le.trans h'.hole_le
  before i hi := (h'.before i (hi.trans_le h.hole_le)).trans (h.before i hi)
  subset x hx := by
    rcases List.mem_cons.mp (h'.subset hx) with rfl | hx
    · exact List.mem_cons_self
    · exact h.subset hx
  perm := h'.perm.trans h.perm

theorem moveDown_moves (value : α) (rounds hole : Nat) (a : List α) (hhole : hole < a.length) :
    Moves value hole a (moveDown lt value rounds hole a) := by
  induction rounds generalizing hole a with
  | zero => exact .refl hhole
  | succ rounds ih =>
    rw [moveDown]
    split
    next hdown =>
      simp only
      split
      next =>
        have hchild : 2 * (hole + 1) - 1 < a.length := by omega
        exact .to_child hchild (by omega) (ih _ _ (by simpa using hchild))
      next =>
        have hchild : 2 * (hole + 1) < a.length := by omega
        exact .to_child hchild (by omega) (ih _ _ (by simpa using hchild))
    next => exact .refl hhole

theorem moveToLast_moves (value : α) (hole : Nat) (a : List α) (hhole : hole < a.length) :
    Moves value hole a (moveToLast value hole a) := by
  rw [moveToLast]
  split
  next hlast =>
    have hchild : 2 * (hole + 1) - 1 < a.length := by omega
    exact .to_child hchild (by omega) (.refl (by simpa using hchild))
  next => exact .refl hhole

theorem adjust_perm (value : α) (ha : 0 < a.length) :
    (adjust lt value a).Perm (a.set 0 value) := by
  have hdown := moveDown_moves lt value a.length 0 a ha
  have hmoves := hdown.trans (moveToLast_moves value _ _ hdown.hole_lt)
  exact (siftUp_perm lt value _ _ _ hmoves.hole_lt).trans hmoves.perm

theorem push_perm (x : α) (a : List α) : (push lt x a).Perm (x :: a) := by
  have hsift := siftUp_perm lt x a.length a.length (a ++ [x]) (by simp)
  have hset : (a ++ [x]).set a.length x = a ++ [x] := by simp
  rw [hset] at hsift
  exact hsift.trans (List.perm_append_singleton x a)

theorem pop_perm {rest : List α} {x : α} (h : pop lt a = some (x, rest)) :
    a.Perm (x :: rest) := by
  match a with
  | [] => cases h
  | [y] =>
    cases h
    exact .rfl
  | y :: z :: a =>
    rw [pop] at h
    cases h
    have hsplit := List.dropLast_append_getLast (List.cons_ne_nil z a)
    have hadjust := adjust_perm lt ((z :: a).getLast (List.cons_ne_nil z a))
      (a := x :: (z :: a).dropLast) (Nat.succ_pos _)
    rw [List.set_cons_zero] at hadjust
    refine List.Perm.cons x ?_
    calc (z :: a) = (z :: a).dropLast ++ [(z :: a).getLast (List.cons_ne_nil z a)] := hsplit.symm
      List.Perm _ ((z :: a).getLast (List.cons_ne_nil z a) :: (z :: a).dropLast) :=
        List.perm_append_singleton ..
      _ |>.Perm _ := hadjust.symm

theorem eq_nil_of_pop (h : pop lt a = none) : a = [] := by
  match a with
  | [] => rfl
  | [x] => cases h
  | x :: y :: a => cases h

theorem exists_pop_cons (x : α) (a : List α) : ∃ rest, pop lt (x :: a) = some (x, rest) := by
  cases a with
  | nil => exact ⟨[], rfl⟩
  | cons y a => exact ⟨_, rfl⟩

theorem drain_succ {rest : List α} {x : α} (h : pop lt a = some (x, rest)) (n : Nat) :
    drain lt (n + 1) a = x :: drain lt n rest := by
  rw [drain, h]

theorem drain_perm (a : List α) : (drain lt a.length a).Perm a := by
  induction hn : a.length generalizing a with
  | zero =>
    rw [List.length_eq_zero_iff.mp hn]
    rfl
  | succ n ih =>
    cases hpop : pop lt a with
    | none =>
      rw [eq_nil_of_pop lt hpop] at hn
      cases hn
    | some r =>
      rw [drain_succ lt hpop]
      have hperm := pop_perm lt hpop
      have hlen : r.2.length = n := by
        have := hperm.length_eq
        simp only [List.length_cons] at this
        omega
      exact ((ih r.2 hlen).cons r.1).trans hperm.symm

/-! ## Images -/

section Map

universe v

variable {lt} {β : Type v} {lt' : β → β → Bool} {f : α → β}

/-- The function keeps the comparison, so the loop takes the same turns. -/
theorem siftUp_map (h : ∀ x y, lt' (f x) (f y) = lt x y) (value : α) (rounds hole : Nat)
    (a : List α) :
    siftUp lt' (f value) rounds hole (a.map f) = (siftUp lt value rounds hole a).map f := by
  induction rounds generalizing hole a with
  | zero => rw [siftUp, siftUp, List.map_set]
  | succ rounds ih =>
    rw [siftUp, siftUp]
    simp only [List.getD_map, h]
    split
    · rw [← List.map_set, ih]
    · rw [List.map_set]

theorem moveDown_map (h : ∀ x y, lt' (f x) (f y) = lt x y) (value : α) (rounds hole : Nat)
    (a : List α) :
    moveDown lt' (f value) rounds hole (a.map f)
      = ((moveDown lt value rounds hole a).1, (moveDown lt value rounds hole a).2.map f) := by
  induction rounds generalizing hole a with
  | zero => rfl
  | succ rounds ih =>
    rw [moveDown, moveDown]
    simp only [List.getD_map, h, List.length_map]
    split
    · rw [← List.map_set, ih]
    · rfl

theorem moveToLast_map (value : α) (hole : Nat) (a : List α) :
    moveToLast (f value) hole (a.map f)
      = ((moveToLast value hole a).1, (moveToLast value hole a).2.map f) := by
  rw [moveToLast, moveToLast, List.length_map]
  split
  · rw [List.getD_map, ← List.map_set]
  · rfl

theorem push_map (h : ∀ x y, lt' (f x) (f y) = lt x y) (x : α) (a : List α) :
    push lt' (f x) (a.map f) = (push lt x a).map f := by
  rw [push, push, List.length_map, ← siftUp_map h]
  simp

theorem pop_map (h : ∀ x y, lt' (f x) (f y) = lt x y) (a : List α) :
    pop lt' (a.map f) = (pop lt a).map fun r => (f r.1, r.2.map f) := by
  match a with
  | [] => rfl
  | [x] => rfl
  | x :: y :: a =>
    have hlast : ((y :: a).map f).getLast (List.cons_ne_nil _ _)
        = f ((y :: a).getLast (List.cons_ne_nil _ _)) := List.getLast_map ..
    have hfront : f x :: ((y :: a).map f).dropLast = (x :: (y :: a).dropLast).map f := by
      rw [List.map_cons (l := (y :: a).dropLast), List.map_dropLast]
    have hadjust : adjust lt' (((y :: a).map f).getLast (List.cons_ne_nil _ _))
        (f x :: ((y :: a).map f).dropLast)
        = (adjust lt ((y :: a).getLast (List.cons_ne_nil _ _)) (x :: (y :: a).dropLast)).map f := by
      rw [hlast, hfront]
      simp only [adjust, moveDown_map h, moveToLast_map, siftUp_map h, List.length_map]
    exact congrArg (fun rest => some (f x, rest)) hadjust

/-- **Images**: which places are taken when depends on the comparison alone. -/
theorem drain_map (h : ∀ x y, lt' (f x) (f y) = lt x y) (n : Nat) (a : List α) :
    drain lt' n (a.map f) = (drain lt n a).map f := by
  induction n generalizing a with
  | zero => rfl
  | succ n ih =>
    rw [drain, drain, pop_map h]
    cases pop lt a with
    | none => rfl
    | some r => exact congrArg (f r.1 :: ·) (ih r.2)

end Map

end BinaryHeap
