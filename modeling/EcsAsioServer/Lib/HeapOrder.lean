import EcsAsioServer.Lib.BinaryHeap

/-!
# The order of a binary heap

`Ordered key a`: no value of the heap is above its parent. The comparison is by a key in a linear
order, and values with equal keys are not told apart.

- `push_ordered`, `pop_ordered`: both operations keep the order. While a value is on its way the
  list has a hole. What is around the hole is `Holed`: all pairs that do not touch it are in
  order, and its children are in order with its parent. Both directions of the hole keep that
  (`Holed.up`, `Holed.down`).
- `pop_greatest`: the value that is popped is one of the greatest.
-/

namespace BinaryHeap

universe u v

variable {α : Type u} {β : Type v} [LinearOrder β] {lt : α → α → Bool} {key : α → β}

/-- No value is above its parent. -/
def Ordered (key : α → β) (a : List α) : Prop :=
  ∀ i x y, 0 < i → a[i]? = some x → a[(i - 1) / 2]? = some y → key x ≤ key y

/-- `Ordered` around a hole. -/
structure Holed (key : α → β) (hole : Nat) (a : List α) : Prop where
  apart : ∀ i x y, 0 < i → i ≠ hole → (i - 1) / 2 ≠ hole → a[i]? = some x →
    a[(i - 1) / 2]? = some y → key x ≤ key y
  across : ∀ i x y, 0 < i → 0 < hole → (i - 1) / 2 = hole → a[i]? = some x →
    a[(hole - 1) / 2]? = some y → key x ≤ key y

variable {a : List α} {x : α} {hole : Nat}

theorem Ordered.holed_zero (h : Ordered key a) : Holed key 0 a where
  apart i x y hi _ _ hx hy := h i x y hi hx hy
  across _ _ _ _ hhole := absurd hhole (Nat.lt_irrefl 0)

/-- What is in the other places after a move of the hole. -/
theorem getElem?_set_of_ne {i j : Nat} {v : α} (h : i ≠ j) :
    (a.set j v)[i]? = a[i]? :=
  List.getElem?_set_ne h.symm

theorem eq_of_getElem?_set {i : Nat} {v : α} (h : (a.set i v)[i]? = some x) :
    x = v := by
  have hi : i < a.length := by
    simpa using (List.getElem?_eq_some_iff.mp h).1
  rw [List.getElem?_set_self hi, Option.some.injEq] at h
  exact h.symm

/-- The value `v` of the parent goes into the hole, and the hole to the parent. -/
theorem Holed.up {v : α} (h : Holed key hole a) (hhole : 0 < hole)
    (hv : a[(hole - 1) / 2]? = some v) : Holed key ((hole - 1) / 2) (a.set hole v) where
  apart i x y hi hne hparent hx hy := by
    have hi' : i ≠ hole := by
      rintro rfl
      exact hparent rfl
    rw [getElem?_set_of_ne hi'] at hx
    by_cases hchild : (i - 1) / 2 = hole
    · -- a child of the old hole, which holds the value now
      rw [hchild] at hy
      rw [eq_of_getElem?_set hy]
      exact h.across i x v hi hhole hchild hx hv
    · rw [getElem?_set_of_ne hchild] at hy
      exact h.apart i x y hi hi' hchild hx hy
  across i x y hi hpos hchild hx hy := by
    have hgrand : ((hole - 1) / 2 - 1) / 2 ≠ hole := by omega
    rw [getElem?_set_of_ne hgrand] at hy
    have hvy : key v ≤ key y :=
      h.apart ((hole - 1) / 2) v y hpos (by omega) hgrand hv hy
    by_cases hi' : i = hole
    · rw [hi'] at hx
      rw [eq_of_getElem?_set hx]
      exact hvy
    · -- the sibling of the old hole
      rw [getElem?_set_of_ne hi'] at hx
      have hxv := h.apart i x v hi hi' (by omega) hx (by rw [hchild]; exact hv)
      exact hxv.trans hvy

/-- The value `v` of the greatest child goes into the hole, and the hole to the child. -/
theorem Holed.down {child : Nat} {v : α} (h : Holed key hole a) (hchild : 0 < child)
    (hparent : (child - 1) / 2 = hole) (hv : a[child]? = some v)
    (hgreatest : ∀ i x, 0 < i → (i - 1) / 2 = hole → a[i]? = some x → key x ≤ key v) :
    Holed key child (a.set hole v) where
  apart i x y hi hne hnot hx hy := by
    by_cases hup : (i - 1) / 2 = hole
    · -- the sibling of the new hole
      rw [hup] at hy
      rw [getElem?_set_of_ne (by omega)] at hx
      rw [eq_of_getElem?_set hy]
      exact hgreatest i x hi hup hx
    · rw [getElem?_set_of_ne hup] at hy
      by_cases hi' : i = hole
      · subst hi'
        rw [eq_of_getElem?_set hx]
        exact h.across child v y hchild hi hparent hv hy
      · rw [getElem?_set_of_ne hi'] at hx
        exact h.apart i x y hi hi' hup hx hy
  across i x y hi hpos hup hx hy := by
    rw [hparent] at hy
    rw [getElem?_set_of_ne (by omega)] at hx
    rw [eq_of_getElem?_set hy]
    exact h.apart i x v hi (by omega) (by omega) hx (by rw [hup]; exact hv)

/-- The value is put into the hole: it is not below the children and not above the parent. -/
theorem Holed.fill {value : α} (h : Holed key hole a)
    (hbelow : ∀ i x, 0 < i → (i - 1) / 2 = hole → a[i]? = some x → key x ≤ key value)
    (habove : ∀ y, 0 < hole → a[(hole - 1) / 2]? = some y → key value ≤ key y) :
    Ordered key (a.set hole value) := by
  intro i x y hi hx hy
  by_cases hi' : i = hole
  · subst hi'
    rw [getElem?_set_of_ne (by omega)] at hy
    rw [eq_of_getElem?_set hx]
    exact habove y hi hy
  · rw [getElem?_set_of_ne hi'] at hx
    by_cases hup : (i - 1) / 2 = hole
    · rw [hup] at hy
      rw [eq_of_getElem?_set hy]
      exact hbelow i x hi hup hx
    · rw [getElem?_set_of_ne hup] at hy
      exact h.apart i x y hi hi' hup hx hy

section Key

variable (hlt : ∀ x y, lt x y = true ↔ key x < key y)

include hlt

variable {hole : Nat}

/-- Sifting up from a hole restores the order. -/
theorem siftUp_ordered {value : α} {rounds : Nat} {a : List α} (hrounds : hole ≤ rounds)
    (hhole : hole < a.length) (h : Holed key hole a)
    (hbelow : ∀ i x, 0 < i → (i - 1) / 2 = hole → a[i]? = some x → key x ≤ key value) :
    Ordered key (siftUp lt value rounds hole a) := by
  induction rounds generalizing hole a with
  | zero => exact h.fill hbelow fun y hpos => by omega
  | succ rounds ih =>
    have hparent : 0 < hole → a[(hole - 1) / 2]? = some (a.getD ((hole - 1) / 2) value) := by
      intro hpos
      rw [List.getD_eq_getElem _ _ (by omega), List.getElem?_eq_getElem]
    rw [siftUp]
    split
    next hup =>
      obtain ⟨hpos, hless⟩ := hup
      have hkey := (hlt _ _).mp hless
      refine ih (by omega) (by rw [List.length_set]; omega) (h.up hpos (hparent hpos)) ?_
      intro i x hi hchild hx
      by_cases hi' : i = hole
      · rw [hi'] at hx
        rw [eq_of_getElem?_set hx]
        exact hkey.le
      · -- the sibling of the old hole is not above the parent
        rw [getElem?_set_of_ne hi'] at hx
        have hle := h.apart i x _ hi hi' (by omega) hx (by rw [hchild]; exact hparent hpos)
        exact hle.trans hkey.le
    next hstop =>
      refine h.fill hbelow fun y hpos hy => ?_
      rw [hparent hpos, Option.some.injEq] at hy
      by_contra hless
      exact hstop ⟨hpos, (hlt _ _).mpr (by rw [hy]; exact not_le.mp hless)⟩

theorem push_ordered {x : α} {a : List α} (h : Ordered key a) : Ordered key (push lt x a) := by
  have hleaf : ∀ i y, 0 < i → (i - 1) / 2 = a.length → (a ++ [x])[i]? ≠ some y := by
    intro i y hi hup hy
    have hlen := (List.getElem?_eq_some_iff.mp hy).1
    rw [List.length_append, List.length_singleton] at hlen
    omega
  refine siftUp_ordered hlt le_rfl (by simp) ⟨?_, ?_⟩ ?_
  · intro i y z hi hne hup hy hz
    have hlen := (List.getElem?_eq_some_iff.mp hy).1
    rw [List.length_append, List.length_singleton] at hlen
    rw [List.getElem?_append_left (by omega)] at hy hz
    exact h i y z hi hy hz
  · intro i y z hi _ hup hy
    exact absurd hy (hleaf i y hi hup)
  · intro i y hi hup hy
    exact absurd hy (hleaf i y hi hup)

/-- The hole ends with at most one child, and the child is the last value. -/
theorem moveDown_holed (value : α) {rounds : Nat} {a : List α}
    (hrounds : (a.length - 1) / 2 ≤ rounds + hole) (hhole : hole < a.length)
    (h : Holed key hole a) :
    Holed key (moveDown lt value rounds hole a).1 (moveDown lt value rounds hole a).2 ∧
      (a.length - 1) / 2 ≤ (moveDown lt value rounds hole a).1 := by
  induction rounds generalizing hole a with
  | zero => exact ⟨h, by simpa [moveDown] using hrounds⟩
  | succ rounds ih =>
    rw [moveDown]
    split
    next hdown =>
      have hat : ∀ i, i < a.length → a[i]? = some (a.getD i value) := fun i hi => by
        rw [List.getD_eq_getElem _ _ hi, List.getElem?_eq_getElem]
      have hleft := hat (2 * (hole + 1) - 1) (by omega)
      have hright := hat (2 * (hole + 1)) (by omega)
      -- a child is the left or the right one
      have hgreatest : ∀ v, key (a.getD (2 * (hole + 1) - 1) value) ≤ key v →
          key (a.getD (2 * (hole + 1)) value) ≤ key v →
          ∀ i x, 0 < i → (i - 1) / 2 = hole → a[i]? = some x → key x ≤ key v := by
        intro v hl hr i x hi hup hx
        rcases (by omega : i = 2 * (hole + 1) - 1 ∨ i = 2 * (hole + 1)) with rfl | rfl
        · rw [hleft, Option.some.injEq] at hx
          rwa [← hx]
        · rw [hright, Option.some.injEq] at hx
          rwa [← hx]
      dsimp only
      split
      next hless =>
        have hle := ((hlt _ _).mp hless).le
        have hmove := h.down (by omega) (by omega) hleft (hgreatest _ le_rfl hle)
        have hrest := ih (by rw [List.length_set]; omega) (by rw [List.length_set]; omega) hmove
        rwa [List.length_set] at hrest
      next hnot =>
        have hle : key (a.getD (2 * (hole + 1) - 1) value) ≤ key (a.getD (2 * (hole + 1)) value) :=
          not_lt.mp fun hless => hnot ((hlt _ _).mpr hless)
        have hmove := h.down (by omega) (by omega) hright (hgreatest _ hle le_rfl)
        have hrest := ih (by rw [List.length_set]; omega) (by rw [List.length_set]; omega) hmove
        rwa [List.length_set] at hrest
    next hstop => exact ⟨h, by omega⟩

omit hlt in
/-- The hole ends at a leaf. -/
theorem moveToLast_holed (value : α) {a : List α} (hhole : hole < a.length)
    (hlast : (a.length - 1) / 2 ≤ hole) (h : Holed key hole a) :
    Holed key (moveToLast value hole a).1 (moveToLast value hole a).2 ∧
      a.length ≤ 2 * (moveToLast value hole a).1 + 1 := by
  rw [moveToLast]
  split
  next hchild =>
    have hv : a[2 * (hole + 1) - 1]? = some (a.getD (2 * (hole + 1) - 1) value) := by
      rw [List.getD_eq_getElem _ _ (by omega), List.getElem?_eq_getElem]
    refine ⟨h.down (by omega) (by omega) hv ?_, by dsimp only; omega⟩
    intro i x hi hup hx
    have hlen := (List.getElem?_eq_some_iff.mp hx).1
    obtain rfl : i = 2 * (hole + 1) - 1 := by omega
    rw [hv, Option.some.injEq] at hx
    rw [hx]
  next hnone => exact ⟨h, by dsimp only; omega⟩

/-- So does moving the hole down and sifting up again. -/
theorem adjust_ordered (value : α) {a : List α} (ha : 0 < a.length) (h : Holed key 0 a) :
    Ordered key (adjust lt value a) := by
  have hdown := moveDown_moves lt value a.length 0 a ha
  have hlen : (moveDown lt value a.length 0 a).2.length = a.length := by
    have := hdown.perm.length_eq
    rwa [List.length_set, List.length_set] at this
  obtain ⟨hholed, hend⟩ := moveDown_holed hlt value
    (Nat.le_add_right_of_le ((Nat.div_le_self _ 2).trans (Nat.sub_le _ 1))) ha h
  obtain ⟨hholed', hleaf⟩ := moveToLast_holed value hdown.hole_lt (by rw [hlen]; exact hend)
    hholed
  have hmoves := moveToLast_moves value _ _ hdown.hole_lt
  have hlen' : (moveToLast value (moveDown lt value a.length 0 a).1
      (moveDown lt value a.length 0 a).2).2.length
        = (moveDown lt value a.length 0 a).2.length := by
    have := hmoves.perm.length_eq
    rwa [List.length_set, List.length_set] at this
  refine siftUp_ordered hlt le_rfl hmoves.hole_lt hholed' ?_
  -- a leaf has no children
  intro i x hi hup hx
  have hlt := (List.getElem?_eq_some_iff.mp hx).1
  omega

theorem pop_ordered {x : α} {a rest : List α} (h : Ordered key a)
    (hpop : pop lt a = some (x, rest)) : Ordered key rest := by
  match a with
  | [] => cases hpop
  | [y] =>
    cases hpop
    intro i x y _ hx
    cases hx
  | y :: z :: a =>
    cases hpop
    refine adjust_ordered hlt _ (Nat.succ_pos _) (Ordered.holed_zero ?_)
    -- the last value is taken away
    have hdrop : x :: (z :: a).dropLast = (x :: z :: a).dropLast := rfl
    rw [hdrop]
    intro i v w hi hv hw
    rw [List.getElem?_dropLast] at hv hw
    split at hv
    · split at hw
      · exact h i v w hi hv hw
      · cases hw
    · cases hv

end Key

/-- The top is one of the greatest values. -/
theorem Ordered.le_top {top : α} (h : Ordered key (top :: a)) (hx : x ∈ top :: a) :
    key x ≤ key top := by
  obtain ⟨i, hi⟩ := List.mem_iff_getElem?.mp hx
  clear hx
  induction i using Nat.strongRecOn generalizing x with
  | ind i ih =>
    rcases Nat.eq_zero_or_pos i with rfl | hpos
    · rw [List.getElem?_cons_zero, Option.some.injEq] at hi
      rw [hi]
    · have hlen := (List.getElem?_eq_some_iff.mp hi).1
      have hparent : (top :: a)[(i - 1) / 2]? = some ((top :: a).get ⟨(i - 1) / 2, by omega⟩) :=
        List.getElem?_eq_getElem _
      exact (h i x _ hpos hi hparent).trans (ih _ (by omega) hparent)

theorem pop_greatest {rest : List α} (h : Ordered key a) (hpop : pop lt a = some (x, rest)) :
    ∀ y ∈ a, key y ≤ key x := by
  match a with
  | [] => cases hpop
  | z :: a =>
    obtain ⟨rest', hrest'⟩ := exists_pop_cons lt z a
    rw [hrest'] at hpop
    cases hpop
    exact fun y hy => h.le_top hy

end BinaryHeap
