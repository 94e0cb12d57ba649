import Mathlib.Data.List.Basic
import Mathlib.Tactic

/-!
# Growable arrays

A growable array owns a storage of which the first `size` cells are in use. Here the other
cells are part of the state too, so that what a program does to them through a raw pointer can
be followed.

Nothing is known of the cells that an allocation returns, nor how many there are beyond those
asked for: both are in the `Block` that an operation gets as an argument.

`take_store` is about a program that reserves, writes behind the cells in use and lets the array
grow afterwards. Growing fills the new cells, so only what lies in front of the old size
survives.
-/

/-- What an allocation returns: the contents of the cells, and how many there are too many. -/
structure Block (α : Type) where
  cells : Nat → α
  spare : Nat := 0

/-- Some of its cells. -/
def Block.slice {α : Type} (block : Block α) (start n : Nat) : List α :=
  (List.range' start n).map block.cells

@[simp] theorem Block.length_slice {α : Type} (block : Block α) (start n : Nat) :
    (block.slice start n).length = n := by
  simp [Block.slice]

/-- A storage and the number of cells in use. -/
structure Growable (α : Type) where
  storage : List α
  size : Nat
  size_le : size ≤ storage.length

namespace Growable

variable {α : Type}

/-- No elements, and no storage. -/
def empty : Growable α := ⟨[], 0, Nat.le_refl 0⟩

/-- The elements that fit. -/
def capacity (v : Growable α) : Nat := v.storage.length

/-- The cells in use. -/
def used (v : Growable α) : List α := v.storage.take v.size

@[simp] theorem length_used (v : Growable α) : v.used.length = v.size := by
  rw [used, List.length_take, Nat.min_eq_left v.size_le]

/-! ## Operations -/

/-- The storage stays. -/
def clear (v : Growable α) : Growable α := { v with size := 0, size_le := Nat.zero_le _ }

/-- Room for `n` elements. -/
def reserve (v : Growable α) (n : Nat) (block : Block α) : Growable α :=
  if n ≤ v.capacity then v
  else
    { storage := v.used ++ block.slice v.size (n + block.spare - v.size)
      size := v.size
      size_le := by simp }

/-- `n` elements. New ones are `zero`. -/
def resize (v : Growable α) (n : Nat) (zero : α) (block : Block α) : Growable α :=
  if h : n ≤ v.size then { v with size := n, size_le := Nat.le_trans h v.size_le }
  else
    { storage := v.used ++ List.replicate (n - v.size) zero ++
        if n ≤ v.capacity then v.storage.drop n else block.slice n block.spare
      size := n
      size_le := by
        simp only [List.length_append, length_used, List.length_replicate]
        omega }

/-- The elements, in a new storage. -/
def copy (v : Growable α) (block : Block α) : Growable α where
  storage := v.used ++ block.slice v.size block.spare
  size := v.size
  size_le := by simp

/-- Writes cells through a pointer into the storage; `none` outside of it. -/
def write (v : Growable α) (pos : Nat) (data : List α) : Option (Growable α) :=
  if h : pos + data.length ≤ v.capacity then
    some
      { storage := v.storage.take pos ++ data ++ v.storage.drop (pos + data.length)
        size := v.size
        size_le := by
          have hlen := v.size_le
          simp only [capacity] at h
          simp only [List.length_append, List.length_take, List.length_drop]
          omega }
  else none

/-! ## What they leave alone -/

@[simp] theorem size_reserve (v : Growable α) (n : Nat) (block : Block α) :
    (v.reserve n block).size = v.size := by
  unfold reserve
  split <;> rfl

theorem le_capacity_reserve (v : Growable α) (n : Nat) (block : Block α) :
    n ≤ (v.reserve n block).capacity := by
  unfold reserve
  split
  · assumption
  · simp only [capacity, List.length_append, length_used, Block.length_slice]
    omega

theorem capacity_le_reserve (v : Growable α) (n : Nat) (block : Block α) :
    v.capacity ≤ (v.reserve n block).capacity := by
  by_cases hn : n ≤ v.capacity
  · rw [reserve, if_pos hn]
  · exact Nat.le_trans (Nat.le_of_not_le hn) (v.le_capacity_reserve n block)

/-- A new storage has the elements of the old one. -/
theorem take_reserve (v : Growable α) (n : Nat) (block : Block α) {k : Nat} (hk : k ≤ v.size) :
    (v.reserve n block).storage.take k = v.storage.take k := by
  unfold reserve
  split
  · rfl
  · rw [List.take_append_of_le_length (by rw [length_used]; exact hk), used, List.take_take,
      Nat.min_eq_left hk]

@[simp] theorem size_resize (v : Growable α) (n : Nat) (zero : α) (block : Block α) :
    (v.resize n zero block).size = n := by
  unfold resize
  split <;> rfl

theorem le_capacity_resize (v : Growable α) (n : Nat) (zero : α) (block : Block α) :
    n ≤ (v.resize n zero block).capacity := by
  have hle := (v.resize n zero block).size_le
  rw [size_resize] at hle
  exact hle

/-- The storage does not shrink. -/
theorem capacity_le_resize (v : Growable α) (n : Nat) (zero : α) (block : Block α) :
    v.capacity ≤ (v.resize n zero block).capacity := by
  by_cases hn : v.capacity ≤ n
  · exact Nat.le_trans hn (v.le_capacity_resize n zero block)
  · have hle : n ≤ v.capacity := Nat.le_of_not_le hn
    unfold resize
    split
    · exact Nat.le_refl _
    · simp only [capacity, List.length_append, length_used, List.length_replicate,
        List.length_drop]
      omega

/-- After `resize` the old elements are there, and then only new ones. -/
theorem take_resize (v : Growable α) {n k : Nat} (hk : k ≤ n) (zero : α) (block : Block α) :
    (v.resize n zero block).storage.take k
      = v.used.take k ++ List.replicate (k - v.size) zero := by
  unfold resize
  split
  · next hle =>
    rw [Nat.sub_eq_zero_of_le (Nat.le_trans hk hle), List.replicate_zero, List.append_nil, used,
      List.take_take, Nat.min_eq_left (Nat.le_trans hk hle)]
  · next hlt =>
    rw [List.take_append_of_le_length, List.take_append, length_used, List.take_replicate,
      Nat.min_eq_left (Nat.sub_le_sub_right hk _)]
    rw [List.length_append, length_used, List.length_replicate]
    omega

theorem write_spec (v : Growable α) (pos : Nat) (data : List α)
    (h : pos + data.length ≤ v.capacity) :
    ∃ v', v.write pos data = some v' ∧ v'.size = v.size ∧ v'.capacity = v.capacity ∧
      v'.storage.take (pos + data.length) = v.storage.take pos ++ data := by
  refine ⟨_, dif_pos h, rfl, ?_, ?_⟩
  · rw [capacity] at h ⊢
    simp only [List.length_append, List.length_take, List.length_drop, capacity]
    omega
  · apply List.take_left'
    rw [capacity] at h
    rw [List.length_append, List.length_take]
    omega

/-! ## Writing behind the elements -/

/-- **Write first, grow later**: of the bytes up to the end of what was written, those behind the
old size are new ones. -/
theorem take_store (v : Growable α) {pos : Nat} {data : List α} {v' : Growable α} (zero : α)
    (block block' : Block α) (h : (v.reserve (pos + data.length) block).write pos data = some v') :
    (v'.resize (max (pos + data.length) v'.size) zero block').storage.take (pos + data.length)
      = (v.storage.take pos ++ data).take v.size ++
        List.replicate (pos + data.length - v.size) zero := by
  obtain ⟨w, hw, hsize, -, hwritten⟩ :=
    write_spec _ pos data (v.le_capacity_reserve (pos + data.length) block)
  obtain rfl : w = v' := Option.some.inj (hw.symm.trans h)
  rw [size_reserve] at hsize
  -- in front of the old size the reserved storage is the old one
  have hfront : ((v.reserve (pos + data.length) block).storage.take pos ++ data).take v.size
      = (v.storage.take pos ++ data).take v.size := by
    rcases Nat.le_total pos v.size with hpos | hpos
    · rw [take_reserve v _ block hpos]
    · have hle := v.size_le
      have hle' := (v.reserve (pos + data.length) block).size_le
      rw [size_reserve] at hle'
      rw [List.take_append_of_le_length (by rw [List.length_take]; omega),
        List.take_append_of_le_length (by rw [List.length_take]; omega), List.take_take,
        List.take_take, Nat.min_eq_left hpos, take_reserve v _ block (Nat.le_refl _)]
  rw [take_resize w (Nat.le_max_left ..), used, hsize, ← hfront, ← hwritten, List.take_take,
    List.take_take, Nat.min_comm]

/-- So the write is lost unless it fits, or writes what growing fills in. -/
theorem store_kept_iff (v : Growable α) {pos : Nat} (hpos : pos ≤ v.capacity) {data : List α}
    {v' : Growable α} (zero : α) (block block' : Block α)
    (h : (v.reserve (pos + data.length) block).write pos data = some v') :
    (v'.resize (max (pos + data.length) v'.size) zero block').storage.take (pos + data.length)
        = v.storage.take pos ++ data ↔
      ∀ x ∈ (v.storage.take pos ++ data).drop v.size, x = zero := by
  rw [take_store v zero block block' h]
  generalize hwhole : v.storage.take pos ++ data = whole
  have hlen : (whole.drop v.size).length = pos + data.length - v.size := by
    rw [← hwhole, List.length_drop, List.length_append, List.length_take]
    rw [capacity] at hpos
    omega
  constructor
  · intro heq
    nth_rewrite 2 [← List.take_append_drop v.size whole] at heq
    rw [← List.append_cancel_left heq]
    exact fun x hx => List.eq_of_mem_replicate hx
  · intro hzero
    rw [← List.eq_replicate_iff.mpr ⟨hlen, hzero⟩, List.take_append_drop]

end Growable
