import EcsAsioServer.Lib.Transition

/-!
# The memory pool (`memory_pool.hpp`)

`MemoryPool<T>` hands out objects and takes them back. It keeps a queue of free objects
and a number, `pool_size_`, that is meant to be the number of all its objects.

- `MemoryPool`: the pool, with the calls of `make_unique` numbered so that objects can be
  told apart; an `acquire` that still finds the queue empty after `expand_pool` calls
  `front` on an empty queue, and is `none`.
- `PoolUse.Whole`: free and acquired objects together are the objects that were made, each
  of them once.
- `pool_accounting_iff`: `expand_pool` doubles the number and pushes as many objects,
  `reserve` pushes objects and leaves the number. So the number is right as long as no
  `reserve` pushes, and an empty pool of size 0 has nothing to double.
-/

namespace EcsAsioServer.Game

open Transition

/-- An object that `std::make_unique` made, with its address. -/
structure PoolObject (T : Type) where
  address : Nat
  value : T
deriving DecidableEq, Repr

/-- The pool. The `made` objects so far have the addresses below `made`. -/
structure MemoryPool (T : Type) where
  freeObjects : List (PoolObject T)
  poolSize : UInt64
  made : Nat
deriving DecidableEq, Repr

namespace MemoryPool

variable {T : Type} [Inhabited T]

/-- `free_objects_.push(std::make_unique<T>())`; the object is `T{}`. -/
def pushNew (p : MemoryPool T) : MemoryPool T :=
  { p with freeObjects := p.freeObjects ++ [⟨p.made, default⟩], made := p.made + 1 }

/-- The constructor. -/
def make (initialSize : UInt64) : MemoryPool T :=
  pushNew^[initialSize.toNat] { freeObjects := [], poolSize := initialSize, made := 0 }

/-- The loop runs from the old size to the new one, which wraps around. -/
def expandPool (p : MemoryPool T) : MemoryPool T :=
  let newSize := p.poolSize * 2
  { pushNew^[newSize.toNat - p.poolSize.toNat] p with poolSize := newSize }

/-- The first lines of `acquire`: an empty pool is expanded. -/
def expandIfEmpty (p : MemoryPool T) : MemoryPool T :=
  if p.freeObjects.isEmpty then p.expandPool else p

/-- `none` when `front` is called on an empty queue. -/
def acquire (p : MemoryPool T) : Option (PoolObject T × MemoryPool T) :=
  match p.expandIfEmpty.freeObjects with
  | [] => none
  | obj :: rest => some (obj, { p.expandIfEmpty with freeObjects := rest })

/-- A null pointer is ignored, an object is reset to `T{}` first. -/
def release (p : MemoryPool T) : Option (PoolObject T) → MemoryPool T
  | none => p
  | some obj => { p with freeObjects := p.freeObjects ++ [{ obj with value := default }] }

/-- New objects until `size` are free; `pool_size_` is not changed. -/
def reserve (p : MemoryPool T) (size : UInt64) : MemoryPool T :=
  pushNew^[size.toNat - p.freeObjects.length] p

/-- `get_free_count`. -/
def getFreeCount (p : MemoryPool T) : Nat := p.freeObjects.length

/-- `get_total_count`. -/
def getTotalCount (p : MemoryPool T) : UInt64 := p.poolSize

theorem pushNew_iterate (p : MemoryPool T) (n : Nat) :
    pushNew^[n] p = { p with
      freeObjects := p.freeObjects ++ (List.range' p.made n).map (⟨·, default⟩)
      made := p.made + n } := by
  induction n with
  | zero => simp
  | succ n ih =>
    rw [Function.iterate_succ_apply', ih, pushNew, List.range'_concat]
    simp [Nat.add_assoc]

@[simp] theorem poolSize_pushNew_iterate (p : MemoryPool T) (n : Nat) :
    (pushNew^[n] p).poolSize = p.poolSize := by
  rw [pushNew_iterate]

@[simp] theorem made_pushNew_iterate (p : MemoryPool T) (n : Nat) :
    (pushNew^[n] p).made = p.made + n := by
  rw [pushNew_iterate]

@[simp] theorem length_pushNew_iterate (p : MemoryPool T) (n : Nat) :
    (pushNew^[n] p).freeObjects.length = p.freeObjects.length + n := by
  simp [pushNew_iterate]

/-! ## What `acquire` finds -/

/-- There is a free object, or a size that is not 0 and can be doubled. -/
def CanServe (p : MemoryPool T) : Prop :=
  p.freeObjects = [] → 0 < p.poolSize.toNat ∧ p.poolSize.toNat < 2 ^ 63

variable {p : MemoryPool T}

theorem poolSize_expandPool (h : p.poolSize.toNat < 2 ^ 63) :
    p.expandPool.poolSize.toNat = 2 * p.poolSize.toNat := by
  simp only [expandPool, UInt64.toNat_mul]
  have htwo : (2 : UInt64).toNat = 2 := rfl
  rw [htwo]
  omega

theorem made_expandPool (h : p.poolSize.toNat < 2 ^ 63) :
    p.expandPool.made = p.made + p.poolSize.toNat := by
  have hsize := poolSize_expandPool h
  simp only [expandPool] at hsize
  simp only [expandPool, made_pushNew_iterate, hsize]
  omega

/-- A size of 0 stays 0, and one of at least 2 ^ 63 wraps around to a smaller one: the
loop of `expand_pool` does not run. -/
theorem expandIfEmpty_eq_nil_iff (p : MemoryPool T) :
    p.expandIfEmpty.freeObjects = [] ↔ ¬p.CanServe := by
  have htwo : (2 : UInt64).toNat = 2 := rfl
  have hlt := p.poolSize.toNat_lt
  rw [CanServe, expandIfEmpty, Classical.not_imp]
  by_cases hempty : p.freeObjects = []
  · rw [if_pos (List.isEmpty_iff.mpr hempty), expandPool, ← List.length_eq_zero_iff]
    simp only [length_pushNew_iterate, hempty, UInt64.toNat_mul, htwo, List.length_nil, true_and]
    omega
  · rw [if_neg (mt List.isEmpty_iff.mp hempty)]
    simp only [hempty, false_and]

theorem acquire_eq_none_iff (p : MemoryPool T) : p.acquire = none ↔ ¬p.CanServe := by
  rw [← expandIfEmpty_eq_nil_iff, acquire]
  cases p.expandIfEmpty.freeObjects with
  | nil => exact iff_of_true rfl rfl
  | cons obj rest => exact iff_of_false (Option.some_ne_none _) (List.cons_ne_nil _ _)

/-- What is handed out is the front of the queue, of a pool that was expanded if it was
empty. -/
theorem acquire_cases {q : MemoryPool T} {obj : PoolObject T} (h : p.acquire = some (obj, q)) :
    p.CanServe ∧ ∃ rest, p.expandIfEmpty.freeObjects = obj :: rest ∧
      q = { p.expandIfEmpty with freeObjects := rest } := by
  have hserve : p.CanServe := by
    by_contra hserve
    rw [(acquire_eq_none_iff p).mpr hserve] at h
    cases h
  refine ⟨hserve, ?_⟩
  rw [acquire] at h
  cases hfree : p.expandIfEmpty.freeObjects with
  | nil => exact absurd hserve ((expandIfEmpty_eq_nil_iff p).mp hfree)
  | cons head rest =>
    rw [hfree] at h
    cases h
    exact ⟨rest, rfl, rfl⟩

/-! ## Free and acquired objects -/

/-- The free objects and the ones that are out are the objects that were made. -/
structure Whole (initialSize : UInt64) (p : MemoryPool T) (acquired : List Nat) : Prop where
  perm : (p.freeObjects.map PoolObject.address ++ acquired).Perm (List.range p.made)
  reset : ∀ obj ∈ p.freeObjects, obj.value = default
  size_le : p.poolSize.toNat ≤ p.made
  size_eq_zero : p.poolSize = 0 ↔ initialSize = 0

/-- `get_total_count() == get_free_count()` plus the number of acquired objects. -/
def Accounted (p : MemoryPool T) (acquired : List Nat) : Prop :=
  p.getTotalCount.toNat = p.getFreeCount + acquired.length

namespace Whole

variable {initialSize : UInt64} {p : MemoryPool T} {acquired : List Nat}

/-- The number is right when it counts the objects that were made. -/
theorem accounted_iff (h : p.Whole initialSize acquired) :
    p.Accounted acquired ↔ p.poolSize.toNat = p.made := by
  have hlen := h.perm.length_eq
  rw [List.length_append, List.length_map, List.length_range] at hlen
  rw [Accounted, getTotalCount, getFreeCount, hlen]

variable {obj : PoolObject T}

/-- An object is free or out, and out only once. -/
theorem not_mem_acquired (h : p.Whole initialSize acquired) (hobj : obj ∈ p.freeObjects) :
    obj.address ∉ acquired := by
  have hnodup := h.perm.nodup_iff.mpr List.nodup_range
  exact List.disjoint_of_nodup_append hnodup (List.mem_map_of_mem hobj)

theorem pushNew (h : p.Whole initialSize acquired) : p.pushNew.Whole initialSize acquired where
  perm := by
    simp only [MemoryPool.pushNew, List.map_append, List.map_cons, List.map_nil,
      List.range_succ, List.append_assoc]
    calc (p.freeObjects.map PoolObject.address ++ ([p.made] ++ acquired)).Perm
          (p.freeObjects.map PoolObject.address ++ (acquired ++ [p.made])) :=
            List.perm_append_comm.append_left _
      _ = p.freeObjects.map PoolObject.address ++ acquired ++ [p.made] :=
            (List.append_assoc ..).symm
      List.Perm _ (List.range p.made ++ [p.made]) := h.perm.append_right _
  reset := by
    intro obj hobj
    rcases List.mem_append.mp hobj with hobj | hobj
    · exact h.reset obj hobj
    · rw [List.mem_singleton.mp hobj]
  size_le := h.size_le.trans (Nat.le_succ _)
  size_eq_zero := h.size_eq_zero

theorem pushNew_iterate (h : p.Whole initialSize acquired) (n : Nat) :
    (MemoryPool.pushNew^[n] p).Whole initialSize acquired := by
  induction n with
  | zero => exact h
  | succ n ih =>
    rw [Function.iterate_succ_apply']
    exact ih.pushNew

theorem make (initialSize : UInt64) : (make initialSize : MemoryPool T).Whole initialSize [] := by
  rw [MemoryPool.make, MemoryPool.pushNew_iterate]
  exact {
    perm := by simp [Function.comp_def, List.range_eq_range']
    reset := by simp
    size_le := by simp
    size_eq_zero := Iff.rfl }

/-- Doubling the size and pushing as many objects keeps the numbers as they are to each
other. -/
theorem expandIfEmpty (h : p.Whole initialSize acquired) (hserve : p.CanServe) :
    p.expandIfEmpty.Whole initialSize acquired ∧
      (p.expandIfEmpty.Accounted acquired ↔ p.Accounted acquired) := by
  rw [MemoryPool.expandIfEmpty]
  by_cases hempty : p.freeObjects = []
  · obtain ⟨hpos, hlt⟩ := hserve hempty
    have hsize := poolSize_expandPool hlt
    have hmade := made_expandPool hlt
    have hle := h.size_le
    have hwhole : p.expandPool.Whole initialSize acquired := by
      have hpushed := h.pushNew_iterate ((p.poolSize * 2).toNat - p.poolSize.toNat)
      refine ⟨hpushed.perm, hpushed.reset, by omega, ?_⟩
      rw [← h.size_eq_zero, ← UInt64.toNat_inj, ← UInt64.toNat_inj, hsize, UInt64.toNat_zero]
      omega
    rw [if_pos (List.isEmpty_iff.mpr hempty), hwhole.accounted_iff, h.accounted_iff]
    exact ⟨hwhole, by omega⟩
  · rw [if_neg (mt List.isEmpty_iff.mp hempty)]
    exact ⟨h, Iff.rfl⟩

theorem take {rest : List (PoolObject T)} (h : p.Whole initialSize acquired)
    (hfree : p.freeObjects = obj :: rest) :
    ({ p with freeObjects := rest } : MemoryPool T).Whole initialSize
      (obj.address :: acquired) where
  perm := by
    have hperm := h.perm
    rw [hfree] at hperm
    exact List.perm_middle.trans hperm
  reset := fun o ho => h.reset o (by rw [hfree]; exact List.mem_cons_of_mem _ ho)
  size_le := h.size_le
  size_eq_zero := h.size_eq_zero

theorem release (h : p.Whole initialSize acquired) (hobj : obj.address ∈ acquired) :
    (p.release (some obj)).Whole initialSize (acquired.erase obj.address) where
  perm := by
    simp only [MemoryPool.release, List.map_append, List.map_cons, List.map_nil,
      List.append_assoc]
    exact ((List.perm_cons_erase hobj).symm.append_left _).trans h.perm
  reset := by
    intro o ho
    rcases List.mem_append.mp ho with ho | ho
    · exact h.reset o ho
    · rw [List.mem_singleton.mp ho]
  size_le := h.size_le
  size_eq_zero := h.size_eq_zero

end Whole

end MemoryPool

/-! ## Runs -/

/-- The pool and the addresses of the objects that were acquired and not released. -/
structure PoolUse (T : Type) where
  pool : MemoryPool T
  acquired : List Nat

/-- The calls of a pool. -/
inductive PoolOp (T : Type) where
  | acquire
  | release (obj : Option (PoolObject T))
  | reserve (size : UInt64)

variable {T : Type} [Inhabited T]

/-- One call. Only objects that are out are released, with the values they have by then. -/
inductive PoolStep : PoolUse T → PoolOp T → PoolUse T → Prop where
  | acquire {s : PoolUse T} {obj : PoolObject T} {pool : MemoryPool T} :
      s.pool.acquire = some (obj, pool) → PoolStep s .acquire ⟨pool, obj.address :: s.acquired⟩
  | release {s : PoolUse T} {obj : PoolObject T} : obj.address ∈ s.acquired →
      PoolStep s (.release (some obj))
        ⟨s.pool.release (some obj), s.acquired.erase obj.address⟩
  | releaseNull {s : PoolUse T} : PoolStep s (.release none) ⟨s.pool.release none, s.acquired⟩
  | reserve {s : PoolUse T} {size : UInt64} :
      PoolStep s (.reserve size) ⟨s.pool.reserve size, s.acquired⟩

namespace PoolUse

/-- A pool that was just constructed. -/
def make (initialSize : UInt64) : PoolUse T := ⟨.make initialSize, []⟩

/-- The call does not make `reserve` push an object. -/
def PushesNothing (s : PoolUse T) : PoolOp T → Prop
  | .reserve size => size.toNat ≤ s.pool.getFreeCount
  | _ => True

end PoolUse

variable {initialSize : UInt64} {s t : PoolUse T} {op : PoolOp T}

/-- A call keeps the objects together, and the number right unless `reserve` pushes. -/
theorem PoolStep.whole (hstep : PoolStep s op t) (h : s.pool.Whole initialSize s.acquired) :
    t.pool.Whole initialSize t.acquired ∧
      (t.pool.Accounted t.acquired ↔ s.pool.Accounted s.acquired ∧ s.PushesNothing op) := by
  cases hstep with
  | acquire hacquire =>
    obtain ⟨hserve, rest, hfree, rfl⟩ := MemoryPool.acquire_cases hacquire
    obtain ⟨hwhole, haccounted⟩ := h.expandIfEmpty hserve
    have htaken := hwhole.take hfree
    refine ⟨htaken, ?_⟩
    rw [htaken.accounted_iff, ← hwhole.accounted_iff, haccounted]
    exact (and_iff_left trivial).symm
  | release hobj =>
    have hreleased := h.release hobj
    refine ⟨hreleased, ?_⟩
    rw [hreleased.accounted_iff, h.accounted_iff]
    exact (and_iff_left trivial).symm
  | releaseNull => exact ⟨h, (and_iff_left trivial).symm⟩
  | @reserve size =>
    have hreserved := h.pushNew_iterate (size.toNat - s.pool.freeObjects.length)
    have hle := h.size_le
    refine ⟨hreserved, ?_⟩
    rw [MemoryPool.reserve, hreserved.accounted_iff, h.accounted_iff,
      MemoryPool.poolSize_pushNew_iterate, MemoryPool.made_pushNew_iterate,
      PoolUse.PushesNothing, MemoryPool.getFreeCount]
    omega

/-- **When the pool's numbers are right.** The total count is the free count and the
acquired objects together exactly as long as no `reserve` pushed an object. `acquire`
takes from an empty queue exactly when no object is free and the pool was constructed
with size 0, or can not be doubled any more. What it returns is held by nobody. -/
theorem pool_accounting_iff {ops : List (PoolOp T)}
    (hrun : Run PoolStep (PoolUse.make initialSize) ops s) :
    (s.pool.Accounted s.acquired ↔
      Run (guarded PoolUse.PushesNothing PoolStep) (PoolUse.make initialSize) ops s) ∧
    (s.pool.acquire = none ↔
      s.pool.freeObjects = [] ∧ (initialSize = 0 ∨ 2 ^ 63 ≤ s.pool.poolSize.toNat)) ∧
    ∀ obj pool, s.pool.acquire = some (obj, pool) →
      obj.address ∉ s.acquired ∧ obj.value = default := by
  have hkeep : ∀ (s : PoolUse T) op t, s.pool.Whole initialSize s.acquired → PoolStep s op t →
      t.pool.Whole initialSize t.acquired := fun s op t h hstep => (hstep.whole h).1
  have hmake := MemoryPool.Whole.make (T := T) initialSize
  have hwhole := hrun.invariant hmake hkeep
  refine ⟨?_, ?_, ?_⟩
  · apply hrun.guarded_iff (I := fun s => s.pool.Whole initialSize s.acquired)
      (P := fun s => s.pool.Accounted s.acquired) hmake ?_ hkeep
      fun s op t h hstep => (hstep.whole h).2
    apply hmake.accounted_iff.mpr
    simp [MemoryPool.make]
  · rw [MemoryPool.acquire_eq_none_iff, MemoryPool.CanServe, Classical.not_imp,
      ← hwhole.size_eq_zero, ← UInt64.toNat_inj, UInt64.toNat_zero]
    refine and_congr_right fun _ => ?_
    omega
  · intro obj pool hacquire
    obtain ⟨hserve, rest, hfree, -⟩ := MemoryPool.acquire_cases hacquire
    have hmem : obj ∈ s.pool.expandIfEmpty.freeObjects := by
      rw [hfree]
      exact List.mem_cons_self
    have hready := (hwhole.expandIfEmpty hserve).1
    exact ⟨hready.not_mem_acquired hmem, hready.reset obj hmem⟩

/-- The second `acquire` doubles a pool of one object. -/
theorem pool_accounting_expanded :
    ∃ s : PoolUse Nat, Run PoolStep (PoolUse.make 1) [.acquire, .acquire] s ∧
      s.acquired = [1, 0] ∧ (s.pool.Accounted s.acquired ↔
        Run (guarded PoolUse.PushesNothing PoolStep) (PoolUse.make 1) [.acquire, .acquire] s) := by
  have hfirst : (PoolUse.make 1 : PoolUse Nat).pool.acquire = some (⟨0, 0⟩, ⟨[], 1, 1⟩) := rfl
  have hsecond : (⟨[], 1, 1⟩ : MemoryPool Nat).acquire = some (⟨1, 0⟩, ⟨[], 2, 2⟩) := rfl
  have hrun := (Run.single (PoolStep.acquire hfirst)).snoc
    (PoolStep.acquire (s := ⟨⟨[], 1, 1⟩, [0]⟩) hsecond)
  exact ⟨_, hrun, rfl, (pool_accounting_iff hrun).1⟩

/-- The first `acquire` of a pool of size 0 takes from an empty queue. After `reserve(3)`
a pool of size 1 has three free objects and says that it has one. -/
theorem pool_miscounts :
    (PoolUse.make 0 : PoolUse Nat).pool.acquire = none ∧
    ∃ s : PoolUse Nat, Run PoolStep (PoolUse.make 1) [.reserve 3] s ∧
      s.pool.getTotalCount = 1 ∧ s.pool.getFreeCount = 3 ∧ s.acquired = [] :=
  ⟨rfl, _, Run.single .reserve, rfl, rfl, rfl⟩

end EcsAsioServer.Game
