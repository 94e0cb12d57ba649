import Mathlib.Order.Interval.Finset.Nat
import EcsAsioServer.Lib.Leases
import EcsAsioServer.Lib.Transition

/-!
# The connection pools (`db_connection.hpp`, `db_connection.cpp`)

A `DbConnectionPool` opens its connections once and lends them by index: `acquire` takes
the front of `free_indices_` and returns a `DbConnection`, whose destructor and move
assignment release the index again.

- `MysqlClient` numbers what `mysql_init` returns and knows what is not closed yet.
- `DbState`, `HandleStep`: several pools and the places where handles live, with every
  interleaving of the calls. A move assignment that releases is two steps.
- `connections_exclusive`: every index of an open pool is free once or with one handle.
-/

namespace EcsAsioServer.Db

open Transition Leases

/-! ## The client library -/

/-- The client library. A `MYSQL*` is a number, in the order of `mysql_init`. -/
structure MysqlClient where
  made : Nat := 0
  live : Finset Nat := ∅

/-- `mysql_init`: the new connection is `m.made`. -/
def MysqlClient.init (m : MysqlClient) : MysqlClient where
  made := m.made + 1
  live := insert m.made m.live

/-- `mysql_close`. -/
def MysqlClient.close (m : MysqlClient) (c : Nat) : MysqlClient :=
  { m with live := m.live.erase c }

/-- How one round of `open` goes: `mysql_init` returns null, `mysql_real_connect` fails, or
there is a connection. -/
inductive Attempt where
  | noHandle
  | refused
  | connected
deriving DecidableEq, Repr

/-! ## The pool -/

/-- The pool, with the connection in each slot. -/
structure DbConnectionPool where
  poolSize : Nat
  connections : List (Option Nat) := []
  freeIndices : List Int := []
  isOpen : Bool := false

/-- A handle; `pool_` is null or names one of the pools. -/
structure DbConnection (π : Type) where
  pool : Option π := none
  index : Int := -1
deriving DecidableEq, Repr

variable {π η : Type}

/-- `valid`. -/
def DbConnection.valid (c : DbConnection π) : Bool := c.pool.isSome && decide (0 ≤ c.index)

namespace DbConnectionPool

/-- `close`: every connection is closed. -/
def close (p : DbConnectionPool) (m : MysqlClient) : DbConnectionPool × MysqlClient :=
  ({ p with connections := [], freeIndices := [], isOpen := false },
    { m with live := m.live \ (p.connections.filterMap id).toFinset })

/-- The loop of `open`; a failure closes what there is. -/
def openFrom (attempt : Nat → Attempt) :
    List Nat → DbConnectionPool → MysqlClient → Bool × DbConnectionPool × MysqlClient
  | [], p, m => (true, { p with isOpen := true }, m)
  | i :: is, p, m =>
    match attempt i with
    | .noHandle => (false, p.close m)
    | .refused => (false, p.close (m.init.close m.made))
    | .connected =>
      openFrom attempt is
        { p with
          connections := p.connections.set i (some m.made)
          freeIndices := p.freeIndices ++ [(i : Int)] }
        m.init

/-- `open`. -/
def openPool (p : DbConnectionPool) (attempt : Nat → Attempt) (m : MysqlClient) :
    Bool × DbConnectionPool × MysqlClient :=
  if p.isOpen then (true, p, m)
  else
    let resized := p.connections.take p.poolSize
      ++ List.replicate (p.poolSize - p.connections.length) none
    openFrom attempt (List.range p.poolSize) { p with connections := resized } m

/-- The wait is over when an index is free, or after five seconds with none. -/
def acquire (p : DbConnectionPool) (this : π) : DbConnection π × DbConnectionPool :=
  match p.freeIndices with
  | [] => ({}, p)
  | idx :: rest => (⟨some this, idx⟩, { p with freeIndices := rest })

/-- `release`. -/
def release (p : DbConnectionPool) (index : Int) : DbConnectionPool :=
  { p with freeIndices := p.freeIndices ++ [index] }

/-- `connections_[index]`, or `none` when there is no such element. -/
def raw (p : DbConnectionPool) (index : Int) : Option (Option Nat) :=
  if index < 0 then none else p.connections[index.toNat]?

/-! ## `open` -/

/-- The pool in round `i` of `open`, with the client library, when the connections are
numbered from `base` on and `live` were there before. -/
def opening (n base : Nat) (live : Finset Nat) (i : Nat) : DbConnectionPool × MysqlClient :=
  ({ poolSize := n
     connections := (List.range i).map (fun j => some (base + j)) ++ List.replicate (n - i) none
     freeIndices := (List.range i).map Int.ofNat },
    { made := base + i, live := live ∪ Finset.Ico base (base + i) })

variable {n base i : Nat} {live : Finset Nat}

/-- One more connection is open. -/
theorem opening_succ (hi : i < n) :
    opening n base live (i + 1)
      = ({ (opening n base live i).1 with
            connections := (opening n base live i).1.connections.set i
              (some (opening n base live i).2.made)
            freeIndices := (opening n base live i).1.freeIndices ++ [(i : Int)] },
          (opening n base live i).2.init) := by
  have hlen : ((List.range i).map fun j => some (base + j)).length = i := by simp
  have hset : ((List.range i).map (fun j => some (base + j)) ++ List.replicate (n - i) none).set i
        (some (base + i))
      = (List.range (i + 1)).map (fun j => some (base + j))
        ++ List.replicate (n - (i + 1)) none := by
    obtain ⟨k, rfl⟩ : ∃ k, n = i + 1 + k := ⟨n - (i + 1), by omega⟩
    rw [List.set_append_right _ _ hlen.le, hlen, Nat.sub_self, Nat.add_sub_cancel_left,
      show i + 1 + k - i = k + 1 by omega, List.replicate_succ, List.set_cons_zero,
      List.range_succ, List.map_append, List.append_assoc]
    rfl
  have hico : insert (base + i) (live ∪ Finset.Ico base (base + i))
      = live ∪ Finset.Ico base (base + (i + 1)) := by
    rw [← Finset.union_insert, ← Nat.add_assoc, Nat.Ico_succ_right_eq_insert_Ico (by omega)]
  simp only [opening, MysqlClient.init, hset, hico, List.range_succ, List.map_append]
  rfl

/-- A failure in round `i` leaves nothing in the pool and nothing of it in the library. -/
theorem close_opening (hbelow : ∀ c ∈ live, c < base) {m : MysqlClient}
    (hlive : m.live = (opening n base live i).2.live) :
    (opening n base live i).1.close m = ({ poolSize := n }, { m with live }) := by
  have hmade : ((opening n base live i).1.connections.filterMap id).toFinset
      = Finset.Ico base (base + i) := by
    ext c
    have hiff : (∃ a < i, base + a = c) ↔ base ≤ c ∧ c < base + i :=
      ⟨by rintro ⟨a, ha, rfl⟩; omega, fun h => ⟨c - base, by omega, by omega⟩⟩
    simpa [opening] using hiff
  rw [close, hmade, hlive]
  have hrest : (live ∪ Finset.Ico base (base + i)) \ Finset.Ico base (base + i) = live := by
    rw [Finset.union_sdiff_right, Finset.sdiff_eq_self_iff_disjoint, Finset.disjoint_left]
    intro c hc hmem
    exact absurd (hbelow c hc) (Nat.not_lt.mpr (Finset.mem_Ico.mp hmem).1)
  simp only [opening, hrest]

/-- By induction on the rounds that are left. -/
theorem openFrom_opening (attempt : Nat → Attempt) (hbelow : ∀ c ∈ live, c < base) {k : Nat}
    (hk : i + k = n) :
    openFrom attempt (List.range' i k) (opening n base live i).1 (opening n base live i).2
      = (true, { (opening n base live n).1 with isOpen := true }, (opening n base live n).2) ∨
    ∃ made, base ≤ made ∧
      openFrom attempt (List.range' i k) (opening n base live i).1 (opening n base live i).2
        = (false, { poolSize := n }, { made, live }) := by
  induction k generalizing i with
  | zero =>
    obtain rfl : i = n := hk
    exact .inl rfl
  | succ k ih =>
    rw [List.range'_succ, openFrom]
    cases attempt i with
    | noHandle =>
      refine .inr ⟨base + i, Nat.le_add_right .., ?_⟩
      rw [close_opening hbelow rfl]
      rfl
    | refused =>
      refine .inr ⟨base + i + 1, by omega, ?_⟩
      have hlive : ((opening n base live i).2.init.close (opening n base live i).2.made).live
          = (opening n base live i).2.live := by
        apply Finset.erase_insert
        simp only [opening, Finset.mem_union, Finset.mem_Ico]
        rintro (hlive | hmade)
        · exact absurd (hbelow _ hlive) (by omega)
        · omega
      rw [close_opening hbelow hlive]
      rfl
    | connected =>
      have hrest := ih (i := i + 1) (by omega)
      rw [opening_succ (by omega)] at hrest
      exact hrest

/-- `open` of a closed pool makes all connections and frees all indices, or leaves
nothing. -/
theorem openPool_cases (n : Nat) (attempt : Nat → Attempt) {m : MysqlClient}
    (hbelow : ∀ c ∈ m.live, c < m.made) :
    openPool { poolSize := n } attempt m
      = (true, { (opening n m.made m.live n).1 with isOpen := true },
          (opening n m.made m.live n).2) ∨
    ∃ made, m.made ≤ made ∧
      openPool { poolSize := n } attempt m
        = (false, { poolSize := n }, { made, live := m.live }) := by
  have hstart : openPool { poolSize := n } attempt m
      = openFrom attempt (List.range' 0 n) (opening n m.made m.live 0).1
          (opening n m.made m.live 0).2 := by
    simp [openPool, opening, List.range_eq_range']
  rw [hstart]
  exact openFrom_opening attempt hbelow (Nat.zero_add n)

/-- The connections of an opened pool are numbered from `base` on. -/
theorem getElem_connections_opening {j c : Nat} :
    (opening n base live n).1.connections[j]? = some (some c) ↔ j < n ∧ c = base + j := by
  have hconn : (opening n base live n).1.connections
      = (List.range n).map fun j => some (base + j) := by simp [opening]
  rw [hconn, List.getElem?_map]
  by_cases hj : j < n
  · simp [hj, eq_comm]
  · simp [hj]

/-- The indices of an open pool. -/
def Stock (p : DbConnectionPool) (i : Int) : Prop :=
  p.isOpen = true ∧ 0 ≤ i ∧ i < p.poolSize

theorem stock_opening (i : Int) :
    Stock { (opening n base live n).1 with isOpen := true } i ↔
      i ∈ (opening n base live n).1.freeIndices := by
  simp only [Stock, opening, true_and, List.mem_map, List.mem_range]
  constructor
  · rintro ⟨hi, hn⟩
    exact ⟨i.toNat, by omega, Int.toNat_of_nonneg hi⟩
  · rintro ⟨j, hj, rfl⟩
    exact ⟨Int.natCast_nonneg j, Int.ofNat_lt.mpr hj⟩

end DbConnectionPool

/-! ## Handles -/

variable [DecidableEq π] [DecidableEq η]

/-- The index that a valid handle holds in a pool. -/
def DbConnection.indexIn (p : π) (c : DbConnection π) : Option Int :=
  if c.pool = some p ∧ 0 ≤ c.index then some c.index else none

/-- `if (pool_ && index_ >= 0) pool_->release(index_)`. -/
def DbConnection.releaseIn (c : DbConnection π) (pools : π → DbConnectionPool) :
    π → DbConnectionPool :=
  match c.pool with
  | none => pools
  | some p =>
    if 0 ≤ c.index then Function.update pools p ((pools p).release c.index) else pools

/-- A place for a handle: nothing, a handle, or a handle in its move assignment from
`source` that has released what it held. Its members are not read before they are
overwritten. -/
inductive Slot (π η : Type) where
  | absent
  | handle (c : DbConnection π)
  | assigning (source : η)

/-- The index that a slot holds in the pool. -/
def Slot.indexIn (p : π) : Slot π η → Option Int
  | .handle c => c.indexIn p
  | _ => none

/-- The index that the handle at a place holds in a pool. -/
def held (slots : η → Slot π η) (p : π) (h : η) : Option Int := (slots h).indexIn p

omit [DecidableEq η] in
theorem held_of_absent {slots : η → Slot π η} {h : η} (hh : slots h = .absent) (p : π) :
    held slots p h = none := by
  rw [held, hh]
  rfl

theorem held_update (slots : η → Slot π η) (h : η) (x : Slot π η) (p : π) :
    held (Function.update slots h x) p = Function.update (held slots p) h (x.indexIn p) := by
  funext h'
  exact Function.apply_update (fun _ y => Slot.indexIn p y) slots h x h'

/-- The pools, the client library and the places for handles. -/
structure DbState (π η : Type) where
  pools : π → DbConnectionPool
  client : MysqlClient
  slots : η → Slot π η

namespace DbState

/-- Pools that were constructed and no handles. -/
def start (sizes : π → Nat) : DbState π η where
  pools p := { poolSize := sizes p }
  client := {}
  slots _ := .absent

/-- The place `h` has a valid handle for the index of the pool. -/
def Holds (s : DbState π η) (h : η) (p : π) (i : Int) : Prop :=
  s.slots h = .handle ⟨some p, i⟩ ∧ (⟨some p, i⟩ : DbConnection π).valid = true

/-- No move assignment from the handle is under way. -/
def Idle (s : DbState π η) (h : η) : Prop := ∀ h', s.slots h' ≠ .assigning h

omit [DecidableEq η] in
theorem held_eq_some_iff {s : DbState π η} {p : π} {h : η} {i : Int} :
    held s.slots p h = some i ↔ s.Holds h p i := by
  have hvalid : (⟨some p, i⟩ : DbConnection π).valid = true ↔ 0 ≤ i := decide_eq_true_iff
  rw [held, Holds, hvalid]
  cases s.slots h with
  | absent => simp [Slot.indexIn]
  | assigning o => simp [Slot.indexIn]
  | handle c =>
    obtain ⟨pool, index⟩ := c
    simp only [Slot.indexIn, DbConnection.indexIn, Option.ite_none_right_eq_some,
      Slot.handle.injEq, DbConnection.mk.injEq, Option.some.injEq]
    constructor
    · rintro ⟨⟨hpool, hindex⟩, rfl⟩
      exact ⟨⟨hpool, rfl⟩, hindex⟩
    · rintro ⟨⟨hpool, rfl⟩, hindex⟩
      exact ⟨⟨hpool, hindex⟩, rfl⟩

end DbState

/-- What threads do with pools and handles. -/
inductive HandleOp (π η : Type) where
  | openPool (p : π) (attempt : Nat → Attempt)
  | close (p : π)
  | construct (h : η)
  | acquire (p : π) (h : η)
  | moveConstruct (h o : η)
  | assign (h o : η)
  | takeOver (h : η)
  | destroy (h : η)

/-- One call on a pool or a handle. The threads take turns in any order; a move
assignment is its release (`assign`) and the rest (`takeOver`), and in between other
threads may take what was released. A pool is closed when no handle is outstanding. -/
inductive HandleStep : DbState π η → HandleOp π η → DbState π η → Prop where
  | openPool {s : DbState π η} {p : π} {attempt : Nat → Attempt} {opened : Bool}
      {pool : DbConnectionPool} {client : MysqlClient} :
      (s.pools p).openPool attempt s.client = (opened, pool, client) →
      HandleStep s (.openPool p attempt) { s with pools := Function.update s.pools p pool, client }
  | close {s : DbState π η} {p : π} : (∀ h, held s.slots p h = none) →
      HandleStep s (.close p)
        { s with
          pools := Function.update s.pools p ((s.pools p).close s.client).1
          client := ((s.pools p).close s.client).2 }
  | construct {s : DbState π η} {h : η} : s.slots h = .absent →
      HandleStep s (.construct h) { s with slots := Function.update s.slots h (.handle {}) }
  | acquire {s : DbState π η} {p : π} {h : η} : s.slots h = .absent →
      HandleStep s (.acquire p h)
        { s with
          pools := Function.update s.pools p ((s.pools p).acquire p).2
          slots := Function.update s.slots h (.handle ((s.pools p).acquire p).1) }
  | moveConstruct {s : DbState π η} {h o : η} {c : DbConnection π} : s.slots h = .absent →
      s.slots o = .handle c → s.Idle o →
      HandleStep s (.moveConstruct h o)
        { s with
          slots := Function.update (Function.update s.slots o (.handle {})) h (.handle c) }
  | assignSelf {s : DbState π η} {h : η} {c : DbConnection π} : s.slots h = .handle c →
      HandleStep s (.assign h h) s
  | assign {s : DbState π η} {h o : η} {c d : DbConnection π} : h ≠ o →
      s.slots h = .handle c → s.slots o = .handle d → s.Idle h → s.Idle o →
      HandleStep s (.assign h o)
        { s with
          pools := c.releaseIn s.pools
          slots := Function.update s.slots h (.assigning o) }
  | takeOver {s : DbState π η} {h o : η} {d : DbConnection π} : s.slots h = .assigning o →
      s.slots o = .handle d →
      HandleStep s (.takeOver h)
        { s with
          slots := Function.update (Function.update s.slots o (.handle {})) h (.handle d) }
  | destroy {s : DbState π η} {h : η} {c : DbConnection π} : s.slots h = .handle c → s.Idle h →
      HandleStep s (.destroy h)
        { s with
          pools := c.releaseIn s.pools
          slots := Function.update s.slots h .absent }

/-! ## The connections of the pools -/

/-- A closed pool is empty, an open one has a connection for each index, and no
connection is in two places. -/
structure Wired (pools : π → DbConnectionPool) (m : MysqlClient) : Prop where
  closed : ∀ p, (pools p).isOpen = false → pools p = { poolSize := (pools p).poolSize }
  size : ∀ p, (pools p).isOpen = true →
    (pools p).connections.length = (pools p).poolSize ∧ none ∉ (pools p).connections
  distinct : ∀ p q (i j : Nat) c, (pools p).connections[i]? = some (some c) →
    (pools q).connections[j]? = some (some c) → p = q ∧ i = j
  fresh : ∀ p c, some c ∈ (pools p).connections → c < m.made
  live : ∀ c ∈ m.live, c < m.made

namespace Wired

variable {pools : π → DbConnectionPool} {m : MysqlClient} {p : π}

omit [DecidableEq π] in
theorem of_closed (hclosed : ∀ p, pools p = { poolSize := (pools p).poolSize })
    (hlive : ∀ c ∈ m.live, c < m.made) : Wired pools m where
  closed p _ := hclosed p
  size p hopen := by
    rw [hclosed p] at hopen
    cases hopen
  distinct p q i j c hi _ := by
    rw [hclosed p] at hi
    simp at hi
  fresh p c hc := by
    rw [hclosed p] at hc
    simp at hc
  live := hlive

/-- What is free in an open pool does not matter. -/
theorem setFree (hw : Wired pools m) (hopen : (pools p).isOpen = true) (free : List Int) :
    Wired (Function.update pools p { pools p with freeIndices := free }) m where
  closed := (Function.forall_update_iff pools fun _ pool =>
      pool.isOpen = false → pool = { poolSize := pool.poolSize }).mpr
    ⟨fun hclosed => absurd (hopen.symm.trans hclosed) (by decide), fun q _ => hw.closed q⟩
  size := (Function.forall_update_iff pools fun _ pool => pool.isOpen = true →
      pool.connections.length = pool.poolSize ∧ none ∉ pool.connections).mpr
    ⟨hw.size p, fun q _ => hw.size q⟩
  distinct q r i j c := by
    have hsame := (Function.forall_update_iff (b := { pools p with freeIndices := free }) pools
      fun q pool => pool.connections = (pools q).connections).mpr ⟨rfl, fun _ _ => rfl⟩
    rw [hsame q, hsame r]
    exact hw.distinct q r i j c
  fresh := (Function.forall_update_iff pools fun _ pool =>
    ∀ c, some c ∈ pool.connections → c < m.made).mpr ⟨hw.fresh p, fun q _ => hw.fresh q⟩
  live := hw.live

/-- A pool is replaced by one with connections that are all new. -/
theorem setPool (hw : Wired pools m) {pool : DbConnectionPool} {m' : MysqlClient}
    (hclosed : pool.isOpen = false → pool = { poolSize := pool.poolSize })
    (hsize : pool.isOpen = true →
      pool.connections.length = pool.poolSize ∧ none ∉ pool.connections)
    (hnodup : ∀ (i j : Nat) c, pool.connections[i]? = some (some c) →
      pool.connections[j]? = some (some c) → i = j)
    (hnew : ∀ c, some c ∈ pool.connections → m.made ≤ c ∧ c < m'.made)
    (hmade : m.made ≤ m'.made) (hlive : ∀ c ∈ m'.live, c < m'.made) :
    Wired (Function.update pools p pool) m' where
  closed := (Function.forall_update_iff pools fun _ pool =>
      pool.isOpen = false → pool = { poolSize := pool.poolSize }).mpr
    ⟨hclosed, fun q _ => hw.closed q⟩
  size := (Function.forall_update_iff pools fun _ pool => pool.isOpen = true →
      pool.connections.length = pool.poolSize ∧ none ∉ pool.connections).mpr
    ⟨hsize, fun q _ => hw.size q⟩
  distinct q r i j c hi hj := by
    -- the connections of the other pools are older
    have hold : ∀ q (i : Nat), (pools q).connections[i]? = some (some c) → c < m.made :=
      fun q i hi => hw.fresh q c (List.mem_of_getElem? hi)
    by_cases hqp : q = p
    · subst hqp
      rw [Function.update_self] at hi
      have hge := (hnew c (List.mem_of_getElem? hi)).1
      by_cases hrp : r = q
      · subst hrp
        rw [Function.update_self] at hj
        exact ⟨rfl, hnodup i j c hi hj⟩
      · rw [Function.update_of_ne hrp] at hj
        exact absurd (hold r j hj) (Nat.not_lt.mpr hge)
    · rw [Function.update_of_ne hqp] at hi
      have hlt := hold q i hi
      by_cases hrp : r = p
      · subst hrp
        rw [Function.update_self] at hj
        exact absurd hlt (Nat.not_lt.mpr (hnew c (List.mem_of_getElem? hj)).1)
      · rw [Function.update_of_ne hrp] at hj
        exact hw.distinct q r i j c hi hj
  fresh := (Function.forall_update_iff pools fun _ pool =>
      ∀ c, some c ∈ pool.connections → c < m'.made).mpr
    ⟨fun c hc => (hnew c hc).2, fun q _ c hc => (hw.fresh q c hc).trans_le hmade⟩
  live := hlive

theorem close (hw : Wired pools m) :
    Wired (Function.update pools p ((pools p).close m).1) ((pools p).close m).2 := by
  apply hw.setPool
  · exact fun _ => rfl
  · exact fun hopen => absurd hopen Bool.false_ne_true
  · intro i j c hi
    cases hi
  · intro c hc
    cases hc
  · exact le_rfl
  · intro c hc
    exact hw.live c (Finset.mem_sdiff.mp hc).1

omit [DecidableEq π] in
/-- A pool that is opened again changes nothing. -/
theorem openPool_cases (hw : Wired pools m) (p : π) (attempt : Nat → Attempt) :
    ((pools p).isOpen = true ∧ (pools p).openPool attempt m = (true, pools p, m)) ∨
    (pools p = { poolSize := (pools p).poolSize } ∧
      ((pools p).openPool attempt m
        = (true, { (DbConnectionPool.opening (pools p).poolSize m.made m.live
            (pools p).poolSize).1 with isOpen := true },
          (DbConnectionPool.opening (pools p).poolSize m.made m.live (pools p).poolSize).2) ∨
      ∃ made, m.made ≤ made ∧
        (pools p).openPool attempt m = (false, pools p, { made, live := m.live }))) := by
  cases hopen : (pools p).isOpen with
  | true => exact .inl ⟨rfl, by rw [DbConnectionPool.openPool, if_pos hopen]⟩
  | false =>
    have hclosed := hw.closed p hopen
    refine .inr ⟨hclosed, ?_⟩
    have hcases := DbConnectionPool.openPool_cases (pools p).poolSize attempt hw.live
    rw [← hclosed] at hcases
    exact hcases

/-- The connections of a pool that is opened are new. -/
theorem openPool (hw : Wired pools m) {attempt : Nat → Attempt} {opened : Bool}
    {pool : DbConnectionPool} {client : MysqlClient}
    (h : (pools p).openPool attempt m = (opened, pool, client)) :
    Wired (Function.update pools p pool) client := by
  rcases hw.openPool_cases p attempt with ⟨-, heq⟩ | ⟨hclosed, heq | ⟨made, hmade, heq⟩⟩
  · cases h.symm.trans heq
    rw [Function.update_eq_self]
    exact hw
  · cases h.symm.trans heq
    apply hw.setPool
    · exact fun hfalse => absurd hfalse (by simp)
    · intro _
      simp [DbConnectionPool.opening]
    · intro i j c hi hj
      rw [DbConnectionPool.getElem_connections_opening] at hi hj
      omega
    · intro c hc
      obtain ⟨j, hj⟩ := List.mem_iff_getElem?.mp hc
      rw [DbConnectionPool.getElem_connections_opening] at hj
      show m.made ≤ c ∧ c < m.made + (pools p).poolSize
      omega
    · exact Nat.le_add_right ..
    · intro c hc
      show c < m.made + (pools p).poolSize
      rcases Finset.mem_union.mp hc with hold | hnew
      · exact (hw.live c hold).trans_le (Nat.le_add_right ..)
      · exact (Finset.mem_Ico.mp hnew).2
  · cases h.symm.trans heq
    have hempty : (pools p).connections = [] := by rw [hclosed]
    have hopen : (pools p).isOpen = false := by rw [hclosed]
    apply hw.setPool
    · exact fun _ => hclosed
    · exact fun htrue => absurd (htrue.symm.trans hopen) (by simp)
    · simp [hempty]
    · simp [hempty]
    · exact hmade
    · exact fun c hc => (hw.live c hc).trans_le hmade

end Wired

/-! ## Exclusive use -/

/-- Every index of an open pool is free once or with one handle. -/
structure Exclusive (pools : π → DbConnectionPool) (client : MysqlClient)
    (slots : η → Slot π η) : Prop where
  leased : ∀ p, Leased (pools p).Stock (pools p).freeIndices (held slots p)
  wired : Wired pools client

namespace Exclusive

variable {pools : π → DbConnectionPool} {client : MysqlClient} {slots : η → Slot π η}
variable {p : π} {h o : η} {c d : DbConnection π}

omit [DecidableEq η] in
/-- What is held belongs to an open pool. -/
theorem isOpen_of_held (hs : Exclusive pools client slots) {i : Int}
    (hheld : held slots p h = some i) : (pools p).isOpen = true :=
  (((hs.leased p).covers i).mpr (.inr ⟨h, hheld⟩)).1

/-- A handle releases what it holds, and its place does not count any more. -/
theorem release (hs : Exclusive pools client slots) (hc : slots h = .handle c) {x : Slot π η}
    (hx : ∀ p, x.indexIn p = none) :
    Exclusive (c.releaseIn pools) client (Function.update slots h x) := by
  have hheld : ∀ q, held slots q h = c.indexIn q := fun q => by rw [held, hc, Slot.indexIn]
  obtain ⟨pool, index⟩ := c
  by_cases hvalid : ∃ p, pool = some p ∧ 0 ≤ index
  · obtain ⟨p, rfl, hindex⟩ := hvalid
    have hown : held slots p h = some index := by simp [hheld, DbConnection.indexIn, hindex]
    have hpools : DbConnection.releaseIn ⟨some p, index⟩ pools
        = Function.update pools p ((pools p).release index) := if_pos hindex
    rw [hpools]
    refine ⟨fun q => ?_, hs.wired.setFree (hs.isOpen_of_held hown) _⟩
    rw [held_update, hx]
    by_cases hq : q = p
    · subst hq
      rw [Function.update_self]
      exact (hs.leased q).give hown
    · rw [Function.update_of_ne hq]
      refine (hs.leased q).skip ?_
      simp [hheld, DbConnection.indexIn, Ne.symm hq]
  · have hpools : DbConnection.releaseIn ⟨pool, index⟩ pools = pools := by
      cases pool with
      | none => rfl
      | some p => exact if_neg fun hindex => hvalid ⟨p, rfl, hindex⟩
    rw [hpools]
    refine ⟨fun q => ?_, hs.wired⟩
    rw [held_update, hx]
    refine (hs.leased q).skip ?_
    rw [hheld, DbConnection.indexIn, if_neg fun hq => hvalid ⟨q, hq⟩]

/-- The members of one handle go to another place, and it is left empty. -/
theorem pass (hs : Exclusive pools client slots) (hh : ∀ p, held slots p h = none)
    (ho : slots o = .handle d) :
    Exclusive pools client
      (Function.update (Function.update slots o (.handle {})) h (.handle d)) := by
  refine ⟨fun q => ?_, hs.wired⟩
  have hempty : Slot.indexIn q (.handle {} : Slot π η) = none := rfl
  have hown : Slot.indexIn q (.handle d : Slot π η) = held slots q o := by rw [held, ho]
  rw [held_update, held_update, hempty, hown]
  exact (hs.leased q).pass (hh q)

/-- A new handle without a connection. -/
theorem place (hs : Exclusive pools client slots) (hh : slots h = .absent) :
    Exclusive pools client (Function.update slots h (.handle {})) := by
  refine ⟨fun q => ?_, hs.wired⟩
  have hempty : Slot.indexIn q (.handle {} : Slot π η) = none := rfl
  rw [held_update, hempty]
  exact (hs.leased q).skip (held_of_absent hh q)

/-- A connection is handed out to one handle. -/
theorem acquire (hs : Exclusive pools client slots) (hh : slots h = .absent) :
    Exclusive (Function.update pools p ((pools p).acquire p).2) client
      (Function.update slots h (.handle ((pools p).acquire p).1)) := by
  cases hfree : (pools p).freeIndices with
  | nil =>
    -- the wait timed out
    have hnone : (pools p).acquire p = ({}, pools p) := by rw [DbConnectionPool.acquire, hfree]
    rw [hnone, Function.update_eq_self]
    exact hs.place hh
  | cons i rest =>
    have hsome : (pools p).acquire p = (⟨some p, i⟩, { pools p with freeIndices := rest }) := by
      rw [DbConnectionPool.acquire, hfree]
    have hleased := hs.leased p
    rw [hfree] at hleased
    have hstock : (pools p).Stock i := (hleased.covers i).mpr (.inl List.mem_cons_self)
    rw [hsome]
    refine ⟨fun q => ?_, hs.wired.setFree hstock.1 rest⟩
    rw [held_update]
    by_cases hq : q = p
    · subst hq
      have hindex : Slot.indexIn q (.handle ⟨some q, i⟩ : Slot π η) = some i := by
        simp [Slot.indexIn, DbConnection.indexIn, hstock.2.1]
      rw [Function.update_self, hindex]
      exact hleased.take (held_of_absent hh q)
    · have hindex : Slot.indexIn q (.handle ⟨some p, i⟩ : Slot π η) = none := by
        simp [Slot.indexIn, DbConnection.indexIn, Ne.symm hq]
      rw [Function.update_of_ne hq, hindex]
      exact (hs.leased q).skip (held_of_absent hh q)

omit [DecidableEq η] in
/-- A pool is replaced by one whose indices are all free, when no handle holds one. -/
theorem setPool (hs : Exclusive pools client slots) (hnone : ∀ h, held slots p h = none)
    {pool : DbConnectionPool} {client' : MysqlClient}
    (hwired : Wired (Function.update pools p pool) client') (hnodup : pool.freeIndices.Nodup)
    (hstock : ∀ i, pool.Stock i ↔ i ∈ pool.freeIndices) :
    Exclusive (Function.update pools p pool) client' slots := by
  refine ⟨fun q => ?_, hwired⟩
  by_cases hq : q = p
  · subst hq
    rw [Function.update_self]
    exact .start hnodup hstock hnone
  · rw [Function.update_of_ne hq]
    exact hs.leased q

omit [DecidableEq η] in
theorem openPool (hs : Exclusive pools client slots) {attempt : Nat → Attempt} {opened : Bool}
    {pool : DbConnectionPool} {client' : MysqlClient}
    (hopen : (pools p).openPool attempt client = (opened, pool, client')) :
    Exclusive (Function.update pools p pool) client' slots := by
  have hwired := hs.wired.openPool hopen
  rcases hs.wired.openPool_cases p attempt with ⟨-, heq⟩ | ⟨hclosed, hcases⟩
  · cases hopen.symm.trans heq
    rw [Function.update_eq_self]
    exact hs
  · have hnone : ∀ h, held slots p h = none := by
      intro h
      cases hheld : held slots p h with
      | none => rfl
      | some i =>
        have htrue := hs.isOpen_of_held hheld
        rw [hclosed] at htrue
        cases htrue
    rcases hcases with heq | ⟨made, -, heq⟩
    · cases hopen.symm.trans heq
      refine hs.setPool hnone hwired ?_ fun i => DbConnectionPool.stock_opening i
      exact List.nodup_range.map Int.ofNat_injective
    · cases hopen.symm.trans heq
      refine hs.setPool hnone hwired ?_ ?_
      · rw [hclosed]
        exact List.nodup_nil
      · intro i
        rw [hclosed]
        simp [DbConnectionPool.Stock]

omit [DecidableEq η] in
theorem close (hs : Exclusive pools client slots) (hnone : ∀ h, held slots p h = none) :
    Exclusive (Function.update pools p ((pools p).close client).1) ((pools p).close client).2
      slots := by
  refine hs.setPool hnone hs.wired.close List.nodup_nil ?_
  intro i
  simp [DbConnectionPool.Stock, DbConnectionPool.close]

end Exclusive

/-- Every call keeps the indices exclusive. -/
theorem HandleStep.exclusive {s t : DbState π η} {op : HandleOp π η} (hstep : HandleStep s op t)
    (hs : Exclusive s.pools s.client s.slots) : Exclusive t.pools t.client t.slots := by
  cases hstep with
  | openPool hopen => exact hs.openPool hopen
  | close hnone => exact hs.close hnone
  | construct hh => exact hs.place hh
  | acquire hh => exact hs.acquire hh
  | moveConstruct hh ho hidle => exact hs.pass (held_of_absent hh) ho
  | assignSelf hh => exact hs
  | assign hne hc hd hidle hidle' => exact hs.release hc fun _ => rfl
  | takeOver hh ho => exact hs.pass (fun p => by rw [held, hh]; rfl) ho
  | destroy hc hidle => exact hs.release hc fun _ => rfl

omit [DecidableEq η] in
theorem exclusive_start (sizes : π → Nat) :
    Exclusive (DbState.start (η := η) sizes).pools (DbState.start (η := η) sizes).client
      (DbState.start sizes : DbState π η).slots where
  leased p := .start List.nodup_nil (fun i => by simp [DbState.start, DbConnectionPool.Stock])
    fun h => held_of_absent rfl p
  wired := .of_closed (fun p => rfl) (fun c hc => by simp [DbState.start] at hc)

omit [DecidableEq η] in
/-- A handle holds an index of its pool, and there is a connection for it. -/
theorem Exclusive.raw_of_holds {s : DbState π η} (hs : Exclusive s.pools s.client s.slots)
    {h : η} {p : π} {i : Int} (hh : s.Holds h p i) :
    (s.pools p).Stock i ∧ ∃ c, (s.pools p).connections[i.toNat]? = some (some c) ∧
      (s.pools p).raw i = some (some c) := by
  have hstock : (s.pools p).Stock i :=
    ((hs.leased p).covers i).mpr (.inr ⟨h, DbState.held_eq_some_iff.mpr hh⟩)
  refine ⟨hstock, ?_⟩
  obtain ⟨hopen, hi, hlt⟩ := hstock
  obtain ⟨hsize, hnone⟩ := hs.wired.size p hopen
  have hbound : i.toNat < (s.pools p).connections.length := by omega
  have hget := List.getElem?_eq_getElem hbound
  cases hc : (s.pools p).connections[i.toNat] with
  | none => exact absurd (hc ▸ List.getElem_mem hbound) hnone
  | some c =>
    rw [hc] at hget
    exact ⟨c, hget, by rw [DbConnectionPool.raw, if_neg (by omega), hget]⟩

/-- **Connections are exclusive.** After any calls in any order, each index of an open
pool is free once and with no handle, or not free and with one valid handle. A valid
handle's index is an index of its pool and has a connection, which no other handle has.
When `open` fails, the pool is left without connections and free indices, and the
connections it made are closed. -/
theorem connections_exclusive {sizes : π → Nat} {ops : List (HandleOp π η)} {s : DbState π η}
    (hrun : Run HandleStep (DbState.start sizes) ops s) :
    (∀ p (i : Int), (s.pools p).isOpen = true → 0 ≤ i → i < (s.pools p).poolSize →
      ((s.pools p).freeIndices.count i = 1 ∧ ∀ h, ¬s.Holds h p i) ∨
      (i ∉ (s.pools p).freeIndices ∧ ∃! h, s.Holds h p i)) ∧
    (∀ h p i, s.Holds h p i → (s.pools p).isOpen = true ∧ i < (s.pools p).poolSize ∧
      ∃ c, (s.pools p).raw i = some (some c)) ∧
    (∀ h p i h' p' i', s.Holds h p i → s.Holds h' p' i' →
      (s.pools p).raw i = (s.pools p').raw i' → h = h') ∧
    ∀ p attempt pool client,
      (s.pools p).openPool attempt s.client = (false, pool, client) →
      pool.connections = [] ∧ pool.freeIndices = [] ∧ client.live = s.client.live := by
  have hs : Exclusive s.pools s.client s.slots :=
    hrun.invariant (exclusive_start sizes) fun s op t hs hstep => hstep.exclusive hs
  refine ⟨?_, ?_, ?_, ?_⟩
  · intro p i hopen hi hlt
    have hcases := (hs.leased p).free_or_held ⟨hopen, hi, hlt⟩
    simpa only [Ne, DbState.held_eq_some_iff] using hcases
  · intro h p i hh
    obtain ⟨⟨hopen, -, hlt⟩, c, -, hc⟩ := hs.raw_of_holds hh
    exact ⟨hopen, hlt, c, hc⟩
  · intro h p i h' p' i' hh hh' heq
    obtain ⟨⟨-, hi, -⟩, c, hconn, hc⟩ := hs.raw_of_holds hh
    obtain ⟨⟨-, hi', -⟩, c', hconn', hc'⟩ := hs.raw_of_holds hh'
    obtain rfl : c = c' := by
      rw [hc, hc'] at heq
      exact Option.some.inj (Option.some.inj heq)
    obtain ⟨rfl, hij⟩ := hs.wired.distinct p p' _ _ c hconn hconn'
    obtain rfl : i = i' := by omega
    exact (hs.leased p).unique i h h' (DbState.held_eq_some_iff.mpr hh)
      (DbState.held_eq_some_iff.mpr hh')
  · intro p attempt pool client hopen
    rcases hs.wired.openPool_cases p attempt with ⟨-, heq⟩ | ⟨hclosed, heq | ⟨made, -, heq⟩⟩
    · cases hopen.symm.trans heq
    · cases hopen.symm.trans heq
    · cases hopen.symm.trans heq
      rw [hclosed]
      exact ⟨rfl, rfl, rfl⟩

/-- The pools of `DbManager`. -/
inductive DbRole where
  | game
  | guild
  | common
deriving DecidableEq, Repr

omit [DecidableEq π] in
theorem not_assigning_update {slots : η → Slot π η} {o : η} (hs : ∀ h, slots h ≠ .assigning o)
    (h : η) (c : DbConnection π) : ∀ h', Function.update slots h (.handle c) h' ≠ .assigning o :=
  (Function.forall_update_iff slots fun _ x => x ≠ .assigning o).mpr
    ⟨fun hc => (by cases hc), fun h' _ => hs h'⟩

/-- Two connections of the game's pool are lent. The first is moved to another handle and then
assigned to the second, which gives back its own. -/
theorem connections_exclusive_moved :
    ∃ s : DbState DbRole Nat,
      Run HandleStep (DbState.start fun _ => 2)
        [.openPool .game fun _ => .connected, .acquire .game 7, .acquire .game 8,
          .moveConstruct 9 7, .assign 8 9, .takeOver 8] s ∧
      s.Holds 8 .game 0 ∧ (s.pools .game).freeIndices = [1] ∧
      (((s.pools .game).freeIndices.count 0 = 1 ∧ ∀ h, ¬s.Holds h .game 0) ∨
        (0 ∉ (s.pools .game).freeIndices ∧ ∃! h, s.Holds h .game 0)) := by
  have hopen : HandleStep (DbState.start fun _ => 2 : DbState DbRole Nat)
      (.openPool .game fun _ => .connected) _ := .openPool rfl
  have hlent := ((Run.single hopen).snoc (.acquire (p := .game) (h := 7) rfl)).snoc
    (.acquire (p := .game) (h := 8) rfl)
  have hstart : ∀ o h : Nat,
      (DbState.start fun _ => 2 : DbState DbRole Nat).slots h ≠ .assigning o :=
    fun o h hc => by cases hc
  have hidle := fun (o : Nat) c c' =>
    not_assigning_update (not_assigning_update (hstart o) 7 c) 8 c'
  have hmoved := hlent.snoc (.moveConstruct (h := 9) (o := 7) rfl rfl (hidle 7 _ _))
  have hidle' := fun (o : Nat) c c' d d' =>
    not_assigning_update (not_assigning_update (hidle o c c') 7 d) 9 d'
  have hassigned := hmoved.snoc (.assign (h := 8) (o := 9) (by decide) rfl rfl
    (hidle' 8 _ _ _ _) (hidle' 9 _ _ _ _))
  have hrun := hassigned.snoc (.takeOver (h := 8) rfl rfl)
  exact ⟨_, hrun, ⟨rfl, rfl⟩, rfl,
    (connections_exclusive hrun).1 .game 0 rfl le_rfl (by decide)⟩

end EcsAsioServer.Db
