import EcsAsioServer.Lib.Growable
import EcsAsioServer.Lib.StateProgram
import EcsAsioServer.Lib.Transition

/-!
# Packet buffers (`common/core/packet_buffer.{hpp,cpp}`)

A `packet_buffer` writes at a cursor, `offset_`, into a vector of its own (dynamic mode) or into
memory of its caller (external mode). It has three notions of extent: `size_`, and the size and
the capacity of the vector. The dynamic constructor reserves the vector and sets `size_` to its
capacity, but the vector has no elements.

`append` copies the bytes into the reserved storage and lets the vector grow afterwards, which
fills the new elements with zeros. So of what is appended only the part in front of the size of
the vector survives (`append_keeps_iff`), and a fresh buffer has nothing but zeros.

A call can throw or have no defined behaviour. The calls are programs over the buffer and the
arrays of the callers, so what is left when one throws is what it had written until then: nothing,
for all calls (`apply_throws`). An allocation does not fail here.
-/

namespace EcsAsioServer.Core

open Transition StateProgram

/-! ## The class -/

/-- `data_option`. -/
inductive DataOption where
  | none
  | compression
deriving DecidableEq, Repr

/-- How a call ends that does not return. -/
inductive BufferFault where
  /-- `std::runtime_error`. -/
  | runtimeError (what : String)
  /-- `std::length_error`, from `std::vector::reserve`. -/
  | lengthError
  /-- Undefined behaviour. -/
  | undefined
deriving DecidableEq, Repr

/-- The arrays of the callers, by address. -/
abbrev Memory := Nat → List UInt8

/-- `packet_buffer`; an external buffer is known by its address. -/
structure PacketBuffer where
  dynamicBuffer : Growable UInt8 := .empty
  externalBuffer : Option Nat := none
  size : Int32 := 0
  offset : Int32 := 0
  option : DataOption := .none
  isDynamic : Bool := false
  isOwner : Bool := false

namespace PacketBuffer

/-- The constructor for dynamic buffers. -/
def dynamic (initialCapacity : Nat) (option : DataOption) (block : Block UInt8) : PacketBuffer where
  dynamicBuffer := Growable.empty.reserve initialCapacity block
  -- `static_cast<std::int32_t>`
  size := Int32.ofNat initialCapacity
  option
  isDynamic := true
  isOwner := true

/-- The copy constructor and the copy assignment. -/
def copyOf (other : PacketBuffer) (block : Block UInt8) : PacketBuffer :=
  { other with dynamicBuffer := other.dynamicBuffer.copy block }

/-- What the move constructor and the move assignment leave behind. -/
def movedFrom (other : PacketBuffer) : PacketBuffer :=
  { other with
    dynamicBuffer := .empty, externalBuffer := none, size := 0, offset := 0, isDynamic := false
    isOwner := false }

/-- `reset`; the vector keeps its storage. -/
def reset (b : PacketBuffer) : PacketBuffer where
  dynamicBuffer := b.dynamicBuffer.clear

/-- `set`, and on a default buffer the constructor for external ones. -/
def set (buffer : Option Nat) (offset size : Int32) (option : DataOption) (b : PacketBuffer) :
    PacketBuffer where
  dynamicBuffer := b.dynamicBuffer.clear
  externalBuffer := buffer
  size
  offset
  option

/-- `set_dynamic`. -/
def setDynamic (capacity : Nat) (option : DataOption) (block : Block UInt8) (b : PacketBuffer) :
    PacketBuffer where
  dynamicBuffer := b.dynamicBuffer.clear.reserve capacity block
  size := Int32.ofNat capacity
  option
  isDynamic := true
  isOwner := true

/-- `set_offset` takes the offset. -/
def Accepts (b : PacketBuffer) (offset : Int32) : Prop := 0 ≤ offset ∧ offset ≤ b.size

instance (b : PacketBuffer) (offset : Int32) : Decidable (b.Accepts offset) :=
  inferInstanceAs (Decidable (_ ∧ _))

/-- `set_offset`. -/
def setOffset (offset : Int32) (b : PacketBuffer) : PacketBuffer :=
  if b.Accepts offset then { b with offset } else b

/-- `remaining_size`. -/
def remainingSize (b : PacketBuffer) : Int32 := b.size - b.offset

/-- The bytes behind `raw()`. -/
def raw (mem : Memory) (b : PacketBuffer) : List UInt8 :=
  if b.isDynamic then b.dynamicBuffer.storage else b.externalBuffer.elim [] mem

/-- What a call works on: the arrays of the callers and the buffer. A call that throws leaves what
it has written before. -/
abbrev Call := EStateM BufferFault (Memory × PacketBuffer)

/-- Writing the fields of the buffer. -/
def onBuffer (f : PacketBuffer → PacketBuffer) : Call Unit := modify fun s => (s.1, f s.2)

/-- `std::vector::reserve`: a negative number is a huge `std::size_t`. -/
def reserveVector (capacity : Int32) (block : Block UInt8) : Call Unit :=
  if capacity < 0 then throw .lengthError
  else onBuffer fun b =>
    { b with dynamicBuffer := b.dynamicBuffer.reserve capacity.toNatClampNeg block }

/-- `ensure_capacity`. -/
def ensureCapacity (requiredSize : Int32) (block : Block UInt8) : Call Unit := do
  let s ← get
  if s.2.isDynamic then reserveVector requiredSize block
  else if requiredSize > s.2.size then throw (.runtimeError "External buffer capacity exceeded")
  else return ()

/-- `offset_ + length`, which must not overflow. -/
def endOf (length : Int32) : Call Int32 := do
  let s ← get
  if s.2.offset.toInt + length.toInt < 2 ^ 31 then return s.2.offset + length
  else throw .undefined

/-- The store of `bytes` at `buffer + offset_`. -/
def store (bytes : List UInt8) : Call Unit := do
  let s ← get
  let pos := s.2.offset.toNatClampNeg
  if s.2.offset < 0 then throw .undefined
  else if s.2.isDynamic then
    match s.2.dynamicBuffer.write pos bytes with
    | some v => onBuffer fun b => { b with dynamicBuffer := v }
    | none => throw .undefined
  else
    match s.2.externalBuffer with
    | some p =>
      if pos + bytes.length ≤ (s.1 p).length then
        modify fun s => (Function.update s.1 p
          ((s.1 p).take pos ++ bytes ++ (s.1 p).drop (pos + bytes.length)), s.2)
      else throw .undefined
    | none => throw .undefined

/-- `std::memcpy(buffer + offset_, data, length)`. -/
def memcpy (data : List UInt8) (length : Nat) : Call Unit :=
  if data.length < length then throw .undefined else store (data.take length)

/-- `append` of the first `length` bytes of `data`. -/
def append (data : List UInt8) (length : Int32) (block : Block UInt8) : Call Unit :=
  if length ≤ 0 then return ()
  else do
    let required ← endOf length
    ensureCapacity required block
    memcpy data length.toNatClampNeg
    onBuffer fun b => { b with offset := required }
    let s ← get
    if s.2.isDynamic then
      onBuffer fun b =>
        let n := max required.toNatClampNeg b.dynamicBuffer.size
        { b with dynamicBuffer := b.dynamicBuffer.resize n 0 block }
    else return ()

/-- `append` of a string or a vector. -/
def appendAll (data : List UInt8) (block : Block UInt8) : Call Unit :=
  append data (Int32.ofNat data.length) block

/-- `reserve`. -/
def reserve (capacity : Int32) (block : Block UInt8) : Call Unit := do
  let s ← get
  if s.2.isDynamic then reserveVector capacity block else return ()

/-- `resize`. -/
def resize (size : Int32) (block : Block UInt8) (b : PacketBuffer) : PacketBuffer :=
  if size < 0 then b
  else if b.isDynamic then
    { b with
      dynamicBuffer := b.dynamicBuffer.resize size.toNatClampNeg 0 block
      size
      offset := if b.offset > size then size else b.offset }
  else if size ≤ b.size then
    { b with size, offset := if b.offset > size then size else b.offset }
  else b

end PacketBuffer

/-! ## Calls -/

/-- A call on one buffer. -/
inductive BufferOp where
  | dynamic (initialCapacity : Nat) (option : DataOption) (block : Block UInt8)
  | set (buffer : Option Nat) (offset size : Int32) (option : DataOption)
  | setDynamic (capacity : Nat) (option : DataOption) (block : Block UInt8)
  | reset
  | setOffset (offset : Int32)
  | append (data : List UInt8) (length : Int32) (block : Block UInt8)
  | reserve (capacity : Int32) (block : Block UInt8)
  | resize (size : Int32) (block : Block UInt8)

namespace PacketBuffer

/-- One call. -/
def apply : BufferOp → Call Unit
  | .dynamic initialCapacity option block => onBuffer fun _ => dynamic initialCapacity option block
  | .set buffer offset size option => onBuffer (set buffer offset size option)
  | .setDynamic capacity option block => onBuffer (setDynamic capacity option block)
  | .reset => onBuffer reset
  | .setOffset offset => onBuffer (setOffset offset)
  | .append data length block => append data length block
  | .reserve capacity block => reserve capacity block
  | .resize size block => onBuffer (resize size block)

end PacketBuffer

/-- What is there after a call, unless its behaviour is undefined. -/
def afterCall {σ : Type} : EStateM.Result BufferFault σ Unit → Option σ
  | .ok _ t => some t
  | .error .undefined _ => none
  | .error _ t => some t

theorem afterCall_cases {σ : Type} {t : σ} {r : EStateM.Result BufferFault σ Unit}
    (h : afterCall r = some t) :
    r = .ok () t ∨ ∃ fault, fault ≠ .undefined ∧ r = .error fault t := by
  cases r with
  | ok _ u => exact .inl (congrArg (EStateM.Result.ok ()) (Option.some.inj h))
  | error fault u =>
    cases fault with
    | undefined => cases h
    | runtimeError what => exact .inr ⟨_, by simp, congrArg _ (Option.some.inj h)⟩
    | lengthError => exact .inr ⟨_, by simp, congrArg _ (Option.some.inj h)⟩

/-- A call on one buffer, and the memory of its caller. -/
def OpStep (s : Memory × PacketBuffer) (op : BufferOp) (t : Memory × PacketBuffer) : Prop :=
  afterCall (PacketBuffer.apply op s) = some t

/-! ## What `append` does -/

namespace PacketBuffer

variable {s t : Memory × PacketBuffer} {mem mem' : Memory} {b b' : PacketBuffer}
  {data : List UInt8} {length : Int32} {block : Block UInt8}

theorem toNatClampNeg_eq {x : Int32} : (x.toNatClampNeg : Int) = max x.toInt 0 :=
  Int.ofNat_toNat x.toInt

theorem pos_of_not_le (h : ¬ length ≤ 0) : 0 < length.toInt := by
  rw [Int32.le_iff_toInt_le, Int32.toInt_zero] at h
  omega

theorem endOf_apply (length : Int32) (s : Memory × PacketBuffer) :
    endOf length s = if s.2.offset.toInt + length.toInt < 2 ^ 31 then .ok (s.2.offset + length) s
      else .error .undefined s := by
  rw [endOf, get_bind_apply, ite_run]
  rfl

theorem toInt_endOf (hlength : 0 < length.toInt) (h : b.offset.toInt + length.toInt < 2 ^ 31) :
    (b.offset + length).toInt = b.offset.toInt + length.toInt := by
  have hlow := b.offset.le_toInt
  rw [Int32.toInt_add, Int.bmod_eq_of_le (by omega) (by omega)]

variable {fault : BufferFault} {required : Int32}

/-- The sum, and nothing has changed. -/
theorem endOf_ok (hlength : 0 < length.toInt) (h : endOf length s = .ok required t) :
    t = s ∧ required.toInt = s.2.offset.toInt + length.toInt := by
  rw [endOf_apply] at h
  split at h
  · next hlt =>
    cases h
    exact ⟨rfl, toInt_endOf hlength hlt⟩
  · cases h

theorem reserveVector_apply (capacity : Int32) (block : Block UInt8)
    (s : Memory × PacketBuffer) :
    reserveVector capacity block s = if capacity < 0 then .error .lengthError s
      else .ok () (s.1, { s.2 with
        dynamicBuffer := s.2.dynamicBuffer.reserve capacity.toNatClampNeg block }) := by
  rw [reserveVector, ite_run]
  rfl

theorem ensureCapacity_apply (required : Int32) (block : Block UInt8)
    (s : Memory × PacketBuffer) :
    ensureCapacity required block s =
      if s.2.isDynamic = true then reserveVector required block s
      else if required > s.2.size then
        .error (.runtimeError "External buffer capacity exceeded") s
      else .ok () s := by
  rw [ensureCapacity, get_bind_apply, ite_run, ite_run]
  rfl

/-- Growing or checking the buffer leaves the cursor alone. -/
theorem ensureCapacity_ok (h : ensureCapacity required block s = .ok () t) :
    t.1 = s.1 ∧ t.2.offset = s.2.offset ∧ t.2.size = s.2.size ∧ t.2.isDynamic = s.2.isDynamic ∧
      (s.2.isDynamic = false → required ≤ s.2.size) := by
  rw [ensureCapacity_apply, reserveVector_apply] at h
  cases hdynamic : s.2.isDynamic with
  | true =>
    rw [if_pos hdynamic] at h
    split at h
    · cases h
    · cases h
      exact ⟨rfl, rfl, rfl, hdynamic, nofun⟩
  | false =>
    rw [if_neg (by rw [hdynamic]; exact Bool.false_ne_true)] at h
    split at h
    · cases h
    · next hle =>
      cases h
      exact ⟨rfl, rfl, rfl, hdynamic, fun _ => Int32.not_lt.mp hle⟩

/-- It throws before it has written anything. -/
theorem ensureCapacity_error (h : ensureCapacity required block s = .error fault t) : t = s := by
  rw [ensureCapacity_apply, reserveVector_apply] at h
  split at h
  · split at h
    · cases h
      rfl
    · cases h
  · split at h
    · cases h
      rfl
    · cases h

/-- Every outcome of the store. -/
theorem store_cases (bytes : List UInt8) (s : Memory × PacketBuffer) :
    (∃ v, s.2.isDynamic = true ∧ s.2.dynamicBuffer.write s.2.offset.toNatClampNeg bytes = some v ∧
      store bytes s = .ok () (s.1, { s.2 with dynamicBuffer := v })) ∨
    (∃ mem, s.2.isDynamic = false ∧ store bytes s = .ok () (mem, s.2)) ∨
    store bytes s = .error .undefined s := by
  rw [store, get_bind_apply]
  dsimp only
  rw [ite_run]
  split
  · exact .inr (.inr rfl)
  · rw [ite_run]
    split
    · next hdynamic =>
      cases hwrite : s.2.dynamicBuffer.write s.2.offset.toNatClampNeg bytes with
      | some v => exact .inl ⟨v, hdynamic, rfl, rfl⟩
      | none => exact .inr (.inr rfl)
    · next hdynamic =>
      rw [Bool.not_eq_true] at hdynamic
      cases s.2.externalBuffer with
      | some p =>
        dsimp only
        rw [ite_run]
        split
        · exact .inr (.inl ⟨_, hdynamic, rfl⟩)
        · exact .inr (.inr rfl)
      | none => exact .inr (.inr rfl)

theorem memcpy_cases (data : List UInt8) (n : Nat) (s : Memory × PacketBuffer) :
    memcpy data n s = .error .undefined s ∨
      (n ≤ data.length ∧ memcpy data n s = store (data.take n) s) := by
  rw [memcpy, ite_run]
  split
  · exact .inl rfl
  · next hread => exact .inr ⟨Nat.not_lt.mp hread, rfl⟩

theorem memcpy_ok {n : Nat} (h : memcpy data n s = .ok () t) :
    n ≤ data.length ∧ t.2.size = s.2.size ∧ t.2.isDynamic = s.2.isDynamic := by
  rcases memcpy_cases data n s with hfault | ⟨hread, hstore⟩
  · cases hfault.symm.trans h
  · refine ⟨hread, ?_⟩
    rw [hstore] at h
    rcases store_cases (data.take n) s with ⟨v, -, -, hok⟩ | ⟨mem, -, hok⟩ | hfault
    · cases hok.symm.trans h
      exact ⟨rfl, rfl⟩
    · cases hok.symm.trans h
      exact ⟨rfl, rfl⟩
    · cases hfault.symm.trans h

theorem memcpy_error {n : Nat} (h : memcpy data n s = .error fault t) :
    fault = .undefined := by
  rcases memcpy_cases data n s with hfault | ⟨-, hstore⟩
  · cases hfault.symm.trans h
    rfl
  · rw [hstore] at h
    rcases store_cases (data.take n) s with ⟨v, -, -, hok⟩ | ⟨mem, -, hok⟩ | hfault
    · cases hok.symm.trans h
    · cases hok.symm.trans h
    · cases hfault.symm.trans h
      rfl

/-- What `append` does after the copy: the cursor moves, and the vector grows up to it. -/
def advance (required : Int32) (block : Block UInt8) (b : PacketBuffer) : PacketBuffer :=
  if b.isDynamic then
    { b with
      offset := required
      dynamicBuffer :=
        b.dynamicBuffer.resize (max required.toNatClampNeg b.dynamicBuffer.size) 0 block }
  else { b with offset := required }

/-- `append` of something, one instruction after the other. -/
theorem append_apply (hlength : ¬ length ≤ 0) (data : List UInt8) (block : Block UInt8) :
    append data length block = (do
      let required ← endOf length
      ensureCapacity required block
      memcpy data length.toNatClampNeg
      onBuffer (advance required block)) := by
  rw [append, if_neg hlength]
  congr 1
  funext required
  congr 1
  funext _
  congr 1
  funext _ s
  show (if s.2.isDynamic = true then _ else _ : Call Unit) _ = _
  rw [ite_run]
  unfold onBuffer advance
  split
  · next hdynamic =>
    rw [modify_apply, modify_apply, if_pos hdynamic]
  · next hdynamic =>
    rw [modify_apply, if_neg hdynamic]
    rfl

/-- An `append` that returns has done nothing, or moved the cursor by `length`. -/
theorem append_ok (h : append data length block s = .ok () t) :
    (length ≤ 0 ∧ t = s) ∨ (0 < length.toInt ∧
      t.2.offset.toInt = s.2.offset.toInt + length.toInt ∧ t.2.size = s.2.size ∧
      t.2.isDynamic = s.2.isDynamic ∧ (s.2.isDynamic = false → t.2.offset ≤ s.2.size)) := by
  by_cases hle : length ≤ 0
  · rw [append, if_pos hle] at h
    cases h
    exact .inl ⟨hle, rfl⟩
  · have hpos := pos_of_not_le hle
    rw [append_apply hle] at h
    obtain ⟨required, s₁, hend, hgrow⟩ := bind_eq_ok.mp h
    obtain ⟨rfl, hsum⟩ := endOf_ok hpos hend
    obtain ⟨_, s₂, hensure, hwrite⟩ := bind_eq_ok.mp hgrow
    obtain ⟨-, -, hsize, hdynamic, hfits⟩ := ensureCapacity_ok hensure
    obtain ⟨_, s₃, hcopy, hmove⟩ := bind_eq_ok.mp hwrite
    obtain ⟨-, hsize', hdynamic'⟩ := memcpy_ok hcopy
    have hresult : t.2.offset = required ∧ t.2.size = s₃.2.size ∧
        t.2.isDynamic = s₃.2.isDynamic := by
      cases hmove
      dsimp only [advance]
      split <;> exact ⟨rfl, rfl, rfl⟩
    refine .inr ⟨hpos, ?_, ?_, ?_, ?_⟩
    · rw [hresult.1, hsum]
    · rw [hresult.2.1, hsize', hsize]
    · rw [hresult.2.2, hdynamic', hdynamic]
    · intro hexternal
      rw [hresult.1]
      exact hfits hexternal

/-- **An `append` that throws** has changed nothing: the capacity is checked before the copy. -/
theorem append_throws (hfault : fault ≠ .undefined)
    (h : append data length block s = .error fault t) : t = s := by
  by_cases hle : length ≤ 0
  · rw [append, if_pos hle] at h
    cases h
  · rw [append_apply hle] at h
    rcases bind_eq_error.mp h with hend | ⟨required, s₁, hend, hgrow⟩
    · rw [endOf_apply] at hend
      split at hend
      · cases hend
      · cases hend
        exact absurd rfl hfault
    · obtain ⟨rfl, -⟩ := endOf_ok (pos_of_not_le hle) hend
      rcases bind_eq_error.mp hgrow with hensure | ⟨_, s₂, -, hwrite⟩
      · exact ensureCapacity_error hensure
      · rcases bind_eq_error.mp hwrite with hcopy | ⟨_, s₃, -, hmove⟩
        · exact absurd (memcpy_error hcopy) hfault
        · cases hmove

theorem reserve_apply (capacity : Int32) (block : Block UInt8) (s : Memory × PacketBuffer) :
    reserve capacity block s =
      if s.2.isDynamic = true then reserveVector capacity block s else .ok () s := by
  rw [reserve, get_bind_apply, ite_run]
  rfl

/-- **Calls that throw** change nothing. -/
theorem apply_throws {op : BufferOp} (hfault : fault ≠ .undefined) (h : apply op s = .error fault t)
    : t = s := by
  cases op with
  | append data length block => exact append_throws hfault h
  | reserve capacity block =>
    rw [apply, reserve_apply, reserveVector_apply] at h
    split at h
    · split at h
      · cases h
        rfl
      · cases h
    · cases h
  | dynamic | set | setDynamic | reset | setOffset | resize => cases h

theorem not_le_zero (h : 0 < length.toInt) : ¬ length ≤ 0 := by
  rw [Int32.le_iff_toInt_le, Int32.toInt_zero]
  omega

/-- **`append` in dynamic mode**: reserve, copy behind the elements, and let the vector grow. -/
theorem append_dynamic (mem : Memory) (hdynamic : b.isDynamic = true) (hoffset : 0 ≤ b.offset.toInt)
    (hpos : 0 < length.toInt) (hread : length.toNatClampNeg ≤ data.length)
    (hroom : b.offset.toInt + length.toInt < 2 ^ 31) (block : Block UInt8) :
    ∃ v, (b.dynamicBuffer.reserve (b.offset.toNatClampNeg + length.toNatClampNeg) block).write
          b.offset.toNatClampNeg (data.take length.toNatClampNeg) = some v ∧
      append data length block (mem, b) = .ok () (mem, { b with
        offset := b.offset + length
        dynamicBuffer :=
          v.resize (max (b.offset.toNatClampNeg + length.toNatClampNeg) v.size) 0 block }) := by
  have hrequired := toInt_endOf hpos hroom
  have hrequiredNat : (b.offset + length).toNatClampNeg
      = b.offset.toNatClampNeg + length.toNatClampNeg := by
    have h₁ := toNatClampNeg_eq (x := b.offset)
    have h₂ := toNatClampNeg_eq (x := length)
    have h₃ := toNatClampNeg_eq (x := b.offset + length)
    omega
  have hnonneg : ∀ {x : Int32}, 0 ≤ x.toInt → ¬ x < 0 := by
    intro x hx
    rw [Int32.lt_iff_toInt_lt, Int32.toInt_zero]
    omega
  have hroom' := b.dynamicBuffer.le_capacity_reserve
    (b.offset.toNatClampNeg + length.toNatClampNeg) block
  have htake : (data.take length.toNatClampNeg).length = length.toNatClampNeg := by
    rw [List.length_take, Nat.min_eq_left hread]
  obtain ⟨v, hwrite, -⟩ := Growable.write_spec _ b.offset.toNatClampNeg
    (data.take length.toNatClampNeg) (by rw [htake]; exact hroom')
  refine ⟨v, hwrite, ?_⟩
  have hlength : ¬ length ≤ 0 := not_le_zero (by omega)
  have hend : endOf length (mem, b) = .ok (b.offset + length) (mem, b) := by
    rw [endOf_apply, if_pos hroom]
  have hensure : ensureCapacity (b.offset + length) block (mem, b) = .ok () (mem, { b with
      dynamicBuffer :=
        b.dynamicBuffer.reserve (b.offset.toNatClampNeg + length.toNatClampNeg) block }) := by
    rw [ensureCapacity_apply, if_pos hdynamic, reserveVector_apply,
      if_neg (hnonneg (by omega)), hrequiredNat]
  have hcopy : memcpy data length.toNatClampNeg (mem, { b with
      dynamicBuffer :=
        b.dynamicBuffer.reserve (b.offset.toNatClampNeg + length.toNatClampNeg) block })
      = .ok () (mem, { b with dynamicBuffer := v }) := by
    simp only [memcpy, if_neg (Nat.not_lt.mpr hread), store, get_bind_apply, ite_run,
      if_neg (hnonneg hoffset), if_pos hdynamic, hwrite]
    rfl
  rw [append_apply hlength, bind_ok hend, bind_ok hensure, bind_ok hcopy, onBuffer, modify_apply,
    advance]
  dsimp only
  rw [if_pos hdynamic, hrequiredNat]

/-- The same for an `append` that has returned. -/
theorem append_dynamic_ok (hdynamic : b.isDynamic = true) (hoffset : 0 ≤ b.offset.toInt)
    (hpos : 0 < length.toInt) (h : append data length block (mem, b) = .ok () (mem', b')) :
    mem' = mem ∧ ∃ v,
      (b.dynamicBuffer.reserve (b.offset.toNatClampNeg + length.toNatClampNeg) block).write
          b.offset.toNatClampNeg (data.take length.toNatClampNeg) = some v ∧
      length.toNatClampNeg ≤ data.length ∧
      b' = { b with
        offset := b.offset + length
        dynamicBuffer :=
          v.resize (max (b.offset.toNatClampNeg + length.toNatClampNeg) v.size) 0 block } := by
  have hlength : ¬ length ≤ 0 := not_le_zero (by omega)
  rw [append_apply hlength] at h
  -- the two ways in which it is undefined
  have hroom : b.offset.toInt + length.toInt < 2 ^ 31 := by
    by_contra hover
    obtain ⟨required, s₁, hend, -⟩ := bind_eq_ok.mp h
    rw [endOf_apply, if_neg hover] at hend
    cases hend
  have hread : length.toNatClampNeg ≤ data.length := by
    obtain ⟨required, s₁, -, hrest⟩ := bind_eq_ok.mp h
    obtain ⟨_, s₂, -, hrest⟩ := bind_eq_ok.mp hrest
    obtain ⟨_, s₃, hcopy, -⟩ := bind_eq_ok.mp hrest
    exact (memcpy_ok hcopy).1
  rw [← append_apply hlength] at h
  obtain ⟨v, hwrite, happend⟩ := append_dynamic mem hdynamic hoffset hpos hread hroom block
  rw [happend] at h
  cases h
  exact ⟨rfl, v, hwrite, hread, rfl⟩

/-! ## The bytes of a dynamic buffer -/

/-- The cursor and `size_` are inside the storage. -/
structure Inside (b : PacketBuffer) : Prop where
  dynamic : b.isDynamic = true
  offset_nonneg : 0 ≤ b.offset.toInt
  offset_le : b.offset.toInt ≤ b.dynamicBuffer.capacity
  size_le : b.size.toInt ≤ b.dynamicBuffer.capacity

/-- The calls that write to a dynamic buffer. -/
def Writes : BufferOp → Prop
  | .append .. | .setOffset _ | .reserve .. | .resize .. => True
  | _ => False

theorem inside_dynamic (initialCapacity : Nat) (option : DataOption) (block : Block UInt8) :
    Inside (dynamic initialCapacity option block) where
  dynamic := rfl
  offset_nonneg := Int.le_refl 0
  offset_le := Int.natCast_nonneg _
  size_le := by
    have hroom := Growable.empty.le_capacity_reserve initialCapacity block
    have hcast : (Int32.ofNat initialCapacity).toInt ≤ initialCapacity := by
      have hmod : (Int32.size : Int) = 4294967296 := rfl
      rw [Int32.toInt_ofNat', Int.bmod_def, hmod]
      split <;> omega
    show (Int32.ofNat initialCapacity).toInt
      ≤ ((Growable.empty.reserve initialCapacity block).capacity : Int)
    omega

/-- `append` keeps the cursor inside the vector. -/
theorem Inside.append (h : Inside b)
    (happend : append data length block (mem, b) = .ok () (mem', b')) :
    Inside b' := by
  rcases append_ok happend with ⟨-, hsame⟩ | ⟨hpos, hoffset, hsize, hdynamic, -⟩
  · cases hsame
    exact h
  · obtain ⟨-, v, hwrite, hread, rfl⟩ := append_dynamic_ok h.dynamic h.offset_nonneg hpos happend
    obtain ⟨w, hwrite', -, hcapacity, -⟩ := Growable.write_spec _ b.offset.toNatClampNeg
      (data.take length.toNatClampNeg) (by
        rw [List.length_take, Nat.min_eq_left hread]
        exact b.dynamicBuffer.le_capacity_reserve _ block)
    obtain rfl : w = v := Option.some.inj (hwrite'.symm.trans hwrite)
    have hgrown := b.dynamicBuffer.capacity_le_reserve
      (b.offset.toNatClampNeg + length.toNatClampNeg) block
    have hkept := w.capacity_le_resize
      (max (b.offset.toNatClampNeg + length.toNatClampNeg) w.size) 0 block
    have hroom := w.le_capacity_resize
      (max (b.offset.toNatClampNeg + length.toNatClampNeg) w.size) 0 block
    have h₁ := toNatClampNeg_eq (x := b.offset)
    have h₂ := toNatClampNeg_eq (x := length)
    have hnonneg := h.offset_nonneg
    have hle := h.size_le
    refine ⟨h.dynamic, ?_, ?_, ?_⟩
    · dsimp only at hoffset ⊢
      omega
    · dsimp only at hoffset ⊢
      omega
    · dsimp only
      omega

theorem Inside.setOffset (h : Inside b) (offset : Int32) : Inside (b.setOffset offset) := by
  unfold PacketBuffer.setOffset
  split
  · next haccepts =>
    have hlow := Int32.le_iff_toInt_le.mp haccepts.1
    have hhigh := Int32.le_iff_toInt_le.mp haccepts.2
    rw [Int32.toInt_zero] at hlow
    exact ⟨h.dynamic, hlow, Int.le_trans hhigh h.size_le, h.size_le⟩
  · exact h

theorem Inside.reserve {capacity : Int32} (h : Inside b)
    (hreserve : PacketBuffer.reserve capacity block (mem, b) = .ok () (mem', b')) : Inside b' := by
  rw [reserve_apply, if_pos h.dynamic, reserveVector_apply] at hreserve
  split at hreserve
  · cases hreserve
  · cases hreserve
    have hgrown := b.dynamicBuffer.capacity_le_reserve capacity.toNatClampNeg block
    exact ⟨h.dynamic, h.offset_nonneg, Int.le_trans h.offset_le (Int.ofNat_le.mpr hgrown),
      Int.le_trans h.size_le (Int.ofNat_le.mpr hgrown)⟩

theorem Inside.resize (h : Inside b) (size : Int32) (block : Block UInt8) :
    Inside (b.resize size block) := by
  unfold PacketBuffer.resize
  split
  · exact h
  · next hsize =>
    rw [Int32.not_lt, Int32.le_iff_toInt_le, Int32.toInt_zero] at hsize
    rw [if_pos h.dynamic]
    have hroom := b.dynamicBuffer.le_capacity_resize size.toNatClampNeg 0 block
    have h₁ := toNatClampNeg_eq (x := size)
    have hfits : size.toInt ≤ (b.dynamicBuffer.resize size.toNatClampNeg 0 block).capacity := by
      omega
    by_cases hoffset : b.offset > size
    · rw [if_pos hoffset]
      exact ⟨h.dynamic, hsize, hfits, hfits⟩
    · rw [if_neg hoffset]
      rw [gt_iff_lt, Int32.not_lt, Int32.le_iff_toInt_le] at hoffset
      exact ⟨h.dynamic, h.offset_nonneg, Int.le_trans hoffset hfits, hfits⟩

/-- Every sequence of writing calls keeps the cursor inside the storage. -/
theorem inside_run {ops : List BufferOp} {s t : Memory × PacketBuffer} (hs : Inside s.2)
    (hrun : Run (guarded (fun _ op => Writes op) OpStep) s ops t) : Inside t.2 := by
  refine hrun.invariant (I := fun s => Inside s.2) hs ?_
  rintro ⟨mem, b⟩ op ⟨mem', b'⟩ h ⟨hwrites, hstep⟩
  rcases afterCall_cases hstep with hok | ⟨fault, hfault, herror⟩
  · cases op with
    | append data length block => exact h.append hok
    | setOffset offset =>
      cases hok
      exact h.setOffset offset
    | reserve capacity block => exact h.reserve hok
    | resize size block =>
      cases hok
      exact h.resize size block
    | dynamic | set | setDynamic | reset => cases hwrites
  · cases apply_throws hfault herror
    exact h

/-- What an `append` is for: the bytes are in the buffer, behind those that were there. -/
def Appended (mem : Memory) (b b' : PacketBuffer) (data : List UInt8) : Prop :=
  (b'.raw mem).take b.offset.toNatClampNeg = (b.raw mem).take b.offset.toNatClampNeg ∧
    ((b'.raw mem).drop b.offset.toNatClampNeg).take data.length = data

/-- The two halves as one list. -/
theorem appended_iff (hinside : Inside b) :
    Appended mem b b' data ↔ (b'.raw mem).take (b.offset.toNatClampNeg + data.length)
      = (b.raw mem).take b.offset.toNatClampNeg ++ data := by
  rw [Appended, List.take_add]
  constructor
  · rintro ⟨hfront, hback⟩
    rw [hfront, hback]
  · intro heq
    have hlen : ((b'.raw mem).take b.offset.toNatClampNeg).length
        = ((b.raw mem).take b.offset.toNatClampNeg).length := by
      have htotal := congrArg List.length heq
      have hoffset := toNatClampNeg_eq (x := b.offset)
      have hle := hinside.offset_le
      have hraw : (b.raw mem).length = b.dynamicBuffer.capacity := by
        rw [raw, if_pos hinside.dynamic]
        rfl
      simp only [List.length_append, List.length_take, List.length_drop] at htotal ⊢
      omega
    exact List.append_inj heq hlen

/-- One string or vector, at the cursor of a dynamic buffer. -/
theorem appendAll_dynamic (mem : Memory) (hinside : Inside b) (hdata : data ≠ [])
    (hroom : b.offset.toInt + data.length < 2 ^ 31) (block : Block UInt8) :
    ∃ v b', (b.dynamicBuffer.reserve (b.offset.toNatClampNeg + data.length) block).write
        b.offset.toNatClampNeg data = some v ∧
      appendAll data block (mem, b) = .ok () (mem, b') ∧ b'.isDynamic = true ∧
      b'.offset.toInt = b.offset.toInt + data.length ∧
      b'.dynamicBuffer
        = v.resize (max (b.offset.toNatClampNeg + data.length) v.size) 0 block := by
  have hnonneg := hinside.offset_nonneg
  have hlength : (Int32.ofNat data.length).toInt = data.length :=
    Int32.toInt_ofNat_of_lt (by omega)
  have hclamp : (Int32.ofNat data.length).toNatClampNeg = data.length :=
    Int32.toNatClampNeg_ofNat_of_lt (by omega)
  have hpositive : 0 < data.length := List.length_pos_of_ne_nil hdata
  obtain ⟨v, hwrite, happend⟩ := append_dynamic mem hinside.dynamic hnonneg
    (by omega : 0 < (Int32.ofNat data.length).toInt) (Nat.le_of_eq hclamp) (by omega) block
  rw [hclamp, List.take_length] at hwrite
  rw [hclamp] at happend
  rcases append_ok happend with ⟨hzero, -⟩ | ⟨-, hoffset, -⟩
  · rw [Int32.le_iff_toInt_le, Int32.toInt_zero] at hzero
    omega
  · exact ⟨v, _, hwrite, happend, hinside.dynamic, hoffset.trans (by rw [hlength]), rfl⟩

/-- Appending chunk after chunk, each with its own allocation. -/
def appendChunks (chunks : List (List UInt8 × Block UInt8)) : Call Unit :=
  chunks.forM fun chunk => appendAll chunk.1 chunk.2

/-- A buffer whose vector ends at the cursor and has nothing but zeros. -/
structure Blank (b : PacketBuffer) : Prop extends Inside b where
  size_eq : b.dynamicBuffer.size = b.offset.toNatClampNeg
  zeros : b.dynamicBuffer.used = List.replicate b.dynamicBuffer.size 0

theorem blank_dynamic (initialCapacity : Nat) (option : DataOption) (block : Block UInt8) :
    Blank (dynamic initialCapacity option block) where
  toInside := inside_dynamic initialCapacity option block
  size_eq := Growable.size_reserve ..
  zeros := by
    have hsize : (dynamic initialCapacity option block).dynamicBuffer.size = 0 :=
      Growable.size_reserve ..
    rw [Growable.used, hsize]
    rfl

/-- **Nothing survives**: whatever is appended, the vector grows over it. -/
theorem Blank.appendAll (h : Blank b) (mem : Memory) (data : List UInt8)
    (hroom : b.offset.toInt + data.length < 2 ^ 31) (block : Block UInt8) :
    ∃ b', appendAll data block (mem, b) = .ok () (mem, b') ∧ Blank b' ∧
      b'.offset.toInt = b.offset.toInt + data.length := by
  by_cases hdata : data = []
  · subst hdata
    exact ⟨b, rfl, h, by simp⟩
  · obtain ⟨v, b', hwrite, happend, hdynamic, hoffset, hvector⟩ :=
      appendAll_dynamic mem h.toInside hdata hroom block
    have hinside : Inside b' := h.toInside.append happend
    have hstored := b.dynamicBuffer.take_store 0 block block hwrite
    obtain ⟨w, hwrite', hsize, -⟩ := Growable.write_spec _ b.offset.toNatClampNeg data
      (b.dynamicBuffer.le_capacity_reserve _ block)
    obtain rfl : w = v := Option.some.inj (hwrite'.symm.trans hwrite)
    have hend : b.dynamicBuffer.size + data.length = b'.offset.toNatClampNeg := by
      have h₁ := toNatClampNeg_eq (x := b.offset)
      have h₂ := toNatClampNeg_eq (x := b'.offset)
      have hnonneg := h.offset_nonneg
      have heq := h.size_eq
      omega
    rw [Growable.size_reserve] at hsize
    have hmax : max (b.offset.toNatClampNeg + data.length) w.size
        = b.dynamicBuffer.size + data.length := by
      rw [hsize, ← h.size_eq]
      omega
    have hnew : b'.dynamicBuffer.size = b.dynamicBuffer.size + data.length := by
      rw [hvector, Growable.size_resize, hmax]
    refine ⟨b', happend, ⟨hinside, hnew.trans hend, ?_⟩, hoffset⟩
    rw [← hvector, ← h.size_eq, ← hnew] at hstored
    rw [Growable.used, hstored, hnew, Nat.add_sub_cancel_left]
    have hfront : (b.dynamicBuffer.storage.take b.dynamicBuffer.size ++ data).take
        b.dynamicBuffer.size = List.replicate b.dynamicBuffer.size 0 := by
      rw [← h.zeros]
      exact List.take_left' b.dynamicBuffer.length_used
    rw [hfront, List.replicate_append_replicate]

theorem Blank.appendChunks (h : Blank b) (mem : Memory) (chunks : List (List UInt8 × Block UInt8))
    (hroom : b.offset.toInt + (chunks.flatMap Prod.fst).length < 2 ^ 31) :
    ∃ b', appendChunks chunks (mem, b) = .ok () (mem, b') ∧ Blank b' ∧
      b'.offset.toInt = b.offset.toInt + (chunks.flatMap Prod.fst).length := by
  induction chunks generalizing b with
  | nil => exact ⟨b, rfl, h, by simp⟩
  | cons chunk chunks ih =>
    rw [List.flatMap_cons, List.length_append] at hroom ⊢
    obtain ⟨b₁, happend, hblank, hoffset⟩ := h.appendAll mem chunk.1 (by omega) chunk.2
    obtain ⟨b₂, hrest, hblank', hoffset'⟩ := ih hblank (by omega)
    refine ⟨b₂, ?_, hblank', by omega⟩
    show (PacketBuffer.appendAll chunk.1 chunk.2 >>= fun _ => PacketBuffer.appendChunks chunks)
      (mem, b) = _
    rw [bind_ok happend]
    exact hrest

/-- **What `append` keeps.** After any calls on a dynamic buffer, an `append` puts its bytes
behind those in front of the cursor exactly if all that lies behind the size of the vector is
zero; and a fresh buffer has zeros in place of whatever is appended to it. -/
theorem append_keeps_iff (mem : Memory) (initialCapacity : Nat) (option : DataOption)
    (block : Block UInt8) {ops : List BufferOp} {mem' : Memory} {b : PacketBuffer}
    (hrun : Run (guarded (fun _ op => Writes op) OpStep)
      (mem, dynamic initialCapacity option block) ops (mem', b)) :
    (∀ (data : List UInt8) (block' : Block UInt8), b.offset.toInt + data.length < 2 ^ 31 →
      ∃ b', appendAll data block' (mem', b) = .ok () (mem', b') ∧
        b'.offset.toInt = b.offset.toInt + data.length ∧
        (Appended mem' b b' data ↔ data = [] ∨
          ∀ byte ∈ ((b.raw mem').take b.offset.toNatClampNeg ++ data).drop b.dynamicBuffer.size,
            byte = 0)) ∧
    ∀ chunks : List (List UInt8 × Block UInt8), (chunks.flatMap Prod.fst).length < 2 ^ 31 →
      ∃ b', appendChunks chunks (mem, dynamic initialCapacity option block) = .ok () (mem, b') ∧
        b'.offset.toInt = (chunks.flatMap Prod.fst).length ∧
        (b'.raw mem).take b'.offset.toNatClampNeg
          = List.replicate (chunks.flatMap Prod.fst).length 0 := by
  have hinside : Inside b := inside_run (inside_dynamic initialCapacity option block) hrun
  constructor
  · intro data block' hroom
    by_cases hdata : data = []
    · subst hdata
      exact ⟨b, rfl, by simp, iff_of_true ⟨rfl, rfl⟩ (.inl rfl)⟩
    · obtain ⟨v, b', hwrite, happend, hdynamic, hoffset, hvector⟩ :=
        appendAll_dynamic mem' hinside hdata hroom block'
      refine ⟨b', happend, hoffset, ?_⟩
      have hpos : b.offset.toNatClampNeg ≤ b.dynamicBuffer.capacity := by
        have h₁ := toNatClampNeg_eq (x := b.offset)
        have h₂ := hinside.offset_le
        omega
      rw [appended_iff hinside, or_iff_right hdata, raw, if_pos hdynamic, raw,
        if_pos hinside.dynamic, hvector]
      exact b.dynamicBuffer.store_kept_iff hpos 0 block' block' hwrite
  · intro chunks hroom
    have hblank := blank_dynamic initialCapacity option block
    have hstart : (dynamic initialCapacity option block).offset.toInt = 0 := rfl
    obtain ⟨b', happend, hzeros, hoffset⟩ := hblank.appendChunks mem chunks (by omega)
    rw [hstart, Int.zero_add] at hoffset
    refine ⟨b', happend, hoffset, ?_⟩
    have hsize : b'.dynamicBuffer.size = (chunks.flatMap Prod.fst).length := by
      have h₁ := toNatClampNeg_eq (x := b'.offset)
      have h₂ := hzeros.size_eq
      omega
    rw [raw, if_pos hzeros.dynamic, ← hzeros.size_eq, ← hsize]
    exact hzeros.zeros

/-- After `resize` the vector has elements, and two letters are written over them. -/
theorem append_keeps_letters :
    let block : Block UInt8 := { cells := fun _ => 7 }
    let mem : Memory := fun _ => []
    let sized : PacketBuffer := resize 4 block (dynamic 4 .none block)
    Run (guarded (fun _ op => Writes op) OpStep) (mem, dynamic 4 .none block) [.resize 4 block]
      (mem, sized) ∧
    ∃ b', appendAll [65, 66] block (mem, sized) = .ok () (mem, b') ∧
      Appended mem sized b' [65, 66] := by
  intro block mem sized
  have hrun : Run (guarded (fun _ op => Writes op) OpStep) (mem, dynamic 4 .none block)
      [.resize 4 block] (mem, sized) := Run.single ⟨trivial, rfl⟩
  obtain ⟨b', happend, -, hiff⟩ := (append_keeps_iff mem 4 .none block hrun).1 [65, 66] block
    (by decide)
  -- nothing comes behind the size of the vector
  have hbehind : ((sized.raw mem).take sized.offset.toNatClampNeg ++ [65, 66]).drop
      sized.dynamicBuffer.size = [] := by decide
  refine ⟨hrun, b', happend, hiff.mpr (.inr fun byte hbyte => ?_)⟩
  rw [hbehind] at hbyte
  cases hbyte

/-- The first letter that is written to a fresh buffer of 16 bytes is a zero afterwards. -/
theorem first_letter_lost :
    let block : Block UInt8 := { cells := fun _ => 7 }
    let mem : Memory := fun _ => []
    let fresh := dynamic 16 .none block
    ∃ b', appendAll [65] block (mem, fresh) = .ok () (mem, b') ∧ b'.offset = 1 ∧
      (b'.raw mem).take 1 = [0] ∧ ¬ Appended mem fresh b' [65] := by
  intro block mem fresh
  obtain ⟨b', happend, hblank, hoffset⟩ :=
    (blank_dynamic 16 .none block).appendAll mem [65] (by decide) block
  have hend : b'.offset = 1 := Int32.toInt_inj.mp hoffset
  have hbytes : (b'.raw mem).take 1 = [0] := by
    have hsize : b'.dynamicBuffer.size = 1 := by
      rw [hblank.size_eq, hend]
      rfl
    have hused := hblank.zeros
    rw [raw, if_pos hblank.dynamic]
    rw [Growable.used, hsize] at hused
    exact hused
  refine ⟨b', happend, hend, hbytes, ?_⟩
  rintro ⟨-, hletter⟩
  cases hbytes.symm.trans hletter

end PacketBuffer

end EcsAsioServer.Core
