import EcsAsioServer.Core.PacketBuffer

/-!
# The cursor of a packet buffer

The cursor `offset_` is where the next byte is read or written, and `size_` is the end that
`set_offset` and `remaining_size` go by. `append` moves the cursor and grows the vector, but not
`size_`.

Buffers may be copied and moved, and share the arrays of their callers in external mode, so
the statement is about all buffers of a program: the cursors stay in bounds exactly while the
capacities fit into `size_` and nothing is appended behind it (`cursor_in_bounds_iff`).

In external mode nothing can grow, and `append` throws if the bytes do not fit. It compares a
sum of 32 bits, so this is what happens exactly if the sum does not overflow
(`append_bounded_iff`).
-/

namespace EcsAsioServer.Core

open Transition StateProgram

namespace PacketBuffer

variable {b : PacketBuffer}

/-- The cursor is in the buffer. -/
def CursorOk (b : PacketBuffer) : Prop := 0 ≤ b.offset ∧ b.offset ≤ b.size

theorem cursorOk_iff : b.CursorOk ↔ 0 ≤ b.offset.toInt ∧ b.offset.toInt ≤ b.size.toInt := by
  rw [CursorOk, Int32.le_iff_toInt_le, Int32.le_iff_toInt_le, Int32.toInt_zero]

/-- Exactly then `set_offset` takes its own value. -/
theorem cursorOk_iff_accepts : b.CursorOk ↔ b.Accepts b.offset := Iff.rfl

theorem CursorOk.remainingSize_nonneg (h : b.CursorOk) : 0 ≤ b.remainingSize := by
  rw [Int32.le_iff_toInt_le, Int32.toInt_zero, remainingSize, Int32.toInt_sub_of_le _ _ h.1 h.2]
  have := cursorOk_iff.mp h
  omega

end PacketBuffer

/-- The callers of `set` give an offset in their buffer. -/
def BufferOp.Sound : BufferOp → Prop
  | .set _ offset size _ => 0 ≤ offset ∧ offset ≤ size
  | _ => True

/-- The capacity fits into `size_`, and nothing is appended behind `size_`. -/
def PacketBuffer.Fits (b : PacketBuffer) : BufferOp → Prop
  | .dynamic capacity _ _ | .setDynamic capacity _ _ => 0 ≤ Int32.ofNat capacity
  | .append _ length _ =>
    b.isDynamic = true → length ≤ 0 ∨ b.offset.toInt + length.toInt ≤ b.size.toInt
  | _ => True

namespace PacketBuffer

variable {mem mem' : Memory} {b b' : PacketBuffer}

theorem CursorOk.setOffset (h : b.CursorOk) (offset : Int32) : (b.setOffset offset).CursorOk := by
  unfold PacketBuffer.setOffset
  split
  · assumption
  · exact h

theorem CursorOk.reserve {capacity : Int32} {block : Block UInt8} (h : b.CursorOk)
    (hreserve : PacketBuffer.reserve capacity block (mem, b) = .ok () (mem', b')) :
    b'.CursorOk := by
  rw [reserve_apply, reserveVector_apply] at hreserve
  split at hreserve
  · split at hreserve
    · cases hreserve
    · cases hreserve
      exact h
  · cases hreserve
    exact h

theorem CursorOk.resize (h : b.CursorOk) (size : Int32) (block : Block UInt8) :
    (b.resize size block).CursorOk := by
  -- in both modes `size_` is set and the cursor does not stay behind it
  have hclamped : ¬ size < 0 → ∀ b' : PacketBuffer, b'.size = size →
      b'.offset = (if b.offset > size then size else b.offset) → b'.CursorOk := by
    intro hsize b' hb' hoffset
    rw [CursorOk, hb', hoffset]
    split
    · exact ⟨Int32.not_lt.mp hsize, Int32.le_refl size⟩
    · next hle => exact ⟨h.1, Int32.not_lt.mp hle⟩
  unfold PacketBuffer.resize
  split
  · exact h
  · next hsize =>
    split
    · exact hclamped hsize _ rfl rfl
    · split
      · exact hclamped hsize _ rfl rfl
      · exact h

/-- **One call** keeps the cursor in bounds exactly if it fits. -/
theorem cursorOk_apply (h : b.CursorOk) {op : BufferOp} (hsound : op.Sound)
    (happly : apply op (mem, b) = .ok () (mem', b')) : b'.CursorOk ↔ b.Fits op := by
  cases op with
  | dynamic capacity option block | setDynamic capacity option block =>
    cases happly
    exact ⟨fun hok => hok.2, fun hfits => ⟨Int32.le_refl 0, hfits⟩⟩
  | set buffer offset size option =>
    cases happly
    exact iff_of_true hsound trivial
  | reset =>
    cases happly
    exact iff_of_true ⟨Int32.le_refl 0, Int32.le_refl 0⟩ trivial
  | setOffset offset =>
    cases happly
    exact iff_of_true (h.setOffset offset) trivial
  | reserve capacity block => exact iff_of_true (h.reserve happly) trivial
  | resize size block =>
    cases happly
    exact iff_of_true (h.resize size block) trivial
  | append data length block =>
    have hcursor := cursorOk_iff.mp h
    rcases append_ok happly with ⟨hnone, hsame⟩ | ⟨hpos, hoffset, hsize, -, hexternal⟩
    · cases hsame
      exact iff_of_true h fun _ => .inl hnone
    · dsimp only at hoffset hsize hexternal
      have hlength : ¬ length ≤ 0 := not_le_zero (by omega)
      show _ ↔ (b.isDynamic = true → length ≤ 0 ∨ b.offset.toInt + length.toInt ≤ b.size.toInt)
      rw [cursorOk_iff, hsize, hoffset, or_iff_right hlength]
      cases hdynamic : b.isDynamic with
      | true =>
        constructor
        · exact fun hok _ => hok.2
        · exact fun hfits => ⟨by omega, hfits rfl⟩
      | false =>
        have hle := Int32.le_iff_toInt_le.mp (hexternal hdynamic)
        rw [hoffset] at hle
        exact iff_of_true ⟨by omega, hle⟩ fun htrue => by cases htrue

variable {length : Int32} {data : List UInt8}

/-- A dynamic buffer does not throw. -/
theorem append_error {s t : Memory × PacketBuffer} {block : Block UInt8} {fault : BufferFault}
    (hdynamic : s.2.isDynamic = true) (hoffset : 0 ≤ s.2.offset.toInt)
    (h : append data length block s = .error fault t) :
    fault = .undefined := by
  by_cases hle : length ≤ 0
  · rw [append, if_pos hle] at h
    cases h
  have hpos := pos_of_not_le hle
  rw [append_apply hle] at h
  rcases bind_eq_error.mp h with hend | ⟨required, s₁, hend, hgrow⟩
  · rw [endOf_apply] at hend
    split at hend
    · cases hend
    · cases hend
      rfl
  · obtain ⟨rfl, hsum⟩ := endOf_ok hpos hend
    rcases bind_eq_error.mp hgrow with hensure | ⟨_, s₂, -, hwrite⟩
    · -- the sum is not negative, so the vector can grow
      have hnonneg : ¬ required < 0 := by
        rw [Int32.lt_iff_toInt_lt, hsum, Int32.toInt_zero]
        omega
      rw [ensureCapacity_apply, if_pos hdynamic, reserveVector_apply, if_neg hnonneg] at hensure
      cases hensure
    · rcases bind_eq_error.mp hwrite with hcopy | ⟨_, s₃, -, hmove⟩
      · exact memcpy_error hcopy
      · cases hmove

/-- A call that throws did not have to fit. -/
theorem fits_of_thrown {s t : Memory × PacketBuffer} (h : s.2.CursorOk) {op : BufferOp}
    {fault : BufferFault} (hfault : fault ≠ .undefined) (happly : apply op s = .error fault t) :
    s.2.Fits op := by
  cases op with
  | append data length block =>
    intro hdynamic
    exact absurd (append_error hdynamic (cursorOk_iff.mp h).1 happly) hfault
  | reserve | setOffset | resize | reset | set => trivial
  | dynamic | setDynamic => cases happly

/-! ## Buffers of the caller -/

/-- What `append` is for in external mode. -/
structure Bounded (mem : Memory) (b : PacketBuffer) (data : List UInt8) (length : Int32)
    (result : EStateM.Result BufferFault (Memory × PacketBuffer) Unit) : Prop where
  /-- It does nothing, or writes the bytes at the cursor and moves it, or throws and leaves the
  arrays and the buffer as they were. -/
  outcome : (length ≤ 0 ∧ result = .ok () (mem, b)) ∨
    (0 < length ∧ b.offset.toInt + length.toInt ≤ b.size.toInt ∧ ∃ p, b.externalBuffer = some p ∧
      result = .ok () (Function.update mem p ((mem p).take b.offset.toNatClampNeg
          ++ data.take length.toNatClampNeg
          ++ (mem p).drop (b.offset.toNatClampNeg + length.toNatClampNeg)),
        { b with offset := b.offset + length }) ∧
      (b.offset + length).toInt = b.offset.toInt + length.toInt) ∨
    ∃ what, result = .error (.runtimeError what) (mem, b)
  /-- It throws exactly if the bytes do not fit. -/
  throws_iff : (∃ what s, result = .error (.runtimeError what) s) ↔
    b.size.toInt < b.offset.toInt + length.toInt
  /-- Nothing outside of the buffer is written, also if it throws. -/
  frame : ∀ s, afterCall result = some s → ∀ p i,
    b.externalBuffer ≠ some p ∨ b.size.toInt ≤ (i : Nat) → (s.1 p)[i]? = (mem p)[i]?

/-- Bytes that are written in front of the end of the buffer do not show behind it. -/
theorem getElem?_written (l bytes : List UInt8) {pos i : Nat} (hfits : pos + bytes.length ≤ i)
    (hroom : pos + bytes.length ≤ l.length) :
    (l.take pos ++ bytes ++ l.drop (pos + bytes.length))[i]? = l[i]? := by
  have hfront : (l.take pos ++ bytes).length = pos + bytes.length := by
    rw [List.length_append, List.length_take, Nat.min_eq_left (by omega)]
  rw [List.getElem?_append_right (by omega), hfront, List.getElem?_drop]
  congr 1
  omega

/-- The bytes fit: they are written. -/
theorem append_external (hexternal : b.isDynamic = false) (hcursor : b.CursorOk)
    (hroom : b.size.toInt ≤ (b.raw mem).length) (hpos : 0 < length.toInt)
    (hfits : b.offset.toInt + length.toInt ≤ b.size.toInt)
    (hread : length.toNatClampNeg ≤ data.length) (block : Block UInt8) :
    ∃ p, b.externalBuffer = some p ∧
      b.offset.toNatClampNeg + length.toNatClampNeg ≤ (mem p).length ∧
      append data length block (mem, b) = .ok () (Function.update mem p
          ((mem p).take b.offset.toNatClampNeg ++ data.take length.toNatClampNeg
            ++ (mem p).drop (b.offset.toNatClampNeg + length.toNatClampNeg)),
        { b with offset := b.offset + length }) := by
  have hnonneg := (cursorOk_iff.mp hcursor).1
  have h₁ := toNatClampNeg_eq (x := b.offset)
  have h₂ := toNatClampNeg_eq (x := length)
  have hsize := b.size.toInt_lt
  have hsum : b.offset.toInt + length.toInt < 2 ^ 31 := by omega
  have hcapacity : ¬ b.offset + length > b.size := by
    rw [gt_iff_lt, Int32.lt_iff_toInt_lt, toInt_endOf hpos hsum]
    omega
  have hpositive : ¬ length ≤ 0 := not_le_zero (by omega)
  have hfront : ¬ b.offset < 0 := by
    rw [Int32.lt_iff_toInt_lt, Int32.toInt_zero]
    omega
  have htake : (data.take length.toNatClampNeg).length = length.toNatClampNeg := by
    rw [List.length_take, Nat.min_eq_left hread]
  rw [raw, if_neg (by rw [hexternal]; exact Bool.false_ne_true)] at hroom
  cases hbuffer : b.externalBuffer with
  | none =>
    -- there is no room behind a null pointer
    rw [hbuffer] at hroom
    have : b.size.toInt ≤ 0 := hroom
    omega
  | some p =>
    rw [hbuffer] at hroom
    have hwrite : b.offset.toNatClampNeg + length.toNatClampNeg ≤ (mem p).length := by
      have : b.size.toInt ≤ (mem p).length := hroom
      omega
    refine ⟨p, rfl, hwrite, ?_⟩
    have hnot : ¬ b.isDynamic = true := by
      rw [hexternal]
      exact Bool.false_ne_true
    have hend : endOf length (mem, b) = .ok (b.offset + length) (mem, b) := by
      rw [endOf_apply, if_pos hsum]
    have hensure : ensureCapacity (b.offset + length) block (mem, b) = .ok () (mem, b) := by
      rw [ensureCapacity_apply, if_neg hnot, if_neg hcapacity]
    have hcopy : memcpy data length.toNatClampNeg (mem, b) = .ok () (Function.update mem p
        ((mem p).take b.offset.toNatClampNeg ++ data.take length.toNatClampNeg
          ++ (mem p).drop (b.offset.toNatClampNeg + length.toNatClampNeg)), b) := by
      simp only [memcpy, if_neg (Nat.not_lt.mpr hread), store, get_bind_apply, ite_run,
        if_neg hfront, if_neg hnot, hbuffer, htake, if_pos hwrite]
      rfl
    rw [append_apply hpositive, bind_ok hend, bind_ok hensure, bind_ok hcopy, onBuffer,
      modify_apply, advance, if_neg hnot]
    dsimp only
    rw [hbuffer]

/-- They do not fit, and the sum does not overflow: the call throws. -/
theorem append_external_throws (hexternal : b.isDynamic = false) (hcursor : b.CursorOk)
    (hlarge : b.size.toInt < b.offset.toInt + length.toInt)
    (hsum : b.offset.toInt + length.toInt < 2 ^ 31) (mem : Memory) (data : List UInt8)
    (block : Block UInt8) :
    append data length block (mem, b)
      = .error (.runtimeError "External buffer capacity exceeded") (mem, b) := by
  have hle := (cursorOk_iff.mp hcursor).2
  have hcapacity : b.offset + length > b.size := by
    rw [gt_iff_lt, Int32.lt_iff_toInt_lt, toInt_endOf (by omega) hsum]
    exact hlarge
  have hpositive : ¬ length ≤ 0 := not_le_zero (by omega)
  have hend : endOf length (mem, b) = .ok (b.offset + length) (mem, b) := by
    rw [endOf_apply, if_pos hsum]
  have hensure : ensureCapacity (b.offset + length) block (mem, b)
      = .error (.runtimeError "External buffer capacity exceeded") (mem, b) := by
    rw [ensureCapacity_apply, if_neg (by rw [hexternal]; exact Bool.false_ne_true),
      if_pos hcapacity]
  rw [append_apply hpositive, bind_ok hend, bind_error hensure]

/-- The sum overflows, before anything is compared with it. -/
theorem append_overflow (h : ¬ b.offset.toInt + length.toInt < 2 ^ 31) (mem : Memory)
    (data : List UInt8) (block : Block UInt8) :
    append data length block (mem, b) = .error .undefined (mem, b) := by
  have hpositive : ¬ length ≤ 0 := by
    have := b.offset.toInt_lt
    exact not_le_zero (by omega)
  have hend : endOf length (mem, b) = .error .undefined (mem, b) := by
    rw [endOf_apply, if_neg h]
  rw [append_apply hpositive, bind_error hend]

theorem Bounded.nothing (hle : b.offset ≤ b.size) (h : length ≤ 0) (mem : Memory)
    (data : List UInt8) : Bounded mem b data length (.ok () (mem, b)) where
  outcome := .inl ⟨h, rfl⟩
  throws_iff := by
    rw [Int32.le_iff_toInt_le] at hle h
    rw [Int32.toInt_zero] at h
    exact iff_of_false (by rintro ⟨what, s, ⟨⟩⟩) (by omega)
  frame := by
    rintro s ⟨⟩ p i -
    rfl

/-- An `append` that fits writes inside the memory. -/
theorem Bounded.written {p : Nat} (hbuffer : b.externalBuffer = some p)
    (hoffset : 0 ≤ b.offset.toInt) (hpos : 0 < length.toInt)
    (hfits : b.offset.toInt + length.toInt ≤ b.size.toInt)
    (hwrite : b.offset.toNatClampNeg + length.toNatClampNeg ≤ (mem p).length)
    (hread : length.toNatClampNeg ≤ data.length) :
    Bounded mem b data length (.ok () (Function.update mem p
        ((mem p).take b.offset.toNatClampNeg ++ data.take length.toNatClampNeg
          ++ (mem p).drop (b.offset.toNatClampNeg + length.toNatClampNeg)),
      { b with offset := b.offset + length })) where
  outcome := by
    have hsize := b.size.toInt_lt
    have hlength : 0 < length := by
      rw [Int32.lt_iff_toInt_lt, Int32.toInt_zero]
      exact hpos
    exact .inr (.inl ⟨hlength, hfits, p, hbuffer, rfl, toInt_endOf hpos (by omega)⟩)
  throws_iff := iff_of_false (by rintro ⟨what, s, ⟨⟩⟩) (Int.not_lt.mpr hfits)
  frame := by
    rintro s ⟨⟩ q i hout
    dsimp only
    by_cases hq : q = p
    · subst hq
      have hbehind : b.size.toInt ≤ i := hout.resolve_left (absurd hbuffer)
      have h₁ := toNatClampNeg_eq (x := b.offset)
      have h₂ := toNatClampNeg_eq (x := length)
      have htake : (data.take length.toNatClampNeg).length = length.toNatClampNeg := by
        rw [List.length_take, Nat.min_eq_left hread]
      have hframe := getElem?_written (mem q) (data.take length.toNatClampNeg)
        (by omega : b.offset.toNatClampNeg + _ ≤ i) (by omega)
      rw [htake] at hframe
      rw [Function.update_self]
      exact hframe
    · rw [Function.update_of_ne hq]

/-- **`append` to a buffer of the caller.** It is bounded, and throws instead of writing behind
the end, exactly if `offset_ + length` does not overflow. Where it throws, `data` is not read. -/
theorem append_bounded_iff (mem : Memory) (hexternal : b.isDynamic = false)
    (hcursor : 0 ≤ b.offset ∧ b.offset ≤ b.size) (hroom : b.size.toInt ≤ (b.raw mem).length)
    (data : List UInt8) (length : Int32)
    (hread : b.offset.toInt + length.toInt ≤ b.size.toInt → length.toNatClampNeg ≤ data.length)
    (block : Block UInt8) :
    Bounded mem b data length (append data length block (mem, b)) ↔
      b.offset.toInt + length.toInt < 2 ^ 31 := by
  have hok := cursorOk_iff.mp hcursor
  constructor
  · intro hbounded
    by_contra hover
    have hsize := b.size.toInt_lt
    obtain ⟨what, s, hthrown⟩ := hbounded.throws_iff.mpr (by omega)
    rw [append_overflow hover] at hthrown
    cases hthrown
  · intro hsum
    by_cases hle : length ≤ 0
    · have hnone : append data length block (mem, b) = .ok () (mem, b) := by
        rw [append, if_pos hle]
        rfl
      rw [hnone]
      exact .nothing hcursor.2 hle mem data
    · have hpos := pos_of_not_le hle
      by_cases hlarge : b.size.toInt < b.offset.toInt + length.toInt
      · rw [append_external_throws hexternal hcursor hlarge hsum]
        refine ⟨.inr (.inr ⟨_, rfl⟩), iff_of_true ⟨_, _, rfl⟩ hlarge, ?_⟩
        rintro s ⟨⟩ p i -
        rfl
      · have hfits := Int.not_lt.mp hlarge
        have hdata := hread hfits
        obtain ⟨p, hbuffer, hwrite, happend⟩ :=
          append_external hexternal hcursor hroom hpos hfits hdata block
        rw [happend]
        exact .written hbuffer hok.1 hpos hfits hwrite hdata

/-- Two letters in a buffer of four bytes. -/
theorem append_bounded_letters :
    let mem : Memory := fun _ => [0, 0, 0, 0]
    let b : PacketBuffer := set (some 0) 1 4 .none {}
    Bounded mem b [65, 66] 2 (append [65, 66] 2 { cells := fun _ => 0 } (mem, b)) ∧
      append [65, 66] 2 { cells := fun _ => 0 } (mem, b) = .ok ()
        (Function.update mem 0 [0, 65, 66, 0], { b with offset := 3 }) := by
  intro mem b
  have hroom : b.size.toInt ≤ (b.raw mem).length := by decide
  refine ⟨(append_bounded_iff mem rfl (by decide) hroom [65, 66] 2 (by decide)
    { cells := fun _ => 0 }).mpr (by decide), ?_⟩
  obtain ⟨p, hp, -, happend⟩ := append_external rfl (by decide : 0 ≤ b.offset ∧ b.offset ≤ b.size)
    hroom (by decide : 0 < (2 : Int32).toInt) (by decide)
    (by decide : (2 : Int32).toNatClampNeg ≤ ([65, 66] : List UInt8).length) { cells := fun _ => 0 }
  cases hp
  exact happend

/-- The largest length, at the second of four bytes: the sum overflows, and the call does not
throw. -/
theorem append_largest_length :
    let mem : Memory := fun _ => [0, 0, 0, 0]
    let b : PacketBuffer := set (some 0) 1 4 .none {}
    b.size.toInt < b.offset.toInt + (2147483647 : Int32).toInt ∧
      ∀ (data : List UInt8) (block : Block UInt8),
        append data 2147483647 block (mem, b) = .error .undefined (mem, b) ∧
        ¬ Bounded mem b data 2147483647 (append data 2147483647 block (mem, b)) := by
  intro mem b
  refine ⟨by decide, ?_⟩
  intro data block
  have hundefined : append data 2147483647 block (mem, b) = .error .undefined (mem, b) :=
    append_overflow (by decide) mem data block
  refine ⟨hundefined, ?_⟩
  intro hbounded
  obtain ⟨what, s, hthrown⟩ := hbounded.throws_iff.mpr (by decide)
  rw [hundefined] at hthrown
  cases hthrown

end PacketBuffer

/-! ## Several buffers -/

/-- The buffers of a program, and the arrays that they may point into. -/
structure Buffers (ι : Type) where
  memory : Memory
  buffer : ι → PacketBuffer

/-- A call on a buffer, or a copy or move of one to another. -/
inductive BufferEvent (ι : Type) where
  | op (i : ι) (op : BufferOp)
  | copy (source target : ι) (block : Block UInt8)
  | move (source target : ι)

namespace Buffers

variable {ι : Type} [DecidableEq ι]

/-- One buffer changes. -/
def put (w : Buffers ι) (i : ι) (b : PacketBuffer) : Buffers ι :=
  { w with buffer := Function.update w.buffer i b }

/-- The arrays change. -/
def withMemory (w : Buffers ι) (memory : Memory) : Buffers ι := { w with memory }

/-- A call on one of the buffers, with what it leaves if it throws. -/
def onOne (i : ι) (call : PacketBuffer.Call Unit) : EStateM BufferFault (Buffers ι) Unit :=
  fun w => match call (w.memory, w.buffer i) with
    | .ok _ s => .ok () ((w.put i s.2).withMemory s.1)
    | .error fault s => .error fault ((w.put i s.2).withMemory s.1)

/-- Copying or moving a buffer to itself does nothing. -/
def apply : BufferEvent ι → EStateM BufferFault (Buffers ι) Unit
  | .op i op => onOne i (PacketBuffer.apply op)
  | .copy source target block => modify fun w =>
    if source = target then w else w.put target ((w.buffer source).copyOf block)
  | .move source target => modify fun w =>
    if source = target then w
    else (w.put target (w.buffer source)).put source (w.buffer source).movedFrom

/-- One event. -/
def BufferStep (w : Buffers ι) (e : BufferEvent ι) (w' : Buffers ι) : Prop :=
  (∀ i op, e = .op i op → op.Sound) ∧ afterCall (apply e w) = some w'

variable {w : Buffers ι}

theorem BufferStep.op {i : ι} {op : BufferOp} {memory : Memory} {b : PacketBuffer}
    (hsound : op.Sound) (h : PacketBuffer.apply op (w.memory, w.buffer i) = .ok () (memory, b)) :
    BufferStep w (.op i op) ((w.put i b).withMemory memory) := by
  refine ⟨fun j op' heq => by cases heq; exact hsound, ?_⟩
  rw [apply, onOne, h]
  rfl

/-- Writing back what is there. -/
theorem put_same (w : Buffers ι) (i : ι) : (w.put i (w.buffer i)).withMemory w.memory = w := by
  unfold put withMemory
  rw [Function.update_eq_self]

/-- A call on one buffer returns, or throws and leaves all buffers as they were. -/
theorem onOne_cases {w' : Buffers ι} {i : ι} {op : BufferOp}
    (h : afterCall (onOne i (PacketBuffer.apply op) w) = some w') :
    (∃ memory b, PacketBuffer.apply op (w.memory, w.buffer i) = .ok () (memory, b) ∧
      w' = (w.put i b).withMemory memory) ∨
    (w' = w ∧ ∃ fault s, fault ≠ .undefined ∧
      PacketBuffer.apply op (w.memory, w.buffer i) = .error fault s) := by
  unfold onOne at h
  cases hcall : PacketBuffer.apply op (w.memory, w.buffer i) with
  | ok _ s =>
    rw [hcall] at h
    exact .inl ⟨s.1, s.2, rfl, (Option.some.inj h).symm⟩
  | error fault s =>
    rw [hcall] at h
    rcases afterCall_cases h with hok | ⟨fault', hfault, herror⟩
    · cases hok
    · cases herror
      obtain rfl := PacketBuffer.apply_throws hfault hcall
      exact .inr ⟨put_same w i, fault, _, hfault, rfl⟩

/-- All cursors are in bounds. -/
def CursorsOk (w : Buffers ι) : Prop := ∀ i, (w.buffer i).CursorOk

/-- The event fits into the buffer that it is for. -/
def Fits (w : Buffers ι) : BufferEvent ι → Prop
  | .op i op => (w.buffer i).Fits op
  | _ => True

/-- Only the buffer that changes can lose its cursor. -/
theorem cursorsOk_put (h : w.CursorsOk) (i : ι) (b : PacketBuffer) :
    (w.put i b).CursorsOk ↔ b.CursorOk := by
  have hself : (w.put i b).buffer i = b := Function.update_self ..
  constructor
  · intro hall
    have hi := hall i
    rw [hself] at hi
    exact hi
  · intro hb j
    by_cases hj : j = i
    · subst hj
      rw [hself]
      exact hb
    · have hother : (w.put i b).buffer j = w.buffer j := Function.update_of_ne hj ..
      rw [hother]
      exact h j

/-- **One event.** -/
theorem cursorsOk_step {w' : Buffers ι} {e : BufferEvent ι} (h : w.CursorsOk)
    (hstep : BufferStep w e w') : w'.CursorsOk ↔ w.Fits e := by
  obtain ⟨hsound, hafter⟩ := hstep
  cases e with
  | op i op =>
    rcases onOne_cases hafter with ⟨memory, b, hok, rfl⟩ | ⟨rfl, fault, s, hfault, herror⟩
    · exact (cursorsOk_put h i b).trans
        (PacketBuffer.cursorOk_apply (h i) (hsound i op rfl) hok)
    · exact iff_of_true h (PacketBuffer.fits_of_thrown (h i) hfault herror)
  | copy source target block =>
    cases hafter
    refine iff_of_true ?_ trivial
    dsimp only
    split
    · exact h
    · exact (cursorsOk_put h target _).mpr (h source)
  | move source target =>
    cases hafter
    refine iff_of_true ?_ trivial
    dsimp only
    split
    · exact h
    · have hput := (cursorsOk_put h target _).mpr (h source)
      exact (cursorsOk_put hput source _).mpr ⟨Int32.le_refl 0, Int32.le_refl 0⟩

/-- **The cursor of a packet buffer.** Of the runs of any number of buffers, which start as
default ones, those in which all cursors stay in bounds are those in which every capacity fits
into `size_` and nothing is appended behind `size_`. While they do, `remaining_size()` is not
negative and `set_offset(offset())` is accepted. -/
theorem cursor_in_bounds_iff (memory : Memory) (es : List (BufferEvent ι)) (w : Buffers ι) :
    (Run (staying CursorsOk BufferStep) { memory, buffer := fun _ => {} } es w ↔
      Run (guarded Fits BufferStep) { memory, buffer := fun _ => {} } es w) ∧
    (Run (guarded Fits BufferStep) { memory, buffer := fun _ => {} } es w →
      ∀ i, (0 ≤ (w.buffer i).offset ∧ (w.buffer i).offset ≤ (w.buffer i).size) ∧
        0 ≤ (w.buffer i).remainingSize ∧ (w.buffer i).Accepts (w.buffer i).offset) := by
  have hstart : CursorsOk ({ memory, buffer := fun _ => {} } : Buffers ι) :=
    fun _ => ⟨Int32.le_refl 0, Int32.le_refl 0⟩
  have hiff : Run (staying CursorsOk BufferStep) { memory, buffer := fun _ => {} } es w ↔
      Run (guarded Fits BufferStep) { memory, buffer := fun _ => {} } es w :=
    Run.staying_iff (I := fun _ => True) trivial hstart (fun _ _ _ _ _ => trivial)
      fun _ _ _ _ hok hstep => cursorsOk_step hok hstep
  refine ⟨hiff, ?_⟩
  intro hrun i
  have hok : (w.buffer i).CursorOk := (hiff.mpr hrun).staying_end hstart i
  exact ⟨hok, hok.remainingSize_nonneg, PacketBuffer.cursorOk_iff_accepts.mp hok⟩

/-- 200 bytes are appended to a buffer for 100: it says that it has -100 left, and does not
accept its own cursor. -/
theorem cursor_behind_size :
    let block : Block UInt8 := { cells := fun _ => 0 }
    let start : Buffers Unit := { memory := fun _ => [], buffer := fun _ => {} }
    let es : List (BufferEvent Unit) := [.op () (.dynamic 100 .none block),
      .op () (.append (List.replicate 200 65) 200 block)]
    ∃ w, Run BufferStep start es w ∧ (w.buffer ()).offset = 200 ∧ (w.buffer ()).size = 100 ∧
      (w.buffer ()).remainingSize = -100 ∧ ¬ (w.buffer ()).Accepts (w.buffer ()).offset := by
  intro block start es
  let fresh := PacketBuffer.dynamic 100 .none block
  obtain ⟨b, happend, -, hend⟩ := (PacketBuffer.blank_dynamic 100 .none block).appendAll
    start.memory (List.replicate 200 65) (by rw [List.length_replicate]; decide) block
  rw [List.length_replicate] at hend
  have hoffset : b.offset = 200 := Int32.toInt_inj.mp hend
  have hsize : b.size = 100 := by
    rcases PacketBuffer.append_ok happend with ⟨-, hsame⟩ | ⟨-, -, hsize, -⟩
    · cases hsame
      rfl
    · exact hsize
  have hfirst : BufferStep start (.op () (.dynamic 100 .none block))
      ((start.put () fresh).withMemory start.memory) := .op trivial rfl
  have hlength : Int32.ofNat (List.replicate 200 (65 : UInt8)).length = 200 := by
    rw [List.length_replicate]
    rfl
  rw [PacketBuffer.appendAll, hlength] at happend
  refine ⟨_, (Run.single hfirst).snoc (.op trivial happend), hoffset, hsize, ?_, ?_⟩
  · show b.size - b.offset = -100
    rw [hsize, hoffset]
    decide
  · show ¬ (0 ≤ b.offset ∧ b.offset ≤ b.size)
    rw [hsize, hoffset]
    decide

end Buffers

end EcsAsioServer.Core
