import EcsAsioServer.Lib.LittleEndian
import EcsAsioServer.Lib.Records

/-!
# Wire primitives (`common/protocol/protocol_base.hpp`)

A message is written by appending to a byte vector and parsed by moving a pointer
`p` towards `end`. A parser is a program over the bytes from `p` to `end`
(`Reader`): it may reject the message, and a read that is not covered by a length
check ends in `outOfBounds` when the bytes are not there.
-/

namespace EcsAsioServer.Protocol

open LittleEndian StateProgram Records

/-- A 32-bit float, as its bit pattern: messages and components only move floats
around. -/
structure F32 where
  bits : UInt32
deriving DecidableEq, Repr

/-- `0.f`. -/
def F32.zero : F32 := ⟨0⟩

/-- The bytes of a string literal. -/
def ascii (s : String) : List UInt8 := s.toList.map fun c => c.toNat.toUInt8

/-! ## Writing -/

/-- `write_le32`. -/
def writeLe32 (v : UInt32) : List UInt8 := bytes32 v

/-- `write_float_le`. -/
def writeFloatLe (v : F32) : List UInt8 := writeLe32 v.bits

/-- `write_lp_string`: the size is cast to 32 bits. -/
def writeLpString (s : List UInt8) : List UInt8 := writeLe32 (UInt32.ofNat s.length) ++ s

/-- `out.push_back(b ? 1 : 0)`. -/
def writeBool (b : Bool) : List UInt8 := [if b then 1 else 0]

/-! ## Reading -/

/-- Why a parse stopped. -/
inductive ReadError where
  | rejected
  | outOfBounds
deriving DecidableEq, Repr

/-- A parser over the unread bytes. -/
abbrev Reader := EStateM ReadError (List UInt8)

/-- `if (p + n > end) return false`. -/
def need (n : Nat) : Reader Unit := do
  if (← get).length < n then throw .rejected

/-- `*p++`. -/
def readByte : Reader UInt8 := do
  match ← get with
  | b :: rest => set rest; return b
  | [] => throw .outOfBounds

/-- `*p++ != 0`. -/
def readBool : Reader Bool := return (← readByte) != 0

/-- `p += n` over bytes that are not read. -/
def skip (n : Nat) : Reader Unit := modify (List.drop n)

/-- `read_le32(p); p += 4`. -/
def readLe32 : Reader UInt32 := do
  match ← get with
  | b₀ :: b₁ :: b₂ :: b₃ :: rest => set rest; return ofBytes32 b₀ b₁ b₂ b₃
  | _ => throw .outOfBounds

/-- `read_float_le(p); p += 4`. -/
def readFloatLe : Reader F32 := return ⟨← readLe32⟩

/-- `read_lp_string`. -/
def readLpString : Reader (List UInt8) := do
  need 4
  let len ← readLe32
  let rest ← get
  if rest.length < len.toNat then throw .rejected
  set (rest.drop len.toNat)
  return rest.take len.toNat

/-! ## Reserving

The parsers of the messages with a list call `reserve` on the vector of the elements
before they read the first one. -/

/-- A call of `vector::reserve`: its argument, and the bytes that are unread then. -/
structure Reservation where
  count : UInt32
  unread : List UInt8
deriving DecidableEq, Repr

/-- A parser that keeps an account of what it reserves. -/
abbrev ListReader := EStateM ReadError (List UInt8 × List Reservation)

/-- Reading leaves the account as it is. -/
def reading {α : Type} (x : Reader α) : ListReader α := fun s =>
  match x s.1 with
  | .ok a rest => .ok a (rest, s.2)
  | .error e rest => .error e (rest, s.2)

instance : MonadLift Reader ListReader := ⟨reading⟩

/-- `reserve(count)`. -/
def reserve (count : UInt32) : ListReader Unit :=
  modify fun s => (s.1, s.2 ++ [⟨count, s.1⟩])

/-- The parser without its account. -/
def withoutAccount {α : Type} (x : ListReader α) : Reader α := fun b =>
  match x (b, []) with
  | .ok a s => .ok a s.1
  | .error e s => .error e s.1

/-- The calls of `reserve` while `b` is parsed, however that ends. -/
def reservations {α : Type} (x : ListReader α) (b : List UInt8) : List Reservation :=
  (after x (b, [])).2

/-! ## Reading back what was written -/

theorem length_writeLe32 (v : UInt32) : (writeLe32 v).length = 4 := length_bytes32 v

theorem readLe32_writeLe32 (v : UInt32) (rest : List UInt8) :
    readLe32 (writeLe32 v ++ rest) = .ok v rest := by
  obtain ⟨b₀, b₁, b₂, b₃, hb, hv⟩ := exists_bytes32 v
  rw [writeLe32, hb, ← hv]
  rfl

theorem need_of_le {n : Nat} {bytes : List UInt8} (h : n ≤ bytes.length) :
    need n bytes = .ok () bytes := by
  simp [need, Nat.not_lt.mpr h]

theorem need_of_lt {n : Nat} {bytes : List UInt8} (h : bytes.length < n) :
    need n bytes = .error .rejected bytes := by
  simp only [need, get_bind_apply, if_pos h]
  rfl

/-- A string whose size is not truncated is read back, and exactly its bytes are
consumed. -/
theorem readLpString_writeLpString {s : List UInt8} (h : s.length < 2 ^ 32)
    (rest : List UInt8) : readLpString (writeLpString s ++ rest) = .ok s rest := by
  have hlen : (UInt32.ofNat s.length).toNat = s.length := by
    rw [UInt32.toNat_ofNat', Nat.mod_eq_of_lt h]
  have hfour : 4 ≤ (writeLe32 (UInt32.ofNat s.length) ++ (s ++ rest)).length := by
    rw [List.length_append, length_writeLe32]
    omega
  have hroom : ¬ (s ++ rest).length < s.length := by
    rw [List.length_append]
    omega
  rw [writeLpString, List.append_assoc, readLpString, bind_ok (need_of_le hfour),
    bind_ok (readLe32_writeLe32 _ _), get_bind_apply, hlen, if_neg hroom]
  show EStateM.Result.ok ((s ++ rest).take s.length) ((s ++ rest).drop s.length) = _
  rw [List.take_left, List.drop_left]

/-! ## Words at an offset -/

/-- The 32-bit word at offset `i`. -/
def wordAt (b : List UInt8) (i : Nat) : UInt32 :=
  ofBytes32 (b.getD i 0) (b.getD (i + 1) 0) (b.getD (i + 2) 0) (b.getD (i + 3) 0)

theorem drop_eq_word {b : List UInt8} {i : Nat} (h : i + 4 ≤ b.length) :
    b.drop i = b.getD i 0 :: b.getD (i + 1) 0 :: b.getD (i + 2) 0 :: b.getD (i + 3) 0
      :: b.drop (i + 4) := by
  rw [List.drop_eq_getElem_cons (by omega), List.drop_eq_getElem_cons (i := i + 1) (by omega),
    List.drop_eq_getElem_cons (i := i + 2) (by omega),
    List.drop_eq_getElem_cons (i := i + 3) (by omega)]
  simp only [List.getD_eq_getElem?_getD, List.getElem?_eq_getElem, show i < b.length by omega,
    show i + 1 < b.length by omega, show i + 2 < b.length by omega,
    show i + 3 < b.length by omega, Option.getD_some]

/-- Four bytes that are there are read as the word at their offset. -/
theorem readLe32_drop {b : List UInt8} {i : Nat} (h : i + 4 ≤ b.length) :
    readLe32 (b.drop i) = .ok (wordAt b i) (b.drop (i + 4)) := by
  rw [drop_eq_word h]
  rfl

/-! ## What is read was written -/

/-- Fewer than four bytes overrun, and of four or more the first four are read. -/
theorem readLe32_cases (b : List UInt8) :
    (b.length < 4 ∧ readLe32 b = .error .outOfBounds b) ∨
      ∃ v rest, b = writeLe32 v ++ rest ∧ readLe32 b = .ok v rest := by
  match b with
  | [] => exact .inl ⟨by decide, rfl⟩
  | [_] => exact .inl ⟨by simp, rfl⟩
  | [_, _] => exact .inl ⟨by simp, rfl⟩
  | [_, _, _] => exact .inl ⟨by simp, rfl⟩
  | b₀ :: b₁ :: b₂ :: b₃ :: rest =>
    refine .inr ⟨ofBytes32 b₀ b₁ b₂ b₃, rest, ?_, rfl⟩
    rw [writeLe32, bytes32_ofBytes32]
    rfl

theorem readLe32_accepts : Accepts readLe32 (fun _ => True) writeLe32 := by
  intro b v rest
  constructor
  · intro h
    rcases readLe32_cases b with ⟨-, herr⟩ | ⟨v', rest', hb, hok⟩
    · rw [herr] at h
      cases h
    · rw [hok] at h
      cases h
      exact ⟨trivial, hb⟩
  · rintro ⟨-, rfl⟩
    exact readLe32_writeLe32 v rest

theorem readFloatLe_accepts : Accepts readFloatLe (fun _ => True) writeFloatLe := by
  intro b v rest
  rw [readFloatLe, bind_eq_ok]
  constructor
  · rintro ⟨w, t, hw, hpure⟩
    cases hpure
    exact (readLe32_accepts b w rest).mp hw
  · rintro ⟨-, rfl⟩
    exact ⟨v.bits, rest, readLe32_writeLe32 _ _, rfl⟩

theorem readByte_accepts : Accepts readByte (fun _ => True) (fun v => [v]) := by
  intro b v rest
  cases b with
  | nil =>
    constructor
    · rintro ⟨⟩
    · rintro ⟨-, ⟨⟩⟩
  | cons c cs =>
    constructor
    · rintro ⟨⟩
      exact ⟨trivial, rfl⟩
    · rintro ⟨-, ⟨⟩⟩
      rfl

/-- A string is rejected unless its size and as many bytes are there. -/
theorem readLpString_cases (b : List UInt8) :
    (b.length < 4 ∧ readLpString b = .error .rejected b) ∨
    (∃ len rest, b = writeLe32 len ++ rest ∧
      ((rest.length < len.toNat ∧ readLpString b = .error .rejected rest) ∨
       (len.toNat ≤ rest.length ∧
        readLpString b = .ok (rest.take len.toNat) (rest.drop len.toNat)))) := by
  rcases Nat.lt_or_ge b.length 4 with hlt | hge
  · refine .inl ⟨hlt, ?_⟩
    rw [readLpString, bind_error (need_of_lt hlt)]
  · rcases readLe32_cases b with ⟨hlt, -⟩ | ⟨len, rest, hb, hok⟩
    · omega
    · refine .inr ⟨len, rest, hb, ?_⟩
      rw [readLpString, bind_ok (need_of_le hge), bind_ok hok, get_bind_apply]
      rcases Nat.lt_or_ge rest.length len.toNat with hshort | hlong
      · rw [if_pos hshort]
        exact .inl ⟨hshort, rfl⟩
      · rw [if_neg (Nat.not_lt.mpr hlong)]
        exact .inr ⟨hlong, rfl⟩

theorem readLpString_accepts :
    Accepts readLpString (fun s => s.length < 2 ^ 32) writeLpString := by
  intro b s rest
  constructor
  · intro h
    rcases readLpString_cases b with ⟨-, herr⟩ | ⟨len, t, hb, ⟨-, herr⟩ | ⟨hle, hok⟩⟩
    · rw [herr] at h
      cases h
    · rw [herr] at h
      cases h
    · rw [hok] at h
      cases h
      have hlen : (t.take len.toNat).length = len.toNat := by
        rw [List.length_take, Nat.min_eq_left hle]
      refine ⟨hlen.trans_lt len.toNat_lt, ?_⟩
      rw [writeLpString, hlen, UInt32.ofNat_toNat, List.append_assoc, List.take_append_drop, hb]
  · rintro ⟨hs, rfl⟩
    exact readLpString_writeLpString hs rest

end EcsAsioServer.Protocol
