import Mathlib.Data.Nat.Bitwise
import Mathlib.Tactic

/-!
# Little-endian words

Fixed-width unsigned words as lists of bytes, least significant byte first.
`ofBytes16`/`ofBytes32` rebuild a word from its bytes. Both directions of the
round trip hold for every word and every choice of bytes, so a word may be
exchanged for its encoding wherever a wire format is decoded.

Both facts go through `toNat`: a word is the sum of its bytes at their places
(`toNat_ofBytes32`), a byte of a word is a quotient and a remainder
(`toNat_bytes32`), and what is left is linear arithmetic.
-/

namespace LittleEndian

/-- The two bytes of a 16-bit word, least significant first. -/
def bytes16 (v : UInt16) : List UInt8 :=
  [(v &&& 0xFF).toUInt8, ((v >>> 8) &&& 0xFF).toUInt8]

/-- The four bytes of a 32-bit word, least significant first. -/
def bytes32 (v : UInt32) : List UInt8 :=
  [(v &&& 0xFF).toUInt8, ((v >>> 8) &&& 0xFF).toUInt8,
   ((v >>> 16) &&& 0xFF).toUInt8, ((v >>> 24) &&& 0xFF).toUInt8]

/-- The 16-bit word with the given bytes. -/
def ofBytes16 (b₀ b₁ : UInt8) : UInt16 :=
  b₀.toUInt16 ||| (b₁.toUInt16 <<< 8)

/-- The 32-bit word with the given bytes. -/
def ofBytes32 (b₀ b₁ b₂ b₃ : UInt8) : UInt32 :=
  b₀.toUInt32 ||| (b₁.toUInt32 <<< 8) ||| (b₂.toUInt32 <<< 16)
    ||| (b₃.toUInt32 <<< 24)

@[simp] theorem length_bytes32 (v : UInt32) : (bytes32 v).length = 4 := rfl

/-! ## Words and bytes as naturals -/

/-- Masking with `0xFF` is the remainder modulo 256. -/
theorem and_255 (n : Nat) : n &&& 255 = n % 256 :=
  Nat.and_two_pow_sub_one_eq_mod n 8

theorem toNat_ofBytes16 (b₀ b₁ : UInt8) :
    (ofBytes16 b₀ b₁).toNat = b₀.toNat + b₁.toNat * 2 ^ 8 := by
  have h₀ := b₀.toNat_lt
  have h₁ := b₁.toNat_lt
  have e₁ : (b₁.toUInt16 <<< 8).toNat = b₁.toNat <<< 8 := by
    simp [Nat.shiftLeft_eq]
    omega
  rw [ofBytes16, UInt16.toNat_or, e₁, UInt8.toNat_toUInt16,
    Nat.or_comm b₀.toNat, ← Nat.shiftLeft_add_eq_or_of_lt h₀]
  simp only [Nat.shiftLeft_eq]
  omega

/-- A 32-bit word is the sum of its bytes at their places. The disjunctions of
the definition are sums because no two shifted bytes overlap. -/
theorem toNat_ofBytes32 (b₀ b₁ b₂ b₃ : UInt8) :
    (ofBytes32 b₀ b₁ b₂ b₃).toNat
      = b₀.toNat + b₁.toNat * 2 ^ 8 + b₂.toNat * 2 ^ 16 + b₃.toNat * 2 ^ 24 := by
  have h₀ := b₀.toNat_lt
  have h₁ := b₁.toNat_lt
  have h₂ := b₂.toNat_lt
  have h₃ := b₃.toNat_lt
  have e₁ : (b₁.toUInt32 <<< 8).toNat = b₁.toNat <<< 8 := by
    simp [Nat.shiftLeft_eq]
    omega
  have e₂ : (b₂.toUInt32 <<< 16).toNat = b₂.toNat <<< 16 := by
    simp [Nat.shiftLeft_eq]
    omega
  have e₃ : (b₃.toUInt32 <<< 24).toNat = b₃.toNat <<< 24 := by
    simp [Nat.shiftLeft_eq]
    omega
  rw [ofBytes32, UInt32.toNat_or, UInt32.toNat_or, UInt32.toNat_or, e₁, e₂, e₃,
    UInt8.toNat_toUInt32]
  -- from the low end: each partial word is below the next byte's place
  rw [Nat.or_comm b₀.toNat, ← Nat.shiftLeft_add_eq_or_of_lt h₀,
    Nat.or_comm (_ + _),
    ← Nat.shiftLeft_add_eq_or_of_lt (by rw [Nat.shiftLeft_eq]; omega),
    Nat.or_comm (_ + _),
    ← Nat.shiftLeft_add_eq_or_of_lt
      (by rw [Nat.shiftLeft_eq, Nat.shiftLeft_eq]; omega)]
  simp only [Nat.shiftLeft_eq]
  omega

theorem toNat_bytes16 (v : UInt16) :
    (bytes16 v).map UInt8.toNat = [v.toNat % 256, v.toNat / 2 ^ 8 % 256] := by
  simp [bytes16, Nat.shiftRight_eq_div_pow, and_255]

theorem toNat_bytes32 (v : UInt32) :
    (bytes32 v).map UInt8.toNat
      = [v.toNat % 256, v.toNat / 2 ^ 8 % 256, v.toNat / 2 ^ 16 % 256,
         v.toNat / 2 ^ 24 % 256] := by
  simp [bytes32, Nat.shiftRight_eq_div_pow, and_255]

/-! ## Round trips -/

theorem toNat_injective8 : Function.Injective UInt8.toNat :=
  fun _ _ h => UInt8.toNat_inj.mp h

/-- Encoding a rebuilt word gives the bytes it was built from. -/
theorem bytes16_ofBytes16 (b₀ b₁ : UInt8) :
    bytes16 (ofBytes16 b₀ b₁) = [b₀, b₁] := by
  apply List.map_injective_iff.mpr toNat_injective8
  have h₀ := b₀.toNat_lt
  have h₁ := b₁.toNat_lt
  rw [toNat_bytes16, toNat_ofBytes16]
  simp only [List.map_cons, List.map_nil, List.cons.injEq, and_true]
  omega

/-- Encoding a rebuilt word gives the bytes it was built from. -/
theorem bytes32_ofBytes32 (b₀ b₁ b₂ b₃ : UInt8) :
    bytes32 (ofBytes32 b₀ b₁ b₂ b₃) = [b₀, b₁, b₂, b₃] := by
  apply List.map_injective_iff.mpr toNat_injective8
  have h₀ := b₀.toNat_lt
  have h₁ := b₁.toNat_lt
  have h₂ := b₂.toNat_lt
  have h₃ := b₃.toNat_lt
  rw [toNat_bytes32, toNat_ofBytes32]
  simp only [List.map_cons, List.map_nil, List.cons.injEq, and_true]
  omega

/-- A word is rebuilt from the two bytes of its encoding. -/
theorem exists_bytes16 (v : UInt16) :
    ∃ b₀ b₁, bytes16 v = [b₀, b₁] ∧ ofBytes16 b₀ b₁ = v := by
  refine ⟨_, _, rfl, UInt16.toNat_inj.mp ?_⟩
  have hm := toNat_bytes16 v
  simp only [bytes16, List.map_cons, List.map_nil, List.cons.injEq, and_true] at hm
  have hv := v.toNat_lt
  rw [toNat_ofBytes16]
  omega

/-- A word is rebuilt from the four bytes of its encoding. -/
theorem exists_bytes32 (v : UInt32) :
    ∃ b₀ b₁ b₂ b₃, bytes32 v = [b₀, b₁, b₂, b₃] ∧ ofBytes32 b₀ b₁ b₂ b₃ = v := by
  refine ⟨_, _, _, _, rfl, UInt32.toNat_inj.mp ?_⟩
  have hm := toNat_bytes32 v
  simp only [bytes32, List.map_cons, List.map_nil, List.cons.injEq, and_true] at hm
  have hv := v.toNat_lt
  rw [toNat_ofBytes32]
  omega

end LittleEndian
