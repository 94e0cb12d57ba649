import Mathlib.Tactic

/-!
# UTF-8 texts

A list of bytes is a UTF-8 text if it is the encoding of some characters. The bytes of a
character that is not an ASCII character are all above 127, so a text can be cut at every
ASCII byte (`valid_append_cons_iff`).
-/

namespace Utf8

/-- The bytes are the encoding of some characters. -/
def Valid (bytes : List UInt8) : Prop :=
  ∃ cs : List Char, bytes = cs.flatMap String.utf8EncodeChar

theorem valid_nil : Valid [] := ⟨[], rfl⟩

variable {b : UInt8} {x y : List UInt8}

theorem Valid.append (hx : Valid x) (hy : Valid y) : Valid (x ++ y) := by
  obtain ⟨cs, rfl⟩ := hx
  obtain ⟨ds, rfl⟩ := hy
  exact ⟨cs ++ ds, List.flatMap_append.symm⟩

/-- An ASCII byte is a character of its own. -/
theorem valid_singleton (h : b < 128) : Valid [b] := by
  have hb : b.toNat ≤ 127 := Nat.le_of_lt_succ (UInt8.lt_iff_toNat_lt.mp h)
  have hvalue : (Char.ofUInt8 b).val.toNat = b.toNat := UInt8.toNat_toUInt32 b
  refine ⟨[Char.ofUInt8 b], ?_⟩
  simp [String.utf8EncodeChar, hvalue, hb]

theorem valid_of_ascii {l : List UInt8} (h : ∀ b ∈ l, b < 128) : Valid l := by
  induction l with
  | nil => exact valid_nil
  | cons b l ih =>
    exact (valid_singleton (h b (.head _))).append (ih fun c hc => h c (.tail _ hc))

theorem not_ofNat_lt {n : Nat} (h : 128 ≤ n) (h' : n < 256) : ¬ UInt8.ofNat n < 128 := by
  rw [UInt8.lt_iff_toNat_lt, UInt8.toNat_ofNat_of_lt' h']
  exact Nat.not_lt.mpr h

/-- Only an ASCII character has an ASCII byte. -/
theorem encode_of_mem {c : Char} (hb : b ∈ String.utf8EncodeChar c) (hlt : b < 128) :
    String.utf8EncodeChar c = [b] := by
  unfold String.utf8EncodeChar at hb ⊢
  dsimp only at hb ⊢
  split_ifs at hb ⊢
  · rw [List.mem_singleton.mp hb]
  all_goals
    simp only [List.mem_cons, List.not_mem_nil, or_false] at hb
    exfalso
    rcases hb with rfl | rfl | rfl | rfl <;> exact not_ofNat_lt (by omega) (by omega) hlt

/-- No character goes across an ASCII byte. -/
theorem valid_append_cons_of (hb : b < 128) (h : Valid (x ++ b :: y)) : Valid x ∧ Valid y := by
  obtain ⟨cs, hcs⟩ := h
  induction cs generalizing x with
  | nil => simp at hcs
  | cons c cs ih =>
    rw [List.flatMap_cons, List.append_eq_append_iff] at hcs
    rcases hcs with ⟨z, hc, hz⟩ | ⟨z, hx, hz⟩
    · -- the byte is in the encoding of `c`, or the first of the rest
      cases z with
      | nil =>
        rw [List.append_nil] at hc
        obtain ⟨hx, hy⟩ := ih (x := []) hz
        exact ⟨⟨[c], by simpa using hc.symm⟩, hy⟩
      | cons b' z =>
        obtain ⟨rfl, hy⟩ := List.cons.inj hz
        have hone := encode_of_mem (hc ▸ List.mem_append_right x (.head _)) hb
        rw [hc, List.append_eq_singleton_iff] at hone
        rcases hone with ⟨rfl, hz⟩ | ⟨-, hz⟩
        · obtain rfl : z = [] := (List.cons.inj hz).2
          exact ⟨valid_nil, cs, hy⟩
        · cases hz
    · obtain ⟨hz', hy⟩ := ih hz.symm
      rw [hx]
      exact ⟨.append ⟨[c], by simp⟩ hz', hy⟩

/-- **Cutting a text** at an ASCII byte. -/
theorem valid_append_cons_iff (hb : b < 128) :
    Valid (x ++ b :: y) ↔ Valid x ∧ Valid y := by
  constructor
  · exact valid_append_cons_of hb
  · rintro ⟨hx, hy⟩
    exact hx.append ((valid_singleton hb).append hy)

end Utf8
