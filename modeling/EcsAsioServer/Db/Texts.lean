import EcsAsioServer.Db.Players
import EcsAsioServer.Lib.JsonDocument

/-!
# Texts that the server prints

What the string literals, the numbers and the C strings in printed texts are for a JSON decoder.
-/

namespace EcsAsioServer.Db

open Protocol Json

/-- What `snprintf` puts into a buffer: the text, cut off so that a zero byte has room. -/
def snprintf (size : Nat) (text : List UInt8) : List UInt8 := text.take (size - 1)

theorem snprintf_eq {size : Nat} {text : List UInt8} (h : text.length < size) :
    snprintf size text = text := List.take_of_length_le (by omega)

/-! ## Literals and numbers -/

theorem ascii_append (s t : String) : ascii (s ++ t) = ascii s ++ ascii t := by
  rw [ascii, String.toList_append, List.map_append]
  rfl

theorem ascii_repr (n : Nat) : ascii n.repr = digitsOf n := by
  rw [ascii, Nat.toList_repr]
  rfl

/-- `std::to_string` prints a JSON number. -/
theorem decimal_eq (z : ℤ) : decimal z = (Numeral.ofInt z).print := by
  rw [decimal, Int.toString_eq_repr, Int.repr_eq_if, Numeral.print_ofInt]
  split
  · next hz =>
    have habs : z.toNat = z.natAbs := by omega
    rw [if_neg (not_lt.mpr hz), ascii_repr, habs]
  · next hz =>
    have habs : (-z).toNat = z.natAbs := by omega
    rw [if_pos (not_le.mp hz), ascii_append, ascii_repr, habs]
    rfl

theorem decimal_natCast (n : Nat) : decimal n = digitsOf n := by
  rw [decimal_eq, Numeral.print_ofInt, if_neg (not_lt.mpr (Int.natCast_nonneg n)),
    Int.natAbs_natCast]

theorem printable_decimal (z : ℤ) : Printable (decimal z) := by
  rw [decimal_eq]
  exact Numeral.printable _

/-- A literal without quotation marks and backslashes. -/
theorem plain_of_all {l : List UInt8}
    (h : l.all (fun b => !control b && b != quote && b != backslash) = true) : Plain l := by
  intro b hb
  simpa [and_assoc] using List.all_eq_true.mp h b hb

/-! ## C strings -/

variable {x s : List UInt8}

theorem cString_append (h : 0 ∉ x) (y : List UInt8) :
    cString (x ++ y) = x ++ cString y :=
  List.takeWhile_append_of_pos fun b hb => by
    simp only [ne_eq, decide_eq_true_eq]
    rintro rfl
    exact h hb

theorem cString_of_not_mem (h : 0 ∉ x) : cString x = x := by
  have happend := cString_append h []
  rwa [List.append_nil, show cString [] = [] from rfl, List.append_nil] at happend

/-- The string ends at the first zero byte. -/
theorem cString_append_of_mem (h : 0 ∈ x) (y : List UInt8) :
    cString (x ++ y) = cString x := by
  induction x with
  | nil => cases h
  | cons b x ih =>
    by_cases hb : b = 0
    · subst hb
      rfl
    · have hx : 0 ∈ x := (List.mem_cons.mp h).resolve_left (Ne.symm hb)
      have hcons : ∀ z : List UInt8, cString (b :: z) = b :: cString z := fun z =>
        List.takeWhile_cons_of_pos (by simpa using hb)
      rw [List.cons_append, hcons, hcons, ih hx]

theorem length_cString (x : List UInt8) : (cString x).length ≤ x.length :=
  (List.takeWhile_sublist _).length_le

/-! ## Texts of clients -/

/-- UTF-8 without control bytes. -/
structure CleanText (s : List UInt8) : Prop where
  clean : s.any control = false
  valid : Utf8.Valid s

/-- The text can stand in a JSON string as it is. -/
structure PlainText (s : List UInt8) : Prop where
  plain : Plain s
  valid : Utf8.Valid s

theorem CleanText.zero_not_mem (h : CleanText s) : 0 ∉ s := fun hmem =>
  absurd (List.any_eq_false.mp h.clean 0 hmem) (by decide)

theorem PlainText.clean (h : PlainText s) : CleanText s where
  clean := List.any_eq_false.mpr fun b hb => by simp [(h.plain b hb).1]
  valid := h.valid

theorem PlainText.zero_not_mem (h : PlainText s) : 0 ∉ s := h.clean.zero_not_mem

end EcsAsioServer.Db
