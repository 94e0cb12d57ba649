import EcsAsioServer.Lib.Json

/-!
# Printed JSON documents

What the decoder reads of texts that a program has put together.

- A string that is printed as it is, between quotation marks, is read back if it is `Plain`. If
  it is not, something else is read, or nothing (`string_raw`): the string may end at a quotation
  mark of its own, it may hold escapes, which shorten it, or its last backslash may swallow the
  closing quotation mark.
- Escapes are never shorter than what they stand for, so a string is at most as long as its text,
  and just as long only if it has no escapes (`unescape_length`).
- A number is read up to a byte that cannot be a part of it (`Numeral.number_print`).
- An object is read member by member, each value up to the comma or the brace behind it
  (`members_print`, `members_last`).
-/

namespace Json

open TextParser

variable {text rest more s body : List UInt8} {n : Nat}

/-! ## Escapes -/

theorem consumes_hex : Consumes 1 hex := consumes_next.bind fun _ => (Local.ofOption _).consumes

theorem consumes_hex4 : Consumes 4 hex4 :=
  consumes_hex.bind fun _ => consumes_hex.bind fun _ => consumes_hex.bind fun _ =>
    consumes_hex.bind fun _ => (Local.pure _).consumes

/-- A character has at most four bytes, and its escape has more. -/
theorem unicode_length {c : List UInt8} (h : unicode text = some (c, rest)) :
    c.length + rest.length ≤ text.length := by
  have hchar : ∀ code, (String.utf8EncodeChar (Char.ofNat code)).length ≤ 4 := by
    intro code
    rw [String.length_utf8EncodeChar]
    exact Char.utf8Size_le_four _
  obtain ⟨high, mid, hhex, h⟩ := bind_eq_some h
  have hmid := consumes_hex4 _ _ _ hhex
  split_ifs at h
  · -- a pair of surrogates
    obtain ⟨_, mid₁, hslash, h⟩ := bind_eq_some h
    obtain ⟨_, mid₂, hletter, h⟩ := bind_eq_some h
    obtain ⟨low, mid₃, hlow, h⟩ := bind_eq_some h
    have h₁ := (Local.expect _).consumes _ _ _ hslash
    have h₂ := (Local.expect _).consumes _ _ _ hletter
    have h₃ := consumes_hex4 _ _ _ hlow
    dsimp only at h
    split_ifs at h
    · obtain ⟨rfl, rfl⟩ := Prod.mk.inj (Option.some.inj h)
      have := hchar (0x10000 + (high - 0xD800) * 0x400 + (low - 0xDC00))
      omega
    · cases h
  · cases h
  · obtain ⟨rfl, rfl⟩ := Prod.mk.inj (Option.some.inj h)
    have := hchar high
    omega

/-- An escape is longer than what it stands for. -/
theorem escape_length {c : List UInt8} (h : escape text = some (c, rest)) :
    c.length + rest.length ≤ text.length := by
  obtain ⟨b, mid, hnext, h⟩ := bind_eq_some h
  have hmid := consumes_next _ _ _ hnext
  split_ifs at h
  · have := unicode_length h
    omega
  · obtain ⟨d, mid', hshort, h⟩ := bind_eq_some h
    have := (Local.ofOption _).consumes _ _ _ hshort
    cases h
    rw [List.length_singleton]
    omega

theorem character_of_ne {b : UInt8} (h : b ≠ backslash) (rest : List UInt8) :
    character (b :: rest) = some ([b], rest) := by
  rw [character, bind_of_some (next_cons b rest), if_neg h]
  rfl

/-- **A string is not longer than its text**, and only just as long if nothing in it is
escaped. -/
theorem unescape_length (h : unescape n body = some s) :
    s.length ≤ body.length ∧ (s.length = body.length → backslash ∉ body ∧ s = body) := by
  induction n generalizing body s with
  | zero =>
    cases body with
    | nil =>
      cases h
      simp
    | cons b body => cases h
  | succ n ih =>
    cases body with
    | nil =>
      cases h
      simp
    | cons b body =>
      rw [unescape, Option.bind_eq_some_iff] at h
      obtain ⟨⟨c, rest⟩, hchar, h⟩ := h
      dsimp only at h
      rw [Option.map_eq_some_iff] at h
      obtain ⟨s', hs', rfl⟩ := h
      obtain ⟨hle, heq⟩ := ih hs'
      rw [List.length_append, List.length_cons]
      by_cases hb : b = backslash
      · subst hb
        rw [character, bind_of_some (next_cons _ _), if_pos rfl] at hchar
        have := escape_length hchar
        exact ⟨by omega, fun _ => by omega⟩
      · rw [character_of_ne hb] at hchar
        cases hchar
        rw [List.length_singleton]
        refine ⟨by omega, fun hlen => ?_⟩
        obtain ⟨hmem, rfl⟩ := heq (by omega)
        exact ⟨List.not_mem_cons_of_ne_of_not_mem (Ne.symm hb) hmem, rfl⟩

theorem unescape_of_not_mem (h : backslash ∉ body) (hn : body.length ≤ n) :
    unescape n body = some body := by
  induction body generalizing n with
  | nil => cases n <;> rfl
  | cons b body ih =>
    obtain ⟨n, rfl⟩ := Nat.exists_eq_add_of_lt hn
    rw [List.mem_cons, not_or] at h
    rw [show body.length + n + 1 = (body.length + n) + 1 from rfl, unescape,
      character_of_ne (Ne.symm h.1), Option.bind_some, ih h.2 (Nat.le_add_right ..)]
    rfl

/-! ## Strings -/

/-- All bytes may stand in a string as they are. -/
def Plain (s : List UInt8) : Prop := ∀ b ∈ s, control b = false ∧ b ≠ quote ∧ b ≠ backslash

theorem Plain.not_mem (h : Plain s) : backslash ∉ s := fun hmem => (h _ hmem).2.2 rfl

theorem scan_cons_quote (rest : List UInt8) : scan false (quote :: rest) = some ([], rest) := rfl

theorem scan_control {b : UInt8} (h : control b = true) (escaped : Bool) (rest : List UInt8) :
    scan escaped (b :: rest) = none := by
  rw [scan, if_pos h]

/-- A byte inside the string. -/
theorem scan_cons {b : UInt8} {escaped : Bool} (hcontrol : control b = false)
    (hb : b = quote → escaped = true) (rest : List UInt8) :
    scan escaped (b :: rest) =
      (scan (b = backslash && !escaped) rest).map fun r => (b :: r.1, r.2) := by
  have hquote : ¬ (b = quote ∧ escaped = false) := by
    rintro ⟨rfl, hescaped⟩
    rw [hb rfl] at hescaped
    cases hescaped
  rw [scan, hcontrol, if_neg Bool.false_ne_true, if_neg hquote]

theorem scan_plain (h : Plain s) (rest : List UInt8) :
    scan false (s ++ quote :: rest) = some (s, rest) := by
  induction s with
  | nil => rfl
  | cons b s ih =>
    obtain ⟨hcontrol, hquote, hslash⟩ := h b (.head _)
    rw [List.cons_append, scan_cons hcontrol (fun heq => absurd heq hquote), decide_eq_false hslash,
      Bool.false_and, ih fun c hc => h c (.tail _ hc)]
    rfl

theorem string_of_scan (hscan : scan false text = some (body, rest))
    (h : unescape body.length body = some s) : string (quote :: text) = some (s, rest) := by
  rw [string, bind_of_some (expect_cons quote text), bind_of_some hscan, h]
  rfl

theorem string_plain (h : Plain s) (rest : List UInt8) :
    string (quote :: (s ++ quote :: rest)) = some (s, rest) :=
  string_of_scan (scan_plain h rest) (unescape_of_not_mem h.not_mem le_rfl)

theorem string_eq_some (h : string (quote :: text) = some (s, rest)) :
    ∃ body, scan false text = some (body, rest) ∧ unescape body.length body = some s := by
  rw [string, bind_of_some (expect_cons quote text)] at h
  obtain ⟨body, mid, hscan, h⟩ := bind_eq_some h
  refine ⟨body, ?_⟩
  cases hbody : unescape body.length body with
  | none =>
    rw [hbody] at h
    cases h
  | some s' =>
    rw [hbody] at h
    cases h
    exact ⟨hscan, rfl⟩

/-- Whether a text ends with a backslash that escapes the next byte. -/
def escapes : Bool → List UInt8 → Bool
  | escaped, [] => escaped
  | escaped, b :: text => escapes (b = backslash && !escaped) text

variable {l name : List UInt8} {ms : List Member}

/-- The scan of a text before others stops in it, or goes through all of it. -/
theorem scan_passes {escaped : Bool} {tail : List UInt8}
    (h : scan escaped (name ++ tail) = some (body, rest)) :
    body.length < name.length ∨
      ∃ body', scan (escapes escaped name) tail = some (body', rest) ∧ body = name ++ body' := by
  induction name generalizing escaped body with
  | nil => exact .inr ⟨body, h, rfl⟩
  | cons b name ih =>
    rw [List.cons_append] at h
    unfold scan at h
    split_ifs at h
    · cases h
      exact .inl (Nat.succ_pos _)
    · rw [Option.map_eq_some_iff] at h
      obtain ⟨⟨body', rest'⟩, hscan, heq⟩ := h
      cases heq
      rcases ih hscan with hlt | ⟨body'', htail, rfl⟩
      · exact .inl (Nat.succ_lt_succ hlt)
      · exact .inr ⟨body'', htail, rfl⟩

theorem plain_of_scan (h : scan false (s ++ quote :: rest) = some (s, rest))
    (hs : backslash ∉ s) : Plain s := by
  induction s with
  | nil => exact fun _ hb => by cases hb
  | cons b s ih =>
    rw [List.mem_cons, not_or] at hs
    have hslash : (decide (b = backslash) && !false) = false := by simp [Ne.symm hs.1]
    rw [List.cons_append] at h
    unfold scan at h
    split_ifs at h with hcontrol hquote
    · simp at h
    · rw [hslash, Option.map_eq_some_iff] at h
      obtain ⟨⟨body', rest'⟩, hscan, heq⟩ := h
      cases heq
      intro c hc
      rcases List.mem_cons.mp hc with rfl | hc
      · exact ⟨by simpa using hcontrol, fun heq => hquote ⟨heq, rfl⟩, Ne.symm hs.1⟩
      · exact ih hscan hs.2 c hc

/-- **A string printed as it is** is read as a shorter one, or it is plain and read as itself, or
its closing quotation mark is taken for a part of it, and what is read ends at the next one. -/
theorem string_raw
    (h : string (quote :: (name ++ quote :: comma :: quote :: more)) = some (s, rest)) :
    s.length < name.length ∨ s = name ∧ Plain name ∨ rest = more := by
  obtain ⟨body, hscan, hbody⟩ := string_eq_some h
  obtain ⟨hle, heq⟩ := unescape_length hbody
  rcases scan_passes hscan with hlt | ⟨body', htail, rfl⟩
  · exact .inl (by omega)
  · cases hescapes : escapes false name with
    | false =>
      rw [hescapes, scan_cons_quote] at htail
      cases htail
      rw [List.append_nil] at hscan hle heq
      rcases hle.lt_or_eq with hlt | hlen
      · exact .inl hlt
      · obtain ⟨hslash, rfl⟩ := heq hlen
        exact .inr (.inl ⟨rfl, plain_of_scan hscan hslash⟩)
    | true =>
      rw [hescapes] at htail
      have hswallow : scan true (quote :: comma :: quote :: more) = some ([quote, comma], more) :=
        rfl
      rw [hswallow] at htail
      cases htail
      exact .inr (.inr rfl)

/-! ## Numbers -/

variable {b : UInt8}

theorem space_cons (h : whitespace b = false) (rest : List UInt8) :
    space (b :: rest) = some ((), b :: rest) := by
  have hspan : span whitespace (b :: rest) = some ([], b :: rest) :=
    span_append (List.forall_mem_nil _) h rest
  rw [space, bind_of_some hspan]
  rfl

theorem optional_self (b : UInt8) (rest : List UInt8) :
    optional b (b :: rest) = some (true, rest) := by
  rw [optional, bind_of_some (peek_cons _ _), if_pos rfl]
  rfl

theorem optional_ne {c : UInt8} (h : c ≠ b) (rest : List UInt8) :
    optional b (c :: rest) = some (false, c :: rest) := by
  rw [optional, bind_of_some (peek_cons _ _), if_neg (fun heq => h (Option.some.inj heq))]
  rfl

theorem digits_append {ds : List UInt8} (hds : ∀ c ∈ ds, digit c = true) (hne : ds ≠ [])
    (hb : digit b = false) (rest : List UInt8) :
    digits (ds ++ b :: rest) = some (ds, b :: rest) := by
  rw [digits, bind_of_some (span_append hds hb rest), if_neg hne]
  rfl

/-- A number without an exponent, as it is printed. -/
structure Numeral where
  minus : Bool
  int : List UInt8
  frac : List UInt8
  int_digits : ∀ c ∈ int, digit c = true
  frac_digits : ∀ c ∈ frac, digit c = true
  int_ne : int ≠ []
  no_zeros : ¬ (1 < int.length ∧ int.head? = some 0x30)

namespace Numeral

/-- The decimal point and what stands after it. -/
def point (x : Numeral) : List UInt8 := if x.frac = [] then [] else 0x2E :: x.frac

/-- The text of a numeral. -/
def print (x : Numeral) : List UInt8 :=
  if x.minus then 0x2D :: (x.int ++ x.point) else x.int ++ x.point

/-- Its value. -/
def val (x : Numeral) : ℚ :=
  let q : ℚ := natOf (x.int ++ x.frac) * 10 ^ (0 - x.frac.length : ℤ)
  if x.minus then -q else q

/-- The number ends before this byte. -/
structure Ends (b : UInt8) : Prop where
  digit : digit b = false
  point : b ≠ 0x2E
  lower : b ≠ 0x65
  upper : b ≠ 0x45

theorem digits_int (x : Numeral) (hb : Ends b) (rest : List UInt8) :
    digits (x.int ++ (x.point ++ b :: rest)) = some (x.int, x.point ++ b :: rest) := by
  unfold point
  split
  · exact digits_append x.int_digits x.int_ne hb.digit rest
  · exact digits_append x.int_digits x.int_ne (by decide) _

theorem fraction_point (x : Numeral) (hb : Ends b) (rest : List UInt8) :
    fraction (x.point ++ b :: rest) = some (x.frac, b :: rest) := by
  unfold point
  split
  · next hfrac =>
    rw [fraction, List.nil_append, bind_of_some (optional_ne hb.point rest), hfrac]
    rfl
  · next hfrac =>
    rw [fraction, List.cons_append, bind_of_some (optional_self _ _), if_pos rfl]
    exact digits_append x.frac_digits hfrac hb.digit rest

theorem exponent_ends (hb : Ends b) (rest : List UInt8) :
    exponent (b :: rest) = some (0, b :: rest) := by
  have hmark : exponentMark (b :: rest) = some (false, b :: rest) := by
    rw [exponentMark, bind_of_some (optional_ne hb.lower rest), if_neg Bool.false_ne_true]
    exact optional_ne hb.upper rest
  rw [exponent, bind_of_some hmark]
  rfl

theorem exists_int (x : Numeral) : ∃ c ds, x.int = c :: ds ∧ digit c = true := by
  obtain ⟨c, ds, hint⟩ := List.exists_cons_of_ne_nil x.int_ne
  exact ⟨c, ds, hint, x.int_digits c (by rw [hint]; exact .head _)⟩

/-- **A printed number is read** up to a byte that cannot be a part of it. -/
theorem number_print (x : Numeral) (hb : Ends b) (rest : List UInt8) :
    number (x.print ++ b :: rest) = some (x.val, b :: rest) := by
  have hsign : optional 0x2D (x.print ++ b :: rest)
      = some (x.minus, x.int ++ (x.point ++ b :: rest)) := by
    unfold print
    cases x.minus with
    | true =>
      rw [if_pos rfl, List.cons_append, List.append_assoc]
      exact optional_self _ _
    | false =>
      obtain ⟨c, ds, hint, hc⟩ := x.exists_int
      rw [if_neg Bool.false_ne_true, List.append_assoc, hint]
      exact optional_ne (by rintro rfl; cases hc) _
  rw [number, bind_of_some hsign, bind_of_some (x.digits_int hb rest), if_neg x.no_zeros,
    bind_of_some (x.fraction_point hb rest), bind_of_some (exponent_ends hb rest)]
  rfl

theorem exists_print (x : Numeral) : ∃ c t, x.print = c :: t ∧ (c = 0x2D ∨ digit c = true) := by
  unfold print
  split
  · exact ⟨_, _, rfl, .inl rfl⟩
  · obtain ⟨c, ds, hint, hc⟩ := x.exists_int
    exact ⟨c, ds ++ x.point, by rw [hint]; rfl, .inr hc⟩

/-- Nothing else starts like a number. -/
theorem value_print (x : Numeral) (hb : Ends b) (n : Nat) (rest : List UInt8) :
    value (n + 1) (x.print ++ b :: rest) = some (.number x.val, b :: rest) := by
  have hnumber := x.number_print hb rest
  obtain ⟨c, t, htext, hc⟩ := x.exists_print
  rw [htext, List.cons_append] at hnumber ⊢
  have hother : ∀ d, d ≠ 0x2D → digit d = false → c ≠ d := by
    rintro d hd hdigit rfl
    rcases hc with hc | hc
    · exact hd hc
    · rw [hdigit] at hc
      cases hc
  have hspace : whitespace c = false := by
    simp only [whitespace, Bool.or_eq_false_iff, decide_eq_false_iff_not]
    exact ⟨⟨⟨hother _ (by decide) (by decide), hother _ (by decide) (by decide)⟩,
      hother _ (by decide) (by decide)⟩, hother _ (by decide) (by decide)⟩
  rw [value, bind_of_some (space_cons hspace _), bind_of_some (peek_cons _ _)]
  simp only [Option.some.injEq]
  rw [if_neg (hother _ (by decide) (by decide)), if_neg (hother _ (by decide) (by decide)),
    if_neg (hother _ (by decide) (by decide)), if_neg (hother _ (by decide) (by decide)),
    if_neg (hother _ (by decide) (by decide)), if_neg (hother _ (by decide) (by decide)),
    bind_of_some hnumber]
  rfl

end Numeral

/-! ### Printable texts -/

/-- Printable ASCII: the text holds no control bytes and no part of a longer character. -/
def Printable (l : List UInt8) : Prop := ∀ b ∈ l, control b = false ∧ b < 128

theorem printable_of_all (h : l.all (fun b => !control b && b < 128) = true) :
    Printable l := by
  intro b hb
  simpa using List.all_eq_true.mp h b hb

theorem Printable.append {l' : List UInt8} (h : Printable l) (h' : Printable l') :
    Printable (l ++ l') := by
  intro b hb
  rcases List.mem_append.mp hb with hb | hb
  · exact h b hb
  · exact h' b hb

theorem Printable.valid (h : Printable l) : Utf8.Valid l :=
  Utf8.valid_of_ascii fun b hb => (h b hb).2

theorem Printable.zero_not_mem (h : Printable l) : 0 ∉ l :=
  fun hmem => absurd (h 0 hmem).1 (by decide)

theorem Printable.any_control (h : Printable l) : l.any control = false :=
  List.any_eq_false.mpr fun b hb => by simp [(h b hb).1]

theorem printable_of_digits (h : ∀ c ∈ l, digit c = true) : Printable l := by
  intro c hc
  have hdigit := h c hc
  simp only [digit, Bool.and_eq_true, decide_eq_true_eq, UInt8.le_iff_toNat_le] at hdigit
  simp only [control, decide_eq_false_iff_not, UInt8.lt_iff_toNat_lt, not_lt]
  exact ⟨Nat.le_trans (by decide) hdigit.1, Nat.lt_of_le_of_lt hdigit.2 (by decide)⟩

theorem plain_of_digits (h : ∀ c ∈ l, digit c = true) : Plain l := by
  intro c hc
  refine ⟨(printable_of_digits h c hc).1, ?_, ?_⟩ <;> rintro rfl <;> cases h _ hc

theorem Numeral.printable (x : Numeral) : Printable x.print := by
  have hint : Printable x.int := printable_of_digits x.int_digits
  have hpoint : Printable x.point := by
    unfold point
    split
    · exact fun c hc => by cases hc
    · exact Printable.append (l := [0x2E]) (printable_of_all rfl)
        (printable_of_digits x.frac_digits)
  unfold print
  split
  · exact Printable.append (l := [0x2D]) (printable_of_all rfl) (hint.append hpoint)
  · exact hint.append hpoint

/-! ### Integers -/

/-- The decimal digits of a number. -/
def digitsOf (n : Nat) : List UInt8 := (Nat.toDigits 10 n).map fun c => c.toNat.toUInt8

theorem toNat_of_isDigit {c : Char} (h : c.isDigit = true) :
    0x30 ≤ c.toNat ∧ c.toNat ≤ 0x39 ∧ c.toNat.toUInt8.toNat = c.toNat := by
  simp only [Char.isDigit, Bool.and_eq_true, decide_eq_true_eq, UInt32.le_iff_toNat_le] at h
  have hlow : 0x30 ≤ c.toNat := h.1
  have hhigh : c.toNat ≤ 0x39 := h.2
  refine ⟨hlow, hhigh, ?_⟩
  exact UInt8.toNat_ofNat_of_lt' (Nat.lt_of_le_of_lt hhigh (by decide))

theorem digit_of_mem_digitsOf {c : UInt8} (h : c ∈ digitsOf n) : digit c = true := by
  obtain ⟨d, hd, rfl⟩ := List.mem_map.mp h
  obtain ⟨hlow, hhigh, hnat⟩ := toNat_of_isDigit
    (Nat.isDigit_of_mem_toDigits (by decide) (by decide) hd)
  simp only [digit, Bool.and_eq_true, decide_eq_true_eq, UInt8.le_iff_toNat_le, hnat]
  exact ⟨hlow, hhigh⟩

theorem digitsOf_ne_nil (n : Nat) : digitsOf n ≠ [] := by
  simp [digitsOf, Nat.toDigits_ne_nil]

theorem natOf_digitsOf (n : Nat) : natOf (digitsOf n) = n := by
  rw [natOf, digitsOf, List.foldl_map]
  refine Eq.trans ?_ (Nat.ofDigitChars_ten_toDigits (n := n))
  rw [Nat.ofDigitChars_eq_foldl]
  refine List.foldl_ext _ _ _ fun m c hc => ?_
  rw [(toNat_of_isDigit (Nat.isDigit_of_mem_toDigits (by decide) (by decide) hc)).2.2]
  rfl

/-- Only zero starts with a zero. -/
theorem head_digitsOf {n : Nat} (h : n ≠ 0) : (digitsOf n).head? ≠ some 0x30 := by
  induction n using Nat.strongRecOn with
  | ind n ih =>
    by_cases hlt : n < 10
    · rw [digitsOf, Nat.toDigits_of_lt_base hlt]
      interval_cases n <;> first | exact absurd rfl h | decide
    · have hsplit : digitsOf n = digitsOf (n / 10) ++ [(n % 10).digitChar.toNat.toUInt8] := by
        rw [digitsOf, Nat.toDigits_of_base_le (by decide) (by omega), List.map_append]
        rfl
      rw [hsplit, List.head?_append_of_ne_nil _ (digitsOf_ne_nil _)]
      exact ih (n / 10) (by omega) (by omega)

theorem no_zeros_digitsOf (n : Nat) :
    ¬ (1 < (digitsOf n).length ∧ (digitsOf n).head? = some 0x30) := by
  rintro ⟨hlen, hhead⟩
  obtain rfl : n = 0 := by
    by_contra hn
    exact head_digitsOf hn hhead
  exact absurd hlen (by decide)

/-- An integer. -/
def Numeral.ofInt (z : ℤ) : Numeral where
  minus := z < 0
  int := digitsOf z.natAbs
  frac := []
  int_digits _ := digit_of_mem_digitsOf
  frac_digits := by simp
  int_ne := digitsOf_ne_nil _
  no_zeros := no_zeros_digitsOf _

theorem Numeral.print_ofInt (z : ℤ) : (Numeral.ofInt z).print =
    if z < 0 then 0x2D :: digitsOf z.natAbs else digitsOf z.natAbs := by
  simp [print, point, ofInt]

theorem Numeral.val_ofInt (z : ℤ) : (Numeral.ofInt z).val = z := by
  have hval : (Numeral.ofInt z).val = if z < 0 then -(z.natAbs : ℚ) else z.natAbs := by
    simp [val, ofInt, natOf_digitsOf]
  rw [hval]
  split
  · next hneg =>
    rw [Nat.cast_natAbs, abs_of_neg hneg, Int.cast_neg, neg_neg]
  · next hpos => rw [Nat.cast_natAbs, abs_of_nonneg (not_lt.mp hpos)]

/-! ## Objects -/

/-- A member, as it is printed; the text starts with its value. -/
def member (key text : List UInt8) : List UInt8 := quote :: (key ++ quote :: colon :: text)

variable {p : TextParser Value} {key : List UInt8} {v : Value}

theorem members_value (hkey : Plain key) (text : List UInt8) (n : Nat) :
    members p (n + 1) (member key text) =
      (p >>= fun v => memberEnd (key, v) (members p n)) text := by
  have hspace : space (member key text) = some ((), member key text) := space_cons rfl _
  have hstring : string (member key text) = some (key, colon :: text) := string_plain hkey _
  rw [members, bind_of_some hspace, bind_of_some hstring, bind_of_some (space_cons rfl _),
    bind_of_some (expect_cons colon text)]

/-- What comes after a value decides how the object goes on. -/
theorem members_member (hkey : Plain key) (h : p text = some (v, b :: rest))
    (hb : whitespace b = false) (n : Nat) :
    members p (n + 1) (member key text) =
      if b = comma then (members p n rest).map fun r => ((key, v) :: r.1, r.2)
      else if b = endObject then some ([(key, v)], rest)
      else none := by
  rw [members_value hkey, bind_of_some h, memberEnd, bind_of_some (space_cons hb rest),
    bind_of_some (next_cons b rest)]
  split_ifs
  · cases hmembers : members p n rest with
    | none => exact bind_of_none hmembers
    | some r => exact bind_of_some hmembers
  · rfl
  · rfl

theorem members_none (hkey : Plain key) (h : p text = none) (n : Nat) :
    members p (n + 1) (member key text) = none := by
  rw [members_value hkey, bind_of_none h]

/-- A member that is read when a comma or a closing brace follows. -/
structure Printed (p : TextParser Value) where
  key : List UInt8
  text : List UInt8
  val : Value
  plain : Plain key
  reads : ∀ b rest, b = comma ∨ b = endObject → p (text ++ b :: rest) = some (val, b :: rest)

theorem members_comma (m : Printed p) (n : Nat) (rest : List UInt8) :
    members p (n + 1) (member m.key (m.text ++ comma :: rest)) =
      (members p n rest).map fun r => ((m.key, m.val) :: r.1, r.2) := by
  rw [members_member m.plain (m.reads comma rest (.inl rfl)) rfl, if_pos rfl]

/-- Members with a comma after each, before the rest. -/
def printMembers (ms : List (Printed p)) (rest : List UInt8) : List UInt8 :=
  ms.foldr (fun m text => member m.key (m.text ++ comma :: text)) rest

/-- **Printed members are read.** -/
theorem members_print (ms : List (Printed p)) (n : Nat) (rest : List UInt8) :
    members p (ms.length + n) (printMembers ms rest) =
      (members p n rest).map fun r => (ms.map (fun m => (m.key, m.val)) ++ r.1, r.2) := by
  induction ms with
  | nil => simp [printMembers]
  | cons m ms ih =>
    have hn : (m :: ms).length + n = (ms.length + n) + 1 := by
      rw [List.length_cons, Nat.add_right_comm]
    have hstep : printMembers (m :: ms) rest
        = member m.key (m.text ++ comma :: printMembers ms rest) := rfl
    rw [hn, hstep, members_comma, ih, Option.map_map]
    rfl

theorem members_last (m : Printed p) (n : Nat) (rest : List UInt8) :
    members p (n + 1) (member m.key (m.text ++ endObject :: rest)) =
      some ([(m.key, m.val)], rest) := by
  rw [members_member m.plain (m.reads endObject _ (.inr rfl)) rfl]
  rfl

/-- An object with members. -/
theorem value_object (n : Nat) (text : List UInt8) :
    value (n + 1) (beginObject :: member key text) =
      (members (value n) n (member key text)).map fun r => (.object r.1, r.2) := by
  rw [value, bind_of_some (space_cons rfl _), bind_of_some (peek_cons _ _), if_neg (by decide),
    if_pos rfl, bind_apply, bracketed, bind_of_some (expect_cons _ _), member,
    bind_of_some (space_cons rfl _), bind_of_some (peek_cons _ _), if_neg (by decide)]
  cases members (value n) n (quote :: (key ++ quote :: colon :: text)) <;> rfl

/-- A string as a value. -/
theorem value_string (n : Nat) (text : List UInt8) :
    value (n + 1) (quote :: text) =
      (string (quote :: text)).map fun r => (.string r.1, r.2) := by
  rw [value, bind_of_some (space_cons rfl _), bind_of_some (peek_cons _ _), if_pos rfl, bind_apply]
  cases string (quote :: text) <;> rfl

/-- The values of an object with different keys. -/
theorem value_unique {w : Value} (h : (ms.map Prod.fst).Nodup) (hv : (key, v) ∈ ms)
    (hw : (key, w) ∈ ms) : v = w :=
  congrArg Prod.snd (List.inj_on_of_nodup_map h hv hw rfl)

theorem ends_comma : Numeral.Ends comma := ⟨rfl, by decide, by decide, by decide⟩

theorem ends_endObject : Numeral.Ends endObject := ⟨rfl, by decide, by decide, by decide⟩

/-- A member with a number. -/
def Printed.number {key : List UInt8} (hkey : Plain key) (x : Numeral) (n : Nat) :
    Printed (value (n + 1)) where
  key := key
  text := x.print
  val := .number x.val
  plain := hkey
  reads := by
    rintro b rest (rfl | rfl)
    · exact x.value_print ends_comma n rest
    · exact x.value_print ends_endObject n rest

/-- A member with an integer. -/
def Printed.int {key : List UInt8} (hkey : Plain key) (z : ℤ) (n : Nat) :
    Printed (value (n + 1)) where
  key := key
  text := (Numeral.ofInt z).print
  val := .number z
  plain := hkey
  reads := by
    rw [← Numeral.val_ofInt z]
    exact (Printed.number hkey (.ofInt z) n).reads

/-- A member with a string that is read whatever follows. -/
def Printed.string {key : List UInt8} (hkey : Plain key) {raw s : List UInt8}
    (h : ∀ rest, Json.string (quote :: (raw ++ quote :: rest)) = some (s, rest)) (n : Nat) :
    Printed (value (n + 1)) where
  key := key
  text := quote :: (raw ++ [quote])
  val := .string s
  plain := hkey
  reads b rest _ := by
    rw [List.cons_append, List.append_assoc, value_string]
    exact congrArg (Option.map _) (h (b :: rest))

/-- **The text of an object.** -/
theorem parse_object (key text : List UInt8) :
    parse (beginObject :: member key text) =
      (members (value (member key text).length.succ) (member key text).length.succ
        (member key text)).bind
        fun r => if r.2.all whitespace then some (.object r.1) else none := by
  rw [parse, value_object]
  cases members (value (member key text).length.succ) (member key text).length.succ
    (member key text) <;> rfl

theorem memberEnd_eq_some {m : Member} {q : TextParser (List Member)}
    (h : memberEnd m q text = some (ms, rest)) : ∃ ms', ms = m :: ms' := by
  obtain ⟨_, _, _, h⟩ := bind_eq_some h
  obtain ⟨_, _, _, h⟩ := bind_eq_some h
  split_ifs at h
  · obtain ⟨ms', _, _, h⟩ := bind_eq_some h
    cases h
    exact ⟨ms', rfl⟩
  · cases h
    exact ⟨[], rfl⟩
  · cases h

theorem members_string {l : Nat} (hkey : Plain key)
    (h : members (value (n + 1)) (l + 1) (member key (quote :: text)) = some (ms, rest)) :
    ∃ s mid ms', string (quote :: text) = some (s, mid) ∧ ms = (key, .string s) :: ms' := by
  rw [members_value hkey] at h
  obtain ⟨v, mid, hvalue, hend⟩ := bind_eq_some h
  obtain ⟨ms', rfl⟩ := memberEnd_eq_some hend
  rw [value_string, Option.map_eq_some_iff] at hvalue
  obtain ⟨⟨s, mid'⟩, hstring, heq⟩ := hvalue
  cases heq
  exact ⟨s, mid', ms', hstring, rfl⟩

/-- The closing quotation mark does not belong to the string. -/
theorem string_length (h : string (quote :: text) = some (s, rest)) : s.length < text.length := by
  obtain ⟨body, hscan, hbody⟩ := string_eq_some h
  have hle := (unescape_length hbody).1
  rw [scan_eq hscan, List.length_append, List.length_cons]
  omega

/-- **A member printed as it is.** If the object is read at all, the string is read as a shorter
one, or it is plain and read as itself: a swallowed quotation mark leaves the next name where a
comma should stand. -/
theorem members_raw {k : UInt8} {l : Nat} (hkey : Plain key)
    (hk : whitespace k = false ∧ k ≠ comma ∧ k ≠ endObject) (h : members (value (n + 1)) (l + 1)
      (member key (quote :: (name ++ quote :: comma :: quote :: k :: more))) = some (ms, rest)) :
    ∃ s ms', ms = (key, .string s) :: ms' ∧ (s.length < name.length ∨ s = name ∧ Plain name) := by
  obtain ⟨s, mid, ms', hstring, rfl⟩ := members_string hkey h
  refine ⟨s, ms', rfl, ?_⟩
  rcases string_raw hstring with hlt | hplain | rfl
  · exact .inl hlt
  · exact .inr hplain
  · have hvalue : value (n + 1) (quote :: (name ++ quote :: comma :: quote :: k :: more))
        = some (.string s, k :: more) := by
      rw [value_string, hstring]
      rfl
    rw [members_member hkey hvalue hk.1, if_neg hk.2.1, if_neg hk.2.2] at h
    cases h

end Json
