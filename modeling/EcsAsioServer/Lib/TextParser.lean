import Mathlib.Tactic

/-!
# Parsers of byte texts

A parser reads from the front of a text and returns a value with the unread rest, or fails.
What a parser does is decided by what it reads and the byte after it (`Local`): a parse that
leaves a rest goes the same way if more text is appended. `Local` holds for the primitives and
is kept by sequencing and by branches, so a compound parser has it by composition. A parser that
ends with a byte of its own needs no rest for that (`Ending`).
-/

/-- A parser over the unread bytes. -/
abbrev TextParser (α : Type) := StateT (List UInt8) Option α

namespace TextParser

variable {α β : Type} {p : TextParser α} {f : α → TextParser β} {text rest : List UInt8} {a : α}

/-! ## Primitives -/

/-- The next byte. -/
def next : TextParser UInt8
  | [] => none
  | b :: rest => some (b, rest)

/-- The next byte, without reading it. -/
def peek : TextParser (Option UInt8) := fun text => some (text.head?, text)

/-- The longest run of bytes with the property. -/
def span (q : UInt8 → Bool) : TextParser (List UInt8) := fun text =>
  some (text.takeWhile q, text.dropWhile q)

/-- Exactly this byte. -/
def expect (b : UInt8) : TextParser Unit := do
  let c ← next
  if c = b then return () else failure

/-- Exactly these bytes. -/
def word : List UInt8 → TextParser Unit
  | [] => return ()
  | b :: bs => do
    expect b
    word bs

/-- A value that may be missing. -/
def ofOption : Option α → TextParser α
  | some a => return a
  | none => failure

theorem bind_apply (p : TextParser α) (f : α → TextParser β) (text : List UInt8) :
    (p >>= f) text = (p text).bind fun r => f r.1 r.2 := rfl

theorem next_cons (b : UInt8) (rest : List UInt8) : next (b :: rest) = some (b, rest) := rfl

theorem peek_cons (b : UInt8) (rest : List UInt8) :
    peek (b :: rest) = some (some b, b :: rest) := rfl

theorem span_apply (q : UInt8 → Bool) (text : List UInt8) :
    span q text = some (text.takeWhile q, text.dropWhile q) := rfl

theorem expect_cons (b : UInt8) (rest : List UInt8) : expect b (b :: rest) = some ((), rest) := by
  rw [expect, bind_apply, next_cons, Option.bind_some, if_pos rfl]
  rfl

theorem bind_of_some (h : p text = some (a, rest)) : (p >>= f) text = f a rest := by
  rw [bind_apply, h, Option.bind_some]

theorem bind_of_none (h : p text = none) : (p >>= f) text = none := by
  rw [bind_apply, h, Option.bind_none]

/-- What a sequence of two parsers has done. -/
theorem bind_eq_some {b : β} (h : (p >>= f) text = some (b, rest)) :
    ∃ a mid, p text = some (a, mid) ∧ f a mid = some (b, rest) := by
  rw [bind_apply, Option.bind_eq_some_iff] at h
  obtain ⟨⟨a, mid⟩, hp, hf⟩ := h
  exact ⟨a, mid, hp, hf⟩

/-- A run of bytes with the property, up to the first one without. -/
theorem span_append {q : UInt8 → Bool} {bytes : List UInt8} {b : UInt8}
    (h : ∀ c ∈ bytes, q c = true) (hb : q b = false) (rest : List UInt8) :
    span q (bytes ++ b :: rest) = some (bytes, b :: rest) := by
  rw [span_apply, List.takeWhile_append_of_pos h, List.dropWhile_append_of_pos h,
    List.takeWhile_cons_of_neg (by simp [hb]), List.dropWhile_cons_of_neg (by simp [hb]),
    List.append_nil]

/-! ## Locality -/

/-- The parser reads from the front, and a parse that leaves a rest is not changed by what is
appended to the text. -/
structure Local (p : TextParser α) : Prop where
  suffix : ∀ {text a rest}, p text = some (a, rest) → rest <:+ text
  extend : ∀ {text a rest}, p text = some (a, rest) → rest ≠ [] →
    ∀ more, p (text ++ more) = some (a, rest ++ more)

namespace Local

protected theorem pure (a : α) : Local (pure a) where
  suffix h := by
    cases h
    exact List.suffix_rfl
  extend h _ _ := by
    cases h
    rfl

protected theorem failure : Local (failure : TextParser α) where
  suffix h := by cases h
  extend h := by cases h

protected theorem bind (hp : Local p) (hf : ∀ a, Local (f a)) : Local (p >>= f) where
  suffix h := by
    obtain ⟨a, mid, hp', hf'⟩ := bind_eq_some h
    exact ((hf a).suffix hf').trans (hp.suffix hp')
  extend h hrest more := by
    obtain ⟨a, mid, hp', hf'⟩ := bind_eq_some h
    -- the rest is a part of what the first parser left
    have hmid : mid ≠ [] := by
      rintro rfl
      exact hrest (List.suffix_nil.mp ((hf a).suffix hf'))
    rw [bind_of_some (hp.extend hp' hmid more)]
    exact (hf a).extend hf' hrest more

protected theorem ite {c : Prop} [Decidable c] {q : TextParser α} (hp : Local p) (hq : Local q) :
    Local (if c then p else q) := by
  split
  · exact hp
  · exact hq

protected theorem next : Local next where
  suffix {text a rest} h := by
    cases text with
    | nil => cases h
    | cons b text =>
      cases h
      exact List.suffix_cons ..
  extend {text a rest} h _ more := by
    cases text with
    | nil => cases h
    | cons b text =>
      cases h
      rfl

protected theorem peek : Local peek where
  suffix h := by
    cases h
    exact List.suffix_rfl
  extend {text a rest} h hrest more := by
    cases h
    cases text with
    | nil => exact absurd rfl hrest
    | cons b text => rfl

protected theorem span (q : UInt8 → Bool) : Local (span q) where
  suffix h := by
    cases h
    exact List.dropWhile_suffix _
  extend {text a rest} h hrest more := by
    cases h
    obtain ⟨b, rest, hb⟩ := List.exists_cons_of_ne_nil hrest
    have hq : q b = false := by
      simpa [hb] using List.head_dropWhile_not q hrest
    have htext : text ++ more = text.takeWhile q ++ b :: (rest ++ more) := by
      rw [← List.cons_append, ← hb, ← List.append_assoc, List.takeWhile_append_dropWhile]
    rw [htext, span_append (List.all_eq_true.mp (List.all_takeWhile ..)) hq, hb]
    rfl

protected theorem expect (b : UInt8) : Local (expect b) :=
  Local.next.bind fun _ => .ite (.pure ()) .failure

protected theorem word (bs : List UInt8) : Local (word bs) := by
  induction bs with
  | nil => exact .pure ()
  | cons b bs ih => exact (Local.expect b).bind fun _ => ih

protected theorem ofOption (o : Option α) : Local (ofOption o) := by
  cases o with
  | none => exact .failure
  | some a => exact .pure a

end Local

/-! ## Lengths -/

/-- The parser reads `n` bytes or more. -/
def Consumes (n : Nat) (p : TextParser α) : Prop :=
  ∀ text a rest, p text = some (a, rest) → rest.length + n ≤ text.length

theorem Local.consumes (h : Local p) : Consumes 0 p := by
  intro text a rest hp
  exact (h.suffix hp).length_le

theorem consumes_next : Consumes 1 next := by
  intro text a rest h
  cases text with
  | nil => cases h
  | cons b text =>
    cases h
    exact le_rfl

theorem Consumes.bind {m n : Nat} (hp : Consumes m p) (hf : ∀ a, Consumes n (f a)) :
    Consumes (m + n) (p >>= f) := by
  intro text b rest h
  obtain ⟨a, mid, hp', hf'⟩ := bind_eq_some h
  have hmid := hp _ _ _ hp'
  have hrest := hf a _ _ _ hf'
  omega

/-! ## Parsers that know where they end -/

/-- No parse is changed by what is appended, not even one that reads the whole text. -/
def Closed (p : TextParser α) : Prop :=
  ∀ text a rest, p text = some (a, rest) → ∀ more, p (text ++ more) = some (a, rest ++ more)

/-- The parser reads something and knows where it ends. -/
structure Ending (p : TextParser α) : Prop where
  closed : Closed p
  reads : Consumes 1 p

namespace Closed

protected theorem pure (a : α) : Closed (pure a) := by
  intro text _ _ h more
  cases h
  rfl

protected theorem failure : Closed (failure : TextParser α) := by
  intro _ _ _ h
  cases h

protected theorem bind (hp : Closed p) (hf : ∀ a, Closed (f a)) : Closed (p >>= f) := by
  intro text b rest h more
  obtain ⟨a, mid, hp', hf'⟩ := bind_eq_some h
  rw [bind_of_some (hp _ _ _ hp' more)]
  exact hf a _ _ _ hf' more

protected theorem ite {c : Prop} [Decidable c] {q : TextParser α} (hp : Closed p)
    (hq : Closed q) : Closed (if c then p else q) := by
  split
  · exact hp
  · exact hq

end Closed

namespace Ending

protected theorem failure : Ending (failure : TextParser α) where
  closed := .failure
  reads _ _ _ h := by cases h

protected theorem ite {c : Prop} [Decidable c] {q : TextParser α} (hp : Ending p)
    (hq : Ending q) : Ending (if c then p else q) := by
  split
  · exact hp
  · exact hq

/-- A byte is read, and the rest is closed. -/
theorem next_bind {f : UInt8 → TextParser β} (hf : ∀ b, Closed (f b)) (hlocal : ∀ b, Local (f b)) :
    Ending (next >>= f) where
  closed := by
    intro text a rest h more
    cases text with
    | nil => cases h
    | cons b text => exact hf b text a rest h more
  reads := consumes_next.bind fun b => (hlocal b).consumes

/-- What comes before the end need only be local. -/
protected theorem bind (hp : Local p) (hf : ∀ a, Ending (f a)) : Ending (p >>= f) where
  closed := by
    intro text b rest h more
    obtain ⟨a, mid, hp', hf'⟩ := bind_eq_some h
    have hmid : mid ≠ [] := by
      rintro rfl
      exact absurd ((hf a).reads _ _ _ hf') (by simp)
    rw [bind_of_some (hp.extend hp' hmid more)]
    exact (hf a).closed _ _ _ hf' more
  reads := by
    intro text b rest h
    obtain ⟨a, mid, hp', hf'⟩ := bind_eq_some h
    have hmid := hp.consumes _ _ _ hp'
    have hrest := (hf a).reads _ _ _ hf'
    omega

end Ending

end TextParser
