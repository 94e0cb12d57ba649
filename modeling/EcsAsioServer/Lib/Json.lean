import EcsAsioServer.Lib.TextParser
import EcsAsioServer.Lib.Utf8
import Mathlib.Data.Rat.Defs
import Mathlib.Algebra.Order.Field.Rat

/-!
# JSON texts

A decoder for JSON texts.

- A string is cut out of the text at the first quotation mark that is not escaped (`scan`); then
  its escapes are resolved (`unescape`).
- All parsers are `Local`, and those of objects and arrays are `Ending`. So a text that has a
  complete object as its beginning is read as that object, with the rest left over
  (`value_object_append`).

Strings and keys are kept as their UTF-8 bytes, numbers as rational numbers. A text has to be
valid UTF-8 (`Decodes`), and escaped surrogates have to come in pairs.
-/

namespace Json

open TextParser

/-! ## Decoding -/

/-- A document. -/
inductive Value where
  | null
  | bool (b : Bool)
  | number (q : ℚ)
  | string (bytes : List UInt8)
  | array (elements : List Value)
  | object (members : List (List UInt8 × Value))

/-- A name with its value. -/
abbrev Member := List UInt8 × Value

/-- The bytes that structure a document. -/
abbrev quote : UInt8 := 0x22
/-- It starts an escape. -/
abbrev backslash : UInt8 := 0x5C
/-- It separates members and elements. -/
abbrev comma : UInt8 := 0x2C
/-- It follows the name of a member. -/
abbrev colon : UInt8 := 0x3A
/-- An opening brace. -/
abbrev beginObject : UInt8 := 0x7B
/-- A closing brace. -/
abbrev endObject : UInt8 := 0x7D
/-- An opening bracket. -/
abbrev beginArray : UInt8 := 0x5B
/-- A closing bracket. -/
abbrev endArray : UInt8 := 0x5D

/-- A byte that may not stand in a string. -/
def control (b : UInt8) : Bool := b < 0x20

/-- Blank, tab, line feed and carriage return. -/
def whitespace (b : UInt8) : Bool := b = 0x20 || b = 0x09 || b = 0x0A || b = 0x0D

/-- Any amount of whitespace. -/
def space : TextParser Unit := do
  let _ ← span whitespace
  return ()

/-! ### Strings -/

/-- The text of a string up to its closing quotation mark; `escaped` says that a backslash stands
before. -/
def scan : Bool → TextParser (List UInt8)
  | _, [] => none
  | escaped, b :: rest =>
    if control b then none
    else if b = quote ∧ escaped = false then some ([], rest)
    else (scan (b = backslash && !escaped) rest).map fun r => (b :: r.1, r.2)

/-- The value of a hexadecimal digit. -/
def hexDigit (b : UInt8) : Option Nat :=
  if 0x30 ≤ b ∧ b ≤ 0x39 then some (b.toNat - 0x30)
  else if 0x41 ≤ b ∧ b ≤ 0x46 then some (b.toNat - 0x37)
  else if 0x61 ≤ b ∧ b ≤ 0x66 then some (b.toNat - 0x57)
  else none

/-- One hexadecimal digit. -/
def hex : TextParser Nat := do
  let b ← next
  ofOption (hexDigit b)

/-- Four hexadecimal digits. -/
def hex4 : TextParser Nat := do
  let a ← hex
  let b ← hex
  let c ← hex
  let d ← hex
  return ((a * 16 + b) * 16 + c) * 16 + d

/-- After `\u`: a character of the basic plane, or a pair of surrogates. -/
def unicode : TextParser (List UInt8) := do
  let high ← hex4
  if 0xD800 ≤ high ∧ high < 0xDC00 then do
    expect backslash
    expect 0x75
    let low ← hex4
    if 0xDC00 ≤ low ∧ low < 0xE000 then
      let code := 0x10000 + (high - 0xD800) * 0x400 + (low - 0xDC00)
      return String.utf8EncodeChar (Char.ofNat code)
    else failure
  else if 0xDC00 ≤ high ∧ high < 0xE000 then failure
  else return String.utf8EncodeChar (Char.ofNat high)

/-- The escapes of one letter. -/
def shortEscape (b : UInt8) : Option UInt8 :=
  if b = quote ∨ b = backslash ∨ b = 0x2F then some b
  else if b = 0x62 then some 0x08
  else if b = 0x66 then some 0x0C
  else if b = 0x6E then some 0x0A
  else if b = 0x72 then some 0x0D
  else if b = 0x74 then some 0x09
  else none

/-- After a backslash. -/
def escape : TextParser (List UInt8) := do
  let b ← next
  if b = 0x75 then unicode
  else do
    let c ← ofOption (shortEscape b)
    return [c]

/-- One character of the text of a string. -/
def character : TextParser (List UInt8) := do
  let b ← next
  if b = backslash then escape else return [b]

/-- The string that a text stands for, with as many characters as the text has bytes at most. -/
def unescape : Nat → List UInt8 → Option (List UInt8)
  | _, [] => some []
  | 0, _ :: _ => none
  | n + 1, b :: body =>
    (character (b :: body)).bind fun r => (unescape n r.2).map (r.1 ++ ·)

/-- A string, with its escapes replaced. -/
def string : TextParser (List UInt8) := do
  expect quote
  let body ← scan false
  ofOption (unescape body.length body)

/-! ### Numbers -/

/-- A decimal digit. -/
def digit (b : UInt8) : Bool := 0x30 ≤ b && b ≤ 0x39

/-- The number that digits stand for. -/
def natOf (digits : List UInt8) : Nat := digits.foldl (fun n d => 10 * n + (d.toNat - 0x30)) 0

/-- At least one digit. -/
def digits : TextParser (List UInt8) := do
  let ds ← span digit
  if ds = [] then failure else return ds

/-- Whether this byte stands here; then it is read. -/
def optional (b : UInt8) : TextParser Bool := do
  let c ← peek
  if c = some b then do
    let _ ← next
    return true
  else return false

/-- The digits after the point, if there is one. -/
def fraction : TextParser (List UInt8) := do
  let dot ← optional 0x2E
  if dot then digits else return []

/-- `e` or `E`. -/
def exponentMark : TextParser Bool := do
  let lower ← optional 0x65
  if lower then return true else optional 0x45

/-- Whether the exponent has a minus sign. -/
def exponentSign : TextParser Bool := do
  let minus ← optional 0x2D
  if minus then return true
  else do
    let _ ← optional 0x2B
    return false

/-- The exponent, or zero. -/
def exponent : TextParser Int := do
  let mark ← exponentMark
  if mark then do
    let minus ← exponentSign
    let ds ← digits
    return if minus then -(natOf ds : Int) else natOf ds
  else return 0

/-- A number. -/
def number : TextParser ℚ := do
  let minus ← optional 0x2D
  let int ← digits
  -- no zeros in front
  if 1 < int.length ∧ int.head? = some 0x30 then failure
  else do
    let frac ← fraction
    let exp ← exponent
    let q : ℚ := natOf (int ++ frac) * 10 ^ (exp - frac.length)
    return if minus then -q else q

/-! ### Values -/

/-- After a member: more members, or the closing brace. -/
def memberEnd (m : Member) (more : TextParser (List Member)) : TextParser (List Member) := do
  space
  let b ← next
  if b = comma then do
    let ms ← more
    return m :: ms
  else if b = endObject then return [m]
  else failure

/-- The members of an object up to its closing brace. -/
def members (value : TextParser Value) : Nat → TextParser (List Member)
  | 0 => failure
  | n + 1 => do
    space
    let key ← string
    space
    expect colon
    let v ← value
    memberEnd (key, v) (members value n)

/-- The elements of an array up to its closing bracket. -/
def elements (value : TextParser Value) : Nat → TextParser (List Value)
  | 0 => failure
  | n + 1 => do
    let v ← value
    space
    let b ← next
    if b = comma then do
      let vs ← elements value n
      return v :: vs
    else if b = endArray then return [v]
    else failure

/-- What stands between brackets: nothing, or what `items` reads with the closing bracket. -/
def bracketed {α : Type} (opening closing : UInt8) (items : TextParser (List α)) :
    TextParser (List α) := do
  expect opening
  space
  let first ← peek
  if first = some closing then do
    let _ ← next
    return []
  else items

/-- A value of a text with less than `n` bytes. -/
def value : Nat → TextParser Value
  | 0 => failure
  | n + 1 => do
    space
    let first ← peek
    if first = some quote then do
      let s ← string
      return .string s
    else if first = some beginObject then do
      let ms ← bracketed beginObject endObject (members (value n) n)
      return .object ms
    else if first = some beginArray then do
      let vs ← bracketed beginArray endArray (elements (value n) n)
      return .array vs
    else if first = some 0x74 then do
      word [0x74, 0x72, 0x75, 0x65]
      return .bool true
    else if first = some 0x66 then do
      word [0x66, 0x61, 0x6C, 0x73, 0x65]
      return .bool false
    else if first = some 0x6E then do
      word [0x6E, 0x75, 0x6C, 0x6C]
      return .null
    else do
      let q ← number
      return .number q

/-- The value of a whole text. -/
def parse (text : List UInt8) : Option Value :=
  (value (text.length + 1) text).bind fun r => if r.2.all whitespace then some r.1 else none

/-- The text is the JSON text of the value. -/
def Decodes (text : List UInt8) (v : Value) : Prop := Utf8.Valid text ∧ parse text = some v

/-! ## Locality -/

theorem local_space : Local space := (Local.span whitespace).bind fun _ => .pure ()

theorem local_optional (b : UInt8) : Local (optional b) :=
  Local.peek.bind fun _ => .ite (Local.next.bind fun _ => .pure true) (.pure false)

variable {text rest : List UInt8} {p : TextParser Value}

theorem scan_append {escaped : Bool} {body : List UInt8} (h : scan escaped text = some (body, rest))
    (more : List UInt8) :
    scan escaped (text ++ more) = some (body, rest ++ more) := by
  induction text generalizing escaped body with
  | nil => cases h
  | cons b text ih =>
    rw [List.cons_append]
    unfold scan at h ⊢
    split_ifs at h ⊢
    · cases h
      rfl
    · rw [Option.map_eq_some_iff] at h
      obtain ⟨⟨body', rest'⟩, hscan, heq⟩ := h
      cases heq
      rw [ih hscan]
      rfl

theorem scan_eq {escaped : Bool} {body : List UInt8} (h : scan escaped text = some (body, rest)) :
    text = body ++ quote :: rest := by
  induction text generalizing escaped body with
  | nil => cases h
  | cons b text ih =>
    unfold scan at h
    split_ifs at h with _ hquote
    · cases h
      rw [hquote.1]
      rfl
    · rw [Option.map_eq_some_iff] at h
      obtain ⟨⟨body', rest'⟩, hscan, heq⟩ := h
      cases heq
      rw [ih hscan]
      rfl

theorem local_scan (escaped : Bool) : Local (scan escaped) where
  suffix {text body rest} h := by
    rw [scan_eq h]
    exact (List.suffix_cons ..).trans (List.suffix_append ..)
  extend h _ more := scan_append h more

theorem local_string : Local string :=
  (Local.expect quote).bind fun _ => (local_scan false).bind fun _ => .ofOption _

theorem local_digits : Local digits :=
  (Local.span digit).bind fun _ => .ite .failure (.pure _)

theorem local_fraction : Local fraction :=
  (local_optional _).bind fun _ => .ite local_digits (.pure _)

theorem local_exponent : Local exponent := by
  have hmark : Local exponentMark :=
    (local_optional _).bind fun _ => .ite (.pure true) (local_optional _)
  have hsign : Local exponentSign :=
    (local_optional _).bind fun _ =>
      .ite (.pure true) ((local_optional _).bind fun _ => .pure false)
  exact hmark.bind fun _ =>
    .ite (hsign.bind fun _ => local_digits.bind fun _ => .pure _) (.pure 0)

theorem local_number : Local number :=
  (local_optional _).bind fun _ => local_digits.bind fun _ =>
    .ite .failure (local_fraction.bind fun _ => local_exponent.bind fun _ => .pure _)

theorem local_memberEnd (m : Member) {more : TextParser (List Member)} (h : Local more) :
    Local (memberEnd m more) :=
  local_space.bind fun _ => Local.next.bind fun _ =>
    .ite (h.bind fun _ => .pure _) (.ite (.pure _) .failure)

theorem local_members (hp : Local p) (n : Nat) : Local (members p n) := by
  induction n with
  | zero => exact .failure
  | succ n ih =>
    exact local_space.bind fun _ => local_string.bind fun _ => local_space.bind fun _ =>
      (Local.expect colon).bind fun _ => hp.bind fun _ => local_memberEnd _ ih

theorem local_elements (hp : Local p) (n : Nat) : Local (elements p n) := by
  induction n with
  | zero => exact .failure
  | succ n ih =>
    exact hp.bind fun _ => local_space.bind fun _ => Local.next.bind fun _ =>
      .ite (ih.bind fun _ => .pure _) (.ite (.pure _) .failure)

theorem local_bracketed {α : Type} {items : TextParser (List α)} (h : Local items)
    (opening closing : UInt8) : Local (bracketed opening closing items) :=
  (Local.expect opening).bind fun _ => local_space.bind fun _ => Local.peek.bind fun _ =>
    .ite (Local.next.bind fun _ => .pure []) h

/-- **Locality** of the decoder. -/
theorem local_value (n : Nat) : Local (value n) := by
  induction n with
  | zero => exact .failure
  | succ n ih =>
    refine local_space.bind fun _ => Local.peek.bind fun _ => ?_
    refine .ite (local_string.bind fun _ => .pure _) ?_
    refine .ite ((local_bracketed (local_members ih n) ..).bind fun _ => .pure _) ?_
    refine .ite ((local_bracketed (local_elements ih n) ..).bind fun _ => .pure _) ?_
    refine .ite ((Local.word _).bind fun _ => .pure _) ?_
    refine .ite ((Local.word _).bind fun _ => .pure _) ?_
    exact .ite ((Local.word _).bind fun _ => .pure _) (local_number.bind fun _ => .pure _)

/-! ## The end of an object -/

theorem ending_memberEnd (m : Member) {more : TextParser (List Member)} (hlocal : Local more)
    (h : Closed more) : Ending (memberEnd m more) :=
  .bind local_space fun _ => .next_bind
    (fun _ => .ite (h.bind fun _ => .pure _) (.ite (.pure _) .failure))
    (fun _ => .ite (hlocal.bind fun _ => .pure _) (.ite (.pure _) .failure))

theorem ending_members (hp : Local p) (n : Nat) : Ending (members p n) := by
  induction n with
  | zero => exact .failure
  | succ n ih =>
    exact .bind local_space fun _ => .bind local_string fun _ => .bind local_space fun _ =>
      .bind (Local.expect colon) fun _ => .bind hp fun _ =>
        ending_memberEnd _ (local_members hp n) ih.closed

theorem ending_bracketed {α : Type} {items : TextParser (List α)} (h : Ending items)
    (opening closing : UInt8) : Ending (bracketed opening closing items) :=
  .bind (Local.expect opening) fun _ => .bind local_space fun _ => .bind Local.peek fun _ =>
    .ite (.next_bind (fun _ => .pure []) fun _ => .pure []) h

/-- **An object knows where it ends**: what is appended to its text is left alone. -/
theorem value_object_append {n : Nat} {ms : List Member}
    (h : value n text = some (.object ms, rest)) (more : List UInt8) :
    value n (text ++ more) = some (.object ms, rest ++ more) := by
  cases n with
  | zero => cases h
  | succ n =>
    obtain ⟨_, mid, hspace, h⟩ := bind_eq_some h
    obtain ⟨first, mid', hpeek, h⟩ := bind_eq_some h
    -- nothing else is read as an object
    have hquote : first ≠ some quote := by
      intro hfirst
      rw [if_pos hfirst] at h
      obtain ⟨_, _, _, h⟩ := bind_eq_some h
      cases h
    rw [if_neg hquote] at h
    have hobject : first = some beginObject := by
      by_contra hfirst
      rw [if_neg hfirst] at h
      split_ifs at h
      all_goals
        obtain ⟨_, _, _, h⟩ := bind_eq_some h
        cases h
    rw [if_pos hobject] at h
    have hmid : mid ≠ [] := by
      rintro rfl
      cases hpeek
      cases hobject
    obtain rfl : mid = mid' := by
      cases hpeek
      rfl
    rw [value, bind_of_some (local_space.extend hspace hmid more),
      bind_of_some (Local.peek.extend hpeek hmid more), if_neg hquote, if_pos hobject]
    have hending := ending_bracketed (ending_members (local_value n) n) beginObject endObject
    exact hending.closed.bind (fun _ => .pure _) _ _ _ h more

end Json
