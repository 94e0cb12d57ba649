import Mathlib.Data.Rat.Floor
import Mathlib.Data.List.Forall2
import Mathlib.Tactic

/-!
# Settings from a document

A `Document` is the tree that a JSON library makes of a text. It is read by typed conversions
(`Kind`): a conversion fails when the document has another type, and a number is cast to the
type that is asked for.

A `Setting` is a path in the document with a kind and the field of a record that it is for. A
record is read setting by setting (`load`): what the document has is assigned, the other fields
stay as they are. If no setting touches the field of another one, every field is the default or
what the document gives exactly if each value that is there can be converted and comes out as
it is, or as the default (`taken_iff`).
-/

namespace Settings

/-- A conversion throws, or has no defined result. -/
inductive Fault where
  | typeError
  | undefined
deriving DecidableEq, Repr

/-- A parsed document. -/
inductive Document where
  | null
  | boolean (b : Bool)
  | integer (n : Int64)
  | unsigned (n : UInt64)
  | float (q : ℚ)
  | string (bytes : List UInt8)
  | array (elements : List Document)
  | object (members : List (List UInt8 × Document))

namespace Document

/-- The value of a key, in an object. -/
def find (key : List UInt8) : Document → Option Document
  | .object members => members.lookup key
  | _ => none

/-- The value at the end of a path of keys. -/
def get? (d : Document) (path : List (List UInt8)) : Option Document :=
  path.foldl (fun d key => d.bind (find key)) (some d)

/-- The number that the document is. -/
def number : Document → Option ℚ
  | .integer n => some n.toInt
  | .unsigned n => some n.toNat
  | .float q => some q
  | _ => none

end Document

/-! ## Kinds of values -/

/-- A type of values: how a document is converted, and when it says just that value. -/
structure Kind (α : Type) where
  get : Document → Except Fault α
  Given : Document → α → Prop

namespace Kind

variable {α : Type}

/-- The document is converted to what it says, or to the default. -/
def Fits (k : Kind α) (default : α) (d : Document) : Prop :=
  ∃ x, k.get d = .ok x ∧ (x = default ∨ k.Given d x)

/-- Strings. -/
def text : Kind (List UInt8) where
  get
    | .string bytes => .ok bytes
    | _ => .error .typeError
  Given d x := d = .string x

/-- Booleans. -/
def flag : Kind Bool where
  get
    | .boolean b => .ok b
    | _ => .error .typeError
  Given d x := d = .boolean x

/-- Towards zero. -/
def truncate (q : ℚ) : Int := if 0 ≤ q then q.floor else q.ceil

/-- A type of machine integers from `lo` to `hi`. Integers wrap around; a fraction is cut off,
and must be in range then; truth values are numbers. -/
def whole (ofInt : Int → α) (toInt : α → Int) (lo hi : Int) : Kind α where
  get
    | .integer n => .ok (ofInt n.toInt)
    | .unsigned n => .ok (ofInt n.toNat)
    | .float q =>
      if lo ≤ truncate q ∧ truncate q ≤ hi then .ok (ofInt (truncate q)) else .error .undefined
    | .boolean b => .ok (ofInt b.toInt)
    | _ => .error .typeError
  Given d x := d.number = some (toInt x : ℚ)

/-- A type of floating-point numbers, with the cast to it and the value of the finite ones. -/
def real (cast : ℚ → α) (value : α → Option ℚ) : Kind α where
  get
    | .integer n => .ok (cast n.toInt)
    | .unsigned n => .ok (cast n.toNat)
    | .float q => .ok (cast q)
    | .boolean b => .ok (cast b.toInt)
    | _ => .error .typeError
  Given d x := ∃ q, d.number = some q ∧ value x = some q

variable {d : Document} {default : α}

theorem fits_of_given {k : Kind α} {x : α} (h : k.get d = .ok x) (hgiven : k.Given d x) :
    k.Fits default d := ⟨x, h, .inr hgiven⟩

theorem text_fits_iff {default : List UInt8} :
    text.Fits default d ↔ ∃ bytes, d = .string bytes := by
  constructor
  · rintro ⟨x, hget, -⟩
    cases d with
    | string bytes => exact ⟨bytes, rfl⟩
    | _ => cases hget
  · rintro ⟨bytes, rfl⟩
    exact fits_of_given rfl rfl

theorem flag_fits_iff {default : Bool} :
    flag.Fits default d ↔ ∃ b, d = .boolean b := by
  constructor
  · rintro ⟨x, hget, -⟩
    cases d with
    | boolean b => exact ⟨b, rfl⟩
    | _ => cases hget
  · rintro ⟨b, rfl⟩
    exact fits_of_given rfl rfl

theorem truncate_intCast (n : Int) : truncate (n : ℚ) = n := by
  rw [truncate]
  split
  · exact Rat.floor_intCast n
  · exact Rat.ceil_intCast n

/-- A number that is one of the type is converted to itself. -/
theorem get_whole {ofInt : Int → α} {toInt : α → Int} {lo hi : Int} (hof : ∀ x, ofInt (toInt x) = x)
    (hlo : ∀ x, lo ≤ toInt x) (hhi : ∀ x, toInt x ≤ hi) {x : α}
    (h : d.number = some (toInt x : ℚ)) :
    (whole ofInt toInt lo hi).get d = .ok x := by
  cases d with
  | integer n =>
    have hn : n.toInt = toInt x := Rat.intCast_inj.mp (Option.some.inj h)
    simp only [whole, hn, hof]
  | unsigned n =>
    have hn : (n.toNat : Int) = toInt x := by exact_mod_cast Option.some.inj h
    simp only [whole, hn, hof]
  | float q =>
    have hq : truncate q = toInt x := by
      rw [Option.some.inj h, truncate_intCast]
    simp only [whole, hq, hof]
    rw [if_pos ⟨hlo x, hhi x⟩]
  | _ => cases h

theorem whole_fits_iff {ofInt : Int → α} {toInt : α → Int} {lo hi : Int}
    (hof : ∀ x, ofInt (toInt x) = x) (hlo : ∀ x, lo ≤ toInt x) (hhi : ∀ x, toInt x ≤ hi) :
    (whole ofInt toInt lo hi).Fits default d ↔
      (∃ x, d.number = some (toInt x : ℚ)) ∨ (whole ofInt toInt lo hi).get d = .ok default := by
  constructor
  · rintro ⟨x, hget, rfl | hgiven⟩
    · exact .inr hget
    · exact .inl ⟨x, hgiven⟩
  · rintro (⟨x, hx⟩ | hget)
    · exact fits_of_given (get_whole hof hlo hhi hx) hx
    · exact ⟨default, hget, .inl rfl⟩

theorem real_fits_iff {cast : ℚ → α} {value : α → Option ℚ}
    (hcast : ∀ x q, value x = some q → value (cast q) = some q) :
    (real cast value).Fits default d ↔
      (∃ x q, d.number = some q ∧ value x = some q) ∨ (real cast value).get d = .ok default := by
  constructor
  · rintro ⟨x, hget, rfl | ⟨q, hq, hx⟩⟩
    · exact .inr hget
    · exact .inl ⟨x, q, hq, hx⟩
  · rintro (⟨x, q, hq, hx⟩ | hget)
    · have hget : (real cast value).get d = .ok (cast q) := by
        cases d with
        | integer n => cases hq; rfl
        | unsigned n => cases hq; rfl
        | float r => cases hq; rfl
        | _ => cases hq
      exact fits_of_given hget ⟨q, hq, hcast x q hx⟩
    · exact ⟨default, hget, .inl rfl⟩

end Kind

/-! ## Records -/

/-- A field of a record and where its value is. -/
structure Setting (ρ : Type) where
  {α : Type}
  kind : Kind α
  path : List (List UInt8)
  field : ρ → α
  put : ρ → α → ρ
  field_put : ∀ r x, field (put r x) = x := by intros; rfl

namespace Setting

variable {ρ : Type} (s t : Setting ρ) (d : Document)

/-- The field gets the value that is there, if there is one. -/
def assign (r : ρ) : Except Fault ρ :=
  match d.get? s.path with
  | some v => s.kind.get v >>= fun x => .ok (s.put r x)
  | none => .ok r

/-- What the field is then. -/
def read (r : ρ) : Except Fault s.α :=
  match d.get? s.path with
  | some v => s.kind.get v
  | none => .ok (s.field r)

/-- Assignments of the other setting leave the field alone. -/
def Apart : Prop := ∀ r x, s.field (t.put r x) = s.field r

variable {s t d}

variable {r r' : ρ}

theorem read_congr (h : s.field r' = s.field r) : s.read d r' = s.read d r := by
  unfold read
  rw [h]

theorem assign_eq_ok : s.assign d r = .ok r' ↔
    (∃ v x, d.get? s.path = some v ∧ s.kind.get v = .ok x ∧ s.put r x = r') ∨
      d.get? s.path = none ∧ r = r' := by
  unfold assign
  cases d.get? s.path with
  | none => simp
  | some v => cases hget : s.kind.get v <;> simp [hget, bind, Except.bind]

theorem read_of_assign (h : s.assign d r = .ok r') : s.read d r = .ok (s.field r') := by
  obtain ⟨v, x, hv, hget, rfl⟩ | ⟨hv, rfl⟩ := assign_eq_ok.mp h
  · simp only [read, hv, hget, s.field_put]
  · simp only [read, hv]

theorem exists_assign {x : s.α} (h : s.read d r = .ok x) : ∃ r', s.assign d r = .ok r' := by
  unfold read at h
  cases hv : d.get? s.path with
  | none => exact ⟨r, assign_eq_ok.mpr (.inr ⟨hv, rfl⟩)⟩
  | some v =>
    rw [hv] at h
    exact ⟨s.put r x, assign_eq_ok.mpr (.inl ⟨v, x, hv, h, rfl⟩)⟩

theorem Apart.assign (h : s.Apart t) (hassign : t.assign d r = .ok r') :
    s.field r' = s.field r := by
  obtain ⟨v, x, -, -, rfl⟩ | ⟨-, rfl⟩ := assign_eq_ok.mp hassign
  · exact h r x
  · rfl

/-- A setting comes out right exactly if its value fits, if there is one. -/
theorem fits_iff {default : ρ} :
    (∀ v, d.get? s.path = some v → s.kind.Fits (s.field default) v) ↔
      ∃ x, s.read d default = .ok x ∧
        (x = s.field default ∨ ∃ v, d.get? s.path = some v ∧ s.kind.Given v x) := by
  unfold read
  cases d.get? s.path with
  | none => simp
  | some v => simp [Kind.Fits]

end Setting

section Load

variable {ρ : Type}

/-- The settings one after the other. -/
def load (settings : List (Setting ρ)) (d : Document) (r : ρ) : Except Fault ρ :=
  settings.foldlM (fun r s => s.assign d r) r

/-- No two settings write the same part of the record. -/
def Independent (settings : List (Setting ρ)) : Prop :=
  settings.Pairwise fun s t => s.Apart t ∧ t.Apart s

/-- Every field is the default or what the document gives. -/
def Taken (settings : List (Setting ρ)) (default : ρ) (d : Document) (r : ρ) : Prop :=
  ∀ s ∈ settings, s.field r = s.field default ∨
    ∃ v, d.get? s.path = some v ∧ s.kind.Given v (s.field r)

/-- Every value that is there fits. -/
def Fits (settings : List (Setting ρ)) (default : ρ) (d : Document) : Prop :=
  ∀ s ∈ settings, ∀ v, d.get? s.path = some v → s.kind.Fits (s.field default) v

variable {settings : List (Setting ρ)} {default r r' : ρ} {d : Document} {α β : Type}

theorem bind_eq_ok {ε : Type} {x : Except ε α} {f : α → Except ε β} {b : β} :
    (x >>= f) = .ok b ↔ ∃ a, x = .ok a ∧ f a = .ok b := by
  cases x <;> simp [bind, Except.bind]

theorem load_cons {s : Setting ρ} :
    load (s :: settings) d r = .ok r' ↔
      ∃ r₁, s.assign d r = .ok r₁ ∧ load settings d r₁ = .ok r' := by
  rw [load, List.foldlM_cons, bind_eq_ok]
  rfl

theorem load_frame {s : Setting ρ} (h : ∀ t ∈ settings, s.Apart t)
    (hload : load settings d r = .ok r') : s.field r' = s.field r := by
  induction settings generalizing r with
  | nil => cases hload; rfl
  | cons t settings ih =>
    obtain ⟨r₁, hassign, hrest⟩ := load_cons.mp hload
    rw [ih (fun u hu => h u (.tail t hu)) hrest]
    exact (h t (.head settings)).assign hassign

/-- Each field is what its setting says, wherever in the list the setting is. -/
theorem read_of_load (h : Independent settings) (hload : load settings d r = .ok r') :
    ∀ s ∈ settings, s.read d r = .ok (s.field r') := by
  induction settings generalizing r with
  | nil => exact fun s hs => absurd hs List.not_mem_nil
  | cons t settings ih =>
    obtain ⟨hfirst, hpairs⟩ := List.pairwise_cons.mp h
    obtain ⟨r₁, hassign, hrest⟩ := load_cons.mp hload
    intro s hs
    obtain rfl | hs := List.mem_cons.mp hs
    · rw [load_frame (fun u hu => (hfirst u hu).1) hrest]
      exact Setting.read_of_assign hassign
    · rw [← Setting.read_congr ((hfirst s hs).2.assign hassign)]
      exact ih hpairs hrest s hs

theorem exists_load (h : Independent settings) (hread : ∀ s ∈ settings, ∃ x, s.read d r = .ok x) :
    ∃ r', load settings d r = .ok r' := by
  induction settings generalizing r with
  | nil => exact ⟨r, rfl⟩
  | cons t settings ih =>
    obtain ⟨hfirst, hpairs⟩ := List.pairwise_cons.mp h
    obtain ⟨x, hx⟩ := hread t (.head settings)
    obtain ⟨r₁, hassign⟩ := Setting.exists_assign hx
    have hrest : ∀ s ∈ settings, ∃ x, s.read d r₁ = .ok x := by
      intro s hs
      rw [Setting.read_congr ((hfirst s hs).2.assign hassign)]
      exact hread s (.tail t hs)
    obtain ⟨r', hload⟩ := ih hpairs hrest
    exact ⟨r', load_cons.mpr ⟨r₁, hassign, hload⟩⟩

/-- **A record is read without a fault and without another value than those in the document
and the defaults exactly if all values fit.** -/
theorem taken_iff (h : Independent settings) :
    (∃ r, load settings d default = .ok r ∧ Taken settings default d r) ↔
      Fits settings default d := by
  constructor
  · rintro ⟨r, hload, htaken⟩ s hs
    exact Setting.fits_iff.mpr ⟨s.field r, read_of_load h hload s hs, htaken s hs⟩
  · intro hfits
    have hread : ∀ s ∈ settings, ∃ x, s.read d default = .ok x ∧
        (x = s.field default ∨ ∃ v, d.get? s.path = some v ∧ s.kind.Given v x) :=
      fun s hs => Setting.fits_iff.mp (hfits s hs)
    obtain ⟨r, hload⟩ := exists_load h fun s hs => (hread s hs).imp fun _ hx => hx.1
    refine ⟨r, hload, fun s hs => ?_⟩
    obtain ⟨x, hx, hvalue⟩ := hread s hs
    rw [read_of_load h hload s hs] at hx
    cases hx
    exact hvalue

theorem mapM_eq_ok {ε : Type} {f : α → Except ε β} {l : List α} {bs : List β} :
    l.mapM f = .ok bs ↔ List.Forall₂ (fun a b => f a = .ok b) l bs := by
  induction l generalizing bs with
  | nil =>
    rw [List.mapM_nil, List.forall₂_nil_left_iff]
    exact ⟨fun h => (Except.ok.inj h).symm, fun h => by rw [h]; rfl⟩
  | cons a l ih =>
    rw [List.mapM_cons, bind_eq_ok, List.forall₂_cons_left_iff]
    simp only [bind_eq_ok, ih]
    constructor
    · rintro ⟨b, hb, bs', hbs', hpure⟩
      cases hpure
      exact ⟨b, bs', hb, hbs', rfl⟩
    · rintro ⟨b, bs', hb, hbs', rfl⟩
      exact ⟨b, hb, bs', hbs', rfl⟩

theorem exists_forall₂_and {R S : α → β → Prop} {l : List α} :
    (∃ bs, List.Forall₂ R l bs ∧ List.Forall₂ S l bs) ↔ ∀ a ∈ l, ∃ b, R a b ∧ S a b := by
  induction l with
  | nil => simp
  | cons a l ih =>
    rw [List.forall_mem_cons, ← ih]
    constructor
    · rintro ⟨bs, hbsR, hbsS⟩
      obtain ⟨b, bs, hR, hRs, rfl⟩ := List.forall₂_cons_left_iff.mp hbsR
      obtain ⟨hS, hSs⟩ := List.forall₂_cons.mp hbsS
      exact ⟨⟨b, hR, hS⟩, bs, hRs, hSs⟩
    · rintro ⟨⟨b, hR, hS⟩, bs, hRs, hSs⟩
      exact ⟨b :: bs, .cons hR hRs, .cons hS hSs⟩

/-- The same for a list of records. -/
theorem forall_taken_iff (h : Independent settings) {ds : List Document} :
    (∃ rs, ds.mapM (load settings · default) = .ok rs ∧
        List.Forall₂ (Taken settings default) ds rs) ↔
      ∀ d ∈ ds, Fits settings default d := by
  simp only [mapM_eq_ok, exists_forall₂_and, taken_iff h]

end Load

end Settings
