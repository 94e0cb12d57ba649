import EcsAsioServer.Lib.StateProgram

/-!
# Records read and written field by field

A wire format is often given twice, by a writer that appends one field after
another and by a reader that takes them off the front of its input. The two are
described here by one list of steps.

- `Kinds` is the vocabulary. A kind with a `size` is read without a look at how much
  input there is left, and overruns a shorter input; the reader of any other kind checks.
- `Codec` says that a parser and a serializer of a type follow a list of `Step`s.
- `Codec.accepts`: the parser accepts exactly the encodings, `Codec.inBounds`: it
  never overruns its input, `Codec.roundTrips`: it reads back what was written.
  Each holds for steps with a property that can be evaluated (`exact`, `guarded`,
  `lenient`).
- `Codec.overruns_iff`: a parser overruns exactly those inputs whose first misfit
  is a field with a `size`.
-/

namespace Records

open StateProgram

variable {β ε α : Type}

/-! ## Readers -/

/-- The reader returns the fitting values whose encoding is at the front of the
input, and nothing else. -/
def Accepts (x : EStateM ε (List β) α) (Fits : α → Prop) (write : α → List β) : Prop :=
  ∀ b a rest, x b = .ok a rest ↔ Fits a ∧ b = write a ++ rest

/-- The reader gets back what was written, whatever follows it. -/
def RoundTrips (x : EStateM ε (List β) α) (Fits : α → Prop) (write : α → List β) : Prop :=
  ∀ a rest, Fits a → x (write a ++ rest) = .ok a rest

/-- The reader never stops with `overrun`. -/
def InBounds (overrun : ε) (x : EStateM ε (List β) α) : Prop :=
  ∀ b s, x b ≠ .error overrun s

theorem Accepts.roundTrips {x : EStateM ε (List β) α} {Fits : α → Prop} {write : α → List β}
    (h : Accepts x Fits write) : RoundTrips x Fits write :=
  fun a rest ha => (h _ a rest).mpr ⟨ha, rfl⟩

/-- **Counted sequences.** Repeating a reader accepts the concatenations of as
many encodings. -/
theorem Accepts.times {x : EStateM ε (List β) α} {Fits : α → Prop} {write : α → List β}
    (h : Accepts x Fits write) (n : Nat) :
    Accepts (times n x) (fun as => as.length = n ∧ ∀ a ∈ as, Fits a) (List.flatMap write) := by
  induction n with
  | zero =>
    intro b as rest
    rw [StateProgram.times, pure_apply]
    constructor
    · rintro ⟨⟩
      simp
    · rintro ⟨⟨hlen, -⟩, rfl⟩
      obtain rfl := List.length_eq_zero_iff.mp hlen
      rfl
  | succ n ih =>
    intro b as rest
    rw [StateProgram.times, bind_eq_ok]
    constructor
    · rintro ⟨a, t, ha, hrest⟩
      obtain ⟨as', t', has, hpure⟩ := bind_eq_ok.mp hrest
      obtain ⟨rfl, rfl⟩ : a :: as' = as ∧ t' = rest := by simpa using hpure
      obtain ⟨hfit, rfl⟩ := (h _ _ _).mp ha
      obtain ⟨⟨hlen, hfits⟩, rfl⟩ := (ih _ _ _).mp has
      refine ⟨⟨by rw [List.length_cons, hlen], List.forall_mem_cons.mpr ⟨hfit, hfits⟩⟩, ?_⟩
      rw [List.flatMap_cons, List.append_assoc]
    · rintro ⟨⟨hlen, hfits⟩, rfl⟩
      obtain ⟨a, as', rfl⟩ := List.exists_cons_of_length_eq_add_one hlen
      rw [List.forall_mem_cons] at hfits
      rw [List.flatMap_cons, List.append_assoc]
      refine ⟨a, _, (h _ _ _).mpr ⟨hfits.1, rfl⟩, ?_⟩
      rw [bind_ok ((ih _ _ _).mpr ⟨⟨by simpa using hlen, hfits.2⟩, rfl⟩), pure_apply]

theorem InBounds.pure (overrun : ε) (a : α) :
    InBounds overrun (Pure.pure a : EStateM ε (List β) α) := by
  rintro b s ⟨⟩

theorem InBounds.bind {γ : Type} {x : EStateM ε (List β) α} {f : α → EStateM ε (List β) γ}
    {overrun : ε} (hx : InBounds overrun x) (hf : ∀ a, InBounds overrun (f a)) :
    InBounds overrun (x >>= f) := by
  intro b s hs
  rcases bind_eq_error.mp hs with h | ⟨a, t, -, h⟩
  · exact hx b s h
  · exact hf a t s h

/-- Nothing that is repeated overruns if no round does. -/
theorem InBounds.times {x : EStateM ε (List β) α} {overrun : ε} (h : InBounds overrun x)
    (n : Nat) : InBounds overrun (times n x) := by
  induction n with
  | zero => exact .pure overrun []
  | succ n ih => exact h.bind fun a => ih.bind fun as => .pure overrun (a :: as)

/-! ## Kinds of fields -/

/-- The kinds of fields of a format over the symbols `β`. A reader stops with
`rejected` or with `overrun`. -/
structure Kinds (β ε : Type) where
  Kind : Type
  Val : Kind → Type
  /-- The values whose encoding determines them. -/
  Fits : (k : Kind) → Val k → Prop
  write : (k : Kind) → Val k → List β
  read : (k : Kind) → EStateM ε (List β) (Val k)
  rejected : ε
  overrun : ε
  /-- The number of symbols of a field that is read unchecked. -/
  size : Kind → Option Nat
  /-- The number of symbols that a field takes at the front of the input, if all
  of them are there. -/
  extent : Kind → List β → Option Nat
  /-- No encoding is shorter than this. -/
  minLen : Kind → Nat
  /-- Whether only encodings are read. -/
  exact : Kind → Bool
  rejected_ne_overrun : rejected ≠ overrun
  minLen_le : ∀ {k v}, Fits k v → minLen k ≤ (write k v).length
  read_write : ∀ {k v}, Fits k v → ∀ rest, read k (write k v ++ rest) = .ok v rest
  read_exact : ∀ {k b v rest}, exact k = true → read k b = .ok v rest →
    Fits k v ∧ b = write k v ++ rest
  extent_size : ∀ {k n}, size k = some n →
    ∀ b, extent k b = if n ≤ b.length then some n else none
  read_extent : ∀ {k b n}, extent k b = some n → ∃ v, read k b = .ok v (b.drop n)
  read_misfit : ∀ {k b}, extent k b = none →
    ∃ s, read k b = .error (if (size k).isSome then overrun else rejected) s

/-- One step of a reader: check that `n` more symbols are there, move over `n`
symbols, or read a field. -/
inductive Step (K : Kinds β ε) where
  | check (n : Nat)
  | skip (n : Nat)
  | field (k : K.Kind)

variable {K : Kinds β ε}

/-- The values of the fields, in order. -/
@[reducible] def Values : List (Step K) → Type
  | [] => Unit
  | .check _ :: ss => Values ss
  | .skip _ :: ss => Values ss
  | .field k :: ss => K.Val k × Values ss

/-- Append the encodings of the fields to `out`. Checks and gaps leave no trace. -/
def writeAll (out : List β) : (ss : List (Step K)) → Values ss → List β
  | [], _ => out
  | .check _ :: ss, v => writeAll out ss v
  | .skip _ :: ss, v => writeAll out ss v
  | .field k :: ss, v => writeAll (out ++ K.write k v.1) ss v.2

/-- `if (fewer than n symbols are left) reject`. -/
def need (K : Kinds β ε) (n : Nat) : EStateM ε (List β) Unit := do
  if (← get).length < n then throw K.rejected

/-- Take the steps in order, and go on with the values read. -/
def readAll : (ss : List (Step K)) → (Values ss → EStateM ε (List β) α) → EStateM ε (List β) α
  | [], f => f ()
  | .check n :: ss, f => do
    need K n
    readAll ss f
  | .skip n :: ss, f => do
    modify (List.drop n)
    readAll ss f
  | .field k :: ss, f => do
    let x ← K.read k
    readAll ss fun v => f (x, v)

/-- Every value fits. -/
def FitsAll : (ss : List (Step K)) → Values ss → Prop
  | [], _ => True
  | .check _ :: ss, v => FitsAll ss v
  | .skip _ :: ss, v => FitsAll ss v
  | .field k :: ss, v => K.Fits k v.1 ∧ FitsAll ss v.2

/-! ## Running the steps -/

theorem need_ok {n : Nat} {b : List β} (h : n ≤ b.length) : need K n b = .ok () b := by
  simp [need, Nat.not_lt.mpr h]

theorem need_rejects {n : Nat} {b : List β} (h : b.length < n) :
    need K n b = .error K.rejected b := by
  simp only [need, get_bind_apply, if_pos h]
  rfl

section Run

variable {ss : List (Step K)} {b : List β} {n : Nat}

theorem readAll_check {f : Values (.check n :: ss) → EStateM ε (List β) α} (h : n ≤ b.length) :
    readAll (.check n :: ss) f b = readAll ss f b := by
  rw [readAll, bind_ok (need_ok h)]

theorem readAll_check_rejects {f : Values (.check n :: ss) → EStateM ε (List β) α}
    (h : b.length < n) : readAll (.check n :: ss) f b = .error K.rejected b := by
  rw [readAll, bind_error (need_rejects h)]

theorem readAll_skip (f : Values (.skip n :: ss) → EStateM ε (List β) α) :
    readAll (.skip n :: ss) f b = readAll ss f (b.drop n) := rfl

end Run

/-! ## The words of a list of steps -/

/-- `w` is read as the values `v`: their encodings, with arbitrary symbols where
the steps move over some. -/
def Spells : (ss : List (Step K)) → Values ss → List β → Prop
  | [], _, w => w = []
  | .check _ :: ss, v, w => Spells ss v w
  | .skip n :: ss, v, w => ∃ gap w', gap.length = n ∧ w = gap ++ w' ∧ Spells ss v w'
  | .field k :: ss, v, w => K.Fits k v.1 ∧ ∃ w', w = K.write k v.1 ++ w' ∧ Spells ss v.2 w'

/-- No word of the steps is shorter than this. -/
def minLen : List (Step K) → Nat
  | [] => 0
  | .check _ :: ss => minLen ss
  | .skip n :: ss => n + minLen ss
  | .field k :: ss => K.minLen k + minLen ss

/-- No check asks for more than every word that follows it has. -/
def lenient : List (Step K) → Bool
  | [] => true
  | .check n :: ss => n ≤ minLen ss && lenient ss
  | .skip _ :: ss => lenient ss
  | .field _ :: ss => lenient ss

/-- Only encodings are read, and a gap is never at the end. -/
def exact : List (Step K) → Bool
  | [] => true
  | .check _ :: ss => exact ss
  | .skip _ :: ss => 0 < minLen ss && exact ss
  | .field k :: ss => K.exact k && exact ss

/-- There are no gaps. -/
def contiguous : List (Step K) → Bool
  | [] => true
  | .check _ :: ss => contiguous ss
  | .skip _ :: _ => false
  | .field _ :: ss => contiguous ss

theorem Spells.minLen_le {ss : List (Step K)} {v : Values ss} {w : List β} (h : Spells ss v w) :
    minLen ss ≤ w.length := by
  induction ss generalizing w with
  | nil => exact Nat.zero_le _
  | cons s ss ih =>
    cases s with
    | check n => exact ih h
    | skip n =>
      obtain ⟨gap, w', hgap, rfl, hw⟩ := h
      have hle := ih hw
      rw [minLen, List.length_append]
      omega
    | field k =>
      obtain ⟨hfit, w', rfl, hw⟩ := h
      have hle := ih hw
      have hfield := K.minLen_le hfit
      rw [minLen, List.length_append]
      omega

/-- The steps read a word of theirs, and go on right behind it. -/
theorem readAll_of_spells {ss : List (Step K)} {v : Values ss} {w : List β}
    (hss : lenient ss = true) (h : Spells ss v w) (f : Values ss → EStateM ε (List β) α)
    (rest : List β) : readAll ss f (w ++ rest) = f v rest := by
  induction ss generalizing w with
  | nil =>
    obtain rfl : w = [] := h
    rfl
  | cons s ss ih =>
    cases s with
    | check n =>
      obtain ⟨hn, hss⟩ : n ≤ minLen ss ∧ lenient ss = true := by simpa [lenient] using hss
      have hle : minLen ss ≤ w.length := Spells.minLen_le h
      have hroom : n ≤ (w ++ rest).length := by
        rw [List.length_append]
        omega
      rw [readAll_check hroom, ih hss h]
    | skip n =>
      obtain ⟨gap, w', rfl, rfl, hw⟩ := h
      rw [readAll_skip, List.append_assoc, List.drop_left, ih hss hw]
    | field k =>
      obtain ⟨hfit, w', rfl, hw⟩ := h
      rw [readAll, List.append_assoc, bind_ok (K.read_write hfit _)]
      exact ih hss hw _

/-- Whatever the steps read is a word of theirs. -/
theorem spells_of_readAll {ss : List (Step K)} (hss : exact ss = true)
    {f : Values ss → EStateM ε (List β) α} {b : List β} {a : α} {rest : List β}
    (h : readAll ss f b = .ok a rest) :
    ∃ v w t, Spells ss v w ∧ b = w ++ t ∧ f v t = .ok a rest := by
  induction ss generalizing b with
  | nil => exact ⟨(), [], b, rfl, rfl, h⟩
  | cons s ss ih =>
    cases s with
    | check n =>
      rcases Nat.lt_or_ge b.length n with hlt | hle
      · rw [readAll_check_rejects hlt] at h
        cases h
      · rw [readAll_check hle] at h
        exact ih hss h
    | skip n =>
      obtain ⟨hpos, hss⟩ : 0 < minLen ss ∧ exact ss = true := by simpa [exact] using hss
      obtain ⟨v, w, t, hw, hb, hf⟩ := ih hss h
      -- something is left behind the gap, so the gap is all there
      have hleft : 0 < (b.drop n).length := by
        have hle := hw.minLen_le
        rw [hb, List.length_append]
        omega
      have hgap : (b.take n).length = n := by
        rw [List.length_drop] at hleft
        rw [List.length_take]
        omega
      refine ⟨v, b.take n ++ w, t, ⟨b.take n, w, hgap, rfl, hw⟩, ?_, hf⟩
      rw [List.append_assoc, ← hb, List.take_append_drop]
    | field k =>
      obtain ⟨hk, hss⟩ : K.exact k = true ∧ exact ss = true := by simpa [exact] using hss
      obtain ⟨x, b', hx, hread⟩ := bind_eq_ok.mp h
      obtain ⟨hfit, rfl⟩ := K.read_exact hk hx
      obtain ⟨v, w, t, hw, rfl, hf⟩ := ih hss hread
      exact ⟨(x, v), K.write k x ++ w, t, ⟨hfit, w, rfl, hw⟩, (List.append_assoc ..).symm, hf⟩

theorem writeAll_eq (out : List β) (ss : List (Step K)) (v : Values ss) :
    writeAll out ss v = out ++ writeAll [] ss v := by
  induction ss generalizing out with
  | nil => exact (List.append_nil out).symm
  | cons s ss ih =>
    cases s with
    | check n => exact ih out v
    | skip n => exact ih out v
    | field k =>
      rw [writeAll, writeAll, ih, ih ([] ++ _), List.nil_append, List.append_assoc]

/-- Without gaps the one word of fitting values is what is written for them. -/
theorem spells_iff {ss : List (Step K)} (hss : contiguous ss = true) (v : Values ss)
    (w : List β) : Spells ss v w ↔ FitsAll ss v ∧ w = writeAll [] ss v := by
  induction ss generalizing w with
  | nil => exact (true_and _).symm.to_iff
  | cons s ss ih =>
    cases s with
    | check n => exact ih hss v w
    | skip n => cases hss
    | field k =>
      rw [Spells, FitsAll, writeAll, List.nil_append, writeAll_eq, and_assoc]
      refine and_congr_right fun _ => ?_
      constructor
      · rintro ⟨w', rfl, hw⟩
        obtain ⟨hfits, rfl⟩ := (ih hss _ _).mp hw
        exact ⟨hfits, rfl⟩
      · rintro ⟨hfits, rfl⟩
        exact ⟨_, rfl, (ih hss _ _).mpr ⟨hfits, rfl⟩⟩

/-- What steps with lenient checks and exact fields come to: they take a word of
theirs off the input. -/
theorem readAll_iff {ss : List (Step K)} (hl : lenient ss = true) (he : exact ss = true)
    {f : Values ss → EStateM ε (List β) α} {b : List β} {a : α} {rest : List β} :
    readAll ss f b = .ok a rest ↔ ∃ v w t, Spells ss v w ∧ b = w ++ t ∧ f v t = .ok a rest := by
  constructor
  · exact spells_of_readAll he
  · rintro ⟨v, w, t, hw, rfl, hf⟩
    rw [readAll_of_spells hl hw, hf]

/-- Without gaps they take off what is written for fitting values. -/
theorem readAll_iff_write {ss : List (Step K)} (hl : lenient ss = true) (he : exact ss = true)
    (hc : contiguous ss = true) {f : Values ss → EStateM ε (List β) α} {b : List β} {a : α}
    {rest : List β} :
    readAll ss f b = .ok a rest ↔
      ∃ v t, FitsAll ss v ∧ b = writeAll [] ss v ++ t ∧ f v t = .ok a rest := by
  simp only [readAll_iff hl he, spells_iff hc]
  constructor
  · rintro ⟨v, w, t, ⟨hfits, rfl⟩, hb, hf⟩
    exact ⟨v, t, hfits, hb, hf⟩
  · rintro ⟨v, t, hfits, hb, hf⟩
    exact ⟨v, _, t, ⟨hfits, rfl⟩, hb, hf⟩

/-! ## Overruns -/

/-- Every unchecked field is covered by the checks before it, of which `known` more
symbols are known to be there. -/
def guarded : Nat → List (Step K) → Bool
  | _, [] => true
  | known, .check n :: ss => guarded (max known n) ss
  | known, .skip n :: ss => guarded (known - n) ss
  | known, .field k :: ss =>
    match K.size k with
    | some n => n ≤ known && guarded (known - n) ss
    | none => guarded 0 ss

/-- The first step for which the input has no room. -/
def misfit : List (Step K) → List β → Option (Step K)
  | [], _ => none
  | .check n :: ss, b => if b.length < n then some (.check n) else misfit ss b
  | .skip n :: ss, b => misfit ss (b.drop n)
  | .field k :: ss, b =>
    match K.extent k b with
    | some n => misfit ss (b.drop n)
    | none => some (.field k)

/-- The step reads a field without a check. -/
def Step.unchecked : Step K → Bool
  | .check _ => false
  | .skip _ => false
  | .field k => (K.size k).isSome

/-- The first misfit is a field that is read without a check. -/
def overruns (ss : List (Step K)) (b : List β) : Bool := (misfit ss b).any Step.unchecked

/-- Behind enough checks nothing overruns. -/
theorem readAll_inBounds {ss : List (Step K)} {known : Nat} (hss : guarded known ss = true)
    {f : Values ss → EStateM ε (List β) α} (hf : ∀ v, InBounds K.overrun (f v)) {b : List β}
    (hb : known ≤ b.length) (s : List β) : readAll ss f b ≠ .error K.overrun s := by
  induction ss generalizing known b with
  | nil => exact hf () b s
  | cons step ss ih =>
    cases step with
    | check n =>
      rcases Nat.lt_or_ge b.length n with hlt | hle
      · rw [readAll_check_rejects hlt]
        intro h
        exact K.rejected_ne_overrun (EStateM.Result.error.inj h).1
      · rw [readAll_check hle]
        exact ih hss hf (Nat.max_le.mpr ⟨hb, hle⟩)
    | skip n =>
      refine ih hss hf ?_
      rw [List.length_drop]
      omega
    | field k =>
      intro h
      cases hsize : K.size k with
      | some n =>
        obtain ⟨hn, hss⟩ : n ≤ known ∧ guarded (known - n) ss = true := by
          simpa [guarded, hsize] using hss
        have hext : K.extent k b = some n := by
          rw [K.extent_size hsize, if_pos (hn.trans hb)]
        obtain ⟨x, hx⟩ := K.read_extent hext
        rw [readAll, bind_ok hx] at h
        refine ih hss (fun v => hf (x, v)) ?_ h
        rw [List.length_drop]
        omega
      | none =>
        have hss : guarded 0 ss = true := by simpa [guarded, hsize] using hss
        rcases bind_eq_error.mp h with hx | ⟨x, b', -, hrest⟩
        · -- a checking reader only ever rejects
          cases hext : K.extent k b with
          | some n =>
            obtain ⟨y, hy⟩ := K.read_extent hext
            rw [hy] at hx
            cases hx
          | none =>
            obtain ⟨t, ht⟩ := K.read_misfit hext
            rw [ht, hsize] at hx
            exact K.rejected_ne_overrun (EStateM.Result.error.inj hx).1
        · exact ih hss (fun v => hf (x, v)) (Nat.zero_le _) hrest

/-- The steps can be taken first, and the program gone on with after them. -/
theorem readAll_eq_bind (ss : List (Step K)) (f : Values ss → EStateM ε (List β) α) :
    readAll ss f = readAll ss pure >>= f := by
  induction ss generalizing α with
  | nil => rfl
  | cons s ss ih =>
    cases s with
    | check n => simp only [readAll, bind_assoc, ih f]
    | skip n => simp only [readAll, bind_assoc, ih f]
    | field k =>
      simp only [readAll, bind_assoc]
      refine congrArg _ (funext fun x => ?_)
      rw [ih fun v => pure (x, v), bind_assoc, ih fun v => f (x, v)]
      rfl

/-- **What overruns.** The steps overrun the input exactly when the first misfit is
an unchecked field. -/
theorem readAll_overruns_iff {ss : List (Step K)} {b : List β} (g : Values ss → α) :
    (∃ s, readAll ss (fun v => pure (g v)) b = .error K.overrun s) ↔ overruns ss b = true := by
  rw [overruns]
  induction ss generalizing b with
  | nil =>
    constructor
    · rintro ⟨s, ⟨⟩⟩
    · rintro ⟨⟩
  | cons step ss ih =>
    cases step with
    | check n =>
      rcases Nat.lt_or_ge b.length n with hlt | hle
      · rw [misfit, if_pos hlt]
        constructor
        · rintro ⟨s, hs⟩
          rw [readAll_check_rejects hlt] at hs
          exact absurd (EStateM.Result.error.inj hs).1 K.rejected_ne_overrun
        · rintro ⟨⟩
      · rw [misfit, if_neg (Nat.not_lt.mpr hle), ← ih g]
        simp only [readAll_check hle]
    | skip n => exact ih g
    | field k =>
      cases hext : K.extent k b with
      | some n =>
        obtain ⟨x, hx⟩ := K.read_extent hext
        simp only [misfit, hext, readAll, bind_ok hx]
        exact ih fun v => g (x, v)
      | none =>
        obtain ⟨t, ht⟩ := K.read_misfit hext
        simp only [misfit, hext, readAll, bind_error ht, Option.any_some, Step.unchecked]
        constructor
        · rintro ⟨s, hs⟩
          by_contra hun
          rw [if_neg hun] at hs
          exact K.rejected_ne_overrun (EStateM.Result.error.inj hs).1
        · intro hun
          exact ⟨t, by rw [if_pos hun]⟩
/-! ## Codecs -/

/-- A parser and a serializer of `M` that follow a list of steps. -/
structure Codec (K : Kinds β ε) (M : Type) where
  steps : List (Step K)
  toValues : M → Values steps
  ofValues : Values steps → M
  parse : EStateM ε (List β) M
  serialize : M → List β
  ofValues_toValues : ∀ m, ofValues (toValues m) = m := by intro m; rfl
  toValues_ofValues : ∀ v, toValues (ofValues v) = v := by intro v; rfl
  parse_eq : parse = readAll steps (fun v => pure (ofValues v)) := by rfl
  serialize_eq : ∀ m, serialize m = writeAll [] steps (toValues m) := by intro m; rfl

namespace Codec

variable {M : Type} (c : Codec K M)

/-- Every field of the message fits. -/
def Fits (m : M) : Prop := FitsAll c.steps (c.toValues m)

/-- The words that the parser reads as `m`. -/
def Spells (m : M) (w : List β) : Prop := Records.Spells c.steps (c.toValues m) w

/-- The first step of the parser for which `b` has no room reads a field without a
check. -/
def overruns (b : List β) : Bool := Records.overruns c.steps b

/-- A parser with lenient checks that reads only encodings accepts exactly its
words. -/
theorem parse_iff (hl : lenient c.steps = true) (he : exact c.steps = true) (b : List β) (m : M)
    (rest : List β) : c.parse b = .ok m rest ↔ ∃ w, c.Spells m w ∧ b = w ++ rest := by
  rw [c.parse_eq, readAll_iff hl he]
  constructor
  · rintro ⟨v, w, t, hw, rfl, hpure⟩
    cases hpure
    refine ⟨w, ?_, rfl⟩
    rw [Spells, c.toValues_ofValues]
    exact hw
  · rintro ⟨w, hw, rfl⟩
    exact ⟨c.toValues m, w, rest, hw, rfl, by rw [c.ofValues_toValues]; rfl⟩

theorem spells_iff (hc : contiguous c.steps = true) (m : M) (w : List β) :
    c.Spells m w ↔ c.Fits m ∧ w = c.serialize m := by
  rw [c.serialize_eq]
  exact Records.spells_iff hc _ _

/-- **Exactness.** -/
theorem accepts (hl : lenient c.steps = true) (he : exact c.steps = true)
    (hc : contiguous c.steps = true) : Accepts c.parse c.Fits c.serialize := by
  intro b m rest
  rw [c.parse_iff hl he]
  simp only [c.spells_iff hc]
  constructor
  · rintro ⟨w, ⟨hfits, rfl⟩, rfl⟩
    exact ⟨hfits, rfl⟩
  · rintro ⟨hfits, rfl⟩
    exact ⟨_, ⟨hfits, rfl⟩, rfl⟩

/-- **Round trip**, also for a parser that reads more than the encodings. -/
theorem roundTrips (hl : lenient c.steps = true) (hc : contiguous c.steps = true) :
    RoundTrips c.parse c.Fits c.serialize := by
  intro m rest hfits
  have hw : c.Spells m (c.serialize m) := (c.spells_iff hc m _).mpr ⟨hfits, rfl⟩
  rw [c.parse_eq, readAll_of_spells hl hw, pure_apply, c.ofValues_toValues]

/-- **Bounds.** -/
theorem inBounds (hg : guarded 0 c.steps = true) : InBounds K.overrun c.parse := by
  intro b s
  rw [c.parse_eq]
  exact readAll_inBounds hg (fun v => .pure K.overrun (c.ofValues v)) (Nat.zero_le _) s

/-- **Overruns.** -/
theorem overruns_iff (b : List β) :
    (∃ s, c.parse b = .error K.overrun s) ↔ c.overruns b = true := by
  rw [c.parse_eq]
  exact readAll_overruns_iff c.ofValues

end Codec

end Records
