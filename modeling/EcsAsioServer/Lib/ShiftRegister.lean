import Mathlib.Data.List.GetD
import Mathlib.Logic.Function.Iterate
import Mathlib.Tactic

/-!
# Linear feedback shift registers

The register of a reflected CRC: `step` moves a word of `w` bits down by one place and, if
the bit that falls out is set, adds the polynomial. `feed` does the same with one bit of the
input, so a checksum is a fold of `feed` over the bits of the input (`feedAll`).

- `step_xor`, `feedAll_xor`: everything is linear over GF(2).
- `feedAll_eq_iterate`: up to `w` bits may as well be added to the register at once.
- `iterate_step_split`: `k` steps of a word are `k` steps of its low `k` bits and the rest moved
  down. This is what a table for the low bits rests on.
- `step_eq_zero`: if the polynomial has its top bit, no step loses anything. So a burst of at
  most `w` bits leaves a trace in the register (`feedAll_burst`).
-/

namespace ShiftRegister

variable {w : Nat}

/-! ## One step -/

/-- The feedback for the bit that falls out. -/
def feedback (poly : BitVec w) (b : Bool) : BitVec w := if b then poly else 0#w

/-- One place down, with a bit of the input. -/
def feed (poly c : BitVec w) (b : Bool) : BitVec w :=
  (c >>> 1) ^^^ feedback poly (c.getLsbD 0 ^^ b)

/-- One place down. -/
def step (poly c : BitVec w) : BitVec w := feed poly c false

/-- All bits of the input, the first one first. -/
def feedAll (poly c : BitVec w) (bits : List Bool) : BitVec w :=
  bits.foldl (feed poly) c

theorem feedback_xor (poly : BitVec w) (a b : Bool) :
    feedback poly (a ^^ b) = feedback poly a ^^^ feedback poly b := by
  cases a <;> cases b <;> simp [feedback]

theorem feed_xor (poly c d : BitVec w) (b e : Bool) :
    feed poly (c ^^^ d) (b ^^ e) = feed poly c b ^^^ feed poly d e := by
  simp only [feed, BitVec.ushiftRight_xor_distrib, BitVec.getLsbD_xor, feedback_xor]
  ac_rfl

theorem step_xor (poly a b : BitVec w) : step poly (a ^^^ b) = step poly a ^^^ step poly b :=
  feed_xor poly a b false false

@[simp] theorem step_zero (poly : BitVec w) : step poly 0#w = 0#w := by
  simp [step, feed, feedback]

@[simp] theorem iterate_step_zero (poly : BitVec w) (n : Nat) : (step poly)^[n] 0#w = 0#w :=
  Function.iterate_fixed (step_zero poly) n

theorem iterate_step_xor (poly : BitVec w) (n : Nat) (a b : BitVec w) :
    (step poly)^[n] (a ^^^ b) = (step poly)^[n] a ^^^ (step poly)^[n] b := by
  induction n generalizing a b with
  | zero => rfl
  | succ n ih => simp only [Function.iterate_succ_apply, step_xor, ih]

variable {bits : List Bool} {c poly : BitVec w} {n : Nat}

/-- The register without feedback, while the low bit is clear. -/
theorem step_of_clear (poly : BitVec w) (h : c.getLsbD 0 = false) :
    step poly c = c >>> 1 := by
  simp [step, feed, feedback, h]

/-! ## Words -/

/-- One bit as a word. -/
def bit (b : Bool) : BitVec w := if b then 1#w else 0#w

theorem getLsbD_bit (b : Bool) (i : Nat) :
    (bit b : BitVec w).getLsbD i = (decide (0 < w) && decide (i = 0) && b) := by
  cases b with
  | false => simp [bit]
  | true => simp [bit, BitVec.getLsbD_one]

/-- A bit of the input may be added to the register first. -/
theorem feed_eq_step (hw : 0 < w) (poly c : BitVec w) (b : Bool) :
    feed poly c b = step poly (c ^^^ bit b) := by
  have hshift : (bit b : BitVec w) >>> 1 = 0#w := by
    apply BitVec.eq_of_getLsbD_eq
    intro i _
    rw [BitVec.getLsbD_ushiftRight, getLsbD_bit]
    simp
  have hlow : (bit b : BitVec w).getLsbD 0 = b := by
    rw [getLsbD_bit]
    simp [hw]
  rw [step, feed, feed, BitVec.ushiftRight_xor_distrib, hshift, BitVec.xor_zero,
    BitVec.getLsbD_xor, hlow, Bool.xor_false]

/-- The first `w` bits as a word, least significant first. -/
def word (w : Nat) : List Bool → BitVec w
  | [] => 0#w
  | b :: bits => bit b ^^^ (word w bits <<< 1)

theorem getLsbD_word (bits : List Bool) (i : Nat) :
    (word w bits).getLsbD i = (decide (i < w) && bits.getD i false) := by
  induction bits generalizing i with
  | nil => simp [word]
  | cons b bits ih =>
    rw [word, BitVec.getLsbD_xor, getLsbD_bit, BitVec.getLsbD_shiftLeft, ih]
    cases i with
    | zero => simp
    | succ i =>
      by_cases hi : i + 1 < w
      · have hlt : i < w := by omega
        simp [hi, hlt]
      · simp [hi]

theorem word_eq_zero (hlen : bits.length ≤ w) (h : word w bits = 0#w) :
    ∀ b ∈ bits, b = false := by
  intro b hb
  obtain ⟨i, hi, rfl⟩ := List.getElem_of_mem hb
  have hbit := getLsbD_word (w := w) bits i
  rw [h, List.getD_eq_getElem _ _ hi] at hbit
  simpa [Nat.lt_of_lt_of_le hi hlen] using hbit.symm

/-- A word without top bit is what is left when its double moves down. -/
theorem step_shiftLeft (poly : BitVec w) {v : BitVec w} (hv : v.getLsbD (w - 1) = false) :
    step poly (v <<< 1) = v := by
  have hlow : (v <<< 1).getLsbD 0 = false := by simp [BitVec.getLsbD_shiftLeft]
  rw [step_of_clear poly hlow]
  apply BitVec.eq_of_getLsbD_eq
  intro i hi
  rw [BitVec.getLsbD_ushiftRight, BitVec.getLsbD_shiftLeft]
  by_cases htop : i = w - 1
  · rw [htop, hv]
    have hge : ¬ 1 + (w - 1) < w := by omega
    simp [hge]
  · have hlt : 1 + i < w := by omega
    simp [hlt]

/-- **A word at a time**: up to `w` bits of the input are added to the register first, and then
it moves down by as many places. -/
theorem feedAll_eq_iterate (poly c : BitVec w) (hlen : bits.length ≤ w) :
    feedAll poly c bits = (step poly)^[bits.length] (c ^^^ word w bits) := by
  induction bits generalizing c with
  | nil => simp [feedAll, word]
  | cons b bits ih =>
    rw [List.length_cons] at hlen
    -- the later bits wait one place higher up
    have hlater : step poly (word w bits <<< 1) = word w bits := by
      apply step_shiftLeft
      rw [getLsbD_word, List.getD_eq_default _ _ (by omega), Bool.and_false]
    have hfirst : feedAll poly c (b :: bits) = feedAll poly (feed poly c b) bits := rfl
    rw [hfirst, ih _ (by omega), feed_eq_step (by omega), List.length_cons,
      Function.iterate_succ_apply, word, ← BitVec.xor_assoc, step_xor poly (c ^^^ bit b), hlater]

/-! ## Linearity -/

/-- The register after a disturbed input is the one after the input, disturbed by what the
disturbance alone would leave. -/
theorem feedAll_xor (poly c d : BitVec w) {errors : List Bool}
    (hlen : errors.length = bits.length) :
    feedAll poly (c ^^^ d) (List.zipWith xor bits errors)
      = feedAll poly c bits ^^^ feedAll poly d errors := by
  induction bits generalizing c d errors with
  | nil =>
    rw [List.length_nil, List.length_eq_zero_iff] at hlen
    rw [hlen]
    rfl
  | cons b bits ih =>
    cases errors with
    | nil => cases hlen
    | cons e errors =>
      have hrest := ih (feed poly c b) (feed poly d e) (Nat.succ.inj hlen)
      rw [← feed_xor] at hrest
      exact hrest

theorem feedAll_append (poly c : BitVec w) (bits rest : List Bool) :
    feedAll poly c (bits ++ rest) = feedAll poly (feedAll poly c bits) rest :=
  List.foldl_append

theorem feedAll_replicate (poly c : BitVec w) (n : Nat) :
    feedAll poly c (List.replicate n false) = (step poly)^[n] c := by
  induction n generalizing c with
  | zero => rfl
  | succ n ih =>
    rw [List.replicate_succ, Function.iterate_succ_apply]
    exact ih (step poly c)

/-! ## Tables -/

/-- A word whose low `n` bits are clear only moves down. -/
theorem iterate_step_of_clear (poly : BitVec w) {y : BitVec w} (hy : ∀ i < n, y.getLsbD i = false) :
    (step poly)^[n] y = y >>> n := by
  induction n with
  | zero => simp
  | succ n ih =>
    have hlow : (y >>> n).getLsbD 0 = false := by
      rw [BitVec.getLsbD_ushiftRight, Nat.add_zero]
      exact hy n (Nat.lt_succ_self n)
    rw [Function.iterate_succ_apply', ih fun i hi => hy i (Nat.lt_succ_of_lt hi),
      step_of_clear poly hlow, BitVec.shiftRight_add]

/-- The low `n` bits of a word. -/
def low (n : Nat) (x : BitVec w) : BitVec w := x &&& BitVec.ofNat w (2 ^ n - 1)

theorem getLsbD_low (n : Nat) (x : BitVec w) (i : Nat) :
    (low n x).getLsbD i = (x.getLsbD i && decide (i < n)) := by
  rw [low, BitVec.getLsbD_and, BitVec.getLsbD_ofNat, Nat.testBit_two_pow_sub_one]
  by_cases hi : i < w
  · simp [hi]
  · simp [BitVec.getLsbD_of_ge x i (Nat.le_of_not_lt hi)]

/-- **By table**: `n` steps of a word are `n` steps of its low bits, with the others moved
down. -/
theorem iterate_step_split (poly : BitVec w) (n : Nat) (x : BitVec w) :
    (step poly)^[n] x = (step poly)^[n] (low n x) ^^^ (x >>> n) := by
  have hsplit : x = low n x ^^^ (low n x ^^^ x) := by
    rw [← BitVec.xor_assoc, BitVec.xor_self, BitVec.zero_xor]
  have hclear : ∀ i < n, (low n x ^^^ x).getLsbD i = false := by
    intro i hi
    rw [BitVec.getLsbD_xor, getLsbD_low]
    simp [hi]
  have hlow : low n x >>> n = 0#w := by
    apply BitVec.eq_of_getLsbD_eq
    intro i _
    rw [BitVec.getLsbD_ushiftRight, getLsbD_low]
    simp
  have hhigh : (low n x ^^^ x) >>> n = x >>> n := by
    rw [BitVec.ushiftRight_xor_distrib, hlow, BitVec.zero_xor]
  calc (step poly)^[n] x
      = (step poly)^[n] (low n x) ^^^ (step poly)^[n] (low n x ^^^ x) := by
        rw [← iterate_step_xor, ← hsplit]
    _ = (step poly)^[n] (low n x) ^^^ (x >>> n) := by
        rw [iterate_step_of_clear poly hclear, hhigh]

/-! ## Bursts -/

/-- With the top bit in the polynomial a step loses nothing. -/
theorem step_eq_zero (hpoly : poly.msb = true) (h : step poly c = 0#w) :
    c = 0#w := by
  have hw : 0 < w := by
    cases w with
    | zero => simp [BitVec.of_length_zero] at hpoly
    | succ w => exact Nat.succ_pos w
  cases hlow : c.getLsbD 0 with
  | true =>
    -- the top bit of the polynomial is still there
    have htop := congrArg (·.getLsbD (w - 1)) h
    rw [BitVec.msb_eq_getLsbD_last] at hpoly
    simp only [step, feed, feedback, hlow, BitVec.getLsbD_xor, BitVec.getLsbD_ushiftRight,
      Bool.xor_false, if_true, hpoly] at htop
    rw [BitVec.getLsbD_of_ge c (1 + (w - 1)) (by omega)] at htop
    simp at htop
  | false =>
    rw [step_of_clear poly hlow] at h
    apply BitVec.eq_of_getLsbD_eq
    intro i _
    rw [BitVec.getLsbD_zero]
    cases i with
    | zero => exact hlow
    | succ i =>
      have hbit := congrArg (·.getLsbD i) h
      simp only [BitVec.getLsbD_ushiftRight, BitVec.getLsbD_zero] at hbit
      rw [Nat.add_comm i 1]
      exact hbit

theorem iterate_step_eq_zero (hpoly : poly.msb = true) (h : (step poly)^[n] c = 0#w) : c = 0#w := by
  induction n with
  | zero => exact h
  | succ n ih =>
    rw [Function.iterate_succ_apply'] at h
    exact ih (step_eq_zero hpoly h)

/-- Some bits are set, and they all lie in a window of `n` bits. -/
def Burst (n : Nat) (bits : List Bool) : Prop :=
  true ∈ bits ∧ ∃ start, ∀ i, bits[i]? = some true → start ≤ i ∧ i < start + n

/-- A burst is a short list of bits with nothing before and after it. -/
theorem Burst.split (h : Burst n bits) :
    ∃ before window after, bits = List.replicate before false ++ (window ++
        List.replicate after false) ∧ window.length ≤ n ∧ true ∈ window := by
  obtain ⟨hset, start, hwindow⟩ := h
  have hbefore : bits.take start = List.replicate (bits.take start).length false := by
    rw [List.eq_replicate_iff]
    refine ⟨rfl, fun b hb => ?_⟩
    obtain ⟨i, hi, rfl⟩ := List.getElem_of_mem hb
    rw [List.length_take] at hi
    rw [List.getElem_take, Bool.eq_false_iff]
    intro htrue
    have hin := hwindow i (List.getElem?_eq_some_iff.mpr ⟨by omega, htrue⟩)
    omega
  have hafter : bits.drop (start + n) = List.replicate (bits.drop (start + n)).length false := by
    rw [List.eq_replicate_iff]
    refine ⟨rfl, fun b hb => ?_⟩
    obtain ⟨i, hi, rfl⟩ := List.getElem_of_mem hb
    rw [List.length_drop] at hi
    rw [List.getElem_drop, Bool.eq_false_iff]
    intro htrue
    have hin := hwindow (start + n + i) (List.getElem?_eq_some_iff.mpr ⟨by omega, htrue⟩)
    omega
  have hsplit : bits = bits.take start ++ ((bits.drop start).take n ++ bits.drop (start + n)) := by
    rw [← List.drop_drop, List.take_append_drop, List.take_append_drop]
  refine ⟨(bits.take start).length, (bits.drop start).take n, (bits.drop (start + n)).length, ?_,
    List.length_take_le .., ?_⟩
  · rw [← hbefore, ← hafter]
    exact hsplit
  · rw [hsplit, hbefore, hafter] at hset
    simpa using hset

/-- **A burst leaves a trace**: it cannot be longer than the register. -/
theorem feedAll_burst (hpoly : poly.msb = true) {errors : List Bool} (h : Burst w errors) :
    feedAll poly 0#w errors ≠ 0#w := by
  obtain ⟨before, window, after, rfl, hlen, hset⟩ := h.split
  rw [feedAll_append, feedAll_replicate, iterate_step_zero, feedAll_append, feedAll_replicate,
    feedAll_eq_iterate poly _ hlen, BitVec.zero_xor]
  intro hzero
  have hword := iterate_step_eq_zero hpoly (iterate_step_eq_zero hpoly hzero)
  exact Bool.noConfusion (word_eq_zero hlen hword true hset)

end ShiftRegister
