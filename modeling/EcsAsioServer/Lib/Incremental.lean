import Mathlib.Data.List.Basic
import Mathlib.Tactic

/-!
# Incremental decoding

A stream arrives in pieces of arbitrary size; after each piece a decoder takes
as many items off the front of the unread input as it can. The decoder is given
by a single *attempt* on the unread input, which either asks for more input,
gives the whole input up, or takes one item of a known length.

- `drain` repeats the attempt until no further item comes out, and `feed` appends one
  piece after another, draining after each;
- `feed_eq_drain`: on a stream that never makes the decoder give up, the pieces do not
  matter;
- `feed_encoded`: if the decoder recognises the encoding of a value as soon as it is
  complete, the pieces of a concatenation of encodings give back the encoded values;
- `agreed_iff`: on which streams all cuttings into pieces of bounded size yield
  the same, if the decoder may give up.
-/

namespace Incremental

universe u v w

variable {α : Type u} {β : Type v} {γ : Type w}

/-- The outcome of one decoding attempt on the unread input. -/
inductive Attempt (β : Type v) where
  /-- The input is too short to decide. -/
  | wait
  /-- The input is malformed and is discarded as a whole. -/
  | giveUp
  /-- The first `n` elements encode `b`. -/
  | item (b : β) (n : Nat)

/-- A decoder: an attempt that consumes at least one element of the input per
item, and whose items do not depend on what follows them. -/
structure Decoder (α : Type u) (β : Type v) where
  attempt : List α → Attempt β
  item_pos : ∀ {s b n}, attempt s = .item b n → 0 < n
  item_le : ∀ {s b n}, attempt s = .item b n → n ≤ s.length
  item_append : ∀ {s b n}, attempt s = .item b n → ∀ t, attempt (s ++ t) = .item b n

namespace Decoder

variable (d : Decoder α β) {s : List α}

theorem drop_lt {d : Decoder α β} {b : β} {n : Nat} (h : d.attempt s = .item b n) :
    (s.drop n).length < s.length := by
  have hpos := d.item_pos h
  have hle := d.item_le h
  rw [List.length_drop]
  omega

/-- All items at the front of `s`, and the input left over: `none` when the
decoder gave the remaining input up. -/
def drain (s : List α) : List β × Option (List α) :=
  match _h : d.attempt s with
  | .wait => ([], some s)
  | .giveUp => ([], none)
  | .item b n =>
    let r := drain (s.drop n)
    (b :: r.1, r.2)
termination_by s.length
decreasing_by exact drop_lt _h

theorem drain_wait {d : Decoder α β} (h : d.attempt s = .wait) :
    d.drain s = ([], some s) := by
  unfold drain
  split <;> simp_all

theorem drain_giveUp {d : Decoder α β} (h : d.attempt s = .giveUp) :
    d.drain s = ([], none) := by
  unfold drain
  split <;> simp_all

theorem drain_item {d : Decoder α β} {b : β} {n : Nat} (h : d.attempt s = .item b n) :
    d.drain s = (b :: (d.drain (s.drop n)).1, (d.drain (s.drop n)).2) := by
  rw [drain]
  split <;> simp_all

/-- Draining a longer input drains the shorter one first and then goes on from
what the shorter one left over. -/
theorem drain_append {r : List α} (hr : (d.drain s).2 = some r) (t : List α) :
    d.drain (s ++ t) = ((d.drain s).1 ++ (d.drain (r ++ t)).1, (d.drain (r ++ t)).2) := by
  -- the induction of `drain`: wait, give up, or an item and the input behind it
  induction s using drain.induct d with
  | case1 s h =>
    rw [drain_wait h] at hr ⊢
    obtain rfl : s = r := by simpa using hr
    simp
  | case2 s h =>
    rw [drain_giveUp h] at hr
    cases hr
  | case3 s b n h ih =>
    rw [drain_item h] at hr ⊢
    rw [drain_item (d.item_append h t), List.drop_append_of_le_length (d.item_le h), ih hr]
    rfl

/-- What a drain leaves over has no item at its front. -/
theorem attempt_of_drain {r : List α} (hr : (d.drain s).2 = some r) : d.attempt r = .wait := by
  induction s using drain.induct d with
  | case1 s h =>
    rw [drain_wait h] at hr
    obtain rfl : s = r := by simpa using hr
    exact h
  | case2 s h =>
    rw [drain_giveUp h] at hr
    cases hr
  | case3 s b n h ih =>
    rw [drain_item h] at hr
    exact ih hr

/-- The unread input after a drain: a given-up input leaves nothing. -/
def unread (r : List β × Option (List α)) : List α := r.2.getD []

/-- Feed the pieces one after another to a decoder with unread input `s`: the
items in order, and the unread input at the end. -/
def feed (s : List α) : List (List α) → List β × List α
  | [] => ([], s)
  | c :: cs =>
    let r := d.drain (s ++ c)
    let f := feed (unread r) cs
    (r.1 ++ f.1, f.2)

theorem feed_append (s : List α) (cs cs' : List (List α)) :
    d.feed s (cs ++ cs')
      = ((d.feed s cs).1 ++ (d.feed (d.feed s cs).2 cs').1,
         (d.feed (d.feed s cs).2 cs').2) := by
  induction cs generalizing s with
  | nil => rfl
  | cons c cs ih =>
    simp only [List.cons_append, feed, ih, List.append_assoc]

/-- Wherever the decoder starts in `s`, an item that it finds satisfies `P`. -/
def Yields (P : β → Prop) (s : List α) : Prop := ∀ t, t <:+ s → ∀ b n, d.attempt t = .item b n → P b

theorem drain_yields {P : β → Prop} {t : List α} (h : d.Yields P (s ++ t)) :
    (∀ b ∈ (d.drain s).1, P b) ∧ d.Yields P (unread (d.drain s) ++ t) := by
  induction s using drain.induct d with
  | case1 s ha =>
    rw [drain_wait ha]
    exact ⟨List.forall_mem_nil _, h⟩
  | case2 s ha =>
    rw [drain_giveUp ha]
    exact ⟨List.forall_mem_nil _, fun u hu => h u (hu.trans (List.suffix_append s t))⟩
  | case3 s b n ha ih =>
    have hrest : s.drop n ++ t <:+ s ++ t := by
      rw [← List.drop_append_of_le_length (d.item_le ha)]
      exact List.drop_suffix n _
    obtain ⟨hitems, hleft⟩ := ih fun u hu => h u (hu.trans hrest)
    rw [drain_item ha]
    exact ⟨List.forall_mem_cons.mpr ⟨h _ List.suffix_rfl b n (d.item_append ha t), hitems⟩, hleft⟩

/-- All that comes out of `s` satisfies `P`, however it is cut. -/
theorem feed_yields {P : β → Prop} {cs : List (List α)} (h : d.Yields P (s ++ cs.flatten)) :
    ∀ b ∈ (d.feed s cs).1, P b := by
  induction cs generalizing s with
  | nil => exact List.forall_mem_nil _
  | cons c cs ih =>
    rw [List.flatten_cons, ← List.append_assoc] at h
    obtain ⟨hitems, hrest⟩ := d.drain_yields h
    exact List.forall_mem_append.mpr ⟨hitems, ih hrest⟩

/-- A stream on which the decoder never gives up, wherever it is cut. -/
def Clean (s : List α) : Prop :=
  ∀ p, p <+: s → (d.drain p).2 ≠ none

theorem Clean.mono {d : Decoder α β} {p : List α} (h : d.Clean s) (hp : p <+: s) :
    d.Clean p :=
  fun q hq => h q (hq.trans hp)

/-- **Cutting does not matter**: on a clean stream the pieces yield what the
whole stream yields. -/
theorem feed_eq_drain (cs : List (List α)) (h : d.Clean cs.flatten) :
    d.feed [] cs = ((d.drain cs.flatten).1, unread (d.drain cs.flatten)) := by
  -- pieces are added at the end: the earlier ones have been drained as a whole
  induction cs using List.reverseRecOn with
  | nil =>
    cases h0 : d.attempt [] with
    | wait => simp [feed, drain_wait h0, unread]
    | giveUp => simp [feed, drain_giveUp h0, unread]
    | item b n =>
      have hpos := d.item_pos h0
      have hle := d.item_le h0
      simp only [List.length_nil] at hle
      omega
  | append_singleton cs c ih =>
    rw [List.flatten_append, List.flatten_singleton] at h ⊢
    have hpre : cs.flatten <+: cs.flatten ++ c := List.prefix_append _ _
    obtain ⟨r, hr⟩ := Option.ne_none_iff_exists'.mp (h _ hpre)
    rw [feed_append, ih (h.mono hpre), d.drain_append hr]
    simp only [feed, unread, hr, Option.getD_some, List.append_nil]

/-! ## Self-delimiting encodings -/

/-- The decoder recognises `encode g` as `value g` once it is complete, whatever
follows, and waits on every proper beginning of it. -/
structure Recognises (encode : γ → List α) (value : γ → β) : Prop where
  complete : ∀ g t, d.attempt (encode g ++ t) = .item (value g) (encode g).length
  incomplete : ∀ g p t, p ++ t = encode g → t ≠ [] → d.attempt p = .wait

variable {d} {encode : γ → List α} {value : γ → β}

/-- A beginning of a concatenation of encodings is drained into whole values
and a beginning of the next encoding. -/
theorem Recognises.clean (h : d.Recognises encode value) (gs : List γ)
    (hnil : d.attempt [] = .wait) : d.Clean (gs.flatMap encode) := by
  induction gs with
  | nil =>
    intro p hp
    obtain rfl := List.prefix_nil.mp hp
    simp [drain_wait hnil]
  | cons g gs ih =>
    intro p hp
    rw [List.flatMap_cons] at hp
    obtain ⟨u, hu⟩ := hp
    rcases List.append_eq_append_iff.mp hu with ⟨t, ht, -⟩ | ⟨q, rfl, hq⟩
    · -- `p` ends inside the first encoding, or at its end
      by_cases hne : t = []
      · rw [hne, List.append_nil] at ht
        have hc := h.complete g []
        rw [List.append_nil, ht] at hc
        rw [drain_item hc, List.drop_length, drain_wait hnil]
        simp
      · rw [drain_wait (h.incomplete g p t ht.symm hne)]
        simp
    · rw [drain_item (h.complete g q), List.drop_left]
      exact ih q ⟨u, hq.symm⟩

theorem Recognises.drain_flatMap (h : d.Recognises encode value) (gs : List γ)
    (hnil : d.attempt [] = .wait) :
    d.drain (gs.flatMap encode) = (gs.map value, some []) := by
  induction gs with
  | nil => exact drain_wait hnil
  | cons g gs ih =>
    rw [List.flatMap_cons, drain_item (h.complete g _), List.drop_left, ih]
    rfl

/-- **Exactly the encoded values come out**, in order and each once, for every
way of cutting the concatenation of their encodings into pieces. -/
theorem Recognises.feed_encoded (h : d.Recognises encode value) {gs : List γ}
    {cs : List (List α)} (hnil : d.attempt [] = .wait)
    (hcut : cs.flatten = gs.flatMap encode) :
    d.feed [] cs = (gs.map value, []) := by
  have hclean : d.Clean cs.flatten := hcut ▸ h.clean gs hnil
  rw [d.feed_eq_drain cs hclean, hcut, h.drain_flatMap gs hnil]
  rfl

/-! ## Streams that may be given up -/

section Cuttings

variable (d) (N : Nat) {δ : Type w} (obs : List β → List δ)

/-- Once the decoder gives up, more input does not change its mind. -/
def Stubborn : Prop := ∀ {s}, d.attempt s = .giveUp → ∀ t, d.attempt (s ++ t) = .giveUp

/-- A way of cutting `s` into non-empty pieces of at most `N` elements. -/
structure Cutting (s : List α) (cs : List (List α)) : Prop where
  flatten : cs.flatten = s
  nonempty : ∀ c ∈ cs, c ≠ []
  le : ∀ c ∈ cs, c.length ≤ N

/-- The decoder gives up on `s`. -/
def GivesUp (s : List α) : Prop := (d.drain s).2 = none

/-- A piece that ends at `e` may be the one on which the decoder gives up. -/
def Resumes (s : List α) (e : Nat) : Prop :=
  e ≤ s.length ∧ d.GivesUp (s.take e) ∧ ∃ b < e, e ≤ b + N ∧ ¬ d.GivesUp (s.take b)

/-- Every cutting of `s` yields `out`, seen through `obs`: either the decoder does not
give up, or wherever it may resume after giving up the rest yields the same. -/
inductive Agreed : List α → List δ → Prop
  | clean {s : List α} (h : ¬ d.GivesUp s) : Agreed s (obs (d.drain s).1)
  | resumed {s : List α} {out : List δ} (h : d.GivesUp s)
      (hrest : ∀ e, d.Resumes N s e → Agreed (s.drop e) out) :
      Agreed s (obs (d.drain s).1 ++ out)

variable {d} {N} {obs}

/-- A given-up input stays given up, with the same items. -/
theorem drain_append_givesUp (hd : d.Stubborn) {s : List α} (h : d.GivesUp s) (t : List α) :
    d.drain (s ++ t) = d.drain s := by
  rw [GivesUp] at h
  induction s using drain.induct d with
  | case1 s ha =>
    rw [drain_wait ha] at h
    cases h
  | case2 s ha => rw [drain_giveUp ha, drain_giveUp (hd ha t)]
  | case3 s b n ha ih =>
    rw [drain_item ha] at h
    rw [drain_item ha, drain_item (d.item_append ha t),
      List.drop_append_of_le_length (d.item_le ha), ih h]

theorem GivesUp.append (hd : d.Stubborn) {s : List α} (h : d.GivesUp s) (t : List α) :
    d.GivesUp (s ++ t) := by
  rw [GivesUp, drain_append_givesUp hd h]
  exact h

theorem clean_of_not_givesUp (hd : d.Stubborn) {s : List α} (h : ¬ d.GivesUp s) : d.Clean s := by
  rintro p ⟨t, rfl⟩ hp
  exact h (GivesUp.append hd hp t)

/-- What comes out when the piece `c` makes the decoder give up: the items of the
whole input, and then what the later pieces yield on their own. -/
theorem feed_givesUp (hd : d.Stubborn) {pre post : List (List α)} {c : List α}
    (hpre : ¬ d.GivesUp pre.flatten) (hc : d.GivesUp (pre.flatten ++ c)) :
    (d.feed [] (pre ++ c :: post)).1
      = (d.drain (pre.flatten ++ c ++ post.flatten)).1 ++ (d.feed [] post).1 := by
  obtain ⟨r, hr⟩ := Option.ne_none_iff_exists'.mp hpre
  have hstep := d.drain_append hr c
  have hup : (d.drain (r ++ c)).2 = none := by
    rw [GivesUp, hstep] at hc
    exact hc
  rw [drain_append_givesUp hd hc, feed_append, d.feed_eq_drain pre (clean_of_not_givesUp hd hpre),
    hstep]
  simp only [feed, unread, hr, hup, Option.getD_some, Option.getD_none, List.append_assoc]

/-- In every cutting of a given-up input one piece makes the decoder give up. -/
theorem exists_givesUp_piece (hnil : d.attempt [] = .wait) {cs : List (List α)}
    (h : d.GivesUp cs.flatten) :
    ∃ pre c post, cs = pre ++ c :: post ∧ ¬ d.GivesUp pre.flatten ∧
      d.GivesUp (pre.flatten ++ c) := by
  induction cs using List.reverseRecOn with
  | nil =>
    rw [List.flatten_nil, GivesUp, drain_wait hnil] at h
    cases h
  | append_singleton cs c ih =>
    rw [List.flatten_append, List.flatten_singleton] at h
    by_cases hcs : d.GivesUp cs.flatten
    · obtain ⟨pre, c', post, rfl, hpre, hc'⟩ := ih hcs
      exact ⟨pre, c', post ++ [c], by simp, hpre, hc'⟩
    · exact ⟨cs, c, [], rfl, hcs, h⟩

/-- The finest cutting. -/
theorem cutting_singletons (hN : 0 < N) (s : List α) : Cutting N s (s.map fun a => [a]) := by
  refine ⟨?_, ?_, ?_⟩
  · induction s with
    | nil => rfl
    | cons a s ih => rw [List.map_cons, List.flatten_cons, ih, List.singleton_append]
  · simp
  · simp only [List.mem_map, forall_exists_index, and_imp, forall_apply_eq_imp_iff₂,
      List.length_singleton]
    exact fun _ _ => hN

/-- The end of the piece that makes the decoder give up is a place to resume. -/
theorem Cutting.resumes {s : List α} {pre post : List (List α)} {c : List α}
    (h : Cutting N s (pre ++ c :: post)) (hpre : ¬ d.GivesUp pre.flatten)
    (hc : d.GivesUp (pre.flatten ++ c)) :
    d.Resumes N s (pre.flatten ++ c).length ∧
      Cutting N (s.drop (pre.flatten ++ c).length) post := by
  have hs : s = pre.flatten ++ c ++ post.flatten := by
    rw [← h.flatten, List.flatten_append, List.flatten_cons, List.append_assoc]
  have hmem : c ∈ pre ++ c :: post := List.mem_append_right _ List.mem_cons_self
  have hpos : 0 < c.length := List.length_pos_iff.mpr (h.nonempty c hmem)
  have hle := h.le c hmem
  constructor
  · refine ⟨?_, ?_, pre.flatten.length, ?_, ?_, ?_⟩
    · rw [hs]
      exact (List.prefix_append _ _).length_le
    · rw [hs, List.take_left]
      exact hc
    · rw [List.length_append]
      omega
    · rw [List.length_append]
      omega
    · rw [hs, List.append_assoc, List.take_left]
      exact hpre
  · refine ⟨?_, ?_, ?_⟩
    · rw [hs, List.drop_left]
    · exact fun c' hc' => h.nonempty c' (List.mem_append_right _ (List.mem_cons_of_mem c hc'))
    · exact fun c' hc' => h.le c' (List.mem_append_right _ (List.mem_cons_of_mem c hc'))

/-- Every place to resume is the end of such a piece, with any cutting of the rest. -/
theorem Resumes.cutting (hN : 0 < N) {s : List α} {e : Nat} (h : d.Resumes N s e)
    {post : List (List α)} (hpost : Cutting N (s.drop e) post) :
    ∃ pre c, Cutting N s (pre ++ c :: post) ∧ ¬ d.GivesUp pre.flatten ∧
      d.GivesUp (pre.flatten ++ c) := by
  obtain ⟨hle, hup, b, hb, hbN, hnot⟩ := h
  have hsingle := cutting_singletons hN (s.take b)
  have hpiece : s.take b ++ (s.take e).drop b = s.take e := by
    have htake : s.take b = (s.take e).take b := by
      rw [List.take_take, Nat.min_eq_left hb.le]
    rw [htake, List.take_append_drop]
  have hlen : ((s.take e).drop b).length = e - b := by
    rw [List.length_drop, List.length_take, Nat.min_eq_left hle]
  refine ⟨(s.take b).map fun a => [a], (s.take e).drop b, ⟨?_, ?_, ?_⟩, ?_, ?_⟩
  · rw [List.flatten_append, List.flatten_cons, hsingle.flatten, hpost.flatten,
      ← List.append_assoc, hpiece, List.take_append_drop]
  · simp only [List.mem_append, List.mem_cons]
    rintro c (hc | rfl | hc)
    · exact hsingle.nonempty c hc
    · intro hnil
      rw [hnil, List.length_nil] at hlen
      omega
    · exact hpost.nonempty c hc
  · simp only [List.mem_append, List.mem_cons]
    rintro c (hc | rfl | hc)
    · exact hsingle.le c hc
    · omega
    · exact hpost.le c hc
  · rw [hsingle.flatten]
    exact hnot
  · rw [hsingle.flatten, hpiece]
    exact hup

/-- What a cutting yields whose piece `c` makes the decoder give up. -/
theorem Cutting.feed_givesUp (hd : d.Stubborn)
    (hobs : ∀ xs ys, obs (xs ++ ys) = obs xs ++ obs ys) {s : List α}
    {pre post : List (List α)} {c : List α} (h : Cutting N s (pre ++ c :: post))
    (hpre : ¬ d.GivesUp pre.flatten) (hc : d.GivesUp (pre.flatten ++ c)) :
    obs (d.feed [] (pre ++ c :: post)).1
      = obs (d.drain s).1 ++ obs (d.feed [] post).1 := by
  rw [Decoder.feed_givesUp hd hpre hc, hobs, ← h.flatten, List.flatten_append,
    List.flatten_cons, List.append_assoc]

/-- **What agreement means.** Every cutting of `s` yields `out` exactly if `s` is agreed
to yield `out`. -/
theorem agreed_iff (hd : d.Stubborn) (hnil : d.attempt [] = .wait) (hN : 0 < N)
    (hobs : ∀ xs ys, obs (xs ++ ys) = obs xs ++ obs ys) (s : List α) (out : List δ) :
    (∀ cs, Cutting N s cs → obs (d.feed [] cs).1 = out) ↔ Agreed d N obs s out := by
  constructor
  · intro h
    -- strong induction on the input: a place to resume is behind its start
    induction hn : s.length using Nat.strong_induction_on generalizing s out with
    | _ n ih =>
      subst hn
      have hsingle := cutting_singletons hN s
      by_cases hs : d.GivesUp s
      · rw [← hsingle.flatten] at hs
        obtain ⟨pre, c, post, heq, hpre, hc⟩ := exists_givesUp_piece hnil hs
        rw [hsingle.flatten] at hs
        rw [heq] at hsingle
        have hout := (h _ hsingle).symm
        rw [hsingle.feed_givesUp hd hobs hpre hc] at hout
        rw [hout]
        refine .resumed hs fun e he => ih _ ?_ _ _ ?_ rfl
        · obtain ⟨hle, -, b, hb, -⟩ := he
          rw [List.length_drop]
          omega
        · intro cs hcs
          obtain ⟨pre', c', hcut, hpre', hc'⟩ := he.cutting hN hcs
          have hout' := h _ hcut
          rw [hcut.feed_givesUp hd hobs hpre' hc', hout] at hout'
          exact List.append_cancel_left hout'
      · have hout := h _ hsingle
        rw [d.feed_eq_drain _ (by rw [hsingle.flatten]; exact clean_of_not_givesUp hd hs),
          hsingle.flatten] at hout
        rw [← hout]
        exact .clean hs
  · intro h
    induction h with
    | clean hs =>
      intro cs hcs
      rw [d.feed_eq_drain cs (by rw [hcs.flatten]; exact clean_of_not_givesUp hd hs), hcs.flatten]
    | resumed hs hrest ih =>
      intro cs hcs
      rw [← hcs.flatten] at hs
      obtain ⟨pre, c, post, rfl, hpre, hc⟩ := exists_givesUp_piece hnil hs
      obtain ⟨hres, hpost⟩ := hcs.resumes hpre hc
      rw [hcs.feed_givesUp hd hobs hpre hc, ih _ hres post hpost]

end Cuttings

end Decoder

end Incremental
