import Mathlib.Data.List.Basic
import Mathlib.Logic.Function.Basic
import Mathlib.Tactic

/-!
# Queues with consumers of their own

Items are sent into lanes, and each lane is emptied from its front by a consumer of its
own. Nothing coordinates the consumers. `sent` and `taken` are the histories; an item is
told apart from equal ones by the number of items sent before it.

Items have keys, and those of one key should be taken in the order in which they were
sent, each once (`Delivered`). Within one lane this is so. `InLine` says that all items of
a key that are still waiting are in one lane:

- `inLine_take`: taking keeps it;
- `inLine_send_iff`: sending keeps it exactly if no other lane holds an item of the key;
- `safe_iff`: it is what it takes. If two lanes hold items of one key, some schedule of the
  consumers takes them in the wrong order.
-/

namespace Lanes

variable {L α κ : Type*}

/-- The lanes, with the history of what was sent and taken. -/
structure State (L α : Type*) where
  queue : L → List (α × Nat)
  sent : List (α × Nat)
  taken : List (α × Nat)

/-- Nothing has been sent. -/
def State.empty : State L α := ⟨fun _ => [], [], []⟩

/-- The items of a key. -/
def ofKey [DecidableEq κ] (key : α → κ) (k : κ) (items : List (α × Nat)) : List (α × Nat) :=
  items.filter fun x => key x.1 = k

section OfKey

variable [DecidableEq κ] {key : α → κ} {k : κ}

@[simp] theorem ofKey_nil : ofKey key k [] = [] := rfl

@[simp] theorem ofKey_append (xs ys : List (α × Nat)) :
    ofKey key k (xs ++ ys) = ofKey key k xs ++ ofKey key k ys :=
  List.filter_append ..

variable {x : α × Nat}

theorem ofKey_cons_self (h : key x.1 = k) (xs : List (α × Nat)) :
    ofKey key k (x :: xs) = x :: ofKey key k xs := by
  simp [ofKey, h]

theorem ofKey_cons_ne (h : key x.1 ≠ k) (xs : List (α × Nat)) :
    ofKey key k (x :: xs) = ofKey key k xs := by
  simp [ofKey, h]

theorem mem_ofKey {xs : List (α × Nat)} :
    x ∈ ofKey key k xs ↔ x ∈ xs ∧ key x.1 = k := by
  simp [ofKey]

theorem ofKey_eq_nil {xs : List (α × Nat)} : ofKey key k xs = [] ↔ ∀ x ∈ xs, key x.1 ≠ k := by
  simp [ofKey, List.filter_eq_nil_iff]

end OfKey

namespace State

variable [DecidableEq L]

/-- Sending an item into a lane, or nowhere. -/
def send (S : State L α) (lane : Option L) (a : α) : State L α :=
  let x := (a, S.sent.length)
  { S with
    queue := lane.elim S.queue fun l => Function.update S.queue l (S.queue l ++ [x])
    sent := S.sent ++ [x] }

/-- The consumer of a lane takes the first item. -/
def take (S : State L α) (l : L) : State L α :=
  match S.queue l with
  | [] => S
  | x :: rest =>
    { S with queue := Function.update S.queue l rest, taken := S.taken ++ [x] }

/-- The consumers take items in some order. -/
def takeAll (S : State L α) (lanes : List L) : State L α := lanes.foldl take S

variable {S : State L α} {l : L} {rest : List (α × Nat)} {k : κ} {x : α × Nat}

theorem take_nil (h : S.queue l = []) : S.take l = S := by
  simp [take, h]

theorem take_cons (h : S.queue l = x :: rest) :
    S.take l = { S with queue := Function.update S.queue l rest, taken := S.taken ++ [x] } := by
  simp [take, h]

theorem queue_take_self (h : S.queue l = x :: rest) : (S.take l).queue l = rest := by
  rw [take_cons h]
  exact Function.update_self ..

theorem queue_take_ne (S : State L α) {l' : L} (h : l' ≠ l) :
    (S.take l).queue l' = S.queue l' := by
  cases hq : S.queue l with
  | nil => rw [take_nil hq]
  | cons x rest =>
    rw [take_cons hq]
    exact Function.update_of_ne h ..

theorem queue_take (S : State L α) (l : L) : (S.take l).queue l = (S.queue l).tail := by
  cases hq : S.queue l with
  | nil => rw [take_nil hq, hq, List.tail_nil]
  | cons x rest => rw [queue_take_self hq, List.tail_cons]

theorem taken_take (h : S.queue l = x :: rest) : (S.take l).taken = S.taken ++ [x] := by
  rw [take_cons h]

@[simp] theorem sent_take (S : State L α) (l : L) : (S.take l).sent = S.sent := by
  cases h : S.queue l with
  | nil => rw [take_nil h]
  | cons x rest => rw [take_cons h]

@[simp] theorem sent_takeAll (S : State L α) (lanes : List L) :
    (S.takeAll lanes).sent = S.sent := by
  induction lanes generalizing S with
  | nil => rfl
  | cons l lanes ih => exact (ih (S.take l)).trans (S.sent_take l)

theorem queue_send_self (S : State L α) (l : L) (a : α) :
    (S.send (some l) a).queue l = S.queue l ++ [(a, S.sent.length)] :=
  Function.update_self ..

theorem queue_send_ne (S : State L α) {lane : Option L} (h : lane ≠ some l) (a : α) :
    (S.send lane a).queue l = S.queue l := by
  cases lane with
  | none => rfl
  | some l₀ => exact Function.update_of_ne (fun heq => h (congrArg some heq.symm)) ..

theorem sent_send (S : State L α) (lane : Option L) (a : α) :
    (S.send lane a).sent = S.sent ++ [(a, S.sent.length)] := rfl

theorem taken_send (S : State L α) (lane : Option L) (a : α) :
    (S.send lane a).taken = S.taken := rfl

/-- One consumer alone takes its lane from the front. -/
theorem taken_takeAll_replicate {xs : List (α × Nat)} (h : S.queue l = xs ++ rest) :
    (S.takeAll (List.replicate xs.length l)).taken = S.taken ++ xs := by
  induction xs generalizing S with
  | nil => exact (List.append_nil S.taken).symm
  | cons x xs ih =>
    show ((S.take l).takeAll (List.replicate xs.length l)).taken = S.taken ++ x :: xs
    rw [ih (queue_take_self h), taken_take h, List.append_assoc, List.singleton_append]

/-! ## Each item is in one place -/

/-- Every waiting item has been sent, has not been taken and is in one lane. -/
structure WellFormed (S : State L α) : Prop where
  serial : ∀ x ∈ S.sent, x.2 < S.sent.length
  nodup : S.sent.Nodup
  lane_nodup : ∀ l, (S.queue l).Nodup
  waiting : ∀ l, ∀ x ∈ S.queue l, x ∈ S.sent ∧ x ∉ S.taken
  lane : ∀ l l' x, x ∈ S.queue l → x ∈ S.queue l' → l = l'
  taken : ∀ x ∈ S.taken, x ∈ S.sent

omit [DecidableEq L] in
theorem wellFormed_empty : (empty : State L α).WellFormed := by
  constructor <;> simp [empty]

/-- The item that is taken leaves its lane. -/
theorem WellFormed.take (h : S.WellFormed) (l : L) : (S.take l).WellFormed := by
  cases hq : S.queue l with
  | nil =>
    rw [take_nil hq]
    exact h
  | cons x rest =>
    have hnodup := h.lane_nodup l
    rw [hq, List.nodup_cons] at hnodup
    have hx : x ∈ S.queue l := by
      rw [hq]
      exact .head _
    -- a lane holds what it held before, and `x` is gone
    have hsub : ∀ l' y, y ∈ (S.take l).queue l' → y ∈ S.queue l' ∧ y ≠ x := by
      intro l' y hy
      by_cases hl : l' = l
      · subst hl
        rw [queue_take_self hq] at hy
        refine ⟨hq ▸ List.mem_cons_of_mem x hy, ?_⟩
        rintro rfl
        exact hnodup.1 hy
      · rw [S.queue_take_ne hl] at hy
        refine ⟨hy, ?_⟩
        rintro rfl
        exact hl (h.lane l' l y hy hx)
    constructor
    · rw [sent_take]
      exact h.serial
    · rw [sent_take]
      exact h.nodup
    · intro l'
      by_cases hl : l' = l
      · subst hl
        rw [queue_take_self hq]
        exact hnodup.2
      · rw [S.queue_take_ne hl]
        exact h.lane_nodup l'
    · intro l' y hy
      obtain ⟨hold, hne⟩ := hsub l' y hy
      obtain ⟨hsent, htaken⟩ := h.waiting l' y hold
      rw [sent_take, taken_take hq]
      exact ⟨hsent, by simp [htaken, hne]⟩
    · intro l₁ l₂ y h₁ h₂
      exact h.lane l₁ l₂ y (hsub l₁ y h₁).1 (hsub l₂ y h₂).1
    · intro y hy
      rw [taken_take hq] at hy
      rw [sent_take]
      rcases List.mem_append.mp hy with hold | hnew
      · exact h.taken y hold
      · rw [List.mem_singleton.mp hnew]
        exact (h.waiting l x hx).1

/-- The new item is in its lane only. -/
theorem WellFormed.send (h : S.WellFormed) (lane : Option L) (a : α) :
    (S.send lane a).WellFormed := by
  have hnew : (a, S.sent.length) ∉ S.sent := fun hmem => Nat.lt_irrefl _ (h.serial _ hmem)
  -- a lane holds what it held before, and the new item if it is the one
  have hqueue : ∀ l x, x ∈ (S.send lane a).queue l →
      x ∈ S.queue l ∨ lane = some l ∧ x = (a, S.sent.length) := by
    intro l x hx
    by_cases hl : lane = some l
    · subst hl
      rw [queue_send_self, List.mem_append, List.mem_singleton] at hx
      exact hx.imp_right fun heq => ⟨rfl, heq⟩
    · rw [S.queue_send_ne hl] at hx
      exact .inl hx
  constructor
  · intro x hx
    rw [sent_send, List.length_append]
    rcases List.mem_append.mp hx with hold | hlast
    · exact Nat.lt_succ_of_lt (h.serial x hold)
    · rw [List.mem_singleton.mp hlast]
      exact Nat.lt_succ_self _
  · exact h.nodup.append (List.nodup_singleton _) (List.disjoint_singleton.mpr hnew)
  · intro l
    by_cases hl : lane = some l
    · subst hl
      rw [queue_send_self]
      refine (h.lane_nodup l).append (List.nodup_singleton _) (List.disjoint_singleton.mpr ?_)
      exact fun hmem => hnew (h.waiting l _ hmem).1
    · rw [S.queue_send_ne hl]
      exact h.lane_nodup l
  · intro l x hx
    rw [sent_send, taken_send]
    rcases hqueue l x hx with hold | ⟨-, rfl⟩
    · obtain ⟨hsent, htaken⟩ := h.waiting l x hold
      exact ⟨List.mem_append_left _ hsent, htaken⟩
    · exact ⟨List.mem_append_right _ (.head _), fun htaken => hnew (h.taken _ htaken)⟩
  · intro l l' x hx hx'
    rcases hqueue l x hx with hold | ⟨hl, rfl⟩
    · rcases hqueue l' x hx' with hold' | ⟨-, rfl⟩
      · exact h.lane l l' x hold hold'
      · exact absurd (h.waiting l _ hold).1 hnew
    · rcases hqueue l' _ hx' with hold' | ⟨hl', -⟩
      · exact absurd (h.waiting l' _ hold').1 hnew
      · exact Option.some.inj (hl.symm.trans hl')
  · exact fun x hx => List.mem_append_left _ (h.taken x hx)

/-! ## The order of the items of one key -/

variable [DecidableEq κ] (key : α → κ)

/-- **Delivered**: the items of the key have been taken in the order in which they were
sent, each at most once, and those that have not been taken are waiting in a lane. -/
def Delivered (S : State L α) (k : κ) : Prop :=
  ofKey key k S.taken <+: ofKey key k S.sent ∧
    ∀ x ∈ ofKey key k S.sent, x ∈ S.taken ∨ ∃ l, x ∈ S.queue l

/-- **Safe**: whatever the consumers do next, the items of every key are delivered. -/
def Safe (S : State L α) : Prop := ∀ lanes k, Delivered key (S.takeAll lanes) k

/-- **In line**: the items of the key that have not been taken are in one lane, in order. -/
def InLine (S : State L α) (k : κ) : Prop :=
  ∃ l, ofKey key k S.sent = ofKey key k S.taken ++ ofKey key k (S.queue l) ∧
    ∀ l', l' ≠ l → ofKey key k (S.queue l') = []

/-- The lane exists and no other one holds an item of the key. -/
def Clear (S : State L α) (lane : Option L) (k : κ) : Prop :=
  ∃ l ∈ lane, ∀ l', l' ≠ l → ofKey key k (S.queue l') = []

variable {key}

omit [DecidableEq L] in
theorem InLine.delivered (h : S.InLine key k) : S.Delivered key k := by
  obtain ⟨l, heq, -⟩ := h
  refine ⟨⟨_, heq.symm⟩, ?_⟩
  intro x hx
  rw [heq, List.mem_append] at hx
  rcases hx with htaken | hwaiting
  · exact .inl (mem_ofKey.mp htaken).1
  · exact .inr ⟨l, (mem_ofKey.mp hwaiting).1⟩

omit [DecidableEq L] in
theorem inLine_empty [Nonempty L] (k : κ) : (empty : State L α).InLine key k :=
  ⟨Classical.arbitrary L, rfl, fun _ _ => rfl⟩

/-- Taking an item leaves the others in line. -/
theorem inLine_take (h : S.InLine key k) (m : L) :
    (S.take m).InLine key k := by
  cases hq : S.queue m with
  | nil =>
    rw [take_nil hq]
    exact h
  | cons x rest =>
    obtain ⟨l, heq, hother⟩ := h
    refine ⟨l, ?_, ?_⟩
    · rw [sent_take, taken_take hq, ofKey_append]
      by_cases hx : key x.1 = k
      · -- an item of the key is the first in the one lane that holds the key
        have hml : m = l := by
          by_contra hne
          have hnone := hother m hne
          rw [hq, ofKey_cons_self hx] at hnone
          cases hnone
        subst hml
        rw [queue_take_self hq, ofKey_cons_self hx, ofKey_nil, List.append_assoc,
          List.singleton_append, ← ofKey_cons_self hx, ← hq]
        exact heq
      · have hqueue : ofKey key k ((S.take m).queue l) = ofKey key k (S.queue l) := by
          by_cases hlm : l = m
          · subst hlm
            rw [queue_take_self hq, hq, ofKey_cons_ne hx]
          · rw [S.queue_take_ne hlm]
        rw [hqueue, ofKey_cons_ne hx, ofKey_nil, List.append_nil]
        exact heq
    · intro l' hl'
      have hnone := hother l' hl'
      by_cases hlm : l' = m
      · subst hlm
        rw [hq] at hnone
        rw [queue_take_self hq]
        exact ofKey_eq_nil.mpr fun y hy => ofKey_eq_nil.mp hnone y (List.mem_cons_of_mem x hy)
      · rw [S.queue_take_ne hlm]
        exact hnone

theorem inLine_takeAll (h : S.InLine key k) (lanes : List L) :
    (S.takeAll lanes).InLine key k := by
  induction lanes generalizing S with
  | nil => exact h
  | cons l lanes ih => exact ih (inLine_take h l)

/-- An item does not concern the other keys. -/
theorem inLine_send_ne {a : α} (hk : key a ≠ k) (lane : Option L) :
    (S.send lane a).InLine key k ↔ S.InLine key k := by
  have hitem : ofKey key k [(a, S.sent.length)] = [] := ofKey_cons_ne hk []
  have hqueue : ∀ l, ofKey key k ((S.send lane a).queue l) = ofKey key k (S.queue l) := by
    intro l
    by_cases hl : lane = some l
    · subst hl
      rw [queue_send_self, ofKey_append, hitem, List.append_nil]
    · rw [S.queue_send_ne hl]
  simp only [InLine, hqueue, sent_send, taken_send, ofKey_append, hitem, List.append_nil]

/-- **Sending**: the items of the key stay in line exactly if the new one goes into a lane,
and the others that are waiting are in the same one. -/
theorem inLine_send_iff (h : ∀ k, S.InLine key k) (lane : Option L) (a : α) :
    (∀ k, (S.send lane a).InLine key k) ↔ S.Clear key lane (key a) := by
  have hitem : ofKey key (key a) [(a, S.sent.length)] = [(a, S.sent.length)] :=
    ofKey_cons_self rfl []
  obtain ⟨l, heq, hother⟩ := h (key a)
  constructor
  · intro hline
    obtain ⟨l', heq', hother'⟩ := hline (key a)
    rw [sent_send, taken_send, ofKey_append, hitem, heq, List.append_assoc,
      List.append_cancel_left_eq] at heq'
    cases lane with
    | none =>
      -- the item is in no lane, so it is missing
      rw [S.queue_send_ne (Option.some_ne_none l').symm] at heq'
      by_cases hl : l' = l
      · subst hl
        simp at heq'
      · rw [hother l' hl] at heq'
        simp at heq'
    | some l₀ =>
      refine ⟨l₀, rfl, ?_⟩
      intro l₁ hl₁
      by_cases hl : l' = l₀
      · rw [← S.queue_send_ne (fun heq => hl₁ (Option.some.inj heq).symm) a]
        exact hother' l₁ (hl ▸ hl₁)
      · -- the lane of the new item would be empty
        have hnone := hother' l₀ (Ne.symm hl)
        rw [queue_send_self, ofKey_append, hitem] at hnone
        simp at hnone
  · rintro ⟨l₀, rfl, hclear⟩ k
    by_cases hk : key a = k
    · subst hk
      have hbefore : ofKey key (key a) S.sent
          = ofKey key (key a) S.taken ++ ofKey key (key a) (S.queue l₀) := by
        by_cases hl : l = l₀
        · rw [← hl]
          exact heq
        · rw [heq, hclear l hl, hother l₀ (Ne.symm hl)]
      refine ⟨l₀, ?_, ?_⟩
      · rw [sent_send, taken_send, queue_send_self, ofKey_append, ofKey_append, hitem, hbefore,
          List.append_assoc]
      · intro l' hl'
        rw [S.queue_send_ne fun heq => hl' (Option.some.inj heq).symm]
        exact hclear l' hl'
    · exact (inLine_send_ne hk _).mpr (h k)

/-! ### What is pending

The items of the key `k` that have been sent and not taken. -/

section Pending

variable {S : State L α} {k : κ} {pending : List (α × Nat)}
  (heq : ofKey key k S.taken ++ pending = ofKey key k S.sent)

include heq

variable {l : L} {x : α × Nat}

omit [DecidableEq L] in
theorem mem_pending (hwf : S.WellFormed) (hx : x ∈ ofKey key k (S.queue l)) :
    x ∈ pending := by
  obtain ⟨hmem, hk⟩ := mem_ofKey.mp hx
  obtain ⟨hsent, htaken⟩ := hwf.waiting l x hmem
  have hmem' : x ∈ ofKey key k S.taken ++ pending := by
    rw [heq]
    exact mem_ofKey.mpr ⟨hsent, hk⟩
  rcases List.mem_append.mp hmem' with hold | hnew
  · exact absurd (mem_ofKey.mp hold).1 htaken
  · exact hnew

theorem lane_of_mem_pending (hwf : S.WellFormed) (h : S.Safe key) (hx : x ∈ pending) :
    ∃ l, x ∈ ofKey key k (S.queue l) := by
  have hnodup : (ofKey key k S.sent).Nodup := hwf.nodup.filter _
  rw [← heq, List.nodup_append] at hnodup
  have hsent : x ∈ ofKey key k S.sent := by
    rw [← heq]
    exact List.mem_append_right _ hx
  obtain ⟨-, hk⟩ := mem_ofKey.mp hsent
  rcases (h [] k).2 x hsent with htaken | ⟨l, hl⟩
  · exact absurd rfl (hnodup.2.2 x (mem_ofKey.mpr ⟨htaken, hk⟩) x hx)
  · exact ⟨l, mem_ofKey.mpr ⟨hl, hk⟩⟩

/-- What one consumer takes alone is the beginning of what is pending. -/
theorem prefix_pending (h : S.Safe key) {xs rest : List (α × Nat)} (hq : S.queue l = xs ++ rest) :
    ofKey key k xs <+: pending := by
  have hdelivered := (h (List.replicate xs.length l) k).1
  rw [taken_takeAll_replicate hq, sent_takeAll, ofKey_append, ← heq] at hdelivered
  exact (List.prefix_append_right_inj _).mp hdelivered

/-- A lane with an item of the key has the next one. -/
theorem next_mem_queue (h : S.Safe key) {y : α × Nat} (hnext : pending.head? = some x)
    (hy : y ∈ ofKey key k (S.queue l)) : x ∈ S.queue l := by
  obtain ⟨ys, rest, hq⟩ := List.append_of_mem (mem_ofKey.mp hy).1
  have hq' : S.queue l = (ys ++ [y]) ++ rest := by simpa using hq
  obtain ⟨more, hmore⟩ := prefix_pending heq h hq'
  have hxin : x ∈ ofKey key k (ys ++ [y]) := by
    cases hcase : ofKey key k (ys ++ [y]) with
    | nil =>
      have hnone := ofKey_eq_nil.mp hcase y (List.mem_append_right _ (.head _))
      exact absurd (mem_ofKey.mp hy).2 hnone
    | cons z zs =>
      rw [← hmore, hcase] at hnext
      cases hnext
      exact .head _
  rw [hq']
  exact List.mem_append_left _ (mem_ofKey.mp hxin).1

end Pending

/-- If the items of a key are delivered whatever the consumers do, they are in line. -/
theorem inLine_of_safe [Nonempty L] (hwf : S.WellFormed) (h : S.Safe key) (k : κ) :
    S.InLine key k := by
  obtain ⟨⟨pending, heq⟩, -⟩ := h [] k
  change ofKey key k S.taken ++ pending = ofKey key k S.sent at heq
  cases hfirst : pending with
  | nil =>
    have hnone : ∀ l, ofKey key k (S.queue l) = [] := by
      intro l
      refine List.eq_nil_iff_forall_not_mem.mpr fun x hx => ?_
      have hmem := mem_pending heq hwf hx
      rw [hfirst] at hmem
      cases hmem
    refine ⟨Classical.arbitrary L, ?_, fun l' _ => hnone l'⟩
    rw [hnone, ← heq, hfirst]
  | cons x later =>
    have hnext : pending.head? = some x := by
      rw [hfirst]
      rfl
    obtain ⟨l, hl⟩ := lane_of_mem_pending heq hwf h (List.mem_of_mem_head? hnext)
    -- another lane with an item of the key would have the next one, too
    have hother : ∀ l', l' ≠ l → ofKey key k (S.queue l') = [] := by
      intro l' hne
      refine List.eq_nil_iff_forall_not_mem.mpr fun y hy => ?_
      exact hne (hwf.lane l' l x (next_mem_queue heq h hnext hy) (mem_ofKey.mp hl).1)
    -- so this lane has all that is pending
    have hall : pending ⊆ ofKey key k (S.queue l) := by
      intro z hz
      obtain ⟨l', hl'⟩ := lane_of_mem_pending heq hwf h hz
      by_cases hne : l' = l
      · exact hne ▸ hl'
      · rw [hother l' hne] at hl'
        cases hl'
    have hnodup : (ofKey key k S.sent).Nodup := hwf.nodup.filter _
    rw [← heq, List.nodup_append] at hnodup
    have hfront := prefix_pending heq h (List.append_nil (S.queue l)).symm
    refine ⟨l, ?_, hother⟩
    rw [hfront.eq_of_length_le (hnodup.2.1.subperm hall).length_le, heq]

/-- **Safe means in line.** -/
theorem safe_iff [Nonempty L] (hwf : S.WellFormed) :
    S.Safe key ↔ ∀ k, S.InLine key k := by
  constructor
  · exact fun h k => inLine_of_safe hwf h k
  · exact fun h lanes k => (inLine_takeAll (h k) lanes).delivered

end State

end Lanes
