import Mathlib.Tactic

/-!
# Programs over a state that may stop

`EStateM ε σ α` is a program over the state `σ` that returns a value or stops with
an `ε`; the state survives a stop. Two ways of reasoning about such programs:

- execution: the `_apply` lemmas run a program on a given state, one instruction at
  a time, and `bind_eq_ok` and `bind_eq_error` take a finished run apart;
- `Triple P x Q E`: from every state with `P`, the program `x` returns with `Q` or
  stops with `E`. The rules follow the program's text. `Keeps I E x` is the special
  case of an invariant, and `Keeps.forM` the rule for loops.

`after x s` is the state that `x` leaves behind in either case.
-/

namespace StateProgram

variable {ε σ α β : Type}

/-! ## Execution -/

section Run

variable (s : σ)

@[simp] theorem pure_apply (a : α) : (pure a : EStateM ε σ α) s = .ok a s := rfl

theorem bind_apply (x : EStateM ε σ α) (f : α → EStateM ε σ β) :
    (x >>= f) s = match x s with
      | .ok a s' => f a s'
      | .error e s' => .error e s' := by
  show EStateM.bind x f s = _
  unfold EStateM.bind
  cases x s <;> rfl

variable {s' : σ}

/-- Running on past an instruction that returned. -/
theorem bind_ok {x : EStateM ε σ α} {a : α} {s : σ} (h : x s = .ok a s') (f : α → EStateM ε σ β) :
    (x >>= f) s = f a s' := by
  rw [bind_apply, h]

/-- Nothing runs past an instruction that stopped. -/
theorem bind_error {x : EStateM ε σ α} {e : ε} {s : σ} (h : x s = .error e s')
    (f : α → EStateM ε σ β) : (x >>= f) s = .error e s' := by
  rw [bind_apply, h]

/-- A sequence returns when both of its parts do. -/
theorem bind_eq_ok {x : EStateM ε σ α} {f : α → EStateM ε σ β} {s : σ} {b : β} :
    (x >>= f) s = .ok b s' ↔ ∃ a t, x s = .ok a t ∧ f a t = .ok b s' := by
  rw [bind_apply]
  cases x s <;> simp

/-- A sequence stops when its first part does, or its second after the first. -/
theorem bind_eq_error {x : EStateM ε σ α} {f : α → EStateM ε σ β} {s : σ} {e : ε} :
    (x >>= f) s = .error e s' ↔
      x s = .error e s' ∨ ∃ a t, x s = .ok a t ∧ f a t = .error e s' := by
  rw [bind_apply]
  cases x s <;> simp

@[simp] theorem get_apply : (get : EStateM ε σ σ) s = .ok s s := rfl

@[simp] theorem get_bind_apply (f : σ → EStateM ε σ β) :
    ((get : EStateM ε σ σ) >>= f) s = f s s := rfl

@[simp] theorem modify_apply (f : σ → σ) :
    (modify f : EStateM ε σ PUnit) s = .ok ⟨⟩ (f s) := rfl

@[simp] theorem modify_bind_apply (f : σ → σ) (g : PUnit → EStateM ε σ β) :
    ((modify f : EStateM ε σ PUnit) >>= g) s = g ⟨⟩ (f s) := rfl

@[simp] theorem ite_run (c : Prop) [Decidable c] (x y : EStateM ε σ α) :
    (if c then x else y) s = if c then x s else y s := by
  split <;> rfl

end Run

/-! ## Repetition, and calls by value -/

/-- Run a program `n` times and collect what it returns. -/
def times : Nat → EStateM ε σ α → EStateM ε σ (List α)
  | 0, _ => pure []
  | n + 1, x => do
    let a ← x
    let as ← times n x
    return a :: as

/-- Run a program on a copy of the state: when it returns, the state is as before
the call. -/
def byValue (x : EStateM ε σ α) : EStateM ε σ α := fun s =>
  match x s with
  | .ok a _ => .ok a s
  | .error e s' => .error e s'

variable {x : EStateM ε σ α} {s s' : σ} {a : α}

theorem byValue_eq_ok :
    byValue x s = .ok a s' ↔ s' = s ∧ ∃ t, x s = .ok a t := by
  rw [byValue]
  cases x s with
  | ok b t => simp [eq_comm, and_comm]
  | error e t => simp

theorem byValue_eq_error {e : ε} :
    byValue x s = .error e s' ↔ x s = .error e s' := by
  rw [byValue]
  cases x s <;> simp

/-- Every round of a repeated call by value starts from the same state, and so
returns what the first one returns. -/
theorem times_byValue_eq_ok {n : Nat} {as : List α} :
    times n (byValue x) s = .ok as s' ↔
      s' = s ∧ as.length = n ∧ ∀ a ∈ as, ∃ t, x s = .ok a t := by
  induction n generalizing as s' with
  | zero =>
    rw [times, pure_apply]
    constructor
    · rintro ⟨⟩
      simp
    · rintro ⟨rfl, hlen, -⟩
      rw [List.length_eq_zero_iff.mp hlen]
  | succ n ih =>
    rw [times, bind_eq_ok]
    constructor
    · rintro ⟨a, t, ha, hrest⟩
      obtain ⟨rfl, hx⟩ := byValue_eq_ok.mp ha
      obtain ⟨as', t', has, hpure⟩ := bind_eq_ok.mp hrest
      obtain ⟨rfl, hlen, hall⟩ := ih.mp has
      cases hpure
      exact ⟨rfl, by rw [List.length_cons, hlen], List.forall_mem_cons.mpr ⟨hx, hall⟩⟩
    · rintro ⟨rfl, hlen, hall⟩
      obtain ⟨a, as', rfl⟩ := List.exists_cons_of_length_eq_add_one hlen
      rw [List.forall_mem_cons] at hall
      refine ⟨a, s', byValue_eq_ok.mpr ⟨rfl, hall.1⟩, ?_⟩
      rw [bind_ok (ih.mpr ⟨rfl, by simpa using hlen, hall.2⟩), pure_apply]

/-- A repeated call by value stops in its first round or not at all. -/
theorem times_byValue_eq_error {n : Nat} {e : ε} :
    times n (byValue x) s = .error e s' ↔ n ≠ 0 ∧ x s = .error e s' := by
  induction n with
  | zero =>
    constructor
    · rintro ⟨⟩
    · rintro ⟨h, -⟩
      exact absurd rfl h
  | succ n ih =>
    rw [times, bind_eq_error, byValue_eq_error]
    constructor
    · rintro (h | ⟨a, t, ha, hrest⟩)
      · exact ⟨n.succ_ne_zero, h⟩
      · obtain ⟨rfl, t', ht'⟩ := byValue_eq_ok.mp ha
        rcases bind_eq_error.mp hrest with h | ⟨as, t'', -, hpure⟩
        · exact ⟨n.succ_ne_zero, (ih.mp h).2⟩
        · cases hpure
    · rintro ⟨-, h⟩
      exact .inl h

/-! ## Pre- and postconditions -/

/-- From a state with `P` the program returns with `Q` or stops with `E`. -/
def Triple (P : σ → Prop) (x : EStateM ε σ α) (Q : α → σ → Prop) (E : ε → σ → Prop) : Prop :=
  ∀ s, P s → match x s with
    | .ok a s' => Q a s'
    | .error e s' => E e s'

namespace Triple

variable {P P' : σ → Prop} {Q : α → σ → Prop} {E : ε → σ → Prop} {x : EStateM ε σ α}

/-- **Sequencing.** -/
theorem bind {R : β → σ → Prop} {f : α → EStateM ε σ β} (hx : Triple P x Q E)
    (hf : ∀ a, Triple (Q a) (f a) R E) : Triple P (x >>= f) R E := by
  intro s hs
  have h := hx s hs
  rw [bind_apply]
  cases hr : x s with
  | ok a s' =>
    rw [hr] at h
    exact hf a s' h
  | error e s' =>
    rw [hr] at h
    exact h

/-- **Consequence.** -/
theorem conseq {Q' : α → σ → Prop} {E' : ε → σ → Prop} (hx : Triple P x Q E)
    (hP : ∀ s, P' s → P s) (hQ : ∀ a s, Q a s → Q' a s) (hE : ∀ e s, E e s → E' e s) :
    Triple P' x Q' E' := by
  intro s hs
  have h := hx s (hP s hs)
  cases hr : x s with
  | ok a s' =>
    rw [hr] at h
    exact hQ a s' h
  | error e s' =>
    rw [hr] at h
    exact hE e s' h

end Triple

/-! ## Invariants -/

/-- The invariant `I` holds after the program, or `E` if the program stops. -/
def Keeps (I E : σ → Prop) (x : EStateM ε σ α) : Prop :=
  Triple I x (fun _ => I) fun _ => E

namespace Keeps

variable {I E : σ → Prop} {x : EStateM ε σ α}

theorem pure (a : α) : Keeps I E (Pure.pure a : EStateM ε σ α) := fun _ h => h

theorem get : Keeps I E (MonadState.get : EStateM ε σ σ) := fun _ h => h

theorem modify {f : σ → σ} (h : ∀ s, I s → I (f s)) :
    Keeps I E (modify f : EStateM ε σ PUnit) := h

theorem bind {f : α → EStateM ε σ β} (hx : Keeps I E x) (hf : ∀ a, Keeps I E (f a)) :
    Keeps I E (x >>= f) := Triple.bind hx hf

/-- The rest of the program may leave the invariant. -/
theorem seq {R : β → σ → Prop} {f : α → EStateM ε σ β} (hx : Keeps I E x)
    (hf : ∀ a, Triple I (f a) R fun _ => E) : Triple I (x >>= f) R fun _ => E :=
  Triple.bind hx hf

theorem ite {c : Prop} [Decidable c] {y : EStateM ε σ α} (hx : c → Keeps I E x)
    (hy : ¬ c → Keeps I E y) : Keeps I E (if c then x else y) := by
  split
  · next h => exact hx h
  · next h => exact hy h

/-- **Loops.** What each iteration keeps, the loop keeps. -/
theorem forM {xs : List β} {f : β → EStateM ε σ PUnit} (h : ∀ b ∈ xs, Keeps I E (f b)) :
    Keeps I E (xs.forM f) := by
  induction xs with
  | nil => exact .pure _
  | cons b bs ih =>
    refine (h b (List.mem_cons_self ..)).bind fun _ => ih ?_
    intro b' hb'
    exact h b' (List.mem_cons_of_mem b hb')

end Keeps

/-! ## The state afterwards -/

/-- The state after the program, however it ends. -/
def after (x : EStateM ε σ α) (s : σ) : σ :=
  match x s with
  | .ok _ s' => s'
  | .error _ s' => s'

theorem after_ok (h : x s = .ok a s') :
    after x s = s' := by
  rw [after, h]

/-- The rest of a program, after an instruction that returned. -/
theorem after_bind_ok (h : x s = .ok a s') (f : α → EStateM ε σ β) :
    after (x >>= f) s = after (f a) s' := by
  rw [after, bind_ok h, after]

/-- Either postcondition holds of the state afterwards. -/
theorem Triple.after {P I E : σ → Prop} (h : Triple P x (fun _ => I) fun _ => E) (hs : P s) :
    I (StateProgram.after x s) ∨ E (StateProgram.after x s) := by
  have hx := h s hs
  unfold StateProgram.after
  cases hr : x s with
  | ok a s' =>
    rw [hr] at hx
    exact .inl hx
  | error e s' =>
    rw [hr] at hx
    exact .inr hx

/-- One postcondition for both ends. -/
theorem Triple.after_same {P I : σ → Prop} (h : Triple P x (fun _ => I) fun _ => I) (hs : P s) :
    I (StateProgram.after x s) :=
  or_self_iff.mp (h.after hs)

end StateProgram
