import EcsAsioServer.Lib.Transition
import Mathlib.Data.List.Nodup

/-!
# Loops over keys

A loop goes through a list of keys, and each round changes what the state holds for its own
key. `read` is what the state holds for the one key `k` that a proof is about.

- `Loop.read_of_not_mem`: a loop that does not come to `k` leaves its value alone;
- `Loop.read_of_mem`: a loop without duplicates that comes to `k` changes its value once;
- `Loop.along`: what every round keeps under a condition, the loop keeps if each round
  meets the condition when its turn comes (`Transition.Along`).
-/

namespace Loop

open Transition

universe u v w

variable {σ : Type u} {κ : Type v} {β : Type w} {f : σ → κ → σ} {s : σ} {ks : List κ}

theorem keeps {I : σ → Prop} (hs : I s) (hstep : ∀ s k, k ∈ ks → I s → I (f s k)) :
    I (ks.foldl f s) := by
  induction ks generalizing s with
  | nil => exact hs
  | cons k ks ih =>
    exact ih (hstep s k (.head _) hs) fun s k' hk' => hstep s k' (List.mem_cons_of_mem k hk')

theorem along {ok : σ → κ → Prop} {I : σ → Prop} (hs : I s) (hok : Along f ok s ks)
    (hstep : ∀ s k, I s → ok s k → I (f s k)) : I (ks.foldl f s) := by
  refine (Run.of_along hok).invariant hs ?_
  rintro s k t h ⟨hk, rfl⟩
  exact hstep s k h hk

variable {k : κ} {I : σ → Prop}

theorem read_of_not_mem (read : σ → β) (hother : ∀ s k', k' ≠ k → read (f s k') = read s)
    (hk : k ∉ ks) :
    read (ks.foldl f s) = read s := by
  refine keeps (I := fun t => read t = read s) rfl ?_
  intro t k' hk' ht
  rw [hother t k' fun heq => hk (heq ▸ hk')]
  exact ht

/-- The value of `k` changes by `g`, in states with `I`, which the rounds for other keys
keep. -/
theorem read_of_mem (read : σ → β) (g : β → β) (hs : I s)
    (hkeep : ∀ s k', k' ≠ k → I s → I (f s k'))
    (hother : ∀ s k', k' ≠ k → read (f s k') = read s)
    (hself : ∀ s, I s → read (f s k) = g (read s)) (hk : k ∈ ks) (hnodup : ks.Nodup) :
    read (ks.foldl f s) = g (read s) := by
  obtain ⟨before, after, rfl⟩ := List.append_of_mem hk
  rw [List.nodup_middle, List.nodup_cons, List.mem_append, not_or] at hnodup
  obtain ⟨⟨hbefore, hafter⟩, -⟩ := hnodup
  have hI : I (before.foldl f s) :=
    keeps hs fun t k' hk' ht => hkeep t k' (fun heq => hbefore (heq ▸ hk')) ht
  rw [List.foldl_append, List.foldl_cons, read_of_not_mem read hother hafter, hself _ hI,
    read_of_not_mem read hother hbefore]

end Loop
