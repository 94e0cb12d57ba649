import EcsAsioServer.Game.Routing

/-!
# Session tokens

`handle_login` asks Redis for the player id of the token, and refuses a token that is not
registered. The id itself is only logged. What is loaded afterwards, on the strand of the
channel, is the row of the *name* in the request, and the session is bound to this row.

One LOGIN request is followed through the run: its task waits on the strand behind others
(`waiting`), then the row is on its way back to the io thread (`loaded`), and then the
request is answered (`answered`), unless there is no row or the channel has gone. The io
thread only appends tasks, and only the request's own events take it further
(`steady_step`).

`token_authorises_iff`: the token authorises what it is used for exactly if the row that is
loaded for the name is the row of the token.
-/

namespace EcsAsioServer.GameServer

open Db Ecs FrameCodec Protocol Strands StateProgram Transition

/-- The player id that a token is registered for. -/
def playerOfToken (s : GameServer) (token : List UInt8) : Option Int64 :=
  s.storage.redis.bind fun redis => redis.getPlayerIdByToken token

/-! ## What other events leave alone -/

/-- The tasks wait on the strand, possibly with others behind them; the completions and the
player of the token are these. -/
structure Steady (channelId : Int32) (waiting : List DbTask) (completions : List Completion)
    (token : List UInt8) (player : Option Int64) (s : GameServer) : Prop where
  waiting : waiting <+: s.dbPool.pending channelId
  completions : s.completions = completions
  token : s.playerOfToken token = player

section Steady

variable {channelId : Int32} {waiting : List DbTask} {completions : List Completion}
  {token : List UInt8} {player : Option Int64} {s : GameServer}

theorem Steady.post (h : Steady channelId waiting completions token player s) (id : Int32)
    (task : DbTask) :
    Steady channelId waiting completions token player
      { s with dbPool := s.dbPool.post id task } := by
  refine ⟨?_, h.completions, h.token⟩
  by_cases hid : channelId = id
  · subst hid
    rw [Pool.pending_post_self]
    exact h.waiting.trans (List.prefix_append ..)
  · rw [Pool.pending_post_ne _ hid]
    exact h.waiting

theorem Steady.close (h : Steady channelId waiting completions token player s) (id : Int32)
    (ecs : GameService ComponentType.Val) :
    Steady channelId waiting completions token player (s.closeWith id ecs) := by
  have htoken : (s.closeWith id ecs).playerOfToken token = s.playerOfToken token := by
    -- only the cached player is deleted
    unfold playerOfToken closeWith
    dsimp only
    split
    · cases s.storage.redis <;> rfl
    · rfl
  refine ⟨?_, h.completions, htoken.trans h.token⟩
  rcases closeWith_dbPool s id ecs with hsame | ⟨-, task, hpost⟩
  · rw [hsame]
    exact h.waiting
  · rw [hpost]
    exact (h.post id task).waiting

theorem steady_kept (channelId : Int32) (waiting : List DbTask) (completions : List Completion)
    (token : List UInt8) (player : Option Int64) :
    HandlerKept (Steady channelId waiting completions token player)
      (Steady channelId waiting completions token player) where
  mtx _ _ h := ⟨h.waiting, h.completions, h.token⟩
  locked _ _ h := h
  ecs _ _ h := ⟨h.waiting, h.completions, h.token⟩
  mainThread _ _ h := ⟨h.waiting, h.completions, h.token⟩
  net _ _ _ _ _ _ h := ⟨h.waiting, h.completions, h.token⟩
  close s id _ ch' ecs _ _ _ _ h :=
    Steady.close (s := { s with net := s.net.insert id ch' })
      ⟨h.waiting, h.completions, h.token⟩ id ecs
  stuck _ _ _ _ _ _ _ _ h := ⟨h.waiting, h.completions, h.token⟩
  setEntity _ _ _ _ h := ⟨h.waiting, h.completions, h.token⟩
  eraseEntity _ _ h := ⟨h.waiting, h.completions, h.token⟩
  setDbId _ _ _ _ h := ⟨h.waiting, h.completions, h.token⟩
  setMap _ _ _ _ _ h := ⟨h.waiting, h.completions, h.token⟩
  post _ id task _ h := h.post id task

theorem Answered.steady {store : GuildStore} {t : GameServer} (h : Answered (s.withGuilds store) t)
    (hs : Steady channelId waiting completions token player s) :
    Steady channelId waiting completions token player t := by
  obtain ⟨net, mtx, -, rfl⟩ := h
  exact ⟨hs.waiting, hs.completions, hs.token⟩

end Steady

variable {env : Env} {s t : GameServer} {e : ServerEvent} {channelId : Int32}

/-- **Every event of the io thread**: tasks stay where they are on their strand, and only
a completion that runs is taken off. -/
theorem steady_step (hstep : ServerStep env s e t) (hstrand : ∀ id out, e ≠ .strand id out)
    (channelId : Int32) (token : List UInt8) :
    Steady channelId (s.dbPool.pending channelId) (s.completionsLeft e) token
      (s.playerOfToken token) t := by
  have hsteady : Steady channelId (s.dbPool.pending channelId) s.completions token
      (s.playerOfToken token) s := ⟨List.prefix_rfl, rfl, rfl⟩
  obtain ⟨henabled, rfl⟩ := hstep
  cases e with
  | accept id now =>
    rw [act, after_ok (acceptChannel_ok henabled.1 id now)]
    exact ⟨List.prefix_rfl, rfl, rfl⟩
  | completion i =>
    let s₁ : GameServer := { s with completions := s.completions.eraseIdx i }
    have hs₁ : Steady channelId (s.dbPool.pending channelId) (s.completions.eraseIdx i) token
        (s.playerOfToken token) s₁ := ⟨List.prefix_rfl, rfl, rfl⟩
    obtain ⟨c, hcompletion⟩ : ∃ c, s.completions[i]? = some c :=
      ⟨_, List.getElem?_eq_getElem henabled.2⟩
    rw [act, after_runCompletion env hcompletion]
    exact ((steady_kept ..).loginCompleted env _).after_same hs₁
  | frame id cmd payload =>
    rw [act, dispatch]
    cases messageId cmd with
    | none => exact hsteady
    | some msg =>
      cases msg with
      | guildCreate => exact ((GuildRequest.create payload).after_run env id s).steady hsteady
      | guildJoin => exact ((GuildRequest.join payload).after_run env id s).steady hsteady
      | guildLeave => exact (GuildRequest.leave.after_run env id s).steady hsteady
      | ping | echo | login | move | chat | attack | mapEnter =>
        have hkept := steady_kept channelId (s.dbPool.pending channelId) s.completions token
          (s.playerOfToken token)
        exact (hkept.handle env rfl id payload).after_same ⟨hsteady, henabled.2⟩
  | written | writeError | readError | idleTimer | pingTimer | flushTimer | gameThreads =>
    exact or_self_iff.mp ((steady_kept ..).toDirectKept.event hsteady rfl)
  | strand id out => exact absurd rfl (hstrand id out)

/-- No task registers or deletes a token. -/
theorem run_playerOfToken (my : MySql) (st : Storage) (out : DbOutcome) (task : DbTask)
    (token : List UInt8) :
    ((st.run my out task).1.redis.bind fun redis => redis.getPlayerIdByToken token)
      = st.redis.bind fun redis => redis.getPlayerIdByToken token := by
  cases task with
  | login channelId playerName =>
    unfold Storage.run Storage.runLogin
    dsimp only
    cases st.redis with
    | none => rfl
    | some redis => cases (st.db.findOrCreate my playerName out.login).1 <;> rfl
  | flush => rfl
  | close dbId x y z mapId level exp hp playerName =>
    unfold Storage.run Storage.runClose
    dsimp only
    split <;> rfl

theorem playerOfToken_step (hstep : ServerStep env s e t) (token : List UInt8) :
    t.playerOfToken token = s.playerOfToken token := by
  by_cases hstrand : ∃ id out, e = .strand id out
  · obtain ⟨id, out, rfl⟩ := hstrand
    obtain ⟨-, rfl⟩ := hstep
    show (s.runStrand env id out).playerOfToken token = _
    unfold runStrand
    cases s.dbPool.pending id with
    | nil => rfl
    | cons task rest => exact run_playerOfToken ..
  · exact (steady_step hstep (fun id out heq => hstrand ⟨id, out, heq⟩) 0 token).token

/-! ## The way of a request -/

/-- How far a LOGIN request has come. -/
inductive Progress where
  /-- So many tasks are before it on the strand. -/
  | waiting (ahead : Nat)
  /-- The completion with this index is its own. -/
  | loaded (i : Nat)
  /-- It has been answered with success, for this row. -/
  | answered (dbId : Int64)
  /-- There was no row, or the channel had closed. -/
  | dropped
deriving DecidableEq

/-- What the completion of the request leads to. -/
def completionAnswer (s : GameServer) (i : Nat) : Progress :=
  match s.completions[i]? with
  | some ⟨some record, channelId, _⟩ =>
    if channelId ∈ s.channels then .answered record.id else .dropped
  | _ => .dropped

/-- The progress of a request on the channel in an event. -/
def Progress.next (channelId : Int32) (s : GameServer) : Progress → ServerEvent → Progress
  | .waiting 0, .strand id _ =>
    if id = channelId then .loaded s.completions.length else .waiting 0
  | .waiting (n + 1), .strand id _ => if id = channelId then .waiting n else .waiting (n + 1)
  | .loaded i, .completion j =>
    if j < i then .loaded (i - 1) else if j = i then s.completionAnswer i else .loaded i
  | progress, _ => progress

/-- The server, and a request on its way. -/
structure Audited where
  server : GameServer
  progress : Progress

/-- One event, with the progress of the login. -/
def AuditedStep (env : Env) (channelId : Int32) (x : Audited) (e : ServerEvent) (y : Audited) :
    Prop :=
  ServerStep env x.server e y.server ∧ y.progress = x.progress.next channelId x.server e

theorem AuditedStep.intro {p q : Progress} (hstep : ServerStep env s e t)
    (hnext : q = p.next channelId s e) :
    AuditedStep env channelId ⟨s, p⟩ e ⟨t, q⟩ :=
  ⟨hstep, hnext⟩

/-- The request is where its progress says. -/
def OnTrack (channelId : Int32) (req : LoginReq) (x : Audited) : Prop :=
  match x.progress with
  | .waiting n =>
    (x.server.dbPool.pending channelId)[n]? = some (.login channelId req.playerName)
  | .loaded i => ∃ record, x.server.completions[i]? = some ⟨record, channelId, req.playerName⟩
  | .answered _ | .dropped => True

/-- **Authorised**: a row that has been loaded for the request, or that it has been answered
for, is the row of its token. -/
def Authorised (req : LoginReq) (x : Audited) : Prop :=
  match x.progress with
  | .loaded i => ∀ record channelId playerName,
    x.server.completions[i]? = some ⟨some record, channelId, playerName⟩ →
      x.server.playerOfToken req.sessionToken = some record.id
  | .answered dbId => x.server.playerOfToken req.sessionToken = some dbId
  | .waiting _ | .dropped => True

/-- The row that is loaded for the request is the row of its token. -/
def LoadsOwn (env : Env) (channelId : Int32) (req : LoginReq) (x : Audited) (e : ServerEvent) :
    Prop :=
  x.progress = .waiting 0 → ∀ out, e = .strand channelId out → ∀ record,
    (x.server.storage.db.findOrCreate env.mySql req.playerName out.login).1 = some record →
      x.server.playerOfToken req.sessionToken = some record.id

section Step

variable {env : Env} {channelId : Int32} {req : LoginReq} {x y : Audited} {e : ServerEvent}

theorem pending_runStrand (env : Env) (s : GameServer) (id : Int32) (out : DbOutcome)
    (channelId : Int32) :
    (s.runStrand env id out).dbPool.pending channelId
      = if channelId = id then (s.dbPool.pending channelId).tail
        else s.dbPool.pending channelId := by
  obtain ⟨storage, completions, heq⟩ := runStrand_eq env s id out
  rw [heq]
  split
  · next h =>
    subst h
    exact Pool.pending_advance_self ..
  · next h => exact Pool.pending_advance_ne _ h

theorem completions_runStrand (env : Env) (s : GameServer) (id : Int32) (out : DbOutcome) :
    s.completions <+: (s.runStrand env id out).completions := by
  unfold runStrand
  split
  · exact List.prefix_rfl
  · exact List.prefix_append ..

variable {s : GameServer}

/-- The task of the request loads the row of the name. -/
theorem runStrand_login (env : Env) {channelId : Int32} {playerName : List UInt8}
    (h : (s.dbPool.pending channelId)[0]? = some (.login channelId playerName)) (out : DbOutcome) :
    (s.runStrand env channelId out).completions[s.completions.length]?
      = some ⟨(s.storage.db.findOrCreate env.mySql playerName out.login).1, channelId,
          playerName⟩ := by
  unfold runStrand
  cases hpending : s.dbPool.pending channelId with
  | nil =>
    rw [hpending] at h
    cases h
  | cons task rest =>
    rw [hpending] at h
    cases h
    dsimp only
    rw [List.getElem?_append_right (le_refl _), Nat.sub_self]
    rfl

theorem getElem?_of_prefix {α : Type} {l l' : List α} {i : Nat} {a : α} (h : l[i]? = some a)
    (happend : l <+: l') : l'[i]? = some a := by
  obtain ⟨rest, rfl⟩ := happend
  obtain ⟨hi, -⟩ := List.getElem?_eq_some_iff.mp h
  rw [List.getElem?_append_left hi, h]

theorem Progress.next_waiting (h : ∀ id out, e ≠ .strand id out) (n : Nat) :
    (waiting n).next channelId s e = .waiting n := by
  cases e with
  | strand id out => exact absurd rfl (h id out)
  | _ => cases n <;> rfl

theorem Progress.next_loaded (h : ∀ j, e ≠ .completion j) (i : Nat) :
    (loaded i).next channelId s e = .loaded i := by
  cases e with
  | completion j => exact absurd rfl (h j)
  | _ => rfl

theorem completionsLeft_of_ne (h : ∀ j, e ≠ .completion j) :
    s.completionsLeft e = s.completions := by
  cases e with
  | completion j => exact absurd rfl (h j)
  | _ => rfl

/-- Other tasks run before it, or its own does. -/
theorem audited_waiting {t : GameServer} {n : Nat} (hserver : ServerStep env s e t)
    (htrack : (s.dbPool.pending channelId)[n]? = some (.login channelId req.playerName)) :
    (∃ m, (Progress.waiting n).next channelId s e = .waiting m ∧
      (t.dbPool.pending channelId)[m]? = some (.login channelId req.playerName) ∧
      ∀ out, e = .strand channelId out → n ≠ 0) ∨
    (∃ i out, n = 0 ∧ e = .strand channelId out ∧
      (Progress.waiting n).next channelId s e = .loaded i ∧
      t.completions[i]? = some ⟨(s.storage.db.findOrCreate env.mySql req.playerName out.login).1,
        channelId, req.playerName⟩) := by
  by_cases hstrand : ∃ id out, e = .strand id out
  · obtain ⟨id, out, rfl⟩ := hstrand
    obtain ⟨-, ht⟩ := hserver
    change s.runStrand env id out = t at ht
    subst ht
    by_cases hid : id = channelId
    · subst hid
      cases n with
      | zero =>
        refine .inr ⟨s.completions.length, out, rfl, rfl, ?_, runStrand_login env htrack out⟩
        exact if_pos rfl
      | succ n =>
        refine .inl ⟨n, if_pos rfl, ?_, fun _ _ => Nat.succ_ne_zero n⟩
        rw [pending_runStrand, if_pos rfl, List.getElem?_tail]
        exact htrack
    · refine .inl ⟨n, ?_, ?_, fun out' heq => ?_⟩
      · cases n <;> exact if_neg hid
      · rw [pending_runStrand, if_neg (Ne.symm hid)]
        exact htrack
      · cases heq
        exact absurd rfl hid
  · -- other tasks are posted behind it
    rw [not_exists] at hstrand
    have hother : ∀ id out, e ≠ .strand id out := fun id => not_exists.mp (hstrand id)
    have hsteady := steady_step hserver hother channelId []
    exact .inl ⟨n, Progress.next_waiting hother n, getElem?_of_prefix htrack hsteady.waiting,
      fun out heq => absurd heq (hother channelId out)⟩

/-- Other completions run before its own, or its own does. -/
theorem audited_loaded {t : GameServer} {i : Nat} {c : Completion} (hserver : ServerStep env s e t)
    (hcompletion : s.completions[i]? = some c) :
    (∃ j, (Progress.loaded i).next channelId s e = .loaded j ∧
      t.completions[j]? = s.completions[i]?) ∨
    (e = .completion i ∧ (Progress.loaded i).next channelId s e = s.completionAnswer i) := by
  by_cases hstrand : ∃ id out, e = .strand id out
  · obtain ⟨id, out, rfl⟩ := hstrand
    obtain ⟨-, ht⟩ := hserver
    change s.runStrand env id out = t at ht
    subst ht
    refine .inl ⟨i, rfl, ?_⟩
    rw [hcompletion]
    exact getElem?_of_prefix hcompletion (completions_runStrand env s id out)
  · rw [not_exists] at hstrand
    have hother : ∀ id out, e ≠ .strand id out := fun id => not_exists.mp (hstrand id)
    have hsteady := steady_step hserver hother channelId []
    by_cases hruns : ∃ j, e = .completion j
    · obtain ⟨j, rfl⟩ := hruns
      have hleft : t.completions = s.completions.eraseIdx j := hsteady.completions
      rcases Nat.lt_trichotomy j i with hlt | rfl | hgt
      · refine .inl ⟨i - 1, if_pos hlt, ?_⟩
        rw [hleft, List.getElem?_eraseIdx_of_ge (by omega), Nat.sub_add_cancel (by omega)]
      · exact .inr ⟨rfl, (if_neg (lt_irrefl j)).trans (if_pos rfl)⟩
      · refine .inl ⟨i, (if_neg (by omega)).trans (if_neg (by omega)), ?_⟩
        rw [hleft, List.getElem?_eraseIdx_of_lt hgt]
    · rw [not_exists] at hruns
      refine .inl ⟨i, Progress.next_loaded hruns i, ?_⟩
      rw [hsteady.completions, completionsLeft_of_ne hruns]

/-- **One event of the request's way.** It waits, its task runs, its completion waits, its
completion runs, or the request has come to its end. -/
theorem audited_cases (htrack : OnTrack channelId req x) (hstep : AuditedStep env channelId x e y) :
    (∃ n m, x.progress = .waiting n ∧ y.progress = .waiting m ∧
      (y.server.dbPool.pending channelId)[m]? = some (.login channelId req.playerName) ∧
      ∀ out, e = .strand channelId out → n ≠ 0) ∨
    (∃ i out, x.progress = .waiting 0 ∧ e = .strand channelId out ∧ y.progress = .loaded i ∧
      y.server.completions[i]?
        = some ⟨(x.server.storage.db.findOrCreate env.mySql req.playerName out.login).1, channelId,
            req.playerName⟩) ∨
    (∃ i j, x.progress = .loaded i ∧ y.progress = .loaded j ∧
      y.server.completions[j]? = x.server.completions[i]?) ∨
    (∃ i, x.progress = .loaded i ∧ e = .completion i ∧
      y.progress = x.server.completionAnswer i) ∨
    (y.progress = x.progress ∧ (∀ n, x.progress ≠ .waiting n) ∧ ∀ i, x.progress ≠ .loaded i) := by
  obtain ⟨s, progress⟩ := x
  obtain ⟨t, progress'⟩ := y
  obtain ⟨hserver, hnext⟩ := hstep
  change progress' = progress.next channelId s e at hnext
  subst hnext
  cases progress with
  | waiting n =>
    rcases audited_waiting hserver htrack with ⟨m, hm⟩ | ⟨i, out, rfl, hi⟩
    · exact .inl ⟨n, m, rfl, hm⟩
    · exact .inr (.inl ⟨i, out, rfl, hi⟩)
  | loaded i =>
    obtain ⟨record, hrecord⟩ := htrack
    rcases audited_loaded hserver hrecord with ⟨j, hj⟩ | hruns
    · exact .inr (.inr (.inl ⟨i, j, rfl, hj⟩))
    · exact .inr (.inr (.inr (.inl ⟨i, rfl, hruns⟩)))
  | answered dbId => exact .inr (.inr (.inr (.inr ⟨rfl, nofun, nofun⟩)))
  | dropped => exact .inr (.inr (.inr (.inr ⟨rfl, nofun, nofun⟩)))

theorem completionAnswer_cases (s : GameServer) (i : Nat) :
    s.completionAnswer i = .dropped ∨
      ∃ record id playerName, s.completions[i]? = some ⟨some record, id, playerName⟩ ∧
        id ∈ s.channels ∧ s.completionAnswer i = .answered record.id := by
  unfold completionAnswer
  split
  · next record id playerName hcompletion =>
    by_cases hid : id ∈ s.channels
    · exact .inr ⟨record, id, playerName, hcompletion, hid, if_pos hid⟩
    · exact .inl (if_neg hid)
  · exact .inl rfl

theorem onTrack_step (htrack : OnTrack channelId req x)
    (hstep : AuditedStep env channelId x e y) : OnTrack channelId req y := by
  unfold OnTrack at htrack ⊢
  rcases audited_cases htrack hstep with ⟨n, m, -, hy, hpending, -⟩ | ⟨i, out, -, -, hy, hloaded⟩ |
    ⟨i, j, hx, hy, hsame⟩ | ⟨i, -, -, hy⟩ | ⟨hy, hwaiting, hloaded⟩
  · rw [hy]
    exact hpending
  · rw [hy]
    exact ⟨_, hloaded⟩
  · rw [hx] at htrack
    rw [hy]
    dsimp only
    rw [hsame]
    exact htrack
  · rw [hy]
    rcases completionAnswer_cases x.server i with hdropped | ⟨_, _, _, -, -, hanswered⟩
    · rw [hdropped]
      trivial
    · rw [hanswered]
      trivial
  · rw [hy]
    cases hprogress : x.progress with
    | waiting n => exact absurd hprogress (hwaiting n)
    | loaded i => exact absurd hprogress (hloaded i)
    | answered | dropped => trivial

/-- **One event** from a state in which the request is authorised. -/
theorem authorised_step (htrack : OnTrack channelId req x) (h : Authorised req x)
    (hstep : AuditedStep env channelId x e y) :
    Authorised req y ↔ LoadsOwn env channelId req x e := by
  have htoken := playerOfToken_step hstep.1 req.sessionToken
  unfold Authorised at h ⊢
  rcases audited_cases htrack hstep with ⟨n, m, hx, hy, -, hn⟩ | ⟨i, out, hx, rfl, hy, hloaded⟩ |
    ⟨i, j, hx, hy, hsame⟩ | ⟨i, hx, -, hy⟩ | ⟨hy, hwaiting, hloaded⟩
  · rw [hy]
    refine ⟨fun _ hzero out he => absurd ?_ (hn out he), fun _ => trivial⟩
    rw [hx] at hzero
    cases hzero
    rfl
  · rw [hy]
    dsimp only
    rw [htoken]
    constructor
    · rintro howned - out' heq record hrecord
      cases heq
      refine howned record channelId req.playerName ?_
      rw [hloaded, hrecord]
    · intro hown record id playerName hcompletion
      rw [hloaded] at hcompletion
      refine hown hx out rfl record ?_
      simp only [Option.some.injEq, Completion.mk.injEq] at hcompletion
      exact hcompletion.1
  · rw [hx] at h
    rw [hy]
    dsimp only at h ⊢
    rw [hsame, htoken]
    refine ⟨fun _ hzero => ?_, fun _ => h⟩
    rw [hx] at hzero
    cases hzero
  · rw [hx] at h
    dsimp only at h
    refine ⟨fun _ hzero => ?_, fun _ => ?_⟩
    · rw [hx] at hzero
      cases hzero
    · rw [hy]
      rcases completionAnswer_cases x.server i with hdropped |
        ⟨record, id, playerName, hcompletion, -, hanswered⟩
      · rw [hdropped]
        trivial
      · rw [hanswered]
        exact htoken.trans (h record id playerName hcompletion)
  · refine ⟨fun _ hzero => absurd hzero (hwaiting 0), fun _ => ?_⟩
    rw [hy]
    cases hprogress : x.progress with
    | waiting n => exact absurd hprogress (hwaiting n)
    | loaded i => exact absurd hprogress (hloaded i)
    | answered dbId =>
      rw [hprogress] at h
      exact htoken.trans h
    | dropped => trivial

end Step

/-! ## Success -/

/-- Between `s` and `t` the login on the channel succeeds, for the row. -/
structure Succeeds (env : Env) (channelId : Int32) (dbId : Int64) (s t : GameServer) : Prop where
  told : ∃ res : LoginRes, res.success = true ∧
    Handed env s channelId (pack 1001 0 1 0 res.serialize) t
  bound : s.config.useEcs = true → 0 < dbId → channelId ∈ t.channels →
    t.channelToDbId.lookup channelId = some dbId

/-- The session of a loaded player is bound to its row, if the answer does not close it. -/
theorem loaded_bound {i : Nat} {record : PlayerRecord} {playerName : List UInt8}
    (hstep : ServerStep env s (.completion i) t)
    (hcompletion : s.completions[i]? = some ⟨some record, channelId, playerName⟩)
    (hid : channelId ∈ s.channels) (hecs : s.config.useEcs = true) (hpos : 0 < record.id)
    (hopen : channelId ∈ t.channels) : t.channelToDbId.lookup channelId = some record.id := by
  have hentry : s.completionEntry i = some (recordEntry channelId playerName record) := by
    rw [completionEntry, hcompletion]
    exact if_pos ⟨hid, hecs⟩
  have hev : sessionEvent env s (.completion i)
      = some (.enter (recordEntry channelId playerName record)) := by
    rw [sessionEvent, hentry]
    rfl
  have hdbId : (recordEntry channelId playerName record).dbId = some record.id := if_pos hpos
  obtain ⟨closed, hclose, hchannel⟩ := serverStep_sessions hstep
  rw [sessionsAfter_some hev] at hclose
  change t.sessions.dbIds.lookup channelId = some record.id
  rcases hclose with hsame | hleft
  · rw [hsame]
    exact (Sessions.lookup_dbIds_enter hdbId).trans (if_pos rfl)
  · change channelId ∈ t.sessions.channels at hopen
    rw [hleft, ← hchannel _ hev] at hopen
    exact absurd rfl (AList.mem_erase.mp hopen).1

/-- The request is answered with success, and its session is bound to the row. -/
theorem answered_succeeds {req : LoginReq} {x y : Audited} {dbId : Int64}
    (hopen : RegisteredOpen x.server ∨ x.server.mtx = true) (htrack : OnTrack channelId req x)
    (hstep : AuditedStep env channelId x e y) (hx : x.progress ≠ .answered dbId)
    (hy : y.progress = .answered dbId) :
    Succeeds env channelId dbId x.server y.server := by
  rcases audited_cases htrack hstep with ⟨_, _, -, hy', -⟩ | ⟨_, _, -, -, hy', -⟩ |
    ⟨_, _, -, hy', -⟩ | ⟨i, hloaded, rfl, hy'⟩ | ⟨hy', -⟩
  · rw [hy] at hy'
    cases hy'
  · rw [hy] at hy'
    cases hy'
  · rw [hy] at hy'
    cases hy'
  · rw [hy] at hy'
    unfold OnTrack at htrack
    rw [hloaded] at htrack
    obtain ⟨found, hfound⟩ := htrack
    rcases completionAnswer_cases x.server i with hdropped |
      ⟨record, id, playerName, hcompletion, hid, hanswered⟩
    · rw [hdropped] at hy'
      cases hy'
    · rw [hanswered] at hy'
      cases hy'
      rw [hfound] at hcompletion
      cases hcompletion
      have hfree : x.server.mtx = false := hstep.1.1.1
      obtain ⟨res, hsuccess, -, hhanded⟩ :=
        loaded_handed env hfree (hopen.resolve_right (by simp [hfree])) hid hfound
      refine ⟨⟨res, hsuccess, ?_⟩, ?_⟩
      · rw [← hstep.1.2]
        exact hhanded
      · intro hecs hpos hregistered
        exact loaded_bound hstep.1 hfound hid hecs hpos hregistered
  · rw [hy] at hy'
    exact absurd hy'.symm hx

/-- The answer to a token that is not registered. -/
def invalidToken : LoginRes where
  success := false
  message := ascii "invalid_token"
  playerId := 0
  mapId := 0

theorem login_refused {payload rest : List UInt8} {req : LoginReq}
    (hparse : LoginReq.parse payload = .ok req rest)
    (htoken : s.tokenRejected req.sessionToken = true) :
    dispatch env 1001 channelId payload s
      = reply env channelId 1001 invalidToken.serialize s := by
  show handleLogin env channelId payload s = _
  unfold handleLogin
  rw [hparse]
  show (if s.tokenRejected req.sessionToken = true then _ else _ : ServerM Unit) s = _
  rw [if_pos htoken]
  rfl

theorem tokenRejected_iff {token : List UInt8} (hredis : s.storage.redis.isSome = true)
    (htoken : token ≠ []) :
    s.tokenRejected token = true ↔ s.playerOfToken token = none := by
  obtain ⟨redis, hsome⟩ := Option.isSome_iff_exists.mp hredis
  unfold tokenRejected playerOfToken
  rw [hsome]
  simp [htoken]

/-- A server with a Redis client, and one connection. The token is registered for the given
player. -/
def tokenServer (playerId : Int64) : GameServer :=
  { kimServer with
    storage :=
      { db := { rows := [kim], nextId := 2 }
        redis := some { tokens := (∅ : AList fun _ => Int64).insert (ascii "t") playerId } } }

theorem tokenServer_init (playerId : Int64) : ServerInit (tokenServer playerId) := by
  constructor <;> rfl

/-- The LOGIN of kim with the token. -/
def tokenReq : LoginReq := { playerName := ascii "kim", sessionToken := ascii "t" }

theorem tokenReq_parse : LoginReq.parse tokenReq.serialize = .ok tokenReq [] :=
  LoginReq.parse_serialize (m := tokenReq) (by decide) (by decide) []

/-- The server with one connection. -/
def tokenConnected (playerId : Int64) : GameServer :=
  execute plainEnv (tokenServer playerId) [.accept 1 0]

theorem tokenConnected_reachable (playerId : Int64) :
    Reachable ServerInit (ServerStep plainEnv) (tokenConnected playerId) := by
  refine ⟨_, [.accept 1 0], tokenServer_init playerId, run_execute ?_⟩
  exact ⟨⟨rfl, AList.notMem_empty 1⟩, trivial⟩

end EcsAsioServer.GameServer
