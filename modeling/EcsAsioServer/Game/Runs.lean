import EcsAsioServer.Game.Handlers
import EcsAsioServer.Lib.Transition

/-!
# Runs of the server

The server as a transition system. The io thread takes events one at a time: a new
connection, a frame, a completion or an error of a channel, a timer, a posted login
completion. The DB pool runs the head of any strand at any time, and the game threads
may change entities and components. An io event is possible only while the io thread
is free, so nothing but the pool and the game threads moves after a self-deadlock.

`Kept I E` lists the changes that the io thread makes to the state, each with what
the code has established before it. A property `I` that survives each of them is kept
by the handler of every message (`Kept.dispatch`); `E` is what is left of it when the io
thread is stuck. `CoreKept` leaves out the guilds, `HandlerKept` the completions as well, and
`DirectKept` the queues of the game threads, too. `ServerKept` adds new connections and the DB
pool, and then holds along every run (`ServerKept.step`, `ServerKept.run`). Invariants of the
server are proved by checking the list.
-/

namespace EcsAsioServer.GameServer

open Db Ecs FrameCodec Protocol StateProgram Transition

/-! ## Events -/

/-- What can happen to the server. -/
inductive ServerEvent where
  /-- A connection is accepted and its channel started. -/
  | accept (channelId : Int32) (now : Nat)
  /-- A channel delivers a frame. -/
  | frame (channelId : Int32) (cmd : UInt16) (payload : List UInt8)
  | written (channelId : Int32) (now : Nat)
  | writeError (channelId : Int32)
  | readError (channelId : Int32)
  | idleTimer (channelId : Int32) (now : Nat)
  | pingTimer (channelId : Int32)
  | flushTimer
  /-- The `i`-th of the posted login completions runs. -/
  | completion (i : Nat)
  /-- The pool runs the head of the strand of a channel. -/
  | strand (channelId : Int32) (out : DbOutcome)
  /-- The game threads change entities and components. -/
  | gameThreads (ecs : GameService ComponentType.Val)

/-- The DB pool runs the head of a strand. -/
def runStrand (env : Env) (s : GameServer) (channelId : Int32) (out : DbOutcome) : GameServer :=
  match s.dbPool.pending channelId with
  | [] => s
  | task :: _ =>
    let (storage, completion) := s.storage.run env.mySql out task
    { s with
      storage
      dbPool := s.dbPool.advance channelId
      completions := s.completions ++ completion.toList }

/-- A task changes the storage, the pool and the completions only. -/
theorem runStrand_eq (env : Env) (s : GameServer) (channelId : Int32) (out : DbOutcome) :
    ∃ storage completions, s.runStrand env channelId out
      = { s with storage, dbPool := s.dbPool.advance channelId, completions } := by
  unfold runStrand
  cases h : s.dbPool.pending channelId with
  | nil =>
    refine ⟨s.storage, s.completions, ?_⟩
    rw [Strands.Pool.advance, h]
  | cons task rest => exact ⟨_, _, rfl⟩

@[simp] theorem runStrand_mtx (env : Env) (s : GameServer) (channelId : Int32)
    (out : DbOutcome) : (s.runStrand env channelId out).mtx = s.mtx := by
  obtain ⟨storage, completions, heq⟩ := runStrand_eq env s channelId out
  rw [heq]

/-- `do_accept`: a new channel object, started. -/
def acceptChannel (channelId : Int32) (now : Nat) : ServerM Unit := do
  modify fun s => { s with net := s.net.insert channelId { channelId } }
  callChannel channelId fun ch => ch.start now

/-- A posted login completion runs. -/
def runCompletion (env : Env) (i : Nat) : ServerM Unit := do
  match (← get).completions[i]? with
  | none => pure ()
  | some c =>
    modify fun s => { s with completions := s.completions.eraseIdx i }
    loginCompleted env c

theorem after_runCompletion (env : Env) {s : GameServer} {i : Nat} {c : Completion}
    (h : s.completions[i]? = some c) : after (runCompletion env i) s
      = after (loginCompleted env c) { s with completions := s.completions.eraseIdx i } := by
  rw [runCompletion, after_bind_ok (get_apply s), h]
  rfl

/-- The program of an event. -/
def act (env : Env) : ServerEvent → ServerM Unit
  | .accept channelId now => acceptChannel channelId now
  | .frame channelId cmd payload => dispatch env cmd channelId payload
  -- a channel that closed stays in `net`: its completions still arrive
  | .written channelId now =>
    callChannel channelId fun ch => (ch.writeDone env.order now, [])
  | .writeError channelId => callChannel channelId AsioChannel.writeFailed
  | .readError channelId => callChannel channelId AsioChannel.readFailed
  | .idleTimer channelId now => callChannel channelId fun ch => ch.idleExpired now
  | .pingTimer channelId => callChannel channelId fun ch => ch.pingExpired env.order
  | .flushTimer => flushPlayers
  | .completion i => runCompletion env i
  | .strand channelId out => modify fun s => s.runStrand env channelId out
  | .gameThreads ecs => modify fun s => { s with ecs }

/-- When an event is possible. Ids are not reused, and frames are delivered between
`on_accept` and `on_close`. -/
def Enabled (s : GameServer) : ServerEvent → Prop
  | .accept channelId _ => s.mtx = false ∧ channelId ∉ s.net
  | .frame channelId _ _ => s.mtx = false ∧ channelId ∈ s.channels
  | .completion i => s.mtx = false ∧ i < s.completions.length
  -- other threads than the io thread: they run while it is stuck, too
  | .strand channelId _ => s.dbPool.pending channelId ≠ []
  | .gameThreads _ => True
  | _ => s.mtx = false

/-- One event. -/
def ServerStep (env : Env) (s : GameServer) (e : ServerEvent) (t : GameServer) : Prop :=
  Enabled s e ∧ after (act env e) s = t

instance (s : GameServer) : DecidablePred (Enabled s) := fun e => by
  cases e <;> unfold Enabled <;> infer_instance

/-- The state after a list of events. -/
def execute (env : Env) (s : GameServer) (es : List ServerEvent) : GameServer :=
  es.foldl (fun s e => after (act env e) s) s

theorem execute_single (env : Env) (s : GameServer) (e : ServerEvent) :
    execute env s [e] = after (act env e) s := rfl

theorem execute_append (env : Env) (s : GameServer) (es es' : List ServerEvent) :
    execute env s (es ++ es') = execute env (execute env s es) es' :=
  List.foldl_append

/-- Each event of the list is possible when its turn comes. -/
def Executable (env : Env) : GameServer → List ServerEvent → Prop
  | _, [] => True
  | s, e :: es => Enabled s e ∧ Executable env (after (act env e) s) es

instance (env : Env) : (s : GameServer) → DecidablePred (Executable env s) := by
  intro s es
  induction es generalizing s with
  | nil => exact .isTrue trivial
  | cons e es ih => exact @instDecidableAnd _ _ _ (ih _)

variable {s : GameServer} {es : List ServerEvent} {env : Env} {I E : GameServer → Prop}

theorem run_execute (h : Executable env s es) : Run (ServerStep env) s es (execute env s es) := by
  induction es generalizing s with
  | nil => exact .nil
  | cons e es ih => exact (Run.single ⟨h.1, rfl⟩).append (ih h.2)

/-- A list of events after each of which the state is good. -/
theorem run_execute_staying {P : GameServer → Prop} (h : Executable env s es)
    (hP : ∀ n < es.length, P (execute env s (es.take (n + 1)))) :
    Run (staying P (ServerStep env)) s es (execute env s es) := by
  induction es generalizing s with
  | nil => exact .nil
  | cons e es ih =>
    have hfirst : staying P (ServerStep env) s e (after (act env e) s) :=
      ⟨⟨h.1, rfl⟩, hP 0 (Nat.zero_lt_succ _)⟩
    refine (Run.single hfirst).append (ih h.2 fun n hn => ?_)
    exact hP (n + 1) (Nat.succ_lt_succ hn)

/-- Each event of the list meets the condition when its turn comes. -/
def Meets (env : Env) (ok : GameServer → ServerEvent → Prop) :
    GameServer → List ServerEvent → Prop
  | _, [] => True
  | s, e :: es => ok s e ∧ Meets env ok (after (act env e) s) es

instance (env : Env) (ok : GameServer → ServerEvent → Prop) [∀ s e, Decidable (ok s e)] :
    (s : GameServer) → DecidablePred (Meets env ok s) := by
  intro s es
  induction es generalizing s with
  | nil => exact .isTrue trivial
  | cons e es ih => exact @instDecidableAnd _ _ _ (ih _)

/-- A list of events that all meet a condition. -/
theorem run_execute_guarded {ok : GameServer → ServerEvent → Prop} (h : Executable env s es)
    (hok : Meets env ok s es) :
    Run (guarded ok (ServerStep env)) s es (execute env s es) := by
  induction es generalizing s with
  | nil => exact .nil
  | cons e es ih =>
    have hfirst : guarded ok (ServerStep env) s e (after (act env e) s) := ⟨hok.1, h.1, rfl⟩
    exact (Run.single hfirst).append (ih h.2 hok.2)

/-- The server after `init`: no connections. The game threads run exactly if the
entity component system is in use. -/
structure ServerInit (s : GameServer) : Prop where
  mtx : s.mtx = false
  channels : s.channels = ∅
  net : s.net = ∅
  channelToEntity : s.channelToEntity = ∅
  channelToDbId : s.channelToDbId = ∅
  dbStrands : s.dbStrands = ∅
  playerMapMapping : s.playerMapMapping = ∅
  guilds : s.guilds = ∅
  channelToGuild : s.channelToGuild = ∅
  mainThreadManager : s.mainThreadManager.isSome = s.config.useEcs
  dbPool : s.dbPool = .empty
  completions : s.completions = []

/-! ## The changes of the io thread -/

/-- Changes that no handler needs a reason for: components, and the lock. `I` is the
property outside the lock, `J` inside. -/
structure QuietKept (I J E : GameServer → Prop) : Prop where
  lock : ∀ s, s.mtx = false → I s → J { s with mtx := true }
  unlock : ∀ s, J s → I { s with mtx := false }
  locked : ∀ s, s.mtx = true → I s → E s
  ecs : ∀ s ecs, I s → I { s with ecs }
  ecsLocked : ∀ s ecs, J s → J { s with ecs }

/-- The changes that handlers make themselves, outside the guild messages. -/
structure DirectKept (I E : GameServer → Prop) : Prop where
  mtx : ∀ s b, I s → I { s with mtx := b }
  locked : ∀ s, s.mtx = true → I s → E s
  ecs : ∀ s ecs, I s → I { s with ecs }
  net : ∀ s id ch ch', s.net.lookup id = some ch → ch'.closed = ch.closed → I s →
    I { s with net := s.net.insert id ch' }
  close : ∀ s id ch ch' ecs, s.net.lookup id = some ch → ch.closed = false →
    ch'.closed = true → s.mtx = false → I s →
    I (closeWith { s with net := s.net.insert id ch' } id ecs)
  stuck : ∀ s id ch ch', s.net.lookup id = some ch → ch.closed = false →
    ch'.closed = true → s.mtx = true → I s → E { s with net := s.net.insert id ch' }
  setEntity : ∀ s id entity, id ∈ s.channels → I s →
    I { s with channelToEntity := s.channelToEntity.insert id entity }
  eraseEntity : ∀ s id, I s → I { s with channelToEntity := s.channelToEntity.erase id }
  setDbId : ∀ s id dbId, id ∈ s.channels → I s →
    I { s with channelToDbId := s.channelToDbId.insert id dbId }
  setMap : ∀ s id mapId, id ∈ s.channels → s.mainThreadManager.isSome = true → I s →
    I { s with playerMapMapping := s.playerMapMapping.insert id mapId }
  post : ∀ s id task, id ∈ s.dbStrands → I s →
    I { s with dbPool := s.dbPool.post id task }

/-- The changes that handlers make outside the guild messages. MOVE and CHAT may queue
something for the game threads. -/
structure HandlerKept (I E : GameServer → Prop) : Prop extends DirectKept I E where
  mainThread : ∀ s f, I s → I { s with mainThreadManager := s.mainThreadManager.map f }

/-- The changes that handlers make themselves. -/
structure GuildKept (I E : GameServer → Prop) : Prop extends DirectKept I E where
  guild : ∀ s guilds channelToGuild nextGuildId, I s →
    I { s with guilds, channelToGuild, nextGuildId }

/-- The changes of the io thread outside the guild messages. -/
structure CoreKept (I E : GameServer → Prop) : Prop extends HandlerKept I E where
  completions : ∀ s completions, completions.Sublist s.completions → I s →
    I { s with completions }

/-- The changes of the io thread. -/
structure Kept (I E : GameServer → Prop) : Prop extends CoreKept I E, GuildKept I E

theorem DirectKept.quiet (h : DirectKept I E) : QuietKept I I E where
  lock s _ := h.mtx s true
  unlock s := h.mtx s false
  locked := h.locked
  ecs := h.ecs
  ecsLocked := h.ecs

section Quiet

variable {I J E : GameServer → Prop} {α : Type} {body : ServerM α}

theorem QuietKept.withMtx {Q R : α → GameServer → Prop} (h : QuietKept I J E)
    (hQ : ∀ a s, Q a s → R a { s with mtx := false }) (hbody : Triple J body Q fun _ => E) :
    Triple I (withMtx body) R fun _ => E := by
  intro s hs
  cases hm : s.mtx with
  | true =>
    rw [withMtx_locked hm]
    exact h.locked s hm hs
  | false =>
    have hb := hbody _ (h.lock s hm hs)
    cases hr : body { s with mtx := true } with
    | ok a s' =>
      rw [hr] at hb
      rw [withMtx_ok hm hr]
      exact hQ a s' hb
    | error e s' =>
      rw [hr] at hb
      rw [withMtx_error hm hr]
      exact hb

/-- A postcondition that does not read the lock. -/
theorem QuietKept.withMtx_post {Q : α → GameServer → Prop} (h : QuietKept I J E)
    (hQ : ∀ a s, Q a s → Q a { s with mtx := false }) (hbody : Triple J body Q fun _ => E) :
    Triple I (GameServer.withMtx body) Q fun _ => E :=
  h.withMtx hQ hbody

theorem QuietKept.keeps_withMtx (h : QuietKept I J E) (hbody : Keeps J E body) :
    Keeps I E (GameServer.withMtx body) :=
  h.withMtx (fun _ s => h.unlock s) hbody

theorem keeps_getComponent (hecs : ∀ s ecs, I s → I { s with ecs }) (t : ComponentType)
    (entity : Entity) : Keeps I E (GameServer.getComponent t entity) := by
  intro s hs
  rw [getComponent_apply]
  exact hecs s _ hs

theorem QuietKept.getComponent (h : QuietKept I J E) (t : ComponentType) (entity : Entity) :
    Keeps I E (GameServer.getComponent t entity) :=
  keeps_getComponent h.ecs t entity

theorem QuietKept.addComponent (h : QuietKept I J E) (t : ComponentType) (entity : Entity)
    (c : t.Val) : Keeps I E (GameServer.addComponent t entity c) :=
  .modify fun s hs => h.ecs s _ hs

theorem QuietKept.destroyEntity (h : QuietKept I J E) (entity : Entity) :
    Keeps I E (GameServer.destroyEntity entity) :=
  .modify fun s hs => h.ecs s _ hs

theorem QuietKept.spawnPlayer (h : QuietKept I J E) (playerName : List UInt8)
    (playerId : Entity → UInt32) (channelId : Int32) (mapId : UInt32) (pos : Position)
    (health : Health) :
    Keeps I E (GameServer.spawnPlayer playerName playerId channelId mapId pos health) := by
  refine Keeps.bind ?_ fun player => ?_
  · intro s hs
    exact h.ecs s _ hs
  · refine (h.addComponent _ _ _).bind fun _ => (h.addComponent _ _ _).bind fun _ => ?_
    exact (h.addComponent _ _ _).bind fun _ => (h.addComponent _ _ _).bind fun _ => .pure _

theorem QuietKept.findEntity (h : QuietKept I J E) (channelId : Int32) :
    Keeps I E (GameServer.findEntity channelId) :=
  h.keeps_withMtx (Keeps.get.bind fun _ => .pure _)

theorem QuietKept.movePlayer (h : QuietKept I J E) (channelId : Int32) (req : PlayerMoveReq) :
    Keeps I E (GameServer.movePlayer channelId req) := by
  refine (h.findEntity channelId).bind fun player => .ite (fun _ => ?_) fun _ => .pure _
  refine (h.getComponent .position player).bind fun pos => ?_
  cases pos with
  | none => exact .pure _
  | some _ => exact h.addComponent _ _ _

theorem QuietKept.takeDamage (h : QuietKept I J E) (entity : Entity) (damage : UInt32) :
    Keeps I E (GameServer.takeDamage entity damage) := by
  refine (h.getComponent .health entity).bind fun health => ?_
  cases health with
  | none => exact .pure _
  | some _ => exact h.addComponent _ _ _

theorem QuietKept.getHp (h : QuietKept I J E) (entity : Entity) :
    Keeps I E (GameServer.getHp entity) := by
  refine (h.getComponent .health entity).bind fun health => ?_
  cases health with
  | none => exact .pure _
  | some _ => exact .pure _

theorem QuietKept.setPlayerMapId (h : QuietKept I J E) (channelId : Int32) (mapId : UInt32) :
    Keeps I E (GameServer.setPlayerMapId channelId mapId) := by
  refine h.keeps_withMtx (Keeps.get.bind fun s => ?_)
  cases s.channelToEntity.lookup channelId with
  | none => exact .pure _
  | some entity =>
    refine (keeps_getComponent h.ecsLocked .player entity).bind fun player => ?_
    cases player with
    | none => exact .pure _
    | some _ => exact .modify fun s hs => h.ecsLocked s _ hs

theorem QuietKept.flushTask (h : QuietKept I J E) (entity : Entity) (dbId : Int64) :
    Keeps I E (GameServer.flushTask entity dbId) := by
  refine (h.getComponent .position entity).bind fun pos =>
    (h.getComponent .player entity).bind fun player => ?_
  exact .pure _

theorem QuietKept.findChannel (h : QuietKept I J E) (channelId : Int32) :
    Keeps I E (GameServer.findChannel channelId) :=
  h.keeps_withMtx (Keeps.get.bind fun _ => .pure _)

end Quiet

/-! ## Every handler makes only these changes -/

section Handlers

variable {I E : GameServer → Prop}

/-- The property, at a moment when the channel is registered. -/
def Here (I : GameServer → Prop) (channelId : Int32) (s : GameServer) : Prop :=
  I s ∧ channelId ∈ s.channels

theorem DirectKept.here (h : DirectKept I E) (channelId : Int32) :
    QuietKept (Here I channelId) (Here I channelId) E where
  lock s _ hs := ⟨h.mtx s true hs.1, hs.2⟩
  unlock s hs := ⟨h.mtx s false hs.1, hs.2⟩
  locked s hm hs := h.locked s hm hs.1
  ecs s ecs hs := ⟨h.ecs s ecs hs.1, hs.2⟩
  ecsLocked s ecs hs := ⟨h.ecs s ecs hs.1, hs.2⟩

theorem DirectKept.callChannel (h : DirectKept I E) (channelId : Int32)
    {call : AsioChannel → AsioChannel × List Callback}
    (hcall : ∀ ch, AsioChannel.Ends ch (call ch)) :
    Keeps I E (GameServer.callChannel channelId call) := by
  intro s hs
  -- no such channel, a call that reports nothing, or one that closes the channel
  rcases callChannel_cases channelId hcall s with heq | ⟨ch, hch, ⟨hclosed, heq⟩ |
    ⟨hopen, hclosed, heq⟩⟩
  · rw [heq]
    exact hs
  · rw [heq]
    exact h.net s channelId ch _ hch hclosed hs
  · rw [heq]
    let s' : GameServer := { s with net := s.net.insert channelId (call ch).1 }
    -- `on_close` locks `mtx_`, which the caller may hold already
    by_cases hm : s.mtx = true
    · rw [onClose_locked (show s'.mtx = true from hm) channelId]
      exact h.stuck s channelId ch _ hch hopen hclosed hm hs
    · rw [Bool.not_eq_true] at hm
      obtain ⟨ecs, hok⟩ := onClose_ok (show s'.mtx = false from hm) channelId
      rw [hok]
      exact h.close s channelId ch _ ecs hch hopen hclosed hm hs

variable (env : Env)

theorem DirectKept.sendFrame (h : DirectKept I E) (channelId : Int32) (msgId : UInt16)
    (data : List UInt8) : Keeps I E (GameServer.sendFrame env channelId msgId data) := by
  unfold GameServer.sendFrame
  exact h.callChannel channelId (sendPacket_ends env _)

theorem DirectKept.sendTestFrame (h : DirectKept I E) (channelId : Int32) (msgId : UInt16)
    (data : List UInt8) : Keeps I E (GameServer.sendTestFrame env channelId msgId data) := by
  refine h.quiet.keeps_withMtx (Keeps.get.bind fun s => .ite (fun _ => ?_) fun _ => .pure _)
  exact h.sendFrame env channelId msgId data

theorem DirectKept.broadcast (h : DirectKept I E) (cmd : UInt16) (data : List UInt8) :
    Keeps I E (GameServer.broadcast env cmd data) := by
  refine h.quiet.keeps_withMtx (Keeps.get.bind fun s => .forM fun id _ => ?_)
  exact h.callChannel id (sendPacket_ends env _)

theorem DirectKept.broadcastExcept (h : DirectKept I E) (excludeChannelId : Int32) (cmd : UInt16)
    (data : List UInt8) :
    Keeps I E (GameServer.broadcastExcept env excludeChannelId cmd data) := by
  refine h.quiet.keeps_withMtx (Keeps.get.bind fun s => .forM fun id _ => ?_)
  exact .ite (fun _ => h.callChannel id (sendPacket_ends env _)) fun _ => .pure _

theorem DirectKept.reply (h : DirectKept I E) (channelId : Int32) (msgId : UInt16)
    (data : List UInt8) : Keeps I E (GameServer.reply env channelId msgId data) := by
  refine (h.quiet.findChannel channelId).bind fun found => .ite (fun _ => ?_) fun _ => .pure _
  exact h.sendFrame env channelId msgId data

/-- Passing from `Here` back to the property. -/
theorem forget_here {α : Type} {channelId : Int32} {x : ServerM α} (hx : Keeps I E x) :
    Triple (Here I channelId) x (fun _ => I) fun _ => E :=
  hx.conseq (fun _ hs => hs.1) (fun _ _ hs => hs) fun _ _ hs => hs

theorem DirectKept.enterWithoutDb (h : DirectKept I E) (channelId : Int32)
    (playerName : List UInt8) :
    Keeps (Here I channelId) E (GameServer.enterWithoutDb channelId playerName) := by
  have hhere := h.here channelId
  refine Keeps.get.bind fun s => .ite (fun _ => ?_) fun _ => .pure _
  refine (hhere.spawnPlayer _ _ _ _ _ _).bind fun player => Keeps.bind ?_ fun _ => .pure _
  refine hhere.keeps_withMtx (.modify ?_)
  rintro s ⟨hs, hid⟩
  exact ⟨h.setEntity s channelId player hid hs, hid⟩

theorem DirectKept.loginWithoutDb (h : DirectKept I E) (channelId : Int32) (req : LoginReq) :
    Triple (Here I channelId) (GameServer.loginWithoutDb env channelId req)
      (fun _ => I) fun _ => E :=
  (h.enterWithoutDb channelId req.playerName).seq fun _ =>
    forget_here (h.reply env channelId 1001 _)

theorem DirectKept.loginWithDb (h : DirectKept I E) (channelId : Int32) (req : LoginReq) :
    Keeps I E (GameServer.loginWithDb channelId req) := by
  -- the lock is released between finding the strand and posting to it, but no other
  -- io event comes in between
  refine Triple.bind (Q := fun strand s => I s ∧ (strand = true → channelId ∈ s.dbStrands))
    (h.quiet.withMtx_post ?_ ?_) fun strand => ?_
  · rintro strand s ⟨hs, hstrand⟩
    exact ⟨h.mtx s false hs, hstrand⟩
  · intro s hs
    exact ⟨hs, fun hstrand => of_decide_eq_true hstrand⟩
  · rintro s ⟨hs, hstrand⟩
    cases strand with
    | false => exact hs
    | true => exact h.post s channelId _ (hstrand rfl) hs

theorem DirectKept.handleLogin (h : DirectKept I E) (channelId : Int32) (payload : List UInt8) :
    Triple (Here I channelId) (GameServer.handleLogin env channelId payload)
      (fun _ => I) fun _ => E := by
  unfold GameServer.handleLogin
  have hget : Keeps (Here I channelId) E (get : ServerM GameServer) := .get
  cases LoginReq.parse payload with
  | error _ _ => exact forget_here (.pure _)
  | ok req _ =>
    refine hget.seq fun s => ?_
    split
    · exact forget_here (h.reply env channelId 1001 _)
    · refine hget.seq fun s => ?_
      split
      · exact forget_here (h.loginWithDb channelId req)
      · exact h.loginWithoutDb env channelId req

theorem DirectKept.spawnRecord (h : DirectKept I E) (channelId : Int32) (playerName : List UInt8)
    (record : PlayerRecord) :
    Keeps (Here I channelId) E (GameServer.spawnRecord channelId playerName record) := by
  have hhere := h.here channelId
  refine (hhere.spawnPlayer _ _ _ _ _ _).bind fun player => Keeps.bind ?_ fun _ => .pure _
  refine hhere.keeps_withMtx (Keeps.bind (.modify ?_) fun _ => .ite (fun _ => .modify ?_)
    fun _ => .pure _)
  · rintro s ⟨hs, hid⟩
    exact ⟨h.setEntity s channelId player hid hs, hid⟩
  · rintro s ⟨hs, hid⟩
    exact ⟨h.setDbId s channelId record.id hid hs, hid⟩

theorem DirectKept.enterGame (h : DirectKept I E) (channelId : Int32) (playerName : List UInt8)
    (record : PlayerRecord) :
    Keeps (Here I channelId) E (GameServer.enterGame channelId playerName record) :=
  Keeps.get.bind fun _ =>
    .ite (fun _ => h.spawnRecord channelId playerName record) fun _ => .pure _

theorem DirectKept.loginCompleted (h : DirectKept I E) (c : Completion) :
    Keeps I E (GameServer.loginCompleted env c) := by
  obtain ⟨record, channelId, playerName⟩ := c
  refine Triple.bind (Q := fun found s => I s ∧ (found = true → channelId ∈ s.channels))
    (h.quiet.withMtx_post ?_ ?_) fun found => ?_
  · rintro found s ⟨hs, hfound⟩
    exact ⟨h.mtx s false hs, hfound⟩
  · intro s hs
    exact ⟨hs, fun hfound => of_decide_eq_true hfound⟩
  · cases found with
    | false =>
      rintro s ⟨hs, -⟩
      exact hs
    | true =>
      -- the channel is registered, and stays so until the reply
      refine Triple.conseq (P := Here I channelId) ?_ (fun s hs => ⟨hs.1, hs.2 rfl⟩)
        (fun _ _ hs => hs) fun _ _ hs => hs
      cases record with
      | none => exact forget_here (h.reply env channelId 1001 _)
      | some record =>
        exact (h.enterGame channelId playerName record).seq fun player =>
          forget_here (h.reply env channelId 1001 _)

theorem HandlerKept.handleMove (h : HandlerKept I E) (channelId : Int32) (payload : List UInt8) :
    Keeps I E (GameServer.handleMove env channelId payload) := by
  unfold GameServer.handleMove
  cases PlayerMoveReq.parse payload with
  | error _ _ => exact .pure _
  | ok req _ =>
    have hdirect : Keeps I E (do
        GameServer.broadcastExcept env channelId 1002 (moveNotice channelId req)
        GameServer.sendTestFrame env channelId 1002 (ascii "ok")) :=
      (h.broadcastExcept env channelId 1002 _).bind fun _ =>
        h.sendTestFrame env channelId 1002 _
    refine Keeps.get.bind fun s => .ite (fun _ => ?_) fun _ => Keeps.get.bind fun s =>
      .ite (fun _ => ?_) fun _ => hdirect
    · exact .modify fun s hs => h.mainThread s _ hs
    · exact (h.quiet.movePlayer channelId req).bind fun _ => hdirect

theorem HandlerKept.handleChat (h : HandlerKept I E) (channelId : Int32) (payload : List UInt8) :
    Keeps I E (GameServer.handleChat env channelId payload) := by
  refine Keeps.get.bind fun s => .ite (fun _ => .modify fun s hs => h.mainThread s _ hs)
    fun _ => ?_
  exact (h.broadcast env 1003 _).bind fun _ => h.sendTestFrame env channelId 1003 _

theorem DirectKept.attackEntity (h : DirectKept I E) (channelId targetChannel : Int32)
    (target : Entity) (req : AttackReq) :
    Keeps I E (GameServer.attackEntity env channelId targetChannel target req) := by
  refine (h.quiet.takeDamage target _).bind fun _ =>
    (h.quiet.getHp target).bind fun remainingHp => ?_
  refine (h.sendTestFrame env channelId 1004 _).bind fun _ =>
    (h.broadcastExcept env channelId 1004 _).bind fun _ => .ite (fun _ => ?_) fun _ => .pure _
  -- the killed player loses the entity, its channel stays
  refine (h.quiet.destroyEntity target).bind fun _ => h.quiet.keeps_withMtx (.modify fun s hs => ?_)
  exact h.eraseEntity s targetChannel hs

theorem DirectKept.handleAttack (h : DirectKept I E) (channelId : Int32) (payload : List UInt8) :
    Keeps I E (GameServer.handleAttack env channelId payload) := by
  unfold GameServer.handleAttack
  cases AttackReq.parse payload with
  | error _ _ => exact .pure _
  | ok req _ =>
    refine (h.quiet.keeps_withMtx (Keeps.get.bind fun s => .pure _)).bind fun entities => ?_
    refine .ite (fun _ => h.sendTestFrame env channelId 1004 _) fun _ => ?_
    exact h.attackEntity env channelId _ entities.2 req

theorem DirectKept.switchMap (h : DirectKept I E) (channelId targetMapId : Int32) :
    Keeps (Here I channelId) E (GameServer.switchMap channelId targetMapId) := by
  rintro s ⟨hs, hid⟩
  rw [GameServer.switchMap, get_bind_apply, get_bind_apply]
  by_cases hcond : s.mainThreadManager.isSome = true ∧ s.getPlayerMap channelId ≠ targetMapId
  · rw [if_pos hcond]
    exact ⟨h.setMap s channelId targetMapId hid hcond.1 hs, hid⟩
  · rw [if_neg hcond]
    exact ⟨hs, hid⟩

theorem DirectKept.handleMapEnter (h : DirectKept I E) (channelId : Int32) (payload : List UInt8) :
    Triple (Here I channelId) (GameServer.handleMapEnter env channelId payload)
      (fun _ => I) fun _ => E := by
  unfold GameServer.handleMapEnter
  cases MapEnterReq.parse payload with
  | error _ _ => exact forget_here (.pure _)
  | ok req _ =>
    have hget : Keeps (Here I channelId) E (get : ServerM GameServer) := .get
    refine hget.seq fun s => ?_
    cases s.config.maps.find? fun m => m.id = req.mapId.toInt32 with
    | none => exact forget_here (h.sendTestFrame env channelId 1005 _)
    | some mapCfg =>
      refine (h.switchMap channelId _).seq fun _ => ?_
      refine ((h.here channelId).setPlayerMapId channelId _).seq fun _ => ?_
      exact forget_here (h.sendTestFrame env channelId 1005 _)

theorem GuildKept.handleGuildCreate (h : GuildKept I E) (channelId : Int32) (payload : List UInt8) :
    Keeps I E (GameServer.handleGuildCreate env channelId payload) := by
  unfold GameServer.handleGuildCreate
  cases GuildCreateReq.parse payload with
  | error _ _ => exact .pure _
  | ok req _ =>
    refine Keeps.get.bind fun s => .ite (fun _ => h.sendTestFrame env channelId 2001 _)
      fun _ => ?_
    refine Keeps.bind ?_ fun guildId => h.sendTestFrame env channelId 2001 _
    refine Keeps.get.bind fun s => Keeps.bind (.modify ?_) fun _ => .pure _
    exact fun s hs => h.guild s _ _ _ hs

theorem GuildKept.handleGuildJoin (h : GuildKept I E) (channelId : Int32) (payload : List UInt8) :
    Keeps I E (GameServer.handleGuildJoin env channelId payload) := by
  unfold GameServer.handleGuildJoin
  cases GuildJoinReq.parse payload with
  | error _ _ => exact .pure _
  | ok req _ =>
    refine Keeps.get.bind fun s => ?_
    cases s.guilds.lookup req.guildId with
    | none => exact h.sendTestFrame env channelId 2002 _
    | some guild =>
      refine Keeps.get.bind fun s => .ite (fun _ => h.sendTestFrame env channelId 2002 _)
        fun _ => Keeps.bind (.modify ?_) fun _ => h.sendTestFrame env channelId 2002 _
      exact fun s hs => h.guild s _ _ _ hs

theorem GuildKept.leaveGuild (h : GuildKept I E) {s : GameServer} (hs : I s) (channelId : Int32)
    (guildId : UInt32) : I (s.leaveGuild channelId guildId) := by
  unfold GameServer.leaveGuild
  dsimp only
  split
  · exact h.guild s _ _ _ hs
  · split
    · exact h.guild s _ _ _ hs
    · exact h.guild s _ _ _ hs

theorem GuildKept.handleGuildLeave (h : GuildKept I E) (channelId : Int32) :
    Keeps I E (GameServer.handleGuildLeave env channelId) := by
  refine Keeps.get.bind fun s => ?_
  cases s.channelToGuild.lookup channelId with
  | none => exact .pure _
  | some guildId =>
    refine Keeps.bind (.modify fun s hs => ?_) fun _ => h.sendTestFrame env channelId 2003 _
    exact h.leaveGuild hs channelId guildId

/-- The messages that change the guilds. -/
def MessageId.isGuild : MessageId → Bool
  | .guildCreate | .guildJoin | .guildLeave => true
  | _ => false

/-- The messages that may queue something for the game threads. -/
def MessageId.isQueued : MessageId → Bool
  | .move | .chat => true
  | _ => false

variable {msg : MessageId}

theorem DirectKept.handle (h : DirectKept I E) (hguild : msg.isGuild = false)
    (hqueued : msg.isQueued = false) (channelId : Int32) (payload : List UInt8) :
    Triple (Here I channelId) (GameServer.handle env channelId payload msg)
      (fun _ => I) fun _ => E := by
  cases msg with
  -- only LOGIN and MAP_ENTER rely on the channel being registered
  | ping => exact forget_here (h.reply env channelId 2 _)
  | echo => exact forget_here (h.reply env channelId 100 _)
  | login => exact h.handleLogin env channelId payload
  | attack => exact forget_here (h.handleAttack env channelId payload)
  | mapEnter => exact h.handleMapEnter env channelId payload
  | guildCreate | guildJoin | guildLeave => cases hguild
  | move | chat => cases hqueued

/-- The messages that the io thread handles alone. -/
theorem GuildKept.handle (h : GuildKept I E) (hqueued : msg.isQueued = false) (channelId : Int32)
    (payload : List UInt8) :
    Triple (Here I channelId) (GameServer.handle env channelId payload msg)
      (fun _ => I) fun _ => E := by
  cases msg with
  | guildCreate => exact forget_here (h.handleGuildCreate env channelId payload)
  | guildJoin => exact forget_here (h.handleGuildJoin env channelId payload)
  | guildLeave => exact forget_here (h.handleGuildLeave env channelId)
  | ping | echo | login | move | chat | attack | mapEnter =>
    exact h.toDirectKept.handle env rfl hqueued channelId payload

/-- The messages outside the guilds. -/
theorem HandlerKept.handle (h : HandlerKept I E) (hguild : msg.isGuild = false) (channelId : Int32)
    (payload : List UInt8) :
    Triple (Here I channelId) (GameServer.handle env channelId payload msg)
      (fun _ => I) fun _ => E := by
  cases msg with
  | move => exact forget_here (h.handleMove env channelId payload)
  | chat => exact forget_here (h.handleChat env channelId payload)
  | ping | echo | login | attack | mapEnter | guildCreate | guildJoin | guildLeave =>
    exact h.toDirectKept.handle env hguild rfl channelId payload

/-- **Every message**: what survives the changes of the io thread is kept by the
handler of any message from a registered channel. -/
theorem Kept.dispatch (h : Kept I E) (cmd : UInt16) (channelId : Int32) (payload : List UInt8) :
    Triple (Here I channelId) (GameServer.dispatch env cmd channelId payload)
      (fun _ => I) fun _ => E := by
  unfold GameServer.dispatch
  cases messageId cmd with
  | none => exact forget_here (.pure _)
  | some msg =>
    cases hqueued : msg.isQueued with
    | false => exact h.toGuildKept.handle env hqueued channelId payload
    | true =>
      have hguild : msg.isGuild = false := by cases msg <;> first | rfl | cases hqueued
      exact h.toHandlerKept.handle env hguild channelId payload

/-- The property, with the map of strands as it is now. -/
def Now (I : GameServer → Prop) (strands : ChannelMap Unit) (s : GameServer) : Prop :=
  I s ∧ s.dbStrands = strands

theorem DirectKept.now (h : DirectKept I E) (strands : ChannelMap Unit) :
    QuietKept (Now I strands) (Now I strands) E where
  lock s _ hs := ⟨h.mtx s true hs.1, hs.2⟩
  unlock s hs := ⟨h.mtx s false hs.1, hs.2⟩
  locked s hm hs := h.locked s hm hs.1
  ecs s ecs hs := ⟨h.ecs s ecs hs.1, hs.2⟩
  ecsLocked s ecs hs := ⟨h.ecs s ecs hs.1, hs.2⟩

/-- Only channels with a strand get an entry. -/
theorem DirectKept.flushEntries (h : DirectKept I E) (strands : ChannelMap Unit)
    (ids : List (Int32 × Int64)) :
    Triple (Now I strands) (GameServer.flushEntries ids)
      (fun entries s => Now I strands s ∧ ∀ e ∈ entries, e.1 ∈ strands) fun _ => E := by
  induction ids with
  | nil =>
    intro s hs
    refine ⟨hs, ?_⟩
    intro e he
    cases he
  | cons id rest ih =>
    obtain ⟨channelId, dbId⟩ := id
    intro s hs
    rw [GameServer.flushEntries, get_bind_apply]
    cases hentity : s.channelToEntity.lookup channelId with
    | none => exact ih s hs
    | some entity =>
      cases hstrand : s.dbStrands.lookup channelId with
      | none => exact ih s hs
      | some strand =>
        have hmem : channelId ∈ strands := by
          rw [← hs.2, ← AList.lookup_isSome, hstrand]
          rfl
        refine ((h.now strands).flushTask entity dbId).seq (fun task => ?_) s hs
        refine ih.bind fun entries => ?_
        rintro s ⟨hs, hentries⟩
        refine ⟨hs, ?_⟩
        intro e he
        rcases List.mem_cons.mp he with rfl | hrest
        · exact hmem
        · exact hentries e hrest

theorem DirectKept.flushPlayers (h : DirectKept I E) : Keeps I E GameServer.flushPlayers := by
  intro s hs
  -- the entries are posted after the lock is released: the strands are still the same
  have hget : Keeps (Now I s.dbStrands) E (get : ServerM GameServer) := .get
  have hflush : Triple (Now I s.dbStrands) GameServer.flushPlayers (fun _ => I) fun _ => E := by
    refine hget.seq fun s' => ?_
    split
    · refine Triple.bind ((h.now s.dbStrands).withMtx_post ?_ (hget.seq fun s'' =>
        h.flushEntries s.dbStrands _)) fun entries => ?_
      · rintro entries s' ⟨hs', hentries⟩
        exact ⟨(h.now s.dbStrands).unlock s' hs', hentries⟩
      · rintro s' ⟨hs', hentries⟩
        refine Triple.conseq (P := Now I s.dbStrands) (Keeps.forM (E := E) fun e he => ?_)
          (fun _ hs => hs) (fun _ _ hs => hs.1) (fun _ _ hs => hs) s' hs'
        refine .modify fun s'' hs'' => ⟨h.post s'' e.1 e.2 ?_ hs''.1, hs''.2⟩
        rw [hs''.2]
        exact hentries e he
    · exact (Keeps.pure (I := Now I s.dbStrands) (E := E) _).conseq (fun _ hs => hs)
        (fun _ _ hs => hs.1) fun _ _ hs => hs
  exact hflush s ⟨hs, rfl⟩

end Handlers

/-! ## Every event -/

/-- The state after a connection was accepted. -/
def accepted (s : GameServer) (channelId : Int32) (ch : AsioChannel) : GameServer :=
  { s with
    mtx := false
    net := s.net.insert channelId ch
    channels := s.channels.insert channelId ()
    dbStrands := if s.hasDbPool then s.dbStrands.insert channelId () else s.dbStrands
    playerMapMapping :=
      if s.mainThreadManager.isSome then s.playerMapMapping.insert channelId 1
      else s.playerMapMapping }

theorem onAccept_ok (h : s.mtx = false) (channelId : Int32) :
    onAccept channelId s = .ok () { s with
      mtx := false
      channels := s.channels.insert channelId ()
      dbStrands := if s.hasDbPool then s.dbStrands.insert channelId () else s.dbStrands
      playerMapMapping :=
        if s.mainThreadManager.isSome then s.playerMapMapping.insert channelId 1
        else s.playerMapMapping } := by
  rw [onAccept, withMtx_free h]
  by_cases hpool : s.hasDbPool = true <;> by_cases hmain : s.mainThreadManager.isSome = true <;>
    simp [hpool, hmain, updatePlayerMap, bind_apply]

theorem acceptChannel_ok (h : s.mtx = false) (channelId : Int32) (now : Nat) :
    acceptChannel channelId now s
      = .ok () (s.accepted channelId (AsioChannel.start { channelId } now).1) := by
  let ch : AsioChannel := { channelId }
  rw [acceptChannel, modify_bind_apply, callChannel, get_bind_apply, AList.lookup_insert]
  show (onAccept channelId >>= fun _ => (pure () : ServerM Unit))
    { s with net := (s.net.insert channelId ch).insert channelId (ch.start now).1 } = _
  rw [AList.insert_insert]
  let s' : GameServer := { s with net := s.net.insert channelId (ch.start now).1 }
  rw [bind_ok (onAccept_ok (show s'.mtx = false from h) channelId)]
  rfl

theorem DirectKept.runCompletion (h : DirectKept I E)
    (hcompletions : ∀ s completions, completions.Sublist s.completions → I s →
      I { s with completions }) (env : Env) (i : Nat) :
    Keeps I E (GameServer.runCompletion env i) := by
  intro s hs
  rw [GameServer.runCompletion, get_bind_apply]
  cases s.completions[i]? with
  | none => exact hs
  | some c => exact h.loginCompleted env c _ (hcompletions s _ (List.eraseIdx_sublist ..) hs)

theorem CoreKept.runCompletion (h : CoreKept I E) (env : Env) (i : Nat) :
    Keeps I E (GameServer.runCompletion env i) :=
  h.toDirectKept.runCompletion h.completions env i

/-- The changes of all events. While the io thread is stuck, the pool and the game
threads go on. -/
structure ServerKept (env : Env) (I E : GameServer → Prop) : Prop extends Kept I E where
  accept : ∀ s id ch, id ∉ s.net → ch.closed = false → I s → I (s.accepted id ch)
  strand : ∀ s id out, I s → I (s.runStrand env id out)
  stuck_mtx : ∀ s, E s → s.mtx = true
  stuck_ecs : ∀ s ecs, E s → E { s with ecs }
  stuck_strand : ∀ s id out, E s → E (s.runStrand env id out)

section Events

variable {env : Env} {I E : GameServer → Prop} {s t : GameServer} {e : ServerEvent}

/-- The events of a channel that are not frames, the flush timer and the game threads. -/
def ServerEvent.isDirect : ServerEvent → Bool
  | .accept .. | .frame .. | .completion _ | .strand .. => false
  | _ => true

theorem DirectKept.event (h : DirectKept I E) (hs : I s) (hdirect : e.isDirect = true) :
    I (after (act env e) s) ∨ E (after (act env e) s) := by
  cases e with
  | accept | frame | completion | strand => cases hdirect
  | written channelId now =>
    rw [act]
    exact (h.callChannel channelId fun ch => ch.writeDone_ends env.order now).after hs
  | writeError channelId => exact (h.callChannel channelId fun ch => ch.writeFailed_ends).after hs
  | readError channelId => exact (h.callChannel channelId fun ch => ch.close_ends .read).after hs
  | idleTimer channelId now =>
    exact (h.callChannel channelId fun ch => ch.idleExpired_ends now).after hs
  | pingTimer channelId =>
    exact (h.callChannel channelId fun ch => ch.pingExpired_ends env.order).after hs
  | flushTimer => exact h.flushPlayers.after hs
  | gameThreads ecs => exact .inl (h.ecs s ecs hs)

/-- The events of the io thread, except new connections and guild messages. -/
theorem CoreKept.event (h : CoreKept I E) (hs : I s) (henabled : Enabled s e)
    (haccept : ∀ channelId now, e ≠ .accept channelId now)
    (hstrand : ∀ channelId out, e ≠ .strand channelId out)
    (hguild : ∀ channelId cmd payload, e = .frame channelId cmd payload →
      ∀ msg, messageId cmd = some msg → msg.isGuild = false) :
    I (after (act env e) s) ∨ E (after (act env e) s) := by
  cases e with
  | accept channelId now => exact absurd rfl (haccept channelId now)
  | strand channelId out => exact absurd rfl (hstrand channelId out)
  | completion i => exact (h.runCompletion env i).after hs
  | frame channelId cmd payload =>
    rw [act, GameServer.dispatch]
    cases hmsg : messageId cmd with
    | none => exact .inl hs
    | some msg =>
      have hcore := hguild channelId cmd payload rfl msg hmsg
      exact (h.handle env hcore channelId payload).after ⟨hs, henabled.2⟩
  | written | writeError | readError | idleTimer | pingTimer | flushTimer | gameThreads =>
    exact h.toDirectKept.event hs rfl

theorem ServerKept.step_free (h : ServerKept env I E) (hs : I s) (hstep : ServerStep env s e t) :
    I t ∨ E t := by
  obtain ⟨henabled, rfl⟩ := hstep
  cases e with
  | accept channelId now =>
    rw [act, after_ok (acceptChannel_ok henabled.1 channelId now)]
    exact .inl (h.accept s channelId _ henabled.2 rfl hs)
  | frame channelId cmd payload =>
    exact (h.dispatch env cmd channelId payload).after ⟨hs, henabled.2⟩
  | strand channelId out => exact .inl (h.strand s channelId out hs)
  | completion i => exact (h.runCompletion env i).after hs
  | written | writeError | readError | idleTimer | pingTimer | flushTimer | gameThreads =>
    exact h.toDirectKept.event hs rfl

/-- While the io thread is stuck, only the other threads go on. -/
theorem ServerStep.stuck_cases (hstep : ServerStep env s e t) (hm : s.mtx = true) :
    (∃ channelId out, t = s.runStrand env channelId out) ∨ ∃ ecs, t = { s with ecs } := by
  obtain ⟨henabled, rfl⟩ := hstep
  have hmtx : s.mtx ≠ false := by
    rw [hm]
    decide
  cases e with
  | strand channelId out => exact .inl ⟨channelId, out, rfl⟩
  | gameThreads ecs => exact .inr ⟨ecs, rfl⟩
  | accept | frame | completion => exact absurd henabled.1 hmtx
  | written | writeError | readError | idleTimer | pingTimer | flushTimer =>
    exact absurd henabled hmtx

theorem ServerStep.free_before (hstep : ServerStep env s e t) (hfree : t.mtx = false) :
    s.mtx = false := by
  cases hm : s.mtx with
  | false => rfl
  | true =>
    rcases hstep.stuck_cases hm with ⟨channelId, out, rfl⟩ | ⟨ecs, rfl⟩
    · rw [runStrand_mtx, hm] at hfree
      cases hfree
    · cases hm.symm.trans hfree

theorem ServerKept.step_stuck (h : ServerKept env I E) (hs : E s)
    (hstep : ServerStep env s e t) : E t := by
  rcases hstep.stuck_cases (h.stuck_mtx s hs) with ⟨channelId, out, rfl⟩ | ⟨ecs, rfl⟩
  · exact h.stuck_strand s channelId out hs
  · exact h.stuck_ecs s ecs hs

/-- **Every event** keeps what survives the changes. -/
theorem ServerKept.step (h : ServerKept env I E) (hs : I s ∨ E s)
    (hstep : ServerStep env s e t) : I t ∨ E t := by
  rcases hs with hs | hs
  · exact h.step_free hs hstep
  · exact .inr (h.step_stuck hs hstep)

/-- **Every run** keeps what survives the changes. -/
theorem ServerKept.run (h : ServerKept env I E) {es : List ServerEvent} (hs : I s)
    (hrun : Run (ServerStep env) s es t) : I t ∨ E t :=
  hrun.invariant (I := fun s => I s ∨ E s) (.inl hs) fun _ _ _ hs hstep => h.step hs hstep

theorem ServerKept.reachable (h : ServerKept env I E) (hinit : ∀ s, ServerInit s → I s)
    (hs : Reachable ServerInit (ServerStep env) s) : I s ∨ E s :=
  hs.invariant (I := fun s => I s ∨ E s) (fun s₀ hs₀ => .inl (hinit s₀ hs₀))
    fun _ _ _ hs hstep => h.step hs hstep

/-- Between events the io thread is free, so the invariant itself holds. -/
theorem ServerKept.reachable_free (h : ServerKept env I E) (hinit : ∀ s, ServerInit s → I s)
    (hs : Reachable ServerInit (ServerStep env) s) (hmtx : s.mtx = false) : I s := by
  refine (h.reachable hinit hs).resolve_right fun hstuck => ?_
  rw [h.stuck_mtx s hstuck] at hmtx
  cases hmtx

end Events

/-! ## Concrete servers -/

/-- Names compare byte by byte, and columns keep what they are given. -/
def plainEnv : Env where
  order := .viewFirst
  mySql := { sameName := fun a b => a == b, storedName := id, storedFloat := id }

/-- A server with a database and two maps, after `init`. -/
def plainServer (useEcs : Bool) (db : Database) : GameServer where
  config := { useEcs, maps := [⟨1, ascii "Forest"⟩, ⟨2, ascii "Desert"⟩] }
  mainThreadManager := if useEcs then some {} else none
  hasDbPool := true
  hasPlayerDao := true
  storage := { db }

theorem plainServer_init (useEcs : Bool) (db : Database) : ServerInit (plainServer useEcs db) := by
  cases useEcs <;> constructor <;> rfl

theorem plainServer_reachable {useEcs : Bool} {db : Database}
    (h : Executable plainEnv (plainServer useEcs db) es) :
    Reachable ServerInit (ServerStep plainEnv) (execute plainEnv (plainServer useEcs db) es) :=
  ⟨_, es, plainServer_init useEcs db, run_execute h⟩

/-- A stored player. -/
def kim : PlayerRecord where
  id := 1
  name := ascii "kim"
  level := 7
  exp := 420

/-- The LOGIN of this player. -/
def kimLogin : List UInt8 := { playerName := ascii "kim", sessionToken := [] : LoginReq }.serialize

theorem kimLogin_parse : LoginReq.parse kimLogin = .ok ⟨ascii "kim", []⟩ [] :=
  LoginReq.parse_serialize (m := ⟨ascii "kim", []⟩) (by decide) (by decide) []

end EcsAsioServer.GameServer
