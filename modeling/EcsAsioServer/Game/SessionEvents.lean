import EcsAsioServer.Game.Sessions

/-!
# What an event does to the sessions

Every event of the server is at most one of the changes of `SessionEvent`, and then at most one
call of a channel object outside the lock (`step_calls`). Which ones they are, `sessionEvent`
and `ownCall` read off the state before the event. The call may close its channel, and so the
sessions of a channel may end with the event (`serverStep_sessions`). Properties of sessions
are proved on `Sessions`, from this theorem alone.
-/

namespace EcsAsioServer

open Db Ecs FrameCodec Protocol StateProgram Transition

namespace GameServer

variable (env : Env)

/-! ## Changes of the sessions -/

/-- The player who enters when a login completes. -/
def completionEntry (s : GameServer) (i : Nat) : Option Entry :=
  match s.completions[i]? with
  | some ⟨some record, channelId, playerName⟩ =>
    if channelId ∈ s.channels ∧ s.config.useEcs then
      some (recordEntry channelId playerName record)
    else none
  | _ => none

/-- The player whom a LOGIN brings into the game on the spot, without a database. -/
def loginEntry (s : GameServer) (channelId : Int32) (payload : List UInt8) : Option Entry :=
  match LoginReq.parse payload with
  | .error _ _ => none
  | .ok req _ =>
    if s.tokenRejected req.sessionToken = false ∧ s.hasPlayerDao = false ∧ s.config.useEcs then
      some (plainEntry channelId req.playerName)
    else none

/-- The channel whose player an ATTACK kills. -/
def killTarget (s : GameServer) (channelId : Int32) (payload : List UInt8) : Option Int32 :=
  match AttackReq.parse payload with
  | .error _ _ => none
  | .ok req _ =>
    let targetChannel := req.targetId.toInt32
    let target := s.sessions.entity targetChannel
    if s.sessions.entity channelId ≠ 0 ∧ target ≠ 0 ∧ s.remainingHp target req = 0 then
      some targetChannel
    else none

/-- What the handler of a message does to the sessions, apart from a channel that closes. -/
def messageEvent (s : GameServer) (channelId : Int32) (payload : List UInt8) :
    MessageId → Option SessionEvent
  | .login => (s.loginEntry channelId payload).map .enter
  | .mapEnter => (s.travelTarget payload).map (.travel channelId)
  | .attack =>
    -- the answers come before the kill, and may stop the io thread
    if (after (handleAttack env channelId payload) s).mtx then none
    else (s.killTarget channelId payload).map .kill
  | _ => none

/-- What an event does to the sessions, apart from a channel that closes. -/
def sessionEvent (s : GameServer) : ServerEvent → Option SessionEvent
  | .accept channelId _ => some (.connect channelId)
  | .completion i => (s.completionEntry i).map .enter
  | .frame channelId cmd payload => (messageId cmd).bind (messageEvent env s channelId payload)
  | .gameThreads ecs => some (.simulate ecs.entityManager (ecs.component .player))
  | _ => none

/-- What an event does to the sessions, apart from a channel that closes. -/
def sessionsAfter (s : GameServer) (e : ServerEvent) : Sessions :=
  (sessionEvent env s e).elim s.sessions s.sessions.apply

/-! ## Calls outside the lock -/

/-- `send_frame`, as a call of the channel object. -/
def frameCall (msgId : UInt16) (data : List UInt8) (ch : AsioChannel) :
    AsioChannel × List Callback :=
  ch.send env.order (pack msgId 0 1 0 data) (Int32.ofNat (pack msgId 0 1 0 data).length)

/-- The completions that an event of the io thread leaves. -/
def completionsLeft (s : GameServer) : ServerEvent → List Completion
  | .completion i => s.completions.eraseIdx i
  | _ => s.completions

/-- The answer to a message that is sent outside the lock. -/
def answer (s : GameServer) (payload : List UInt8) : MessageId → Option (UInt16 × List UInt8)
  | .ping => some (2, ascii "PONG")
  | .echo => some (100, payload)
  | .login =>
    match LoginReq.parse payload with
    | .error _ _ => none
    | .ok req _ =>
      if s.tokenRejected req.sessionToken then
        some (1001, { success := false, message := ascii "invalid_token", playerId := 0, mapId := 0
                      : LoginRes }.serialize)
      -- with a database the answer comes with the completion
      else if s.hasPlayerDao then none
      else some (1001, { success := true, message := ascii "ok", playerId := s.nextPlayer
                         mapId := 1 : LoginRes }.serialize)
  | _ => none

/-- The answer to a login whose task has run. -/
def completionRes (s : GameServer) (c : Completion) : LoginRes :=
  match c.record with
  | none => { success := false, message := ascii "db_error", playerId := 0, mapId := 0 }
  | some record =>
    { success := true, message := ascii "ok"
      playerId := if 0 < record.id then record.id.toUInt64.toUInt32 else s.nextPlayer
      mapId := record.mapId.toUInt32 }

/-- The call that an event makes on a channel object outside the lock. -/
def ownCall (s : GameServer) :
    ServerEvent → Option (Int32 × (AsioChannel → AsioChannel × List Callback))
  | .frame channelId cmd payload =>
    ((messageId cmd).bind (s.answer payload)).map fun a => (channelId, frameCall env a.1 a.2)
  | .written channelId now => some (channelId, fun ch => (ch.writeDone env.order now, []))
  | .writeError channelId => some (channelId, AsioChannel.writeFailed)
  | .readError channelId => some (channelId, AsioChannel.readFailed)
  | .idleTimer channelId now => some (channelId, fun ch => ch.idleExpired now)
  | .pingTimer channelId => some (channelId, fun ch => ch.pingExpired env.order)
  | .completion i => s.completions[i]?.bind fun c =>
    if c.channelId ∈ s.channels then
      some (c.channelId, frameCall env 1001 (s.completionRes c).serialize)
    else none
  | _ => none

variable {s t : GameServer} {e : ServerEvent} {entry : Entry} {channelId : Int32}

/-! ### Handlers -/

theorem handleAttack_sessions (hm : s.mtx = false) (channelId : Int32) (payload : List UInt8) :
    (after (handleAttack env channelId payload) s).sessions
      = ((if (after (handleAttack env channelId payload) s).mtx then none
        else (s.killTarget channelId payload)).elim s.sessions s.sessions.kill) := by
  unfold handleAttack killTarget
  cases AttackReq.parse payload with
  | error _ _ =>
    show s.sessions = _
    simp
  | ok req _ =>
    dsimp only
    let targetChannel := req.targetId.toInt32
    have hfind : GameServer.withMtx (do
        let s ← get
        return ((s.channelToEntity.lookup channelId).getD 0,
          (s.channelToEntity.lookup targetChannel).getD 0)) s
        = .ok (s.sessions.entity channelId, s.sessions.entity targetChannel) s :=
      withMtx_read hm _
    rw [after_bind_ok hfind]
    by_cases hmissing : s.sessions.entity channelId = 0 ∨ s.sessions.entity targetChannel = 0
    · rw [if_pos hmissing, (sessions_observation.sendTestFrame env channelId 1004 _).after,
        if_neg (show ¬ (s.sessions.entity channelId ≠ 0 ∧ s.sessions.entity targetChannel ≠ 0 ∧ _)
          by tauto)]
      simp
    · rw [if_neg hmissing]
      rw [not_or] at hmissing
      have hattack := attackEntity_sessions env (s := s) channelId targetChannel req
      dsimp only at hattack
      rw [hattack]
      cases (after (attackEntity env channelId targetChannel (s.sessions.entity targetChannel) req)
        s).mtx <;> by_cases hdead : s.remainingHp (s.sessions.entity targetChannel) req = 0 <;>
          simp [hmissing, hdead, targetChannel]

theorem guildRequest_sessions (s : GameServer) (channelId : Int32) (req : GuildRequest) :
    (after (req.run env channelId) s).sessions = s.sessions := by
  have hanswered := sessions_observation.answered (req.after_run env channelId s)
  exact hanswered

theorem frameCall_ends (msgId : UInt16) (data : List UInt8) (ch : AsioChannel) :
    AsioChannel.Ends ch (frameCall env msgId data ch) := sendPacket_ends env _ ch

theorem reply_eq (hm : s.mtx = false) (hin : channelId ∈ s.channels) (msgId : UInt16)
    (data : List UInt8) : after (reply env channelId msgId data) s
      = after (callChannel channelId (frameCall env msgId data)) s := by
  rw [reply, after_bind_ok (findChannel_free hm channelId), if_pos (decide_eq_true hin)]
  rfl

variable {env}

theorem sessionsAfter_none (h : sessionEvent env s e = none) :
    sessionsAfter env s e = s.sessions := by
  rw [sessionsAfter, h, Option.elim_none]

theorem sessionsAfter_some {ev : SessionEvent} (h : sessionEvent env s e = some ev) :
    sessionsAfter env s e = s.sessions.apply ev := by
  rw [sessionsAfter, h, Option.elim_some]

/-! ## Every event -/

/-- What an event has done when it calls a channel object. Only the sessions may have changed,
and a completion that runs is taken off. -/
structure BeforeCall (env : Env) (s : GameServer) (e : ServerEvent) (id : Int32) (u : GameServer) :
    Prop where
  mtx : u.mtx = false
  net : u.net = s.net
  channels : u.channels = s.channels
  sessions : u.sessions = sessionsAfter env s e
  dbPool : u.dbPool = s.dbPool
  dbStrands : u.dbStrands = s.dbStrands
  dao : u.hasPlayerDao = s.hasPlayerDao
  storage : u.storage = s.storage
  completions : u.completions = s.completionsLeft e
  entry : ∀ entry, sessionEvent env s e = some (.enter entry) → entry.channelId = id
  ecs : (∀ entry, sessionEvent env s e ≠ some (.enter entry)) →
    sessionEvent env s e = none ∧ u.ecs = s.ecs

theorem beforeCall_self (hm : s.mtx = false) (hnone : sessionEvent env s e = none) (id : Int32) :
    BeforeCall env s e id { s with completions := s.completionsLeft e } :=
  ⟨hm, rfl, rfl, (sessionsAfter_none hnone).symm, rfl, rfl, rfl, rfl, rfl,
    fun entry h => absurd (hnone.symm.trans h) (by simp), fun _ => ⟨hnone, rfl⟩⟩

/-- A player enters, and then the answer is sent. -/
theorem Enters.beforeCall {entry : Entry} {player : Entity} {u : GameServer}
    (h : Enters { s with completions := s.completionsLeft e } entry player u)
    (he : sessionEvent env s e = if s.config.useEcs then some (.enter entry) else none) :
    BeforeCall env s e entry.channelId u where
  mtx := h.mtx
  net := h.net
  channels := h.channels
  sessions := by
    rw [h.sessions, sessionsAfter, he]
    cases s.config.useEcs <;> rfl
  dbPool := h.dbPool
  dbStrands := h.dbStrands
  dao := h.dao
  storage := h.storage
  completions := h.completions
  entry entry' hentry := by
    rw [he] at hentry
    split at hentry <;> cases hentry
    rfl
  ecs hno := by
    cases hecs : s.config.useEcs with
    | false => exact ⟨by rw [he, hecs]; rfl, h.ecs hecs⟩
    | true =>
      rw [he, if_pos hecs] at hno
      exact absurd rfl (hno entry)

/-- The event ends with its call on a channel object, or calls none outside the lock. -/
inductive Calls (env : Env) (s : GameServer) (e : ServerEvent) (t : GameServer) : Prop where
  | nothing (h : ownCall env s e = none) (ht : t.sessions = sessionsAfter env s e)
  | call {id : Int32} {call : AsioChannel → AsioChannel × List Callback} (u : GameServer)
      (h : ownCall env s e = some (id, call)) (hends : ∀ ch, AsioChannel.Ends ch (call ch))
      (hu : BeforeCall env s e id u) (ht : t = after (callChannel id call) u)

/-- LOGIN answers at once only without a database. -/
theorem login_calls {cmd : UInt16} {payload : List UInt8} (hmsg : messageId cmd = some .login)
    (hm : s.mtx = false) (hin : channelId ∈ s.channels) :
    Calls env s (.frame channelId cmd payload) (after (handleLogin env channelId payload) s) := by
  have hevent : sessionEvent env s (.frame channelId cmd payload)
      = (s.loginEntry channelId payload).map .enter := by
    simp [sessionEvent, hmsg, messageEvent]
  have hcall : ownCall env s (.frame channelId cmd payload)
      = (s.answer payload .login).map fun a => (channelId, frameCall env a.1 a.2) := by
    simp [ownCall, hmsg]
  unfold loginEntry at hevent
  unfold answer at hcall
  unfold handleLogin
  cases hparse : LoginReq.parse payload with
  | error _ _ =>
    rw [hparse] at hcall hevent
    exact .nothing hcall (sessionsAfter_none hevent).symm
  | ok req _ =>
    rw [hparse] at hcall hevent
    dsimp only at hcall hevent ⊢
    rw [after_bind_ok (get_apply s)]
    by_cases htoken : s.tokenRejected req.sessionToken = true
    · rw [if_pos htoken] at hcall ⊢
      rw [if_neg (by simp [htoken])] at hevent
      exact .call s hcall (frameCall_ends env _ _) (beforeCall_self hm hevent channelId)
        (reply_eq env hm hin _ _)
    rw [if_neg htoken] at hcall ⊢
    rw [after_bind_ok (get_apply s)]
    by_cases hdao : s.hasPlayerDao = true
    · rw [if_pos hdao] at hcall ⊢
      rw [if_neg (by simp [hdao])] at hevent
      exact .nothing hcall (((sessions_observation.loginWithDb channelId req).after s).trans
        (sessionsAfter_none hevent).symm)
    · obtain ⟨player, u, henter, hu⟩ := enterWithoutDb_sessions hm channelId req.playerName
      rw [if_neg hdao, hu.player_eq.symm] at hcall
      rw [if_neg hdao, loginWithoutDb, after_bind_ok henter]
      have hentry : sessionEvent env s (.frame channelId cmd payload) = if s.config.useEcs then
          some (.enter (plainEntry channelId req.playerName)) else none := by
        rw [hevent]
        cases s.config.useEcs <;> simp [htoken, hdao]
      have hbefore : BeforeCall env s (.frame channelId cmd payload) channelId u :=
        Enters.beforeCall hu hentry
      exact .call u hcall (frameCall_ends env _ _) hbefore
        (reply_eq env hu.mtx (hu.channels ▸ hin) _ _)

/-- A completion: the player enters, then the answer. -/
theorem completion_calls {i : Nat} (hm : s.mtx = false) :
    Calls env s (.completion i) (after (runCompletion env i) s) := by
  cases hc : s.completions[i]? with
  | none =>
    rw [runCompletion, after_bind_ok (get_apply s), hc]
    have hnone : sessionEvent env s (.completion i) = none := by
      simp [sessionEvent, completionEntry, hc]
    exact .nothing (by simp [ownCall, hc]) (sessionsAfter_none hnone).symm
  | some c =>
    obtain ⟨record, channelId, playerName⟩ := c
    let s₁ : GameServer := { s with completions := s.completions.eraseIdx i }
    rw [after_runCompletion env hc, loginCompleted,
      after_bind_ok (findChannel_free (s := s₁) hm channelId)]
    by_cases hid : channelId ∈ s.channels
    · have hcall : ownCall env s (.completion i) = some (channelId, frameCall env 1001
          (s.completionRes ⟨record, channelId, playerName⟩).serialize) := by
        simp [ownCall, hc, hid]
      rw [if_pos (decide_eq_true hid)]
      cases record with
      | none =>
        exact .call s₁ hcall (frameCall_ends env _ _)
          (beforeCall_self hm (by simp [sessionEvent, completionEntry, hc]) channelId)
          (reply_eq (s := s₁) env hm hid _ _)
      | some record =>
        obtain ⟨player, u, henter, hu⟩ :=
          enterGame_sessions (s := s₁) hm channelId playerName record
        dsimp only
        rw [after_bind_ok henter, hu.player_eq]
        have hentry : sessionEvent env s (.completion i) = if s.config.useEcs then
            some (.enter (recordEntry channelId playerName record)) else none := by
          cases hecs : s.config.useEcs <;> simp [sessionEvent, completionEntry, hc, hid, hecs]
        have hbefore : BeforeCall env s (.completion i) channelId u := Enters.beforeCall hu hentry
        exact .call u hcall (frameCall_ends env _ _) hbefore
          (reply_eq env hu.mtx (hu.channels ▸ hid) _ _)
    · -- the channel has closed in the meantime
      rw [if_neg (by simp [s₁, hid])]
      have hnone : sessionEvent env s (.completion i) = none := by
        cases record <;> simp [sessionEvent, completionEntry, hc, hid]
      exact .nothing (by simp [ownCall, hc, hid]) (sessionsAfter_none hnone).symm

/-- The messages that are answered under the lock. -/
theorem locked_calls {cmd : UInt16} {payload : List UInt8} {msg : MessageId}
    (hmsg : messageId cmd = some msg) (hm : s.mtx = false) (hnone : s.answer payload msg = none)
    (hlogin : msg ≠ .login) :
    Calls env s (.frame channelId cmd payload) (after (handle env channelId payload msg) s) := by
  refine .nothing (by simp [ownCall, hmsg, hnone]) ?_
  rw [sessionsAfter, sessionEvent, hmsg, Option.bind_some]
  cases msg with
  | ping | echo => cases hnone
  | login => contradiction
  | move => exact (quiet_handleMove env channelId payload).after s
  | chat => exact (sessions_observation.handleChat env channelId payload).after s
  | attack =>
    refine (handleAttack_sessions env hm channelId payload).trans ?_
    rw [messageEvent]
    split
    · rfl
    · rw [Option.elim_map]
      rfl
  | mapEnter =>
    refine (handleMapEnter_sessions env hm channelId payload).trans ?_
    rw [messageEvent, Option.elim_map]
    rfl
  | guildCreate => exact guildRequest_sessions env s channelId (.create payload)
  | guildJoin => exact guildRequest_sessions env s channelId (.join payload)
  | guildLeave => exact guildRequest_sessions env s channelId .leave

/-- **What an event does**: what `sessionEvent` says, and then its call on a channel object. -/
theorem step_calls (hstep : ServerStep env s e t) : Calls env s e t := by
  obtain ⟨henabled, rfl⟩ := hstep
  cases e with
  | accept id now =>
    rw [act, after_ok (acceptChannel_ok henabled.1 id now)]
    exact .nothing rfl rfl
  | frame id cmd payload =>
    rw [act, dispatch]
    cases hmsg : messageId cmd with
    | none =>
      exact .nothing (by simp [ownCall, hmsg])
        (sessionsAfter_none (by simp [sessionEvent, hmsg])).symm
    | some msg =>
      cases msg with
      | ping | echo =>
        exact .call s (by simp [ownCall, hmsg, answer]) (frameCall_ends env _ _)
          (beforeCall_self henabled.1 (by simp [sessionEvent, hmsg, messageEvent]) id)
          (reply_eq env henabled.1 henabled.2 _ _)
      | login => exact login_calls hmsg henabled.1 henabled.2
      | move | chat | attack | mapEnter | guildCreate | guildJoin | guildLeave =>
        exact locked_calls hmsg henabled.1 rfl (by decide)
  | written id now =>
    exact .call s rfl (fun ch => ch.writeDone_ends env.order now)
      (beforeCall_self henabled rfl id) rfl
  | writeError id =>
    exact .call s rfl (fun ch => ch.writeFailed_ends) (beforeCall_self henabled rfl id) rfl
  | readError id =>
    exact .call s rfl (fun ch => ch.close_ends .read) (beforeCall_self henabled rfl id) rfl
  | idleTimer id now =>
    exact .call s rfl (fun ch => ch.idleExpired_ends now) (beforeCall_self henabled rfl id) rfl
  | pingTimer id =>
    exact .call s rfl (fun ch => ch.pingExpired_ends env.order)
      (beforeCall_self henabled rfl id) rfl
  | flushTimer => exact .nothing rfl (sessions_observation.flushPlayers.after s)
  | completion i => exact completion_calls henabled.1
  | strand id out =>
    obtain ⟨storage, completions, heq⟩ := runStrand_eq env s id out
    refine .nothing rfl ?_
    show (s.runStrand env id out).sessions = _
    rw [heq]
    rfl
  | gameThreads ecs => exact .nothing rfl rfl

/-- **What an event does to the sessions**: what `sessionEvent` says, and then at most the
close of the channel that it is about. -/
theorem serverStep_sessions (hstep : ServerStep env s e t) :
    ∃ channelId, UpToClose channelId (sessionsAfter env s e) t.sessions ∧
      ∀ entry, sessionEvent env s e = some (.enter entry) → entry.channelId = channelId := by
  cases step_calls hstep with
  | @call id call u _ hends hu ht =>
    refine ⟨id, ?_, hu.entry⟩
    rw [ht, ← hu.sessions]
    exact callChannel_sessions hu.mtx id hends
  | nothing _ ht =>
    by_cases hentry : ∃ entry, sessionEvent env s e = some (.enter entry)
    · obtain ⟨entry, hentry⟩ := hentry
      refine ⟨entry.channelId, .inl ht, fun entry' h => ?_⟩
      cases hentry.symm.trans h
      rfl
    · exact ⟨0, .inl ht, fun entry h => absurd ⟨entry, h⟩ hentry⟩

/-! ## Which events they are -/

/-- The events that change sessions. -/
inductive SessionChange (env : Env) (s : GameServer) : ServerEvent → SessionEvent → Prop where
  | accept {channelId : Int32} {now : Nat} :
      SessionChange env s (.accept channelId now) (.connect channelId)
  | completion {i : Nat} {entry : Entry} (hentry : s.completionEntry i = some entry) :
      SessionChange env s (.completion i) (.enter entry)
  | login {channelId : Int32} {cmd : UInt16} {payload : List UInt8} {entry : Entry}
      (hcmd : messageId cmd = some .login) (hentry : s.loginEntry channelId payload = some entry) :
      SessionChange env s (.frame channelId cmd payload) (.enter entry)
  | mapEnter {channelId mapId : Int32} {cmd : UInt16} {payload : List UInt8}
      (hcmd : messageId cmd = some .mapEnter) (htarget : s.travelTarget payload = some mapId) :
      SessionChange env s (.frame channelId cmd payload) (.travel channelId mapId)
  | attack {channelId target : Int32} {cmd : UInt16} {payload : List UInt8}
      (hcmd : messageId cmd = some .attack) (htarget : s.killTarget channelId payload = some target)
      (hfree : (after (handleAttack env channelId payload) s).mtx = false) :
      SessionChange env s (.frame channelId cmd payload) (.kill target)
  | gameThreads {ecs : GameService ComponentType.Val} :
      SessionChange env s (.gameThreads ecs) (.simulate ecs.entityManager (ecs.component .player))

/-- Every session event is one of these. -/
theorem sessionEvent_change {ev : SessionEvent} (h : sessionEvent env s e = some ev) :
    SessionChange env s e ev := by
  cases e with
  | accept channelId now =>
    cases h
    exact .accept
  | completion i =>
    obtain ⟨entry, hentry, rfl⟩ := Option.map_eq_some_iff.mp h
    exact .completion hentry
  | frame channelId cmd payload =>
    obtain ⟨msg, hcmd, hmsg⟩ := Option.bind_eq_some_iff.mp h
    cases msg with
    | login =>
      obtain ⟨entry, hentry, rfl⟩ := Option.map_eq_some_iff.mp hmsg
      exact .login hcmd hentry
    | mapEnter =>
      obtain ⟨mapId, htarget, rfl⟩ := Option.map_eq_some_iff.mp hmsg
      exact .mapEnter hcmd htarget
    | attack =>
      rw [messageEvent] at hmsg
      split at hmsg
      · cases hmsg
      · next hfree =>
        obtain ⟨target, htarget, rfl⟩ := Option.map_eq_some_iff.mp hmsg
        exact .attack hcmd htarget (Bool.eq_false_iff.mpr hfree)
    | ping | echo | move | chat | guildCreate | guildJoin | guildLeave => cases hmsg
  | gameThreads ecs =>
    cases h
    exact .gameThreads
  | written | writeError | readError | idleTimer | pingTimer | flushTimer | strand => cases h

/-- The channel whose player an event kills, if its answers fit. -/
def killed (s : GameServer) : ServerEvent → Option Int32
  | .frame channelId cmd payload =>
    if messageId cmd = some .attack then s.killTarget channelId payload else none
  | _ => none

theorem sessionEvent_kill_iff {target : Int32} :
    sessionEvent env s e = some (.kill target) ↔
      s.killed e = some target ∧ (after (act env e) s).mtx = false := by
  constructor
  · intro h
    cases sessionEvent_change h with
    | attack hcmd htarget hfree =>
      refine ⟨by simp [killed, hcmd, htarget], ?_⟩
      rw [act, dispatch, hcmd]
      exact hfree
  · rintro ⟨hkilled, hfree⟩
    unfold killed at hkilled
    split at hkilled
    · next channelId cmd payload =>
      by_cases hcmd : messageId cmd = some .attack
      · rw [if_pos hcmd] at hkilled
        rw [act, dispatch, hcmd] at hfree
        have hattack : (after (handleAttack env channelId payload) s).mtx = false := hfree
        simp [sessionEvent, hcmd, messageEvent, hattack, hkilled]
      · rw [if_neg hcmd] at hkilled
        cases hkilled
    · cases hkilled

/-! ## Who enters -/

/-- The player whom an event brings into the game. -/
def entering (s : GameServer) : ServerEvent → Option Entry
  | .completion i => s.completionEntry i
  | .frame channelId cmd payload =>
    if messageId cmd = some .login then s.loginEntry channelId payload else none
  | _ => none

theorem sessionEvent_enter_iff :
    sessionEvent env s e = some (.enter entry) ↔ s.entering e = some entry := by
  constructor
  · intro h
    cases sessionEvent_change h with
    | completion hentry => exact hentry
    | login hcmd hentry => rw [entering, if_pos hcmd, hentry]
  · intro h
    unfold entering at h
    split at h
    · rw [sessionEvent, h]
      rfl
    · next channelId cmd payload =>
      by_cases hcmd : messageId cmd = some .login
      · rw [if_pos hcmd] at h
        simp [sessionEvent, hcmd, messageEvent, h]
      · rw [if_neg hcmd] at h
        cases h
    · cases h

/-- What the server has checked before a player enters. -/
structure Admitted (s : GameServer) (entry : Entry) : Prop where
  registered : entry.channelId ∈ s.channels
  useEcs : s.config.useEcs = true
  dbId_pos : ∀ dbId, entry.dbId = some dbId → 0 < dbId

theorem completionEntry_admitted {i : Nat} (h : s.completionEntry i = some entry) :
    Admitted s entry := by
  unfold completionEntry at h
  split at h
  · next record channelId playerName _ =>
    split at h
    · next hcond =>
      cases h
      refine ⟨hcond.1, hcond.2, ?_⟩
      intro dbId hdbId
      unfold recordEntry at hdbId
      dsimp only at hdbId
      split at hdbId
      · next hpos =>
        cases hdbId
        exact hpos
      · cases hdbId
    · cases h
  · cases h

theorem loginEntry_admitted {payload : List UInt8} (hid : channelId ∈ s.channels)
    (h : s.loginEntry channelId payload = some entry) : Admitted s entry := by
  unfold loginEntry at h
  split at h
  · cases h
  · split at h
    · next hcond =>
      cases h
      exact ⟨hid, hcond.2.2, nofun⟩
    · cases h

theorem entering_admitted (henabled : Enabled s e) (h : s.entering e = some entry) :
    Admitted s entry := by
  unfold entering at h
  split at h
  · exact completionEntry_admitted h
  · split at h
    · exact loginEntry_admitted henabled.2 h
    · cases h
  · cases h

theorem sessionEvent_admitted (henabled : Enabled s e)
    (h : sessionEvent env s e = some (.enter entry)) :
    Admitted s entry :=
  entering_admitted henabled (sessionEvent_enter_iff.mp h)

end GameServer

end EcsAsioServer
