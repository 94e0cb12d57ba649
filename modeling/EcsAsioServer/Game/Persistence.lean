import EcsAsioServer.Game.Progress

/-!
# Saved players

A session of a stored player, from the accepted connection to the save after its close:
LOGIN posts a task to the strand of the channel, the task loads the row, its completion
builds the entity, `on_close` collects what it saves from the components of the entity,
and the strand writes it back.

The components hold the position, the map and the hit points of the row, and these come
back unchanged. Level and experience are in no component that is loaded or saved:
`on_close` writes 1 and 0. So a session without any game event preserves the row exactly
if it has these values already, and any other session is written back as the game left it
exactly if, besides, the player is not killed (`session_keeps_row_iff`; the second half is
`writesBack_iff` of `Game.Progress`).

The session is followed stage by stage up to the load (`Loaded`); from the completion on it is
a session as in `Game.Progress`, with no event in it.
-/

namespace EcsAsioServer.GameServer

open AsioChannel (maxQueueBytes)
open Db Ecs FrameCodec Protocol Strands StateProgram Transition

/-! ## Stages of a session -/

/-- The row of the player has been loaded, the completion waits, and the strand of the channel
is idle. -/
structure Loaded (s : GameServer) (channelId : Int32) (playerName : List UInt8)
    (r : PlayerRecord) (i : Nat) : Prop where
  mtx : s.mtx = false
  registered : channelId ∈ s.channels
  idle : s.dbPool.pending channelId = []
  completion : s.completions[i]? = some ⟨some r, channelId, playerName⟩
  channel : ∃ ch, s.net.lookup channelId = some ch ∧ ch.closed = false ∧ ch.currentQueueBytes = 0

variable {s : GameServer} {channelId : Int32} {r : PlayerRecord}

/-- Connection, LOGIN and load. -/
theorem login_loads (env : Env) (now : Nat) {payload rest : List UInt8} {req : LoginReq}
    {out : DbOutcome} {db : Database} (hmtx : s.mtx = false)
    (hidle : s.dbPool.pending channelId = []) (hpool : s.hasDbPool = true)
    (hdao : s.hasPlayerDao = true) (hparse : LoginReq.parse payload = .ok req rest)
    (htoken : s.tokenRejected req.sessionToken = false)
    (hfind : s.storage.db.findOrCreate env.mySql req.playerName out.login = (some r, db)) :
    ∃ s', execute env s [.accept channelId now, .frame channelId 1001 payload,
        .strand channelId out] = s' ∧
      Loaded s' channelId req.playerName r s.completions.length ∧
      s'.storage.db = db ∧ s'.config = s.config ∧ s'.ecs = s.ecs := by
  let ch : AsioChannel := (AsioChannel.start { channelId } now).1
  let s₁ : GameServer := s.accepted channelId ch
  have haccept : after (act env (.accept channelId now)) s = s₁ :=
    after_ok (acceptChannel_ok hmtx channelId now)
  -- with a DB pool, `on_accept` gives the channel a strand
  have hstrand : channelId ∈ s₁.dbStrands := by
    show channelId ∈ (if s.hasDbPool = true then _ else _ : ChannelMap Unit)
    rw [if_pos hpool]
    exact (AList.mem_insert _).mpr (.inl rfl)
  let login : DbTask := .login channelId req.playerName
  let s₂ : GameServer := { s₁ with dbPool := s₁.dbPool.post channelId login }
  have hlogin : after (act env (.frame channelId 1001 payload)) s₁ = s₂ :=
    after_ok (login_posts (s := s₁) env rfl hparse htoken hdao hstrand)
  have hpending : s₂.dbPool.pending channelId = [login] := by
    show (s.dbPool.post channelId login).pending channelId = _
    rw [Pool.pending_post_self, hidle]
    rfl
  -- the strand was idle, so the task that runs is the login
  refine ⟨s₂.runStrand env channelId out, ?_, ?_⟩
  · show after (act env (.strand channelId out)) (after (act env (.frame channelId 1001 payload))
      (after (act env (.accept channelId now)) s)) = _
    rw [haccept, hlogin]
    rfl
  · have hrun : s.storage.runLogin env.mySql channelId req.playerName out.login
        = ({ (s.storage.runLogin env.mySql channelId req.playerName out.login).1 with db },
          ⟨some r, channelId, req.playerName⟩) := by
      unfold Storage.runLogin
      rw [hfind]
    rw [runStrand, hpending]
    dsimp only [Storage.run, login]
    rw [show s₂.storage = s.storage from rfl, hrun]
    refine ⟨⟨rfl, ?_, ?_, ?_, ch, ?_, rfl, rfl⟩, rfl, rfl, rfl⟩
    · exact (AList.mem_insert _).mpr (.inl rfl)
    · show (s₂.dbPool.advance channelId).pending channelId = []
      rw [Pool.pending_advance_self, hpending]
      rfl
    · show (s.completions ++ [_])[s.completions.length]? = _
      rw [List.getElem?_append_right (Nat.le_refl _), Nat.sub_self]
      rfl
    · exact AList.lookup_insert _

/-- The answer to a login fits into an empty queue. -/
theorem reply_ok (env : Env) {ch : AsioChannel} (hmtx : s.mtx = false)
    (hid : channelId ∈ s.channels) (hch : s.net.lookup channelId = some ch)
    (hopen : ch.closed = false) (hempty : ch.currentQueueBytes = 0) (msgId : UInt16)
    (data : List UInt8) (hdata : data.length < 262128) :
    ∃ ch', reply env channelId msgId data s
      = .ok () { s with net := s.net.insert channelId ch' } := by
  let pkt := pack msgId 0 1 0 data
  have hlen : pkt.length = 16 + data.length := length_pack ..
  have hbytes : sentBytes pkt = 16 + data.length := by
    rw [sentBytes_of_lt (by omega), hlen]
  have hmax : maxQueueBytes = 262144 := rfl
  have hfits := send_fits env hopen fun (_ : 0 < sentBytes pkt) => by omega
  have hsend : sendPacket env channelId pkt s = .ok () { s with
      net := s.net.insert channelId (ch.send env.order pkt (Int32.ofNat pkt.length)).1 } :=
    callChannel_silent hch hfits.1
  refine ⟨(ch.send env.order pkt (Int32.ofNat pkt.length)).1, ?_⟩
  rw [reply, bind_ok (findChannel_free hmtx channelId), if_pos (decide_eq_true hid)]
  exact hsend

/-- The completion answers, and the channel stays open. -/
theorem completion_answers (env : Env) {playerName : List UInt8} {i : Nat}
    (h : Loaded s channelId playerName r i) (hecs : s.config.useEcs = true) :
    channelId ∈ (after (act env (.completion i)) s).channels ∧
      (after (act env (.completion i)) s).dbPool = s.dbPool ∧
      (after (act env (.completion i)) s).storage = s.storage := by
  obtain ⟨ch, hch, hopen, hempty⟩ := h.channel
  let s₁ : GameServer := { s with completions := s.completions.eraseIdx i }
  obtain ⟨ecs, henter, -⟩ := enterGame_ok (s := s₁) h.mtx hecs channelId playerName r
  let s₂ : GameServer :=
    { s₁ with
      ecs
      channelToEntity := s.channelToEntity.insert channelId s.ecs.createEntity.1
      channelToDbId := if 0 < r.id then s.channelToDbId.insert channelId r.id
        else s.channelToDbId }
  let res : LoginRes :=
    { success := true, message := ascii "ok"
      playerId := if 0 < r.id then r.id.toUInt64.toUInt32 else s.ecs.createEntity.1
      mapId := r.mapId.toUInt32 }
  have hres : res.serialize.length = 15 := rfl
  obtain ⟨ch', hreply⟩ := reply_ok (s := s₂) env h.mtx h.registered hch hopen hempty 1001
    res.serialize (by omega)
  have hafter : after (act env (.completion i)) s
      = { s₂ with net := s.net.insert channelId ch' } := by
    rw [act, after_runCompletion env h.completion]
    refine after_ok (a := ()) ?_
    rw [loginCompleted, bind_ok (findChannel_free (s := s₁) h.mtx channelId),
      if_pos (decide_eq_true h.registered)]
    show (enterGame channelId playerName r >>= fun player => _) s₁ = _
    rw [bind_ok henter]
    exact hreply
  rw [hafter]
  exact ⟨h.registered, rfl, rfl⟩

/-! ## Whole sessions -/

/-- The session in which nothing happens: connection, LOGIN, load, completion, close, save. -/
def session (channelId : Int32) (now : Nat) (payload : List UInt8) (login : DbOutcome) (i : Nat)
    (close : ServerEvent) (save : DbOutcome) : List ServerEvent :=
  [.accept channelId now, .frame channelId 1001 payload, .strand channelId login]
    ++ [.completion i, close, .strand channelId save]

/-- Such a session of a stored player in a server with a database, from any state that the
server reaches, whose saves succeed. -/
structure QuietSession (env : Env) (s : GameServer) (channelId : Int32) (now : Nat)
    (payload : List UInt8) (login save : DbOutcome) (close : ServerEvent) (r : PlayerRecord) :
    Prop where
  start : ∃ start es, ServerInit start ∧ start.hasPlayerDao = true ∧ start.hasDbPool = true ∧
    Run (ServerStep env) start es s
  executable : Executable env s
    (session channelId now payload login s.completions.length close save)
  useEcs : s.config.useEcs = true
  entity : s.ecs.createEntity.1 ≠ 0
  found : ∃ req rest db, LoginReq.parse payload = .ok req rest ∧
    s.tokenRejected req.sessionToken = false ∧
    s.storage.db.findOrCreate env.mySql req.playerName login.login = (some r, db)
  dbId_pos : 0 < r.id
  last : ∀ entry ∈ (execute env s ((session channelId now payload login s.completions.length close
    save).take 4)).entering close, entry.channelId ≠ channelId
  gone : channelId ∉ (execute env s
    (session channelId now payload login s.completions.length close save)).channels
  position : saveSucceeds save.position = true
  stats : saveSucceeds save.stats = true

section Quiet

variable {env : Env} {now : Nat} {payload : List UInt8} {login save : DbOutcome}
  {close : ServerEvent}

/-- Up to the load. -/
theorem QuietSession.loads (h : QuietSession env s channelId now payload login save close r) :
    ∃ s₃ playerName, execute env s [.accept channelId now, .frame channelId 1001 payload,
        .strand channelId login] = s₃ ∧
      Loaded s₃ channelId playerName r s.completions.length ∧ DbReady s₃ ∧
      r ∈ s₃.storage.db.rows ∧ s₃.config.useEcs = true ∧ s₃.ecs.createEntity.1 ≠ 0 := by
  obtain ⟨req, rest, db, hparse, htoken, hfind⟩ := h.found
  obtain ⟨start, es, hinit, hdao, hpool, hrun⟩ := h.start
  obtain ⟨hmtx, hfresh⟩ := h.executable.1
  have hready : DbReady s :=
    ((dbReady_kept env).run (dbReady_init hinit hdao hpool) hrun).resolve_right (by simp [hmtx])
  have hidle := reachable_pending_fresh env ⟨start, es, hinit, hrun⟩ hmtx hfresh
  obtain ⟨s₃, hexec, hloaded, hdb, hconfig, hecs⟩ := login_loads env now hmtx hidle
    hready.pool hready.dao hparse htoken hfind
  have hfirst : Executable env s
      [.accept channelId now, .frame channelId 1001 payload, .strand channelId login] :=
    ⟨h.executable.1, h.executable.2.1, h.executable.2.2.1, trivial⟩
  have hready₃ : DbReady s₃ ∨ s₃.mtx = true :=
    hexec ▸ (dbReady_kept env).run hready (run_execute hfirst)
  refine ⟨s₃, req.playerName, hexec, hloaded, hready₃.resolve_right (by simp [hloaded.mtx]), ?_,
    hconfig ▸ h.useEcs, hecs ▸ h.entity⟩
  rw [hdb]
  exact findOrCreate_mem hfind

/-- The session ends with a save of the row as it was loaded, but with level 1 and
experience 0. -/
theorem QuietSession.saves (h : QuietSession env s channelId now payload login save close r) :
    ∃ (storage : Storage) (playerName : List UInt8), r ∈ storage.db.rows ∧
      (execute env s (session channelId now payload login s.completions.length close save)).storage
        = storage.runClose env.mySql r.id r.posX r.posY r.posZ r.mapId 1 0 r.hp playerName
            save := by
  obtain ⟨s₃, playerName, hexec, hloaded, hready, hmem, hecs, hentity⟩ := h.loads
  -- the last three events start in `s₃`
  have hrest : Executable env s₃
      [.completion s.completions.length, close, .strand channelId save] :=
    hexec ▸ h.executable.2.2.2
  obtain ⟨hin, hpool, hstorage⟩ := completion_answers env hloaded hecs
  let s₄ := after (act env (.completion s.completions.length)) s₃
  let s₅ := after (act env close) s₄
  obtain ⟨hingame, hlives⟩ := inGame_of_completion hready hecs hloaded.completion
    h.dbId_pos ⟨hrest.1, rfl⟩ hentity hin
  have hend : execute env s (session channelId now payload login s.completions.length close save)
      = s₅.runStrand env channelId save := by
    rw [session, execute_append, hexec]
    rfl
  have hgone : channelId ∉ s₅.channels := by
    have hgone := h.gone
    obtain ⟨storage, completions, heq⟩ := runStrand_eq env s₅ channelId save
    rw [hend, heq] at hgone
    exact hgone
  have hlast : ∀ entry ∈ s₄.entering close, entry.channelId ≠ channelId := by
    have hlast := h.last
    have hbefore : execute env s ((session channelId now payload login s.completions.length close
        save).take 4) = s₄ := by
      show after (act env (.completion s.completions.length)) (execute env s [.accept channelId now,
        .frame channelId 1001 payload, .strand channelId login]) = s₄
      rw [hexec]
    rw [hbefore] at hlast
    exact hlast
  have hclose : ServerStep env s₄ close s₅ := ⟨hrest.2.1, rfl⟩
  have hposted := hingame.close h.dbId_pos hclose hgone hlast
  obtain ⟨u, hclosed, -⟩ := step_closes hclose hin hgone
  refine ⟨s₅.storage, playerName, ?_, ?_⟩
  · rw [hclosed.db, hstorage]
    exact hmem
  · have hpending : s₄.dbPool.pending channelId = [] := by
      rw [hpool]
      exact hloaded.idle
    rw [hend, runStrand, hposted, if_pos hlives, Pool.pending_post_self, hpending]
    rfl

/-- A session without game events leaves level, experience, hit points and map of the row
unchanged if and only if the row has level 1 and experience 0. -/
theorem quiet_session_keeps_row_iff
    (h : QuietSession env s channelId now payload login save close r) :
    (∀ row ∈ (execute env s (session channelId now payload login s.completions.length close
        save)).storage.db.rows, row.id = r.id →
      row.level = r.level ∧ row.exp = r.exp ∧ row.hp = r.hp ∧ row.mapId = r.mapId) ↔
    r.level = 1 ∧ r.exp = 0 := by
  obtain ⟨storage, playerName, hmem, hstored⟩ := h.saves
  rw [hstored]
  constructor
  · -- the row is still there, with level 1 and experience 0
    intro hall
    obtain ⟨row, hrow, hrowId⟩ := Storage.runClose_keeps_row h.position h.stats hmem rfl
    obtain ⟨⟨hlevel, hexp, -⟩, -⟩ := Storage.runClose_row h.position h.stats hrow hrowId
    obtain ⟨hlevel', hexp', -⟩ := hall row hrow hrowId
    exact ⟨hlevel'.symm.trans hlevel, hexp'.symm.trans hexp⟩
  · rintro ⟨hlevel, hexp⟩ row hrow hrowId
    rw [hlevel, hexp]
    exact (Storage.runClose_row h.position h.stats hrow hrowId).1

end Quiet

/-- **What a session does to the row.** A session of a stored player without game events leaves
level, experience, hit points and map of the row unchanged if and only if the row has level 1
and experience 0. In general, whatever happens between login and close, `on_close` writes back
position, map, level, experience and hit points as loaded and then changed by the events of the
session if and only if, besides, none of these is a kill of the player. -/
theorem session_keeps_row_iff (env : Env) (channelId : Int32) (r : PlayerRecord) :
    (∀ s now payload login save close,
      QuietSession env s channelId now payload login save close r →
      ((∀ row ∈ (execute env s (session channelId now payload login s.completions.length close
          save)).storage.db.rows, row.id = r.id →
        row.level = r.level ∧ row.exp = r.exp ∧ row.hp = r.hp ∧ row.mapId = r.mapId) ↔
      r.level = 1 ∧ r.exp = 0)) ∧
    ∀ playerName s es u e t, PlayedSession env channelId playerName r s es u e t →
      (WritesBack env.mySql u t channelId r.id (progress env channelId s (.loaded r) es) ↔
        Run (guarded (fun s e => s.killed e ≠ some channelId) (SessionStep env channelId)) s es u ∧
          r.level = 1 ∧ r.exp = 0) :=
  ⟨fun _ _ _ _ _ _ h => quiet_session_keeps_row_iff h, fun _ _ _ _ _ _ h => writesBack_iff h⟩

/-- A stored player whose level and experience are the initial ones. -/
def novice : PlayerRecord := { kim with level := 1, exp := 0, hp := 40, mapId := 2 }

/-- A server with one stored player. -/
def storedServer (r : PlayerRecord) : GameServer := plainServer true { rows := [r], nextId := 2 }

/-- The server after the session of the player on channel 1. -/
def storedSession (r : PlayerRecord) : GameServer :=
  execute plainEnv (storedServer r)
    (session 1 0 kimLogin {} (storedServer r).completions.length (.readError 1) {})

/-- The server after the login of the player on channel 1. -/
def noviceStart : GameServer :=
  execute plainEnv (storedServer novice)
    ([.accept 1 0, .frame 1 1001 kimLogin, .strand 1 {}] ++ [.completion 0])

/-- The map thread moves the player, who then changes the map and hits itself. -/
def noviceGame : List ServerEvent :=
  [.gameThreads (noviceStart.ecs.addComponent .position 1 ({ x := ⟨0x3F800000⟩ } : Position)),
    .frame 1 1005 { mapId := 1, x := .zero, y := .zero, z := .zero, timestamp := 0
      : MapEnterReq }.serialize,
    .frame 1 1004 (hitSelf 0)]

theorem novice_quietSession :
    QuietSession plainEnv (storedServer novice) 1 0 kimLogin {} {} (.readError 1) novice := by
  have hfind : (storedServer novice).storage.db.findOrCreate plainEnv.mySql (ascii "kim")
      ({} : DbOutcome).login = (some novice, { rows := [novice], nextId := 2 }) := by
    decide +kernel
  exact
    { start := ⟨_, [], plainServer_init true _, rfl, rfl, .nil⟩
      executable := by decide +kernel
      useEcs := rfl
      entity := by decide +kernel
      found := ⟨_, _, _, kimLogin_parse, by decide +kernel, hfind⟩
      dbId_pos := by decide +kernel
      last := by decide +kernel
      gone := by decide +kernel
      position := by decide +kernel
      stats := by decide +kernel }

theorem noviceGame_lives :
    Run (guarded (fun s e => s.killed e ≠ some 1) (SessionStep plainEnv 1)) noviceStart noviceGame
      (execute plainEnv noviceStart noviceGame) := by
  have hmove : InSession plainEnv 1 noviceStart (.gameThreads
      (noviceStart.ecs.addComponent .position 1 ({ x := ⟨0x3F800000⟩ } : Position))) := by
    refine ⟨⟨nofun, ?_⟩, nofun, ?_⟩
    · rintro ecs ⟨⟩
      exact ⟨funext fun e => GameService.component_addComponent_ne _ (by decide) ..,
        UInt32.le_refl _, fun _ _ => rfl⟩
    · rintro ecs entity ⟨⟩ hentity
      have hone : noviceStart.channelToEntity.lookup 1 = some 1 := by decide +kernel
      cases hone.symm.trans hentity
      decide +kernel
  refine run_execute_session (by decide +kernel) ⟨⟨?_, hmove⟩, ⟨?_, inSession_of_io nofun ?_ ?_⟩,
    ⟨?_, inSession_of_io nofun ?_ ?_⟩, trivial⟩ ?_ <;> decide +kernel

theorem novice_playedSession :
    PlayedSession plainEnv 1 (ascii "kim") novice noviceStart noviceGame
      (execute plainEnv noviceStart noviceGame) (.readError 1)
      (execute plainEnv noviceStart (noviceGame ++ [.readError 1])) := by
  let login : List ServerEvent := [.accept 1 0, .frame 1 1001 kimLogin, .strand 1 {}]
  have hnone : NoPlayers (storedServer novice) := by
    refine ⟨by decide, fun entity hlive => ?_⟩
    have hvalid : (storedServer novice).sessions.manager.isValid entity = false := rfl
    rw [hlive.1] at hvalid
    cases hvalid
  have hlogin : Run (guarded (Orderly plainEnv) (ServerStep plainEnv)) (storedServer novice)
      login (execute plainEnv (storedServer novice) login) := by
    refine run_execute_guarded (by decide +kernel) ⟨orderly_of_ids nofun ?_,
      orderly_of_ids nofun ?_, orderly_of_ids nofun ?_, trivial⟩ <;> decide +kernel
  have hstart : after (act plainEnv (.completion 0)) (execute plainEnv (storedServer novice) login)
      = noviceStart := by
    rw [noviceStart, execute_append, execute_single]
  exact
    { dbId_pos := by decide +kernel
      login := ⟨_, _, _, 0, plainServer_init true _, hnone, rfl, rfl, hlogin, by decide +kernel,
        by decide +kernel, orderly_of_ids nofun (by decide +kernel), by decide +kernel, hstart⟩
      registered := by decide +kernel
      session := noviceGame_lives.of_guarded
      close := ⟨by decide +kernel, by rw [execute_append, execute_single]⟩
      last := by decide +kernel
      gone := by decide +kernel }

theorem session_keeps_row_novice :
    ((storedSession novice).dbPool.done.length = 2 ∧
      ∀ row ∈ (storedSession novice).storage.db.rows,
        row.id = novice.id → row.level = novice.level ∧ row.exp = novice.exp ∧
          row.hp = novice.hp ∧ row.mapId = novice.mapId) ∧
    progress plainEnv 1 noviceStart (.loaded novice) noviceGame
      = ⟨{ x := ⟨0x3F800000⟩ }, 1, 1, 0, 30⟩ ∧
    WritesBack plainEnv.mySql (execute plainEnv noviceStart noviceGame)
      (execute plainEnv noviceStart (noviceGame ++ [.readError 1])) 1 novice.id
      (progress plainEnv 1 noviceStart (.loaded novice) noviceGame) := by
  obtain ⟨hquiet, hplayed⟩ := session_keeps_row_iff plainEnv 1 novice
  refine ⟨⟨by decide +kernel, ?_⟩, by decide +kernel, ?_⟩
  · have hkeeps := (hquiet _ _ _ _ _ _ novice_quietSession).mpr ⟨rfl, rfl⟩
    unfold storedSession
    exact hkeeps
  · exact (hplayed _ _ _ _ _ _ novice_playedSession).mpr ⟨noviceGame_lives, rfl, rfl⟩

/-- Six levels are lost in a session without any game event. -/
theorem session_resets_level :
    Executable plainEnv (storedServer kim)
      (session 1 0 kimLogin {} (storedServer kim).completions.length (.readError 1) {}) ∧
    kim.level = 7 ∧ kim.exp = 420 ∧
    (storedSession kim).storage.db.rows = [{ kim with level := 1, exp := 0 }] := by
  refine ⟨?_, rfl, rfl, ?_⟩
  · decide +kernel
  · decide +kernel

end EcsAsioServer.GameServer
