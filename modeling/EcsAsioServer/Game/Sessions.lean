import EcsAsioServer.Game.Quiet

/-!
# Sessions of players

What the server knows of its players is spread over `channels_`, the three maps keyed by
channel, the active entities and the `Player` components. `Sessions` is this part of the
state on its own, and `SessionEvent` lists the six ways in which it changes: a connection
opens, a player enters the game, travels to another map, is killed, a connection closes,
and the game threads act on entities.

Here is what the handlers do to the sessions, each on its own; `Game.SessionEvents` puts them
together to what an event of the server does.
-/

namespace EcsAsioServer

open Db Ecs FrameCodec Protocol StateProgram Transition

/-! ## The abstract model -/

/-- The connections, and the player behind each of them. -/
structure Sessions where
  useEcs : Bool
  /-- The map threads run. -/
  mapThreads : Bool
  channels : ChannelMap Unit
  entities : ChannelMap Entity
  dbIds : ChannelMap Int64
  maps : ChannelMap Int32
  manager : EntityManager
  players : Entity → Option Player

/-- A player about to enter the game: the `Player` component depends on the entity that
will be created. -/
structure Entry where
  channelId : Int32
  player : Entity → Player
  dbId : Option Int64

/-- What can happen to the sessions. -/
inductive SessionEvent where
  | connect (channelId : Int32)
  | enter (entry : Entry)
  | travel (channelId mapId : Int32)
  | kill (channelId : Int32)
  | leave (channelId : Int32)
  /-- The game threads change entities and components. -/
  | simulate (manager : EntityManager) (players : Entity → Option Player)

namespace Sessions

/-- The entity of a channel, 0 if it has none. -/
def entity (S : Sessions) (channelId : Int32) : Entity := (S.entities.lookup channelId).getD 0

/-- A channel connects, on map 1. -/
def connect (S : Sessions) (channelId : Int32) : Sessions :=
  { S with
    channels := S.channels.insert channelId ()
    maps := if S.mapThreads then S.maps.insert channelId 1 else S.maps }

/-- A player enters with a new entity. -/
def enter (S : Sessions) (entry : Entry) : Sessions :=
  let entity := S.manager.nextEntityId
  { S with
    manager := S.manager.createEntity.2
    players := Function.update S.players entity (some (entry.player entity))
    entities := S.entities.insert entry.channelId entity
    dbIds := entry.dbId.elim S.dbIds (S.dbIds.insert entry.channelId) }

/-- The player of an entity on another map. -/
def relocate (players : Entity → Option Player) (mapId : UInt32) (entity : Entity) :
    Entity → Option Player :=
  Function.update players entity ((players entity).map fun player => { player with mapId })

/-- The player of a channel changes the map. -/
def travel (S : Sessions) (channelId mapId : Int32) : Sessions :=
  { S with
    maps :=
      if S.mapThreads ∧ (S.maps.lookup channelId).getD 1 ≠ mapId then S.maps.insert channelId mapId
      else S.maps
    players := (S.entities.lookup channelId).elim S.players (relocate S.players mapId.toUInt32) }

/-- The entity of a channel is destroyed. -/
def kill (S : Sessions) (channelId : Int32) : Sessions :=
  { S with
    manager := S.manager.destroyEntity (S.entity channelId)
    entities := S.entities.erase channelId }

/-- A channel closes; its entity is destroyed if it has one. -/
def leave (S : Sessions) (channelId : Int32) : Sessions :=
  { S with
    channels := S.channels.erase channelId
    entities := S.entities.erase channelId
    dbIds := S.dbIds.erase channelId
    maps := if S.mapThreads then S.maps.erase channelId else S.maps
    manager :=
      if S.entity channelId ≠ 0 ∧ S.useEcs then S.manager.destroyEntity (S.entity channelId)
      else S.manager }

/-- What a change does. -/
def apply (S : Sessions) : SessionEvent → Sessions
  | .connect channelId => S.connect channelId
  | .enter entry => S.enter entry
  | .travel channelId mapId => S.travel channelId mapId
  | .kill channelId => S.kill channelId
  | .leave channelId => S.leave channelId
  | .simulate manager players => { S with manager, players }

end Sessions

namespace GameServer

/-- The sessions of the server. -/
def sessions (s : GameServer) : Sessions where
  useEcs := s.config.useEcs
  mapThreads := s.mainThreadManager.isSome
  channels := s.channels
  entities := s.channelToEntity
  dbIds := s.channelToDbId
  maps := s.playerMapMapping
  manager := s.ecs.entityManager
  players := s.ecs.component .player

/-! ## Programs that leave the sessions alone -/

variable {s : GameServer} {ecs : GameService ComponentType.Val}

/-- A change of components other than `Player`. -/
theorem sessions_ecs (hmanager : ecs.entityManager = s.ecs.entityManager)
    (hplayers : ecs.component .player = s.ecs.component .player) :
    { s with ecs }.sessions = s.sessions := by
  unfold sessions
  rw [hmanager, hplayers]

theorem sessions_same (h : s.ecs.Same ecs) : { s with ecs }.sessions = s.sessions :=
  sessions_ecs h.entityManager (funext fun e => h.component .player e)

theorem sessions_observation : Observation sessions where
  net _ _ _ := rfl
  same _ _ h := sessions_same h
  mainThread s f := by simp [sessions]
  pool _ _ := rfl

theorem quiet_addComponent {t : ComponentType} (ht : t ≠ .player) (entity : Entity) (c : t.Val) :
    Quiet sessions (addComponent t entity c) :=
  .modify fun s => sessions_ecs rfl
    (funext fun e => s.ecs.component_addComponent_ne ht.symm entity e c)

variable (env : Env)

theorem quiet_movePlayer (channelId : Int32) (req : PlayerMoveReq) :
    Quiet sessions (movePlayer channelId req) := by
  refine (sessions_observation.findEntity channelId).bind fun player => .ite ?_ (.pure _)
  refine (sessions_observation.getComponent .position player).bind fun pos => ?_
  cases pos with
  | none => exact .pure _
  | some _ => exact quiet_addComponent (by decide) _ _

theorem quiet_handleMove (channelId : Int32) (payload : List UInt8) :
    Quiet sessions (handleMove env channelId payload) :=
  sessions_observation.handleMove env channelId payload fun req => quiet_movePlayer channelId req

/-! ## A channel closes -/

theorem sessions_closeWith {channelId : Int32} (h : s.ClosedEcs channelId ecs) :
    (s.closeWith channelId ecs).sessions = s.sessions.leave channelId := by
  have hplayers : ecs.component .player = s.ecs.component .player := by
    funext e
    rw [h.component .player e]
    split
    · exact s.ecs.component_destroyEntity ..
    · rfl
  have hmanager : ecs.entityManager = (s.sessions.leave channelId).manager := by
    rw [h.entityManager]
    exact apply_ite GameService.entityManager ..
  unfold sessions Sessions.leave at hmanager ⊢
  simp only [closeWith, hplayers, hmanager]

/-- The sessions `T` are `S`, or what is left of `S` when the channel has closed. -/
def UpToClose (channelId : Int32) (S T : Sessions) : Prop := T = S ∨ T = S.leave channelId

/-- Outside the lock a channel may close. -/
theorem callChannel_sessions (hm : s.mtx = false) (channelId : Int32)
    {call : AsioChannel → AsioChannel × List Callback}
    (hcall : ∀ ch, AsioChannel.Ends ch (call ch)) :
    UpToClose channelId s.sessions (after (callChannel channelId call) s).sessions := by
  obtain ⟨net, heq | ⟨ecs, heq, hecs⟩⟩ := callChannel_free hm channelId hcall
  · rw [after_ok heq]
    exact .inl rfl
  · rw [after_ok heq]
    exact .inr (sessions_closeWith hecs)

/-! ## A player enters -/

/-- The player of a login without a database. -/
def plainEntry (channelId : Int32) (playerName : List UInt8) : Entry where
  channelId
  player entity := Player.make playerName entity channelId 1
  dbId := none

/-- The player of a loaded row. -/
def recordEntry (channelId : Int32) (playerName : List UInt8) (record : PlayerRecord) : Entry where
  channelId
  player entity := Player.make playerName
    (if 0 < record.id then record.id.toUInt64.toUInt32 else entity) channelId record.mapId.toUInt32
  dbId := if 0 < record.id then some record.id else none

/-- The entity of a player who enters now. -/
def nextPlayer (s : GameServer) : Entity :=
  if s.config.useEcs then s.ecs.entityManager.nextEntityId else 0

/-- A player has entered the game. Without entities nothing has changed. -/
structure Enters (s : GameServer) (entry : Entry) (player : Entity) (t : GameServer) : Prop where
  player_eq : player = s.nextPlayer
  mtx : t.mtx = false
  net : t.net = s.net
  channels : t.channels = s.channels
  sessions : t.sessions = if s.config.useEcs then s.sessions.enter entry else s.sessions
  dbPool : t.dbPool = s.dbPool
  dbStrands : t.dbStrands = s.dbStrands
  dao : t.hasPlayerDao = s.hasPlayerDao
  storage : t.storage = s.storage
  completions : t.completions = s.completions
  ecs : s.config.useEcs = false → t.ecs = s.ecs

theorem enters_none (hm : s.mtx = false) (hecs : s.config.useEcs = false) (entry : Entry) :
    Enters s entry 0 s :=
  ⟨by rw [nextPlayer, hecs]; rfl, hm, rfl, rfl, by rw [hecs]; rfl, rfl, rfl, rfl, rfl, rfl,
    fun _ => rfl⟩

/-- The new entity is in `channel_to_entity_`, and its row in `channel_to_db_id_`. -/
theorem enters_some (hm : s.mtx = false) (hecs : s.config.useEcs = true) (entry : Entry)
    {ecs : GameService ComponentType.Val}
    (hmanager : ecs.entityManager = s.ecs.entityManager.createEntity.2)
    (hplayers : ecs.component .player = Function.update (s.ecs.component .player)
      s.ecs.entityManager.nextEntityId (some (entry.player s.ecs.entityManager.nextEntityId))) :
    Enters s entry s.ecs.entityManager.nextEntityId { s with
      ecs
      channelToEntity := s.channelToEntity.insert entry.channelId s.ecs.entityManager.nextEntityId
      channelToDbId :=
        entry.dbId.elim s.channelToDbId (s.channelToDbId.insert entry.channelId) } := by
  refine ⟨by rw [nextPlayer, hecs]; rfl, hm, rfl, rfl, ?_, rfl, rfl, rfl, rfl, rfl, ?_⟩
  · rw [if_pos hecs]
    simp only [sessions, hmanager, hplayers]
    rfl
  · rw [hecs]
    exact fun h => by cases h

theorem enterWithoutDb_sessions (hm : s.mtx = false) (channelId : Int32) (playerName : List UInt8) :
    ∃ player t, enterWithoutDb channelId playerName s = .ok player t ∧
      Enters s (plainEntry channelId playerName) player t := by
  rw [enterWithoutDb, get_bind_apply]
  cases hecs : s.config.useEcs with
  | false => exact ⟨0, s, rfl, enters_none hm hecs _⟩
  | true =>
    obtain ⟨ecs, hspawn, hmanager, -, hplayers, -⟩ := spawnPlayer_ok s playerName
      (fun player => player) channelId 1 {} (Health.make 100 50)
    refine ⟨_, _, ?_, enters_some hm hecs (plainEntry channelId playerName) hmanager hplayers⟩
    rw [if_pos rfl, bind_ok hspawn]
    have hfree := withMtx_free (s := { s with ecs }) hm (modify fun s' : GameServer =>
      { s' with channelToEntity := s'.channelToEntity.insert channelId
                  s.ecs.entityManager.nextEntityId })
    rw [bind_apply, hfree]
    rw [← hm]
    rfl

theorem enterGame_sessions (hm : s.mtx = false) (channelId : Int32) (playerName : List UInt8)
    (record : PlayerRecord) :
    ∃ player t, enterGame channelId playerName record s = .ok player t ∧
      Enters s (recordEntry channelId playerName record) player t := by
  cases hecs : s.config.useEcs with
  | false =>
    refine ⟨0, s, ?_, enters_none hm hecs _⟩
    rw [enterGame, get_bind_apply, hecs]
    rfl
  | true =>
    obtain ⟨ecs, hok, hmanager, -, hplayers, -⟩ :=
      enterGame_ok hm hecs channelId playerName record
    refine ⟨_, _, hok.trans ?_,
      enters_some hm hecs (recordEntry channelId playerName record) hmanager hplayers⟩
    simp only [recordEntry]
    split <;> rfl

/-! ## A player is killed -/

/-- The io thread stops only while it holds `mtx_`. -/
theorem stuck_kept : Kept (fun _ => True) fun s => s.mtx = true where
  mtx _ _ h := h
  locked _ hm _ := hm
  ecs _ _ h := h
  guild _ _ _ _ h := h
  mainThread _ _ h := h
  net _ _ _ _ _ _ h := h
  close _ _ _ _ _ _ _ _ _ h := h
  stuck _ _ _ _ _ _ _ hm _ := hm
  setEntity _ _ _ _ h := h
  eraseEntity _ _ h := h
  setDbId _ _ _ _ h := h
  setMap _ _ _ _ _ h := h
  post _ _ _ _ h := h
  completions _ _ _ h := h

theorem withMtx_ok_free {α : Type} {t : GameServer} {body : ServerM α} {a : α}
    (h : withMtx body s = .ok a t) : t.mtx = false := by
  cases hm : s.mtx with
  | true =>
    rw [withMtx_locked hm] at h
    cases h
  | false =>
    rw [withMtx_free hm] at h
    obtain ⟨b, u, -, hlast⟩ := bind_eq_ok.mp h
    cases hlast
    rfl

theorem withMtx_modify (h : s.mtx = false) (f : GameServer → GameServer) :
    withMtx (modify f) s = .ok () { f { s with mtx := true } with mtx := false } := by
  rw [withMtx_free h]
  rfl

/-- The answers to an attack. -/
def attackAnswers (channelId : Int32) (res notice : List UInt8) : ServerM Unit := do
  sendTestFrame env channelId 1004 res
  broadcastExcept env channelId 1004 notice

/-- They all go out, or the io thread is stuck. -/
theorem attackAnswers_cases (s : GameServer) (channelId : Int32) (res notice : List UInt8) :
    ∃ t, t.sessions = s.sessions ∧
      (t.mtx = false ∧ attackAnswers env channelId res notice s = .ok () t ∨
        t.mtx = true ∧ attackAnswers env channelId res notice s = .error .selfDeadlock t) := by
  have hquiet : Quiet sessions (attackAnswers env channelId res notice) :=
    (sessions_observation.sendTestFrame env channelId 1004 res).bind fun _ =>
      sessions_observation.broadcastExcept env channelId 1004 notice
  have hstuck : Keeps (fun _ => True) (fun s => s.mtx = true)
      (attackAnswers env channelId res notice) :=
    (stuck_kept.sendTestFrame env channelId 1004 res).bind fun _ =>
      stuck_kept.broadcastExcept env channelId 1004 notice
  have hs := hquiet s.sessions s rfl
  have hm := hstuck s trivial
  cases hr : attackAnswers env channelId res notice s with
  | ok a t =>
    rw [hr] at hs
    obtain ⟨-, u, -, hlast⟩ := bind_eq_ok.mp hr
    exact ⟨t, hs, .inl ⟨withMtx_ok_free hlast, rfl⟩⟩
  | error e t =>
    rw [hr] at hs hm
    exact ⟨t, hs, .inr ⟨hm, rfl⟩⟩

/-- The end of an attack. -/
def removeDead (targetChannel : Int32) (target : Entity) (hp : UInt32) : ServerM Unit :=
  if hp = 0 then do
    destroyEntity target
    withMtx <| modify fun s => { s with channelToEntity := s.channelToEntity.erase targetChannel }
  else pure ()

/-- A target without health points is destroyed, and its channel loses it. -/
theorem removeDead_ok (hm : s.mtx = false) (targetChannel : Int32) (hp : UInt32) :
    ∃ t, removeDead targetChannel (s.sessions.entity targetChannel) hp s = .ok () t ∧
      t.mtx = false ∧
      t.sessions = if hp = 0 then s.sessions.kill targetChannel else s.sessions := by
  by_cases hdead : hp = 0
  · refine ⟨{ s with
      mtx := false
      ecs := s.ecs.destroyEntity (s.sessions.entity targetChannel)
      channelToEntity := s.channelToEntity.erase targetChannel }, ?_, rfl, ?_⟩
    · rw [removeDead, if_pos hdead, destroyEntity, modify_bind_apply]
      exact withMtx_modify (s := { s with ecs := s.ecs.destroyEntity _ }) hm _
    · have hplayers : (s.ecs.destroyEntity (s.sessions.entity targetChannel)).component .player
          = s.ecs.component .player := funext fun e => s.ecs.component_destroyEntity ..
      rw [if_pos hdead]
      simp only [sessions, Sessions.kill] at hplayers ⊢
      rw [hplayers]
      rfl
  · exact ⟨s, by rw [removeDead, if_neg hdead]; rfl, hm, by rw [if_neg hdead]⟩

/-- An attack up to its answers: only the health of the target changes. -/
theorem attackEntity_struck (s : GameServer) (channelId targetChannel : Int32) (target : Entity)
    (req : AttackReq) :
    ∃ t, t.sessions = s.sessions ∧
      after (attackEntity env channelId targetChannel target req) s = after
        (attackAnswers env channelId (attackRes req (remainingHp s target req)).serialize
          (damageNotify channelId req (remainingHp s target req)).serialize >>=
        fun _ => removeDead targetChannel target (remainingHp s target req)) t := by
  obtain ⟨ecs₁, hdamage, hmanager, hothers, hhealth⟩ := takeDamage_ok s target (attackDamage req)
  have hsame₁ : { s with ecs := ecs₁ }.sessions = s.sessions :=
    sessions_ecs hmanager (funext fun e => hothers .player e (.inl (by decide)))
  obtain ⟨ecs₂, hgetHp, hsame₂⟩ := getHp_ok { s with ecs := ecs₁ } target
  have hremaining : (ecs₁.component .health target : Option Health).elim 0 Health.hp
      = remainingHp s target req := by
    rw [hhealth, remainingHp]
    cases s.ecs.component .health target <;> rfl
  rw [hremaining] at hgetHp
  refine ⟨_, (sessions_same hsame₂).trans hsame₁, ?_⟩
  rw [attackAnswers, bind_assoc, attackEntity, after_bind_ok hdamage, after_bind_ok hgetHp]
  rfl

/-- A kill takes the entity off the map of its channel. -/
theorem attackEntity_sessions (channelId targetChannel : Int32) (req : AttackReq) :
    let target := s.sessions.entity targetChannel
    let t := after (attackEntity env channelId targetChannel target req) s
    t.sessions = if remainingHp s target req = 0 ∧ t.mtx = false then s.sessions.kill targetChannel
      else s.sessions := by
  intro target t
  obtain ⟨s₂, hs₂, ht⟩ := attackEntity_struck env s channelId targetChannel target req
  obtain ⟨s₃, hs₃, ⟨hm, hok⟩ | ⟨hm, herror⟩⟩ := attackAnswers_cases env s₂ channelId
    (attackRes req (remainingHp s target req)).serialize
    (damageNotify channelId req (remainingHp s target req)).serialize
  · -- the answers are out, and `mtx_` is free
    have hsame : s₃.sessions = s.sessions := hs₃.trans hs₂
    obtain ⟨u, hkill, hfree, hsessions⟩ :=
      removeDead_ok hm targetChannel (remainingHp s target req)
    rw [hsame] at hkill hsessions
    have htu : t = u := ht.trans (by rw [after_bind_ok hok, after_ok hkill])
    rw [htu, hsessions, hfree]
    simp only [and_true]
  · have hstuck : t = s₃ := ht.trans (by rw [after, bind_error herror])
    rw [hstuck, if_neg (by simp [hm]), hs₃, hs₂]

/-! ## A player travels -/

theorem switchMap_ok (s : GameServer) (channelId targetMapId : Int32) :
    switchMap channelId targetMapId s = .ok () { s with
      playerMapMapping :=
        if s.mainThreadManager.isSome ∧ s.getPlayerMap channelId ≠ targetMapId then
          s.playerMapMapping.insert channelId targetMapId
        else s.playerMapMapping } := by
  rw [switchMap, get_bind_apply, get_bind_apply, ite_run]
  by_cases hcond : s.mainThreadManager.isSome = true ∧ s.getPlayerMap channelId ≠ targetMapId
  · rw [if_pos hcond, if_pos hcond]
    rfl
  · rw [if_neg hcond, if_neg hcond]
    rfl

/-- `map_id` of the player is set, if there is one. -/
theorem setPlayerMapId_ok (hm : s.mtx = false) (channelId : Int32) (mapId : UInt32) :
    ∃ ecs, setPlayerMapId channelId mapId s = .ok () { s with ecs } ∧
      ecs.entityManager = s.ecs.entityManager ∧
      ecs.component .player = (s.channelToEntity.lookup channelId).elim (s.ecs.component .player)
        (Sessions.relocate (s.ecs.component .player) mapId) := by
  cases hentity : s.channelToEntity.lookup channelId with
  | none =>
    refine ⟨s.ecs, ?_, rfl, rfl⟩
    rw [setPlayerMapId, withMtx_free hm, bind_assoc, get_bind_apply, hentity]
    show EStateM.Result.ok () { s with mtx := false } = _
    rw [← hm]
  | some entity =>
    let ecs₁ := (s.ecs.getComponent .player entity).2
    have hsame : s.ecs.Same ecs₁ := s.ecs.same_getComponent ..
    have hplayers : ecs₁.component .player = s.ecs.component .player :=
      funext fun e => hsame.component ..
    cases hplayer : s.ecs.component .player entity with
    | none =>
      refine ⟨ecs₁, ?_, hsame.entityManager, ?_⟩
      · rw [setPlayerMapId, withMtx_free hm, bind_assoc, get_bind_apply, hentity]
        dsimp only
        rw [bind_assoc, bind_ok (getComponent_apply ..), hplayer]
        show EStateM.Result.ok () { s with mtx := false, ecs := ecs₁ } = _
        rw [← hm]
      · rw [hplayers]
        refine (Function.update_eq_self_iff.mpr ?_).symm
        rw [hplayer]
        rfl
    | some player =>
      refine ⟨ecs₁.addComponent .player entity ({ (player : Player) with mapId } : Player),
        ?_, hsame.entityManager, ?_⟩
      · rw [setPlayerMapId, withMtx_free hm, bind_assoc, get_bind_apply, hentity]
        dsimp only
        rw [bind_assoc, bind_ok (getComponent_apply ..), hplayer]
        show EStateM.Result.ok () { s with mtx := false, ecs := _ } = _
        rw [← hm]
      · refine (ecs₁.component_addComponent ..).trans ?_
        rw [hplayers]
        refine congrArg (Function.update (s.ecs.component .player) entity) ?_
        rw [hplayer]
        rfl

/-- The map that a MAP_ENTER asks for, if it is configured. -/
def travelTarget (s : GameServer) (payload : List UInt8) : Option Int32 :=
  match MapEnterReq.parse payload with
  | .error _ _ => none
  | .ok req _ =>
    if (s.config.maps.find? fun m => m.id = req.mapId.toInt32).isSome then some req.mapId.toInt32
    else none

/-- MAP_ENTER moves the player to a map that exists. -/
theorem handleMapEnter_sessions (hm : s.mtx = false) (channelId : Int32) (payload : List UInt8) :
    (after (handleMapEnter env channelId payload) s).sessions
      = (s.travelTarget payload).elim s.sessions (s.sessions.travel channelId) := by
  unfold handleMapEnter travelTarget
  cases MapEnterReq.parse payload with
  | error _ _ => rfl
  | ok req _ =>
    dsimp only
    rw [after_bind_ok (get_apply s)]
    cases s.config.maps.find? fun m => m.id = req.mapId.toInt32 with
    | none => exact (sessions_observation.sendTestFrame env channelId 1005 _).after s
    | some mapCfg =>
      let maps := if s.mainThreadManager.isSome ∧ s.getPlayerMap channelId ≠ req.mapId.toInt32 then
          s.playerMapMapping.insert channelId req.mapId.toInt32
        else s.playerMapMapping
      obtain ⟨ecs, hset, hmanager, hplayers⟩ := setPlayerMapId_ok
        (s := { s with playerMapMapping := maps }) hm channelId req.mapId.toInt32.toUInt32
      dsimp only
      rw [after_bind_ok (switchMap_ok s channelId _), after_bind_ok hset,
        (sessions_observation.sendTestFrame env channelId 1005 _).after]
      simp only [sessions, hmanager, hplayers]
      rfl

end GameServer

end EcsAsioServer
