import EcsAsioServer.Game.GameServer

/-!
# Message handlers (`server/game/handlers/*.cpp`, `combat_system.cpp`)

One function for each message of the dispatcher, and the completion that a login
posts back from its DB strand.

Two styles of replying meet here. `PING`, `ECHO` and `LOGIN` look the channel up in a
scope of its own and send after it (`reply`); all others go through
`send_test_frame`, `broadcast` and `broadcast_except`, which send while they hold
`mtx_`.
-/

namespace EcsAsioServer.GameServer

open Db Ecs FrameCodec Protocol StateProgram

variable (env : Env)

/-! ## PING and ECHO -/

/-- PING is answered with PONG. -/
def handlePing (channelId : Int32) : ServerM Unit :=
  reply env channelId 2 (ascii "PONG")

/-- ECHO is answered with its payload. -/
def handleEcho (channelId : Int32) (payload : List UInt8) : ServerM Unit :=
  reply env channelId 100 payload

/-! ## LOGIN -/

/-- The entity of a player and its components. -/
def spawnPlayer (playerName : List UInt8) (playerId : Entity → UInt32) (channelId : Int32)
    (mapId : UInt32) (pos : Position) (health : Health) : ServerM Entity := do
  let player ← createEntity
  addComponent .position player pos
  addComponent .velocity player ({} : Velocity)
  addComponent .player player (Player.make playerName (playerId player) channelId mapId)
  addComponent .health player health
  return player

/-- The token check of `handle_login`: with a Redis client, a non-empty token must be
registered. -/
def tokenRejected (s : GameServer) (token : List UInt8) : Bool :=
  match s.storage.redis with
  | some redis => token ≠ [] && (redis.getPlayerIdByToken token).isNone
  | none => false

/-- The session of a player without a database; 0 without entities. -/
def enterWithoutDb (channelId : Int32) (playerName : List UInt8) : ServerM Entity := do
  if (← get).config.useEcs then
    let player ← spawnPlayer playerName (fun player => player) channelId 1 {} (Health.make 100 50)
    withMtx <| modify fun s =>
      { s with channelToEntity := s.channelToEntity.insert channelId player }
    return player
  else return 0

/-- The login without a database. -/
def loginWithoutDb (channelId : Int32) (req : LoginReq) : ServerM Unit := do
  let player ← enterWithoutDb channelId req.playerName
  reply env channelId 1001
    { success := true, message := ascii "ok", playerId := player, mapId := 1 : LoginRes }.serialize

/-- The login with a database: the rest runs on the channel's strand. -/
def loginWithDb (channelId : Int32) (req : LoginReq) : ServerM Unit := do
  let strand ← withMtx do return decide (channelId ∈ (← get).dbStrands)
  -- without a strand the client gets no answer
  if strand then post channelId (.login channelId req.playerName)

/-- `handle_login`. -/
def handleLogin (channelId : Int32) (payload : List UInt8) : ServerM Unit := do
  match LoginReq.parse payload with
  | .error _ _ => return
  | .ok req _ =>
    if tokenRejected (← get) req.sessionToken then
      reply env channelId 1001
        { success := false, message := ascii "invalid_token", playerId := 0, mapId := 0
          : LoginRes }.serialize
    else if (← get).hasPlayerDao then loginWithDb channelId req
    else loginWithoutDb env channelId req

/-- The entity and the maps of a loaded player. -/
def spawnRecord (channelId : Int32) (playerName : List UInt8) (record : PlayerRecord) :
    ServerM Entity := do
  let dbId := record.id
  let player ← spawnPlayer playerName
    (fun player => if 0 < dbId then dbId.toUInt64.toUInt32 else player) channelId
    record.mapId.toUInt32
    { x := record.posX, y := record.posY, z := record.posZ }
    { Health.make record.maxHp.toUInt32 50 with hp := record.hp.toUInt32 }
  withMtx do
    modify fun s => { s with channelToEntity := s.channelToEntity.insert channelId player }
    if 0 < dbId then
      modify fun s => { s with channelToDbId := s.channelToDbId.insert channelId dbId }
  return player

/-- The session of a loaded player; 0 without entities. -/
def enterGame (channelId : Int32) (playerName : List UInt8) (record : PlayerRecord) :
    ServerM Entity := do
  if (← get).config.useEcs then spawnRecord channelId playerName record else return 0

/-- A new entity with its components; the other players keep theirs. -/
theorem spawnPlayer_ok (s : GameServer) (playerName : List UInt8) (playerId : Entity → UInt32)
    (channelId : Int32) (mapId : UInt32) (pos : Position) (health : Health) :
    let entity := s.ecs.entityManager.nextEntityId
    ∃ ecs, spawnPlayer playerName playerId channelId mapId pos health s
        = .ok entity { s with ecs } ∧
      ecs.entityManager = s.ecs.entityManager.createEntity.2 ∧
      ecs.component .position entity = some pos ∧
      ecs.component .player = Function.update (s.ecs.component .player) entity
        (some (Player.make playerName (playerId entity) channelId mapId)) ∧
      ecs.component .health entity = some health ∧
      ∀ t e, e ≠ entity → ecs.component t e = s.ecs.component t e := by
  intro entity
  let ecs₀ := s.ecs.createEntity.2
  let ecs₁ := ecs₀.addComponent .position entity pos
  let ecs₂ := ecs₁.addComponent .velocity entity ({} : Velocity)
  let ecs₃ := ecs₂.addComponent .player entity
    (Player.make playerName (playerId entity) channelId mapId)
  refine ⟨ecs₃.addComponent .health entity health, rfl, rfl, ?_, ?_,
    ecs₃.component_addComponent_self .., ?_⟩
  · calc (ecs₃.addComponent .health entity health).component .position entity
        = ecs₃.component .position entity := ecs₃.component_addComponent_ne (by decide) ..
      _ = ecs₂.component .position entity := ecs₂.component_addComponent_ne (by decide) ..
      _ = ecs₁.component .position entity := ecs₁.component_addComponent_ne (by decide) ..
      _ = (some pos : Option (ComponentType.Val .position)) :=
        GameService.component_addComponent_self ..
  · have hbefore : ecs₂.component .player = s.ecs.component .player := by
      funext e
      have hvelocity : ecs₂.component .player e = ecs₁.component .player e :=
        ecs₁.component_addComponent_ne (by decide) ..
      have hposition : ecs₁.component .player e = ecs₀.component .player e :=
        ecs₀.component_addComponent_ne (by decide) ..
      exact hvelocity.trans hposition
    calc (ecs₃.addComponent .health entity health).component .player
        = ecs₃.component .player := funext fun e => ecs₃.component_addComponent_ne (by decide) ..
      _ = Function.update (ecs₂.component .player) entity _ := ecs₂.component_addComponent ..
      _ = _ := by rw [hbefore]
  · intro t e he
    calc (ecs₃.addComponent .health entity health).component t e
        = ecs₃.component t e := ecs₃.component_addComponent_other he _
      _ = ecs₂.component t e := ecs₂.component_addComponent_other he _
      _ = ecs₁.component t e := ecs₁.component_addComponent_other he _
      _ = ecs₀.component t e := ecs₀.component_addComponent_other he _

/-- Entering the game puts the row into the components of a new entity. -/
theorem enterGame_ok {s : GameServer} (hmtx : s.mtx = false) (hecs : s.config.useEcs = true)
    (channelId : Int32) (playerName : List UInt8) (record : PlayerRecord) :
    let entity := s.ecs.entityManager.nextEntityId
    ∃ ecs, enterGame channelId playerName record s = .ok entity
        { s with
          ecs
          channelToEntity := s.channelToEntity.insert channelId entity
          channelToDbId :=
            if 0 < record.id then s.channelToDbId.insert channelId record.id
            else s.channelToDbId } ∧
      ecs.entityManager = s.ecs.entityManager.createEntity.2 ∧
      ecs.component .position entity
        = some ({ x := record.posX, y := record.posY, z := record.posZ } : Position) ∧
      ecs.component .player = Function.update (s.ecs.component .player) entity
        (some (Player.make playerName
          (if 0 < record.id then record.id.toUInt64.toUInt32 else entity) channelId
          record.mapId.toUInt32)) ∧
      ecs.component .health entity = some
        ({ Health.make record.maxHp.toUInt32 50 with hp := record.hp.toUInt32 } : Health) ∧
      ∀ t e, e ≠ entity → ecs.component t e = s.ecs.component t e := by
  intro entity
  obtain ⟨ecs, hspawn, hcomponents⟩ := spawnPlayer_ok s playerName
    (fun player => if 0 < record.id then record.id.toUInt64.toUInt32 else player) channelId
    record.mapId.toUInt32 { x := record.posX, y := record.posY, z := record.posZ }
    { Health.make record.maxHp.toUInt32 50 with hp := record.hp.toUInt32 }
  refine ⟨ecs, ?_, hcomponents⟩
  rw [enterGame, get_bind_apply, if_pos hecs, spawnRecord, bind_ok hspawn]
  have hfree := withMtx_free (s := { s with ecs }) hmtx (do
    modify fun s' : GameServer =>
      { s' with channelToEntity := s'.channelToEntity.insert channelId entity }
    if 0 < record.id then
      modify fun s' : GameServer =>
        { s' with channelToDbId := s'.channelToDbId.insert channelId record.id })
  rw [bind_apply, hfree]
  by_cases hid : 0 < record.id <;> simp [hid, entity, hmtx]

/-- The completion of a login on the io thread. -/
def loginCompleted (c : Completion) : ServerM Unit := do
  -- the channel may have closed in the meantime
  if ← findChannel c.channelId then
    match c.record with
    | none =>
      reply env c.channelId 1001
        { success := false, message := ascii "db_error", playerId := 0, mapId := 0
          : LoginRes }.serialize
    | some record =>
      let player ← enterGame c.channelId c.playerName record
      let respId := if 0 < record.id then record.id.toUInt64.toUInt32 else player
      reply env c.channelId 1001
        { success := true, message := ascii "ok", playerId := respId
          mapId := record.mapId.toUInt32 : LoginRes }.serialize

/-! ## MOVE -/

/-- `send_packet_to_map`: a packet for an unknown map is dropped. -/
def sendPacketToMap (mapId : Int32) (packet : Packet) (m : MainThreadManager) :
    MainThreadManager :=
  match m.packets.lookup mapId with
  | some queue => { m with packets := m.packets.insert mapId (queue ++ [packet]) }
  | none => m

/-- `route_packet_to_map`. -/
def routePacketToMap (channelId : Int32) (cmd : UInt16) (data : List UInt8) : ServerM Unit :=
  modify fun s =>
    { s with
      mainThreadManager :=
        s.mainThreadManager.map (sendPacketToMap (s.getPlayerMap channelId)
          { channelId, cmd, data }) }

/-- The entity of a channel, 0 if it has none. -/
def findEntity (channelId : Int32) : ServerM Entity := withMtx do
  return ((← get).channelToEntity.lookup channelId).getD 0

/-- The move of the player's `Position` on the direct path. -/
def movePlayer (channelId : Int32) (req : PlayerMoveReq) : ServerM Unit := do
  let player ← findEntity channelId
  if player ≠ 0 then
    match ← getComponent .position player with
    | some (_ : Position) =>
      addComponent .position player ({ x := req.x, y := req.y, z := req.z } : Position)
    | none => pure ()

/-- The movement notice to the other channels. -/
def moveNotice (channelId : Int32) (req : PlayerMoveReq) : List UInt8 :=
  writeLe32 channelId.toUInt32 ++ writeFloatLe req.x ++ writeFloatLe req.y
    ++ writeFloatLe req.z

/-- `handle_move`. -/
def handleMove (channelId : Int32) (payload : List UInt8) : ServerM Unit := do
  match PlayerMoveReq.parse payload with
  | .error _ _ => return
  | .ok req _ =>
    -- the map thread applies the move later; the client gets no answer here
    if (← get).mainThreadManager.isSome then routePacketToMap channelId 0x1001 payload
    else
      if (← get).config.useEcs then movePlayer channelId req
      broadcastExcept env channelId 1002 (moveNotice channelId req)
      sendTestFrame env channelId 1002 (ascii "ok")

/-! ## CHAT -/

/-- `handle_chat`. -/
def handleChat (channelId : Int32) (payload : List UInt8) : ServerM Unit := do
  if (← get).mainThreadManager.isSome then
    modify fun s =>
      { s with
        mainThreadManager := s.mainThreadManager.map fun m =>
          { m with globalTasks := m.globalTasks ++ [(channelId, payload)] } }
  else
    broadcast env 1003 (writeLe32 channelId.toUInt32 ++ payload)
    sendTestFrame env channelId 1003 (ascii "CHAT_SUCCESS")

/-! ## ATTACK -/

/-- What an attack leaves of the hit points. -/
def damaged (damage : UInt32) (health : Health) : Health :=
  { health with hp := if damage < health.hp then health.hp - damage else 0 }

/-- `CombatSystem::take_damage`. -/
def takeDamage (entity : Entity) (damage : UInt32) : ServerM Unit := do
  match ← getComponent .health entity with
  | some (health : Health) => addComponent .health entity (damaged damage health)
  | none => pure ()

/-- `CombatSystem::get_hp`. -/
def getHp (entity : Entity) : ServerM UInt32 := do
  match ← getComponent .health entity with
  | some (health : Health) => return health.hp
  | none => return 0

/-- The damage of an attack, in 32-bit arithmetic. -/
def attackDamage (req : AttackReq) : UInt32 := 10 + req.skillId * 5

/-- The answer when the attacker or the target has no entity. -/
def attackFailed : AttackRes where
  success := false
  message := ascii "target not found"
  attackId := 0
  damage := 0
  targetRemainingHp := 0

/-- The answer to an attack. -/
def attackRes (req : AttackReq) (remainingHp : UInt32) : AttackRes where
  success := true
  message := if remainingHp = 0 then ascii "killed" else ascii "hit"
  attackId := 1
  damage := attackDamage req
  targetRemainingHp := remainingHp

/-- The notice of an attack to the other channels. -/
def damageNotify (channelId : Int32) (req : AttackReq) (remainingHp : UInt32) : DamageNotify where
  attackerId := channelId.toUInt32
  targetId := req.targetId
  damage := attackDamage req
  remainingHp := remainingHp
  attackId := 1
  timestamp := req.timestamp

/-- An attack between two entities that exist. -/
def attackEntity (channelId targetChannel : Int32) (target : Entity) (req : AttackReq) :
    ServerM Unit := do
  -- `GameService::initialize` registers the combat system, so it is found
  takeDamage target (attackDamage req)
  let remainingHp ← getHp target
  sendTestFrame env channelId 1004 (attackRes req remainingHp).serialize
  broadcastExcept env channelId 1004 (damageNotify channelId req remainingHp).serialize
  -- a dead target keeps its entry in `channel_to_db_id_`
  if remainingHp = 0 then
    destroyEntity target
    withMtx <| modify fun s =>
      { s with channelToEntity := s.channelToEntity.erase targetChannel }

/-- `handle_attack`. -/
def handleAttack (channelId : Int32) (payload : List UInt8) : ServerM Unit := do
  match AttackReq.parse payload with
  | .error _ _ => return
  | .ok req _ =>
    let targetChannel := req.targetId.toInt32
    let (attacker, target) ← withMtx do
      let s ← get
      return ((s.channelToEntity.lookup channelId).getD 0,
        (s.channelToEntity.lookup targetChannel).getD 0)
    if attacker = 0 ∨ target = 0 then
      sendTestFrame env channelId 1004 attackFailed.serialize
    else attackEntity env channelId targetChannel target req

/-- The hit points that an attack leaves its target. -/
def remainingHp (s : GameServer) (target : Entity) (req : AttackReq) : UInt32 :=
  let health : Option Health := s.ecs.component .health target
  (health.map (damaged (attackDamage req))).elim 0 Health.hp

theorem hp_damaged (damage : UInt32) (health : Health) :
    (damaged damage health).hp.toNat = health.hp.toNat - damage.toNat := by
  show (if damage < health.hp then health.hp - damage else 0).toNat = _
  split
  · next h => exact UInt32.toNat_sub_of_le _ _ (UInt32.le_of_lt h)
  · next h =>
    rw [UInt32.lt_iff_toNat_lt] at h
    rw [Nat.sub_eq_zero_of_le (Nat.not_lt.mp h)]
    rfl

/-- `take_damage` on the components. -/
theorem takeDamage_ok (s : GameServer) (entity : Entity) (damage : UInt32) :
    ∃ ecs, takeDamage entity damage s = .ok () { s with ecs } ∧
      ecs.entityManager = s.ecs.entityManager ∧
      (∀ t e, t ≠ .health ∨ e ≠ entity → ecs.component t e = s.ecs.component t e) ∧
      (ecs.component .health entity : Option Health)
        = (s.ecs.component .health entity : Option Health).map (damaged damage) := by
  let ecs₁ := (s.ecs.getComponent .health entity).2
  have hsame : s.ecs.Same ecs₁ := s.ecs.same_getComponent ..
  rw [takeDamage, bind_ok (getComponent_apply ..)]
  cases hhealth : s.ecs.component .health entity with
  | none =>
    exact ⟨ecs₁, rfl, hsame.entityManager, fun t e _ => hsame.component t e,
      (hsame.component ..).trans hhealth⟩
  | some health =>
    refine ⟨ecs₁.addComponent .health entity (damaged damage health), rfl, hsame.entityManager,
      ?_, ecs₁.component_addComponent_self ..⟩
    rintro t e (ht | he)
    · exact (ecs₁.component_addComponent_ne ht ..).trans (hsame.component t e)
    · exact (ecs₁.component_addComponent_other he _).trans (hsame.component t e)

theorem getHp_ok (s : GameServer) (entity : Entity) :
    ∃ ecs, getHp entity s
        = .ok ((s.ecs.component .health entity : Option Health).elim 0 Health.hp) { s with ecs } ∧
      s.ecs.Same ecs := by
  refine ⟨(s.ecs.getComponent .health entity).2, ?_, s.ecs.same_getComponent ..⟩
  rw [getHp, bind_ok (getComponent_apply ..)]
  cases s.ecs.component .health entity with
  | none => rfl
  | some health => rfl

/-! ## MAP_ENTER -/

/-- The player component follows the channel to the map. -/
def setPlayerMapId (channelId : Int32) (mapId : UInt32) : ServerM Unit := withMtx do
  match (← get).channelToEntity.lookup channelId with
  | none => pure ()
  | some entity =>
    match ← getComponent .player entity with
    | some (player : Player) => addComponent .player entity ({ player with mapId } : Player)
    | none => pure ()

/-- The change of `player_map_mapping_` when the game threads run. -/
def switchMap (channelId targetMapId : Int32) : ServerM Unit := do
  if (← get).mainThreadManager.isSome ∧ (← get).getPlayerMap channelId ≠ targetMapId then
    updatePlayerMap channelId targetMapId

/-- The answer for a map that is not configured. -/
def mapNotFound : MapEnterRes where
  success := false
  message := ascii "map not found"
  mapId := 0
  mapName := []
  x := .zero
  y := .zero
  z := .zero
  playerCount := 0

/-- The answer for a configured map; the position is the client's. -/
def mapEntered (req : MapEnterReq) (mapCfg : MapConfig) : MapEnterRes where
  success := true
  message := ascii "ok"
  mapId := req.mapId
  mapName := mapCfg.name
  x := req.x
  y := req.y
  z := req.z
  playerCount := 0

/-- `handle_map_enter`. -/
def handleMapEnter (channelId : Int32) (payload : List UInt8) : ServerM Unit := do
  match MapEnterReq.parse payload with
  | .error _ _ => return
  | .ok req _ =>
    let targetMapId := req.mapId.toInt32
    match (← get).config.maps.find? fun m => m.id = targetMapId with
    | none => sendTestFrame env channelId 1005 mapNotFound.serialize
    | some mapCfg =>
      switchMap channelId targetMapId
      setPlayerMapId channelId targetMapId.toUInt32
      sendTestFrame env channelId 1005 (mapEntered req mapCfg).serialize

/-! ## GUILD_CREATE, GUILD_JOIN and GUILD_LEAVE

`guild_mutex_` is held throughout; nothing that is called below locks it again. -/

/-- The new guild of `handle_guild_create`. -/
def createGuild (channelId : Int32) (req : GuildCreateReq) : ServerM UInt32 := do
  let guildId := (← get).nextGuildId
  modify fun s =>
    { s with
      nextGuildId := s.nextGuildId + 1
      guilds := s.guilds.insert guildId
        { id := guildId, name := req.guildName, description := req.guildDescription
          masterChannelId := channelId, members := [channelId] }
      channelToGuild := s.channelToGuild.insert channelId guildId }
  return guildId

/-- `handle_guild_create`. -/
def handleGuildCreate (channelId : Int32) (payload : List UInt8) : ServerM Unit := do
  match GuildCreateReq.parse payload with
  | .error _ _ => return
  | .ok req _ =>
    if channelId ∈ (← get).channelToGuild then
      sendTestFrame env channelId 2001
        { success := false, message := ascii "already in a guild", guildId := 0
          : GuildCreateRes }.serialize
    else
      let guildId ← createGuild channelId req
      sendTestFrame env channelId 2001
        { success := true, message := ascii "ok", guildId : GuildCreateRes }.serialize

/-- The response of `handle_guild_join`. -/
def guildJoinReply (channelId : Int32) (success : Bool) (message : List UInt8) : ServerM Unit :=
  sendTestFrame env channelId 2002
    { success, message, applicationId := 0 : GuildJoinRes }.serialize

/-- `handle_guild_join`. -/
def handleGuildJoin (channelId : Int32) (payload : List UInt8) : ServerM Unit := do
  match GuildJoinReq.parse payload with
  | .error _ _ => return
  | .ok req _ =>
    match (← get).guilds.lookup req.guildId with
    | none => guildJoinReply env channelId false (ascii "guild not found")
    | some guild =>
      if channelId ∈ (← get).channelToGuild then
        guildJoinReply env channelId false (ascii "already in a guild")
      else
        modify fun s =>
          { s with
            guilds := s.guilds.insert req.guildId
              { guild with members := guild.members ++ [channelId] }
            channelToGuild := s.channelToGuild.insert channelId req.guildId }
        guildJoinReply env channelId true (ascii "ok")

/-- The state after a member has left: a guild without members is disbanded. -/
def leaveGuild (s : GameServer) (channelId : Int32) (guildId : UInt32) : GameServer :=
  let s := { s with channelToGuild := s.channelToGuild.erase channelId }
  match s.guilds.lookup guildId with
  | none => s
  | some guild =>
    let members := guild.members.filter (· ≠ channelId)
    if members.isEmpty then { s with guilds := s.guilds.erase guildId }
    else { s with guilds := s.guilds.insert guildId { guild with members } }

/-- `handle_guild_leave`. -/
def handleGuildLeave (channelId : Int32) : ServerM Unit := do
  match (← get).channelToGuild.lookup channelId with
  -- no answer to a channel without a guild
  | none => return
  | some guildId =>
    modify fun s => s.leaveGuild channelId guildId
    sendTestFrame env channelId 2003
      { success := true, message := ascii "ok" : GuildLeaveRes }.serialize

/-! ## The dispatcher -/

/-- The messages that `init` binds a handler to. -/
inductive MessageId where
  | ping | echo | login | move | chat | attack | mapEnter | guildCreate | guildJoin | guildLeave
deriving DecidableEq, Repr

/-- The table of the dispatcher. -/
def messageId (cmd : UInt16) : Option MessageId :=
  if cmd = 1 then some .ping
  else if cmd = 100 then some .echo
  else if cmd = 1001 then some .login
  else if cmd = 1002 then some .move
  else if cmd = 1003 then some .chat
  else if cmd = 1004 then some .attack
  else if cmd = 1005 then some .mapEnter
  else if cmd = 2001 then some .guildCreate
  else if cmd = 2002 then some .guildJoin
  else if cmd = 2003 then some .guildLeave
  else none

/-- The handler of a message. -/
def handle (channelId : Int32) (payload : List UInt8) : MessageId → ServerM Unit
  | .ping => handlePing env channelId
  | .echo => handleEcho env channelId payload
  | .login => handleLogin env channelId payload
  | .move => handleMove env channelId payload
  | .chat => handleChat env channelId payload
  | .attack => handleAttack env channelId payload
  | .mapEnter => handleMapEnter env channelId payload
  | .guildCreate => handleGuildCreate env channelId payload
  | .guildJoin => handleGuildJoin env channelId payload
  | .guildLeave => handleGuildLeave env channelId

/-- `dispatch`: a message without a handler is ignored. -/
def dispatch (cmd : UInt16) (channelId : Int32) (payload : List UInt8) : ServerM Unit :=
  match messageId cmd with
  | none => pure ()
  | some msg => handle env channelId payload msg

end EcsAsioServer.GameServer
