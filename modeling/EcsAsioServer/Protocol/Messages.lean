import EcsAsioServer.Protocol.Wire

/-!
# The messages (`common/protocol/protocol_*.hpp`)

Every message type with its `serialize` and its `parse`, header by header. Two
kinds of parsers occur. Some check each field before they read it. The others
check one minimum size first and read the fields of fixed size that follow a
string without another check.

A parser gets its pointer `p` by value. For a message this only means that the
caller does not see where the parser stopped; for an element of a list it means
that the next element is read from the same place.
-/

namespace EcsAsioServer.Protocol

open StateProgram

/-! ## Echo and login (`protocol_base.hpp`) -/

/-- A text to send back. -/
structure EchoReq where
  text : List UInt8
deriving DecidableEq, Repr

def EchoReq.serialize (m : EchoReq) : List UInt8 :=
  writeLpString m.text

def EchoReq.parse : Reader EchoReq := do
  let text ← readLpString
  return { text }

/-- The text that came. -/
structure EchoRes where
  text : List UInt8
deriving DecidableEq, Repr

def EchoRes.serialize (m : EchoRes) : List UInt8 :=
  writeLpString m.text

def EchoRes.parse : Reader EchoRes := do
  let text ← readLpString
  return { text }

/-- The name of a player, and a token of an earlier session. -/
structure LoginReq where
  playerName : List UInt8
  sessionToken : List UInt8
deriving DecidableEq, Repr

namespace LoginReq

def serialize (m : LoginReq) : List UInt8 :=
  writeLpString m.playerName ++ writeLpString m.sessionToken

def parse : Reader LoginReq := do
  let playerName ← readLpString
  let sessionToken ← readLpString
  return { playerName, sessionToken }

/-- A login request with strings below 2^32 bytes is parsed back. -/
theorem parse_serialize {m : LoginReq} (hn : m.playerName.length < 2 ^ 32)
    (ht : m.sessionToken.length < 2 ^ 32) (rest : List UInt8) :
    parse (m.serialize ++ rest) = .ok m rest := by
  rw [serialize, List.append_assoc, parse, bind_ok (readLpString_writeLpString hn _),
    bind_ok (readLpString_writeLpString ht _)]
  rfl

end LoginReq

/-- Who the player is, and on which map. -/
structure LoginRes where
  success : Bool
  message : List UInt8
  playerId : UInt32
  mapId : UInt32
deriving DecidableEq, Repr

def LoginRes.serialize (m : LoginRes) : List UInt8 :=
  writeBool m.success ++ writeLpString m.message ++ writeLe32 m.playerId ++ writeLe32 m.mapId

def LoginRes.parse : Reader LoginRes := do
  need 1
  let success ← readBool
  let message ← readLpString
  need 8
  let playerId ← readLe32
  let mapId ← readLe32
  return { success, message, playerId, mapId }

/-! ## Players (`protocol_player.hpp`) -/

/-- A place to go to. -/
structure PlayerMoveReq where
  x : F32
  y : F32
  z : F32
  rotation : F32
  timestamp : UInt32
deriving DecidableEq, Repr

def PlayerMoveReq.serialize (m : PlayerMoveReq) : List UInt8 :=
  writeFloatLe m.x ++ writeFloatLe m.y ++ writeFloatLe m.z ++ writeFloatLe m.rotation
    ++ writeLe32 m.timestamp

def PlayerMoveReq.parse : Reader PlayerMoveReq := do
  need 20
  let x ← readFloatLe
  let y ← readFloatLe
  let z ← readFloatLe
  let rotation ← readFloatLe
  let timestamp ← readLe32
  return { x, y, z, rotation, timestamp }

/-- Where the player stands now. -/
structure PlayerMoveRes where
  playerId : UInt32
  x : F32
  y : F32
  z : F32
  rotation : F32
  timestamp : UInt32
deriving DecidableEq, Repr

def PlayerMoveRes.serialize (m : PlayerMoveRes) : List UInt8 :=
  writeLe32 m.playerId ++ writeFloatLe m.x ++ writeFloatLe m.y ++ writeFloatLe m.z
    ++ writeFloatLe m.rotation ++ writeLe32 m.timestamp

def PlayerMoveRes.parse : Reader PlayerMoveRes := do
  need 24
  let playerId ← readLe32
  let x ← readFloatLe
  let y ← readFloatLe
  let z ← readFloatLe
  let rotation ← readFloatLe
  let timestamp ← readLe32
  return { playerId, x, y, z, rotation, timestamp }

/-- A question for a player. -/
structure PlayerInfoReq where
  playerId : UInt32
deriving DecidableEq, Repr

def PlayerInfoReq.serialize (m : PlayerInfoReq) : List UInt8 :=
  writeLe32 m.playerId

def PlayerInfoReq.parse : Reader PlayerInfoReq := do
  need 4
  let playerId ← readLe32
  return { playerId }

/-- A player, and where it stands. -/
structure PlayerInfoRes where
  playerId : UInt32
  playerName : List UInt8
  level : UInt32
  experience : UInt32
  x : F32
  y : F32
  z : F32
  rotation : F32
  mapId : UInt32
deriving DecidableEq, Repr

def PlayerInfoRes.serialize (m : PlayerInfoRes) : List UInt8 :=
  writeLe32 m.playerId ++ writeLpString m.playerName ++ writeLe32 m.level
    ++ writeLe32 m.experience ++ writeFloatLe m.x ++ writeFloatLe m.y ++ writeFloatLe m.z
    ++ writeFloatLe m.rotation ++ writeLe32 m.mapId

def PlayerInfoRes.parse : Reader PlayerInfoRes := do
  need 28
  let playerId ← readLe32
  let playerName ← readLpString
  let level ← readLe32
  let experience ← readLe32
  let x ← readFloatLe
  let y ← readFloatLe
  let z ← readFloatLe
  let rotation ← readFloatLe
  let mapId ← readLe32
  return { playerId, playerName, level, experience, x, y, z, rotation, mapId }

/-- The status of a player. -/
structure PlayerStatusUpdate where
  playerId : UInt32
  status : UInt32
  timestamp : UInt32
deriving DecidableEq, Repr

def PlayerStatusUpdate.serialize (m : PlayerStatusUpdate) : List UInt8 :=
  writeLe32 m.playerId ++ writeLe32 m.status ++ writeLe32 m.timestamp

def PlayerStatusUpdate.parse : Reader PlayerStatusUpdate := do
  need 12
  let playerId ← readLe32
  let status ← readLe32
  let timestamp ← readLe32
  return { playerId, status, timestamp }

/-! ## Chat (`protocol_chat.hpp`) -/

/-- A line of chat. -/
structure ChatReq where
  message : List UInt8
  channel : UInt8
  targetId : UInt32
deriving DecidableEq, Repr

def ChatReq.serialize (m : ChatReq) : List UInt8 :=
  writeLpString m.message ++ [m.channel] ++ writeLe32 m.targetId

def ChatReq.parse : Reader ChatReq := do
  let message ← readLpString
  need 1
  let channel ← readByte
  need 4
  let targetId ← readLe32
  return { message, channel, targetId }

/-- Whether the line was taken. -/
structure ChatRes where
  success : Bool
  message : List UInt8
deriving DecidableEq, Repr

def ChatRes.serialize (m : ChatRes) : List UInt8 :=
  writeBool m.success ++ writeLpString m.message

def ChatRes.parse : Reader ChatRes := do
  need 1
  let success ← readBool
  let message ← readLpString
  return { success, message }

/-- A line of chat for everybody. -/
structure ChatBroadcast where
  senderId : UInt32
  senderName : List UInt8
  message : List UInt8
  channel : UInt8
  timestamp : UInt32
deriving DecidableEq, Repr

def ChatBroadcast.serialize (m : ChatBroadcast) : List UInt8 :=
  writeLe32 m.senderId ++ writeLpString m.senderName ++ writeLpString m.message ++ [m.channel]
    ++ writeLe32 m.timestamp

def ChatBroadcast.parse : Reader ChatBroadcast := do
  need 4
  let senderId ← readLe32
  let senderName ← readLpString
  let message ← readLpString
  need 1
  let channel ← readByte
  need 4
  let timestamp ← readLe32
  return { senderId, senderName, message, channel, timestamp }

/-- A line of the server. -/
structure ChatSystemMessage where
  messageType : UInt32
  title : List UInt8
  content : List UInt8
  priority : UInt32
  timestamp : UInt32
deriving DecidableEq, Repr

def ChatSystemMessage.serialize (m : ChatSystemMessage) : List UInt8 :=
  writeLe32 m.messageType ++ writeLpString m.title ++ writeLpString m.content
    ++ writeLe32 m.priority ++ writeLe32 m.timestamp

def ChatSystemMessage.parse : Reader ChatSystemMessage := do
  need 12
  let messageType ← readLe32
  let title ← readLpString
  let content ← readLpString
  let priority ← readLe32
  let timestamp ← readLe32
  return { messageType, title, content, priority, timestamp }

/-- A report about a line of chat. -/
structure ChatFilterReq where
  filterType : UInt8
  targetMessage : List UInt8
  reporterId : UInt32
deriving DecidableEq, Repr

def ChatFilterReq.serialize (m : ChatFilterReq) : List UInt8 :=
  [m.filterType] ++ writeLpString m.targetMessage ++ writeLe32 m.reporterId

def ChatFilterReq.parse : Reader ChatFilterReq := do
  need 1
  let filterType ← readByte
  let targetMessage ← readLpString
  need 4
  let reporterId ← readLe32
  return { filterType, targetMessage, reporterId }

/-- The case of a report. -/
structure ChatFilterRes where
  success : Bool
  message : List UInt8
  caseId : UInt32
deriving DecidableEq, Repr

def ChatFilterRes.serialize (m : ChatFilterRes) : List UInt8 :=
  writeBool m.success ++ writeLpString m.message ++ writeLe32 m.caseId

def ChatFilterRes.parse : Reader ChatFilterRes := do
  need 1
  let success ← readBool
  let message ← readLpString
  need 4
  let caseId ← readLe32
  return { success, message, caseId }

/-! ## Combat (`protocol_combat.hpp`) -/

/-- An attack on a target. -/
structure AttackReq where
  targetId : UInt32
  skillId : UInt32
  x : F32
  y : F32
  z : F32
  timestamp : UInt32
deriving DecidableEq, Repr

def AttackReq.serialize (m : AttackReq) : List UInt8 :=
  writeLe32 m.targetId ++ writeLe32 m.skillId ++ writeFloatLe m.x ++ writeFloatLe m.y
    ++ writeFloatLe m.z ++ writeLe32 m.timestamp

def AttackReq.parse : Reader AttackReq := do
  need 24
  let targetId ← readLe32
  let skillId ← readLe32
  let x ← readFloatLe
  let y ← readFloatLe
  let z ← readFloatLe
  let timestamp ← readLe32
  return { targetId, skillId, x, y, z, timestamp }

/-- What the attack did. -/
structure AttackRes where
  success : Bool
  message : List UInt8
  attackId : UInt32
  damage : UInt32
  targetRemainingHp : UInt32
deriving DecidableEq, Repr

def AttackRes.serialize (m : AttackRes) : List UInt8 :=
  writeBool m.success ++ writeLpString m.message ++ writeLe32 m.attackId ++ writeLe32 m.damage
    ++ writeLe32 m.targetRemainingHp

def AttackRes.parse : Reader AttackRes := do
  need 12
  let success ← readBool
  let message ← readLpString
  let attackId ← readLe32
  let damage ← readLe32
  let targetRemainingHp ← readLe32
  return { success, message, attackId, damage, targetRemainingHp }

/-- What the others are told of an attack. -/
structure DamageNotify where
  attackerId : UInt32
  targetId : UInt32
  damage : UInt32
  remainingHp : UInt32
  attackId : UInt32
  timestamp : UInt32
deriving DecidableEq, Repr

def DamageNotify.serialize (m : DamageNotify) : List UInt8 :=
  writeLe32 m.attackerId ++ writeLe32 m.targetId ++ writeLe32 m.damage ++ writeLe32 m.remainingHp
    ++ writeLe32 m.attackId ++ writeLe32 m.timestamp

def DamageNotify.parse : Reader DamageNotify := do
  need 24
  let attackerId ← readLe32
  let targetId ← readLe32
  let damage ← readLe32
  let remainingHp ← readLe32
  let attackId ← readLe32
  let timestamp ← readLe32
  return { attackerId, targetId, damage, remainingHp, attackId, timestamp }

/-- The use of a skill. -/
structure SkillUseReq where
  skillId : UInt32
  targetId : UInt32
  x : F32
  y : F32
  z : F32
  timestamp : UInt32
deriving DecidableEq, Repr

def SkillUseReq.serialize (m : SkillUseReq) : List UInt8 :=
  writeLe32 m.skillId ++ writeLe32 m.targetId ++ writeFloatLe m.x ++ writeFloatLe m.y
    ++ writeFloatLe m.z ++ writeLe32 m.timestamp

def SkillUseReq.parse : Reader SkillUseReq := do
  need 24
  let skillId ← readLe32
  let targetId ← readLe32
  let x ← readFloatLe
  let y ← readFloatLe
  let z ← readFloatLe
  let timestamp ← readLe32
  return { skillId, targetId, x, y, z, timestamp }

/-- What the skill did. -/
structure SkillUseRes where
  success : Bool
  message : List UInt8
  skillId : UInt32
  cooldownTime : UInt32
  manaCost : UInt32
deriving DecidableEq, Repr

def SkillUseRes.serialize (m : SkillUseRes) : List UInt8 :=
  writeBool m.success ++ writeLpString m.message ++ writeLe32 m.skillId
    ++ writeLe32 m.cooldownTime ++ writeLe32 m.manaCost

def SkillUseRes.parse : Reader SkillUseRes := do
  need 12
  let success ← readBool
  let message ← readLpString
  let skillId ← readLe32
  let cooldownTime ← readLe32
  let manaCost ← readLe32
  return { success, message, skillId, cooldownTime, manaCost }

/-- An effect that a target is under. -/
structure StatusEffectNotify where
  targetId : UInt32
  effectId : UInt32
  effectType : UInt8
  duration : UInt32
  value : UInt32
  timestamp : UInt32
deriving DecidableEq, Repr

def StatusEffectNotify.serialize (m : StatusEffectNotify) : List UInt8 :=
  writeLe32 m.targetId ++ writeLe32 m.effectId ++ [m.effectType] ++ writeLe32 m.duration
    ++ writeLe32 m.value ++ writeLe32 m.timestamp

def StatusEffectNotify.parse : Reader StatusEffectNotify := do
  need 21
  let targetId ← readLe32
  let effectId ← readLe32
  let effectType ← readByte
  let duration ← readLe32
  let value ← readLe32
  let timestamp ← readLe32
  return { targetId, effectId, effectType, duration, value, timestamp }

/-- The end of a fight. -/
structure CombatResultNotify where
  winnerId : UInt32
  loserId : UInt32
  experienceGained : UInt32
  goldGained : UInt32
  itemIds : List UInt32
  timestamp : UInt32
deriving DecidableEq, Repr

def CombatResultNotify.serialize (m : CombatResultNotify) : List UInt8 :=
  writeLe32 m.winnerId ++ writeLe32 m.loserId ++ writeLe32 m.experienceGained
    ++ writeLe32 m.goldGained ++ writeLe32 (UInt32.ofNat m.itemIds.length)
    ++ m.itemIds.flatMap writeLe32 ++ writeLe32 m.timestamp

/-- One round of the loop over the items: `if (p + 4 > end) return false`, then the
item. -/
def readItem : Reader UInt32 := do
  need 4
  readLe32

/-- The parser with its call of `item_ids.reserve`. -/
def CombatResultNotify.parseReserving : ListReader CombatResultNotify := do
  need 20
  let winnerId ← readLe32
  let loserId ← readLe32
  let experienceGained ← readLe32
  let goldGained ← readLe32
  let itemCount ← readLe32
  reserve itemCount
  let itemIds ← (times itemCount.toNat readItem : Reader _)
  need 4
  let timestamp ← readLe32
  return { winnerId, loserId, experienceGained, goldGained, itemIds, timestamp }

def CombatResultNotify.parse : Reader CombatResultNotify := withoutAccount parseReserving

/-! ## Guilds (`protocol_guild.hpp`) -/

/-- A guild to found. -/
structure GuildCreateReq where
  guildName : List UInt8
  guildDescription : List UInt8
  maxMembers : UInt32
  guildType : UInt8
deriving DecidableEq, Repr

def GuildCreateReq.serialize (m : GuildCreateReq) : List UInt8 :=
  writeLpString m.guildName ++ writeLpString m.guildDescription ++ writeLe32 m.maxMembers
    ++ [m.guildType]

def GuildCreateReq.parse : Reader GuildCreateReq := do
  let guildName ← readLpString
  let guildDescription ← readLpString
  need 4
  let maxMembers ← readLe32
  need 1
  let guildType ← readByte
  return { guildName, guildDescription, maxMembers, guildType }

/-- Whether the guild was founded. -/
structure GuildCreateRes where
  success : Bool
  message : List UInt8
  guildId : UInt32
deriving DecidableEq, Repr

def GuildCreateRes.serialize (m : GuildCreateRes) : List UInt8 :=
  writeBool m.success ++ writeLpString m.message ++ writeLe32 m.guildId

def GuildCreateRes.parse : Reader GuildCreateRes := do
  need 1
  let success ← readBool
  let message ← readLpString
  need 4
  let guildId ← readLe32
  return { success, message, guildId }

/-- A guild to join. -/
structure GuildJoinReq where
  guildId : UInt32
  applicationMessage : List UInt8
deriving DecidableEq, Repr

def GuildJoinReq.serialize (m : GuildJoinReq) : List UInt8 :=
  writeLe32 m.guildId ++ writeLpString m.applicationMessage

def GuildJoinReq.parse : Reader GuildJoinReq := do
  need 4
  let guildId ← readLe32
  let applicationMessage ← readLpString
  return { guildId, applicationMessage }

/-- Whether the player has joined. -/
structure GuildJoinRes where
  success : Bool
  message : List UInt8
  applicationId : UInt32
deriving DecidableEq, Repr

def GuildJoinRes.serialize (m : GuildJoinRes) : List UInt8 :=
  writeBool m.success ++ writeLpString m.message ++ writeLe32 m.applicationId

def GuildJoinRes.parse : Reader GuildJoinRes := do
  need 1
  let success ← readBool
  let message ← readLpString
  need 4
  let applicationId ← readLe32
  return { success, message, applicationId }

/-- A guild to leave. -/
structure GuildLeaveReq where
  guildId : UInt32
  reason : List UInt8
deriving DecidableEq, Repr

def GuildLeaveReq.serialize (m : GuildLeaveReq) : List UInt8 :=
  writeLe32 m.guildId ++ writeLpString m.reason

def GuildLeaveReq.parse : Reader GuildLeaveReq := do
  need 4
  let guildId ← readLe32
  let reason ← readLpString
  return { guildId, reason }

/-- Whether the player has left. -/
structure GuildLeaveRes where
  success : Bool
  message : List UInt8
deriving DecidableEq, Repr

def GuildLeaveRes.serialize (m : GuildLeaveRes) : List UInt8 :=
  writeBool m.success ++ writeLpString m.message

def GuildLeaveRes.parse : Reader GuildLeaveRes := do
  need 1
  let success ← readBool
  let message ← readLpString
  return { success, message }

/-- A question for a guild. -/
structure GuildInfoReq where
  guildId : UInt32
deriving DecidableEq, Repr

def GuildInfoReq.serialize (m : GuildInfoReq) : List UInt8 :=
  writeLe32 m.guildId

def GuildInfoReq.parse : Reader GuildInfoReq := do
  need 4
  let guildId ← readLe32
  return { guildId }

/-- A guild. -/
structure GuildInfoRes where
  guildId : UInt32
  guildName : List UInt8
  guildDescription : List UInt8
  memberCount : UInt32
  maxMembers : UInt32
  guildType : UInt8
  guildLevel : UInt32
  guildExp : UInt32
  leaderId : UInt32
  leaderName : List UInt8
deriving DecidableEq, Repr

def GuildInfoRes.serialize (m : GuildInfoRes) : List UInt8 :=
  writeLe32 m.guildId ++ writeLpString m.guildName ++ writeLpString m.guildDescription
    ++ writeLe32 m.memberCount ++ writeLe32 m.maxMembers ++ [m.guildType]
    ++ writeLe32 m.guildLevel ++ writeLe32 m.guildExp ++ writeLe32 m.leaderId
    ++ writeLpString m.leaderName

/-- The parser does `out.guild_type = *p++; p += 1;`: one byte is moved over that
`serialize` does not write. -/
def GuildInfoRes.parse : Reader GuildInfoRes := do
  need 24
  let guildId ← readLe32
  let guildName ← readLpString
  let guildDescription ← readLpString
  let memberCount ← readLe32
  let maxMembers ← readLe32
  let guildType ← readByte
  skip 1
  let guildLevel ← readLe32
  let guildExp ← readLe32
  let leaderId ← readLe32
  let leaderName ← readLpString
  return { guildId, guildName, guildDescription, memberCount, maxMembers, guildType, guildLevel,
           guildExp, leaderId, leaderName }

/-- A question for a page of members. -/
structure GuildMemberListReq where
  guildId : UInt32
  page : UInt32
  pageSize : UInt32
deriving DecidableEq, Repr

def GuildMemberListReq.serialize (m : GuildMemberListReq) : List UInt8 :=
  writeLe32 m.guildId ++ writeLe32 m.page ++ writeLe32 m.pageSize

def GuildMemberListReq.parse : Reader GuildMemberListReq := do
  need 12
  let guildId ← readLe32
  let page ← readLe32
  let pageSize ← readLe32
  return { guildId, page, pageSize }

/-- One member. -/
structure GuildMemberInfo where
  playerId : UInt32
  playerName : List UInt8
  level : UInt32
  rank : UInt8
  joinDate : UInt32
  lastOnline : UInt32
deriving DecidableEq, Repr

def GuildMemberInfo.serialize (m : GuildMemberInfo) : List UInt8 :=
  writeLe32 m.playerId ++ writeLpString m.playerName ++ writeLe32 m.level ++ [m.rank]
    ++ writeLe32 m.joinDate ++ writeLe32 m.lastOnline

/-- As in `GuildInfoRes.parse`, one byte is moved over after `rank`. -/
def GuildMemberInfo.parse : Reader GuildMemberInfo := do
  need 16
  let playerId ← readLe32
  let playerName ← readLpString
  let level ← readLe32
  let rank ← readByte
  skip 1
  let joinDate ← readLe32
  let lastOnline ← readLe32
  return { playerId, playerName, level, rank, joinDate, lastOnline }

/-- A page of members. -/
structure GuildMemberListRes where
  guildId : UInt32
  totalMembers : UInt32
  page : UInt32
  pageSize : UInt32
  members : List GuildMemberInfo
deriving DecidableEq, Repr

def GuildMemberListRes.serialize (m : GuildMemberListRes) : List UInt8 :=
  writeLe32 m.guildId ++ writeLe32 m.totalMembers ++ writeLe32 m.page ++ writeLe32 m.pageSize
    ++ writeLe32 (UInt32.ofNat m.members.length) ++ m.members.flatMap GuildMemberInfo.serialize

/-- The size that is checked covers four of the five words that follow. The loop
passes `p` by value to the members' parser. -/
def GuildMemberListRes.parseReserving : ListReader GuildMemberListRes := do
  need 16
  let guildId ← readLe32
  let totalMembers ← readLe32
  let page ← readLe32
  let pageSize ← readLe32
  let memberCount ← readLe32
  reserve memberCount
  let members ← (times memberCount.toNat (byValue GuildMemberInfo.parse) : Reader _)
  return { guildId, totalMembers, page, pageSize, members }

def GuildMemberListRes.parse : Reader GuildMemberListRes := withoutAccount parseReserving

/-! ## Maps (`protocol_map.hpp`) -/

/-- A map to enter. -/
structure MapEnterReq where
  mapId : UInt32
  x : F32
  y : F32
  z : F32
  timestamp : UInt32
deriving DecidableEq, Repr

def MapEnterReq.serialize (m : MapEnterReq) : List UInt8 :=
  writeLe32 m.mapId ++ writeFloatLe m.x ++ writeFloatLe m.y ++ writeFloatLe m.z
    ++ writeLe32 m.timestamp

def MapEnterReq.parse : Reader MapEnterReq := do
  need 20
  let mapId ← readLe32
  let x ← readFloatLe
  let y ← readFloatLe
  let z ← readFloatLe
  let timestamp ← readLe32
  return { mapId, x, y, z, timestamp }

/-- The map that was entered. -/
structure MapEnterRes where
  success : Bool
  message : List UInt8
  mapId : UInt32
  mapName : List UInt8
  x : F32
  y : F32
  z : F32
  playerCount : UInt32
deriving DecidableEq, Repr

def MapEnterRes.serialize (m : MapEnterRes) : List UInt8 :=
  writeBool m.success ++ writeLpString m.message ++ writeLe32 m.mapId ++ writeLpString m.mapName
    ++ writeFloatLe m.x ++ writeFloatLe m.y ++ writeFloatLe m.z ++ writeLe32 m.playerCount

def MapEnterRes.parse : Reader MapEnterRes := do
  need 20
  let success ← readBool
  let message ← readLpString
  let mapId ← readLe32
  let mapName ← readLpString
  let x ← readFloatLe
  let y ← readFloatLe
  let z ← readFloatLe
  let playerCount ← readLe32
  return { success, message, mapId, mapName, x, y, z, playerCount }

/-- A map to leave. -/
structure MapLeaveReq where
  mapId : UInt32
  timestamp : UInt32
deriving DecidableEq, Repr

def MapLeaveReq.serialize (m : MapLeaveReq) : List UInt8 :=
  writeLe32 m.mapId ++ writeLe32 m.timestamp

def MapLeaveReq.parse : Reader MapLeaveReq := do
  need 8
  let mapId ← readLe32
  let timestamp ← readLe32
  return { mapId, timestamp }

/-- Whether the map was left. -/
structure MapLeaveRes where
  success : Bool
  message : List UInt8
  mapId : UInt32
deriving DecidableEq, Repr

def MapLeaveRes.serialize (m : MapLeaveRes) : List UInt8 :=
  writeBool m.success ++ writeLpString m.message ++ writeLe32 m.mapId

def MapLeaveRes.parse : Reader MapLeaveRes := do
  need 8
  let success ← readBool
  let message ← readLpString
  let mapId ← readLe32
  return { success, message, mapId }

/-- One object. -/
structure MapObjectInfo where
  objectId : UInt32
  objectType : UInt8
  objectName : List UInt8
  x : F32
  y : F32
  z : F32
  rotation : F32
  level : UInt32
  hp : UInt32
  maxHp : UInt32
deriving DecidableEq, Repr

def MapObjectInfo.serialize (m : MapObjectInfo) : List UInt8 :=
  writeLe32 m.objectId ++ [m.objectType] ++ writeLpString m.objectName ++ writeFloatLe m.x
    ++ writeFloatLe m.y ++ writeFloatLe m.z ++ writeFloatLe m.rotation ++ writeLe32 m.level
    ++ writeLe32 m.hp ++ writeLe32 m.maxHp

def MapObjectInfo.parse : Reader MapObjectInfo := do
  need 28
  let objectId ← readLe32
  let objectType ← readByte
  let objectName ← readLpString
  let x ← readFloatLe
  let y ← readFloatLe
  let z ← readFloatLe
  let rotation ← readFloatLe
  let level ← readLe32
  let hp ← readLe32
  let maxHp ← readLe32
  return { objectId, objectType, objectName, x, y, z, rotation, level, hp, maxHp }

/-- The objects of a map. -/
structure MapObjectsUpdate where
  mapId : UInt32
  updateType : UInt32
  objects : List MapObjectInfo
  timestamp : UInt32
deriving DecidableEq, Repr

def MapObjectsUpdate.serialize (m : MapObjectsUpdate) : List UInt8 :=
  writeLe32 m.mapId ++ writeLe32 m.updateType ++ writeLe32 (UInt32.ofNat m.objects.length)
    ++ m.objects.flatMap MapObjectInfo.serialize ++ writeLe32 m.timestamp

/-- The loop passes `p` by value to the objects' parser, and the timestamp is read
from where the loop started. -/
def MapObjectsUpdate.parseReserving : ListReader MapObjectsUpdate := do
  need 12
  let mapId ← readLe32
  let updateType ← readLe32
  let objectCount ← readLe32
  reserve objectCount
  let objects ← (times objectCount.toNat (byValue MapObjectInfo.parse) : Reader _)
  need 4
  let timestamp ← readLe32
  return { mapId, updateType, objects, timestamp }

def MapObjectsUpdate.parse : Reader MapObjectsUpdate := withoutAccount parseReserving

/-- A question for a map. -/
structure MapInfoReq where
  mapId : UInt32
deriving DecidableEq, Repr

def MapInfoReq.serialize (m : MapInfoReq) : List UInt8 :=
  writeLe32 m.mapId

def MapInfoReq.parse : Reader MapInfoReq := do
  need 4
  let mapId ← readLe32
  return { mapId }

/-- A map. -/
structure MapInfoRes where
  mapId : UInt32
  mapName : List UInt8
  mapDescription : List UInt8
  mapWidth : UInt32
  mapHeight : UInt32
  maxPlayers : UInt32
  currentPlayers : UInt32
  mapType : UInt8
  requiredLevel : UInt32
deriving DecidableEq, Repr

def MapInfoRes.serialize (m : MapInfoRes) : List UInt8 :=
  writeLe32 m.mapId ++ writeLpString m.mapName ++ writeLpString m.mapDescription
    ++ writeLe32 m.mapWidth ++ writeLe32 m.mapHeight ++ writeLe32 m.maxPlayers
    ++ writeLe32 m.currentPlayers ++ [m.mapType] ++ writeLe32 m.requiredLevel

def MapInfoRes.parse : Reader MapInfoRes := do
  need 24
  let mapId ← readLe32
  let mapName ← readLpString
  let mapDescription ← readLpString
  let mapWidth ← readLe32
  let mapHeight ← readLe32
  let maxPlayers ← readLe32
  let currentPlayers ← readLe32
  let mapType ← readByte
  let requiredLevel ← readLe32
  return { mapId, mapName, mapDescription, mapWidth, mapHeight, maxPlayers, currentPlayers,
           mapType, requiredLevel }

end EcsAsioServer.Protocol
