import EcsAsioServer.Protocol.Messages

/-!
# The layouts of the messages

The fields of a message are bytes, booleans, 32-bit words, floats and strings
(`Kind`, `wire`), and all parsers and serializers but those of the three messages
with a list follow a list of steps. One `codec` per message gives these steps, in
the order of `parse`: that `parse` and `serialize` follow them is checked when the
codec is built.
-/

namespace EcsAsioServer.Protocol

open LittleEndian StateProgram Records

/-! ## The kinds of fields -/

/-- The kinds of fields. -/
inductive Kind where
  | u8
  | bool
  | u32
  | f32
  | text
deriving DecidableEq, Repr

namespace Kind

/-- The values of a field. -/
@[reducible] def Val : Kind → Type
  | u8 => UInt8
  | bool => Bool
  | u32 => UInt32
  | f32 => F32
  | text => List UInt8

/-- Only the size of a string can be lost, when it does not fit into 32 bits. -/
def Fits : (k : Kind) → k.Val → Prop
  | text, s => s.length < 2 ^ 32
  | _, _ => True

/-- How a field is written. -/
def write : (k : Kind) → k.Val → List UInt8
  | u8, v => [v]
  | bool, v => writeBool v
  | u32, v => writeLe32 v
  | f32, v => writeFloatLe v
  | text, s => writeLpString s

/-- How a field is read. -/
def read : (k : Kind) → Reader k.Val
  | u8 => readByte
  | bool => readBool
  | u32 => readLe32
  | f32 => readFloatLe
  | text => readLpString

/-- Only strings are read with a check. -/
def size : Kind → Option Nat
  | u8 => some 1
  | bool => some 1
  | u32 => some 4
  | f32 => some 4
  | text => none

/-- The number of bytes of the string at the front of `b`, if it is complete. -/
def textExtent : List UInt8 → Option Nat
  | b₀ :: b₁ :: b₂ :: b₃ :: rest =>
    let len := (ofBytes32 b₀ b₁ b₂ b₃).toNat
    if len ≤ rest.length then some (4 + len) else none
  | _ => none

/-- The bytes that a field takes. -/
def extent (k : Kind) (b : List UInt8) : Option Nat :=
  match k.size with
  | some n => if n ≤ b.length then some n else none
  | none => textExtent b

/-- The size of the smallest encoding: that of an empty string is its size field. -/
def minLen (k : Kind) : Nat := k.size.getD 4

/-- Every byte but 0 is read as `true`, and only 1 is written for it. -/
def exact : Kind → Bool
  | bool => false
  | _ => true

/-! ### The readers and writers of the kinds -/

theorem minLen_le (k : Kind) (v : k.Val) : k.minLen ≤ (k.write v).length := by
  cases k with
  | u8 => exact Nat.le_refl 1
  | bool => exact Nat.le_refl 1
  | u32 => exact (length_writeLe32 v).ge
  | f32 => exact (length_writeLe32 v.bits).ge
  | text =>
    show 4 ≤ (writeLpString v).length
    rw [writeLpString, List.length_append, length_writeLe32]
    omega

variable {k : Kind} {b : List UInt8}

theorem read_write {v : k.Val} (h : k.Fits v) (rest : List UInt8) :
    k.read (k.write v ++ rest) = .ok v rest := by
  cases k with
  | u8 => rfl
  | bool => cases v <;> rfl
  | u32 => exact readLe32_writeLe32 v rest
  | f32 => exact readFloatLe_accepts.roundTrips v rest trivial
  | text => exact readLpString_writeLpString h rest

theorem read_exact {v : k.Val} {rest : List UInt8} (hk : k.exact = true) (h : k.read b = .ok v rest)
    : k.Fits v ∧ b = k.write v ++ rest := by
  cases k with
  | u8 => exact (readByte_accepts b v rest).mp h
  | bool => cases hk
  | u32 => exact (readLe32_accepts b v rest).mp h
  | f32 => exact (readFloatLe_accepts b v rest).mp h
  | text => exact (readLpString_accepts b v rest).mp h

theorem extent_size {n : Nat} (h : k.size = some n) (b : List UInt8) :
    k.extent b = if n ≤ b.length then some n else none := by
  rw [extent, h]

theorem textExtent_word (len : UInt32) (rest : List UInt8) :
    textExtent (writeLe32 len ++ rest)
      = if len.toNat ≤ rest.length then some (4 + len.toNat) else none := by
  obtain ⟨b₀, b₁, b₂, b₃, hb, rfl⟩ := exists_bytes32 len
  rw [writeLe32, hb]
  rfl

theorem textExtent_short (h : b.length < 4) : textExtent b = none := by
  match b with
  | [] => rfl
  | [_] => rfl
  | [_, _] => rfl
  | [_, _, _] => rfl
  | _ :: _ :: _ :: _ :: rest =>
    simp only [List.length_cons] at h
    omega

/-- What reading a field of extent `n` comes to. -/
def Outcome (k : Kind) (b : List UInt8) : Option Nat → Prop
  | some n => ∃ v, k.read b = .ok v (b.drop n)
  | none => ∃ s, k.read b = .error (if k.size.isSome then .outOfBounds else .rejected) s

/-- The extent of a field decides the outcome of reading it. -/
theorem read_outcome (k : Kind) (b : List UInt8) : k.Outcome b (k.extent b) := by
  cases k with
  | u8 =>
    cases b with
    | nil => exact ⟨_, rfl⟩
    | cons c cs => exact ⟨c, rfl⟩
  | bool =>
    cases b with
    | nil => exact ⟨_, rfl⟩
    | cons c cs => exact ⟨c != 0, rfl⟩
  | u32 =>
    rw [extent_size rfl]
    rcases readLe32_cases b with ⟨hlt, herr⟩ | ⟨v, rest, rfl, hok⟩
    · rw [if_neg (Nat.not_le.mpr hlt)]
      exact ⟨_, herr⟩
    · rw [if_pos (by simp [length_writeLe32])]
      exact ⟨v, hok⟩
  | f32 =>
    rw [extent_size rfl]
    rcases readLe32_cases b with ⟨hlt, herr⟩ | ⟨v, rest, rfl, hok⟩
    · rw [if_neg (Nat.not_le.mpr hlt)]
      exact ⟨_, bind_error herr _⟩
    · rw [if_pos (by simp [length_writeLe32])]
      exact ⟨⟨v⟩, bind_ok hok _⟩
  | text =>
    rcases readLpString_cases b with ⟨hlt, herr⟩ | ⟨len, rest, rfl, ⟨hlt, herr⟩ | ⟨hle, hok⟩⟩
    · have hext : extent text b = none := textExtent_short hlt
      rw [hext]
      exact ⟨_, herr⟩
    · have hext : extent text (writeLe32 len ++ rest) = _ := textExtent_word len rest
      rw [hext, if_neg (Nat.not_le.mpr hlt)]
      exact ⟨_, herr⟩
    · have hext : extent text (writeLe32 len ++ rest) = _ := textExtent_word len rest
      rw [hext, if_pos hle]
      refine ⟨rest.take len.toNat, hok.trans ?_⟩
      rw [← length_writeLe32 len, List.drop_append, Nat.add_sub_cancel_left,
        List.drop_of_length_le (Nat.le_add_right _ _), List.nil_append]

theorem read_extent {n : Nat} (h : k.extent b = some n) :
    ∃ v, k.read b = .ok v (b.drop n) := by
  have hout := k.read_outcome b
  rw [h] at hout
  exact hout

theorem read_misfit (h : k.extent b = none) :
    ∃ s, k.read b = .error (if k.size.isSome then .outOfBounds else .rejected) s := by
  have hout := k.read_outcome b
  rw [h] at hout
  exact hout

end Kind

/-- The wire format as a vocabulary of fields. -/
@[reducible] def wire : Kinds UInt8 ReadError where
  Kind := Kind
  Val := Kind.Val
  Fits := Kind.Fits
  write := Kind.write
  read := Kind.read
  rejected := .rejected
  overrun := .outOfBounds
  size := Kind.size
  extent := Kind.extent
  minLen := Kind.minLen
  exact := Kind.exact
  rejected_ne_overrun := nofun
  minLen_le := fun {k v} _ => Kind.minLen_le k v
  read_write := Kind.read_write
  read_exact := Kind.read_exact
  extent_size := Kind.extent_size
  read_extent := Kind.read_extent
  read_misfit := Kind.read_misfit

/-- One byte. -/
abbrev u8 : Step wire := .field Kind.u8
/-- One byte, zero or not. -/
abbrev bool : Step wire := .field Kind.bool
/-- Four bytes. -/
abbrev u32 : Step wire := .field Kind.u32
/-- The four bytes of a float. -/
abbrev f32 : Step wire := .field Kind.f32
/-- A string after its length. -/
abbrev lpString : Step wire := .field Kind.text

/-! ## The messages -/

/-- The layout of `echo_req`. -/
def EchoReq.codec : Codec wire EchoReq where
  steps := [lpString]
  toValues m := (m.text, ())
  ofValues := fun (text, ()) =>
    { text }
  parse := EchoReq.parse
  serialize := EchoReq.serialize

/-- The layout of `echo_res`. -/
def EchoRes.codec : Codec wire EchoRes where
  steps := [lpString]
  toValues m := (m.text, ())
  ofValues := fun (text, ()) =>
    { text }
  parse := EchoRes.parse
  serialize := EchoRes.serialize

/-- The layout of `login_req`. -/
def LoginReq.codec : Codec wire LoginReq where
  steps := [lpString, lpString]
  toValues m := (m.playerName, m.sessionToken, ())
  ofValues := fun (playerName, sessionToken, ()) =>
    { playerName, sessionToken }
  parse := LoginReq.parse
  serialize := LoginReq.serialize

/-- The layout of `login_res`. -/
def LoginRes.codec : Codec wire LoginRes where
  steps := [.check 1, bool, lpString, .check 8, u32, u32]
  toValues m := (m.success, m.message, m.playerId, m.mapId, ())
  ofValues := fun (success, message, playerId, mapId, ()) =>
    { success, message, playerId, mapId }
  parse := LoginRes.parse
  serialize := LoginRes.serialize

/-- The layout of `player_move_req`. -/
def PlayerMoveReq.codec : Codec wire PlayerMoveReq where
  steps := [.check 20, f32, f32, f32, f32, u32]
  toValues m := (m.x, m.y, m.z, m.rotation, m.timestamp, ())
  ofValues := fun (x, y, z, rotation, timestamp, ()) =>
    { x, y, z, rotation, timestamp }
  parse := PlayerMoveReq.parse
  serialize := PlayerMoveReq.serialize

/-- The layout of `player_move_res`. -/
def PlayerMoveRes.codec : Codec wire PlayerMoveRes where
  steps := [.check 24, u32, f32, f32, f32, f32, u32]
  toValues m := (m.playerId, m.x, m.y, m.z, m.rotation, m.timestamp, ())
  ofValues := fun (playerId, x, y, z, rotation, timestamp, ()) =>
    { playerId, x, y, z, rotation, timestamp }
  parse := PlayerMoveRes.parse
  serialize := PlayerMoveRes.serialize

/-- The layout of `player_info_req`. -/
def PlayerInfoReq.codec : Codec wire PlayerInfoReq where
  steps := [.check 4, u32]
  toValues m := (m.playerId, ())
  ofValues := fun (playerId, ()) =>
    { playerId }
  parse := PlayerInfoReq.parse
  serialize := PlayerInfoReq.serialize

/-- The layout of `player_info_res`. -/
def PlayerInfoRes.codec : Codec wire PlayerInfoRes where
  steps := [.check 28, u32, lpString, u32, u32, f32, f32, f32, f32, u32]
  toValues m := (m.playerId, m.playerName, m.level, m.experience, m.x, m.y, m.z, m.rotation,
    m.mapId, ())
  ofValues := fun (playerId, playerName, level, experience, x, y, z, rotation, mapId, ()) =>
    { playerId, playerName, level, experience, x, y, z, rotation, mapId }
  parse := PlayerInfoRes.parse
  serialize := PlayerInfoRes.serialize

/-- The layout of `player_status_update`. -/
def PlayerStatusUpdate.codec : Codec wire PlayerStatusUpdate where
  steps := [.check 12, u32, u32, u32]
  toValues m := (m.playerId, m.status, m.timestamp, ())
  ofValues := fun (playerId, status, timestamp, ()) =>
    { playerId, status, timestamp }
  parse := PlayerStatusUpdate.parse
  serialize := PlayerStatusUpdate.serialize

/-- The layout of `chat_req`. -/
def ChatReq.codec : Codec wire ChatReq where
  steps := [lpString, .check 1, u8, .check 4, u32]
  toValues m := (m.message, m.channel, m.targetId, ())
  ofValues := fun (message, channel, targetId, ()) =>
    { message, channel, targetId }
  parse := ChatReq.parse
  serialize := ChatReq.serialize

/-- The layout of `chat_res`. -/
def ChatRes.codec : Codec wire ChatRes where
  steps := [.check 1, bool, lpString]
  toValues m := (m.success, m.message, ())
  ofValues := fun (success, message, ()) =>
    { success, message }
  parse := ChatRes.parse
  serialize := ChatRes.serialize

/-- The layout of `chat_broadcast`. -/
def ChatBroadcast.codec : Codec wire ChatBroadcast where
  steps := [.check 4, u32, lpString, lpString, .check 1, u8, .check 4, u32]
  toValues m := (m.senderId, m.senderName, m.message, m.channel, m.timestamp, ())
  ofValues := fun (senderId, senderName, message, channel, timestamp, ()) =>
    { senderId, senderName, message, channel, timestamp }
  parse := ChatBroadcast.parse
  serialize := ChatBroadcast.serialize

/-- The layout of `chat_system_message`. -/
def ChatSystemMessage.codec : Codec wire ChatSystemMessage where
  steps := [.check 12, u32, lpString, lpString, u32, u32]
  toValues m := (m.messageType, m.title, m.content, m.priority, m.timestamp, ())
  ofValues := fun (messageType, title, content, priority, timestamp, ()) =>
    { messageType, title, content, priority, timestamp }
  parse := ChatSystemMessage.parse
  serialize := ChatSystemMessage.serialize

/-- The layout of `chat_filter_req`. -/
def ChatFilterReq.codec : Codec wire ChatFilterReq where
  steps := [.check 1, u8, lpString, .check 4, u32]
  toValues m := (m.filterType, m.targetMessage, m.reporterId, ())
  ofValues := fun (filterType, targetMessage, reporterId, ()) =>
    { filterType, targetMessage, reporterId }
  parse := ChatFilterReq.parse
  serialize := ChatFilterReq.serialize

/-- The layout of `chat_filter_res`. -/
def ChatFilterRes.codec : Codec wire ChatFilterRes where
  steps := [.check 1, bool, lpString, .check 4, u32]
  toValues m := (m.success, m.message, m.caseId, ())
  ofValues := fun (success, message, caseId, ()) =>
    { success, message, caseId }
  parse := ChatFilterRes.parse
  serialize := ChatFilterRes.serialize

/-- The layout of `attack_req`. -/
def AttackReq.codec : Codec wire AttackReq where
  steps := [.check 24, u32, u32, f32, f32, f32, u32]
  toValues m := (m.targetId, m.skillId, m.x, m.y, m.z, m.timestamp, ())
  ofValues := fun (targetId, skillId, x, y, z, timestamp, ()) =>
    { targetId, skillId, x, y, z, timestamp }
  parse := AttackReq.parse
  serialize := AttackReq.serialize

/-- The layout of `attack_res`. -/
def AttackRes.codec : Codec wire AttackRes where
  steps := [.check 12, bool, lpString, u32, u32, u32]
  toValues m := (m.success, m.message, m.attackId, m.damage, m.targetRemainingHp, ())
  ofValues := fun (success, message, attackId, damage, targetRemainingHp, ()) =>
    { success, message, attackId, damage, targetRemainingHp }
  parse := AttackRes.parse
  serialize := AttackRes.serialize

/-- The layout of `damage_notify`. -/
def DamageNotify.codec : Codec wire DamageNotify where
  steps := [.check 24, u32, u32, u32, u32, u32, u32]
  toValues m := (m.attackerId, m.targetId, m.damage, m.remainingHp, m.attackId, m.timestamp, ())
  ofValues := fun (attackerId, targetId, damage, remainingHp, attackId, timestamp, ()) =>
    { attackerId, targetId, damage, remainingHp, attackId, timestamp }
  parse := DamageNotify.parse
  serialize := DamageNotify.serialize

/-- The layout of `skill_use_req`. -/
def SkillUseReq.codec : Codec wire SkillUseReq where
  steps := [.check 24, u32, u32, f32, f32, f32, u32]
  toValues m := (m.skillId, m.targetId, m.x, m.y, m.z, m.timestamp, ())
  ofValues := fun (skillId, targetId, x, y, z, timestamp, ()) =>
    { skillId, targetId, x, y, z, timestamp }
  parse := SkillUseReq.parse
  serialize := SkillUseReq.serialize

/-- The layout of `skill_use_res`. -/
def SkillUseRes.codec : Codec wire SkillUseRes where
  steps := [.check 12, bool, lpString, u32, u32, u32]
  toValues m := (m.success, m.message, m.skillId, m.cooldownTime, m.manaCost, ())
  ofValues := fun (success, message, skillId, cooldownTime, manaCost, ()) =>
    { success, message, skillId, cooldownTime, manaCost }
  parse := SkillUseRes.parse
  serialize := SkillUseRes.serialize

/-- The layout of `status_effect_notify`. -/
def StatusEffectNotify.codec : Codec wire StatusEffectNotify where
  steps := [.check 21, u32, u32, u8, u32, u32, u32]
  toValues m := (m.targetId, m.effectId, m.effectType, m.duration, m.value, m.timestamp, ())
  ofValues := fun (targetId, effectId, effectType, duration, value, timestamp, ()) =>
    { targetId, effectId, effectType, duration, value, timestamp }
  parse := StatusEffectNotify.parse
  serialize := StatusEffectNotify.serialize

/-- The layout of `guild_create_req`. -/
def GuildCreateReq.codec : Codec wire GuildCreateReq where
  steps := [lpString, lpString, .check 4, u32, .check 1, u8]
  toValues m := (m.guildName, m.guildDescription, m.maxMembers, m.guildType, ())
  ofValues := fun (guildName, guildDescription, maxMembers, guildType, ()) =>
    { guildName, guildDescription, maxMembers, guildType }
  parse := GuildCreateReq.parse
  serialize := GuildCreateReq.serialize

/-- The layout of `guild_create_res`. -/
def GuildCreateRes.codec : Codec wire GuildCreateRes where
  steps := [.check 1, bool, lpString, .check 4, u32]
  toValues m := (m.success, m.message, m.guildId, ())
  ofValues := fun (success, message, guildId, ()) =>
    { success, message, guildId }
  parse := GuildCreateRes.parse
  serialize := GuildCreateRes.serialize

/-- The layout of `guild_join_req`. -/
def GuildJoinReq.codec : Codec wire GuildJoinReq where
  steps := [.check 4, u32, lpString]
  toValues m := (m.guildId, m.applicationMessage, ())
  ofValues := fun (guildId, applicationMessage, ()) =>
    { guildId, applicationMessage }
  parse := GuildJoinReq.parse
  serialize := GuildJoinReq.serialize

/-- The layout of `guild_join_res`. -/
def GuildJoinRes.codec : Codec wire GuildJoinRes where
  steps := [.check 1, bool, lpString, .check 4, u32]
  toValues m := (m.success, m.message, m.applicationId, ())
  ofValues := fun (success, message, applicationId, ()) =>
    { success, message, applicationId }
  parse := GuildJoinRes.parse
  serialize := GuildJoinRes.serialize

/-- The layout of `guild_leave_req`. -/
def GuildLeaveReq.codec : Codec wire GuildLeaveReq where
  steps := [.check 4, u32, lpString]
  toValues m := (m.guildId, m.reason, ())
  ofValues := fun (guildId, reason, ()) =>
    { guildId, reason }
  parse := GuildLeaveReq.parse
  serialize := GuildLeaveReq.serialize

/-- The layout of `guild_leave_res`. -/
def GuildLeaveRes.codec : Codec wire GuildLeaveRes where
  steps := [.check 1, bool, lpString]
  toValues m := (m.success, m.message, ())
  ofValues := fun (success, message, ()) =>
    { success, message }
  parse := GuildLeaveRes.parse
  serialize := GuildLeaveRes.serialize

/-- The layout of `guild_info_req`. -/
def GuildInfoReq.codec : Codec wire GuildInfoReq where
  steps := [.check 4, u32]
  toValues m := (m.guildId, ())
  ofValues := fun (guildId, ()) =>
    { guildId }
  parse := GuildInfoReq.parse
  serialize := GuildInfoReq.serialize

/-- The layout of `guild_info_res`. -/
def GuildInfoRes.codec : Codec wire GuildInfoRes where
  steps := [.check 24, u32, lpString, lpString, u32, u32, u8, .skip 1, u32, u32, u32, lpString]
  toValues m := (m.guildId, m.guildName, m.guildDescription, m.memberCount, m.maxMembers,
    m.guildType, m.guildLevel, m.guildExp, m.leaderId, m.leaderName, ())
  ofValues := fun (guildId, guildName, guildDescription, memberCount, maxMembers, guildType,
    guildLevel, guildExp, leaderId, leaderName, ()) =>
    { guildId, guildName, guildDescription, memberCount, maxMembers, guildType, guildLevel,
      guildExp, leaderId, leaderName }
  parse := GuildInfoRes.parse
  serialize := GuildInfoRes.serialize

/-- The layout of `guild_member_list_req`. -/
def GuildMemberListReq.codec : Codec wire GuildMemberListReq where
  steps := [.check 12, u32, u32, u32]
  toValues m := (m.guildId, m.page, m.pageSize, ())
  ofValues := fun (guildId, page, pageSize, ()) =>
    { guildId, page, pageSize }
  parse := GuildMemberListReq.parse
  serialize := GuildMemberListReq.serialize

/-- The layout of `guild_member_info`. -/
def GuildMemberInfo.codec : Codec wire GuildMemberInfo where
  steps := [.check 16, u32, lpString, u32, u8, .skip 1, u32, u32]
  toValues m := (m.playerId, m.playerName, m.level, m.rank, m.joinDate, m.lastOnline, ())
  ofValues := fun (playerId, playerName, level, rank, joinDate, lastOnline, ()) =>
    { playerId, playerName, level, rank, joinDate, lastOnline }
  parse := GuildMemberInfo.parse
  serialize := GuildMemberInfo.serialize

/-- The layout of `map_enter_req`. -/
def MapEnterReq.codec : Codec wire MapEnterReq where
  steps := [.check 20, u32, f32, f32, f32, u32]
  toValues m := (m.mapId, m.x, m.y, m.z, m.timestamp, ())
  ofValues := fun (mapId, x, y, z, timestamp, ()) =>
    { mapId, x, y, z, timestamp }
  parse := MapEnterReq.parse
  serialize := MapEnterReq.serialize

/-- The layout of `map_enter_res`. -/
def MapEnterRes.codec : Codec wire MapEnterRes where
  steps := [.check 20, bool, lpString, u32, lpString, f32, f32, f32, u32]
  toValues m := (m.success, m.message, m.mapId, m.mapName, m.x, m.y, m.z, m.playerCount, ())
  ofValues := fun (success, message, mapId, mapName, x, y, z, playerCount, ()) =>
    { success, message, mapId, mapName, x, y, z, playerCount }
  parse := MapEnterRes.parse
  serialize := MapEnterRes.serialize

/-- The layout of `map_leave_req`. -/
def MapLeaveReq.codec : Codec wire MapLeaveReq where
  steps := [.check 8, u32, u32]
  toValues m := (m.mapId, m.timestamp, ())
  ofValues := fun (mapId, timestamp, ()) =>
    { mapId, timestamp }
  parse := MapLeaveReq.parse
  serialize := MapLeaveReq.serialize

/-- The layout of `map_leave_res`. -/
def MapLeaveRes.codec : Codec wire MapLeaveRes where
  steps := [.check 8, bool, lpString, u32]
  toValues m := (m.success, m.message, m.mapId, ())
  ofValues := fun (success, message, mapId, ()) =>
    { success, message, mapId }
  parse := MapLeaveRes.parse
  serialize := MapLeaveRes.serialize

/-- The layout of `map_object_info`. -/
def MapObjectInfo.codec : Codec wire MapObjectInfo where
  steps := [.check 28, u32, u8, lpString, f32, f32, f32, f32, u32, u32, u32]
  toValues m := (m.objectId, m.objectType, m.objectName, m.x, m.y, m.z, m.rotation, m.level, m.hp,
    m.maxHp, ())
  ofValues := fun (objectId, objectType, objectName, x, y, z, rotation, level, hp, maxHp, ()) =>
    { objectId, objectType, objectName, x, y, z, rotation, level, hp, maxHp }
  parse := MapObjectInfo.parse
  serialize := MapObjectInfo.serialize

/-- The layout of `map_info_req`. -/
def MapInfoReq.codec : Codec wire MapInfoReq where
  steps := [.check 4, u32]
  toValues m := (m.mapId, ())
  ofValues := fun (mapId, ()) =>
    { mapId }
  parse := MapInfoReq.parse
  serialize := MapInfoReq.serialize

/-- The layout of `map_info_res`. -/
def MapInfoRes.codec : Codec wire MapInfoRes where
  steps := [.check 24, u32, lpString, lpString, u32, u32, u32, u32, u8, u32]
  toValues m := (m.mapId, m.mapName, m.mapDescription, m.mapWidth, m.mapHeight, m.maxPlayers,
    m.currentPlayers, m.mapType, m.requiredLevel, ())
  ofValues := fun (mapId, mapName, mapDescription, mapWidth, mapHeight, maxPlayers,
    currentPlayers, mapType, requiredLevel, ()) =>
    { mapId, mapName, mapDescription, mapWidth, mapHeight, maxPlayers, currentPlayers, mapType,
      requiredLevel }
  parse := MapInfoRes.parse
  serialize := MapInfoRes.serialize

end EcsAsioServer.Protocol
