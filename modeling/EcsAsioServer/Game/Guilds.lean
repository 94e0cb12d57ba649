import EcsAsioServer.Game.Runs
import EcsAsioServer.Lib.Grouping

/-!
# The guild store

`guilds_`, `channel_to_guild_` and `next_guild_id_` are changed by the three guild
messages and by nothing else. `GuildStore.apply` is what a request does to them, `none`
if it is refused; the handlers do this and send an answer (`GuildRequest.after_run`).

The two maps are a `Grouping`: create, join and leave are its `found`, `enter` and
`leave`. That every member is indexed in its guild holds after any requests
(`GuildStore.Sound`). That the maps are inverse to each other needs ids that have not
been given out before (`GuildStore.Numbered`), so it holds as long as the 32-bit
counter has not come round (`guild_store_invariant`).

`on_close` does not touch the store, so a member that disconnects stays in its guild.
`guild_members_connected_iff` says which runs are not affected.
-/

namespace EcsAsioServer

open Db Ecs FrameCodec Protocol StateProgram Transition

/-! ## The store and its requests -/

/-- The guild fields of the server. -/
structure GuildStore where
  guilds : AList fun _ : UInt32 => GuildData := ∅
  channelToGuild : ChannelMap UInt32 := ∅
  nextGuildId : UInt32 := 1

/-- The messages 2001, 2002 and 2003; the payload of the last one is not read. -/
inductive GuildRequest where
  | create (payload : List UInt8)
  | join (payload : List UInt8)
  | leave
deriving DecidableEq, Repr

/-- Whether a request that is accepted creates a guild. -/
def GuildRequest.creates : GuildRequest → Bool
  | .create _ => true
  | _ => false

namespace GuildStore

/-- The channel founds a guild. -/
def create (st : GuildStore) (channelId : Int32) (req : GuildCreateReq) : GuildStore where
  guilds := st.guilds.insert st.nextGuildId
    { id := st.nextGuildId, name := req.guildName, description := req.guildDescription
      masterChannelId := channelId, members := [channelId] }
  channelToGuild := st.channelToGuild.insert channelId st.nextGuildId
  nextGuildId := st.nextGuildId + 1

/-- The channel joins the guild. -/
def join (st : GuildStore) (channelId : Int32) (guildId : UInt32) (guild : GuildData) :
    GuildStore :=
  { st with
    guilds := st.guilds.insert guildId { guild with members := guild.members ++ [channelId] }
    channelToGuild := st.channelToGuild.insert channelId guildId }

/-- The channel leaves the guild, which is disbanded when it is empty. -/
def leave (st : GuildStore) (channelId : Int32) (guildId : UInt32) : GuildStore :=
  { st with
    guilds :=
      match st.guilds.lookup guildId with
      | none => st.guilds
      | some guild =>
        let members := guild.members.filter (· ≠ channelId)
        if members.isEmpty then st.guilds.erase guildId
        else st.guilds.insert guildId { guild with members }
    channelToGuild := st.channelToGuild.erase channelId }

/-- The store after a request, `none` if the request is refused. -/
def apply (st : GuildStore) (channelId : Int32) : GuildRequest → Option GuildStore
  | .create payload =>
    match GuildCreateReq.parse payload with
    | .error _ _ => none
    | .ok req _ =>
      if channelId ∈ st.channelToGuild then none else some (st.create channelId req)
  | .join payload =>
    match GuildJoinReq.parse payload with
    | .error _ _ => none
    | .ok req _ =>
      match st.guilds.lookup req.guildId with
      | none => none
      | some guild =>
        if channelId ∈ st.channelToGuild then none
        else some (st.join channelId req.guildId guild)
  | .leave => (st.channelToGuild.lookup channelId).map (st.leave channelId)

/-- Why a request is refused. -/
def Refused (st : GuildStore) (channelId : Int32) : GuildRequest → Prop
  | .create payload =>
    (∀ req rest, GuildCreateReq.parse payload ≠ .ok req rest) ∨ channelId ∈ st.channelToGuild
  | .join payload =>
    ∀ req rest, GuildJoinReq.parse payload = .ok req rest →
      req.guildId ∉ st.guilds ∨ channelId ∈ st.channelToGuild
  | .leave => channelId ∉ st.channelToGuild

variable {st st' : GuildStore} {channelId : Int32} {req : GuildRequest}

theorem apply_eq_none (h : st.Refused channelId req) : st.apply channelId req = none := by
  cases req with
  | create payload =>
    rw [apply]
    cases hparse : GuildCreateReq.parse payload with
    | error _ _ => rfl
    | ok req rest =>
      rcases h with hparse' | hmem
      · exact absurd hparse (hparse' req rest)
      · exact if_pos hmem
  | join payload =>
    rw [apply]
    cases hparse : GuildJoinReq.parse payload with
    | error _ _ => rfl
    | ok req rest =>
      dsimp only
      rcases h req rest hparse with hguild | hmem
      · rw [AList.lookup_eq_none.mpr hguild]
      · cases st.guilds.lookup req.guildId with
        | none => rfl
        | some guild => exact if_pos hmem
  | leave =>
    rw [apply, AList.lookup_eq_none.mpr h]
    rfl

/-- What an accepted request does. -/
theorem apply_cases (h : st.apply channelId req = some st') :
    (∃ payload r, req = .create payload ∧ st.channelToGuild.lookup channelId = none ∧
      st' = st.create channelId r) ∨
    (∃ payload guildId guild, req = .join payload ∧ st.guilds.lookup guildId = some guild ∧
      st.channelToGuild.lookup channelId = none ∧ st' = st.join channelId guildId guild) ∨
    (∃ guildId, req = .leave ∧ st.channelToGuild.lookup channelId = some guildId ∧
      st' = st.leave channelId guildId) := by
  cases req with
  | create payload =>
    rw [apply] at h
    cases hparse : GuildCreateReq.parse payload with
    | error _ _ => simp [hparse] at h
    | ok r rest =>
      simp only [hparse] at h
      split at h
      · cases h
      · next hmem =>
        exact .inl ⟨payload, r, rfl, AList.lookup_eq_none.mpr hmem, (Option.some.inj h).symm⟩
  | join payload =>
    rw [apply] at h
    cases hparse : GuildJoinReq.parse payload with
    | error _ _ => simp [hparse] at h
    | ok r rest =>
      simp only [hparse] at h
      cases hguild : st.guilds.lookup r.guildId with
      | none => simp [hguild] at h
      | some guild =>
        simp only [hguild] at h
        split at h
        · cases h
        · next hmem =>
          exact .inr (.inl ⟨payload, r.guildId, guild, rfl, hguild,
            AList.lookup_eq_none.mpr hmem, (Option.some.inj h).symm⟩)
  | leave =>
    obtain ⟨guildId, hlookup, rfl⟩ := Option.map_eq_some_iff.mp h
    exact .inr (.inr ⟨guildId, rfl, hlookup, rfl⟩)

/-! ## The store as groups and an index -/

section Lookup

variable {α β : Type} [DecidableEq α]

theorem lookup_insert_update (m : AList fun _ : α => β) (a : α) (b : β) :
    (fun x => (m.insert a b).lookup x) = Function.update (fun x => m.lookup x) a (some b) := by
  funext x
  rw [lookup_insert_eq, Function.update_apply]

theorem lookup_erase_update (m : AList fun _ : α => β) (a : α) :
    (fun x => (m.erase a).lookup x) = Function.update (fun x => m.lookup x) a none := by
  funext x
  by_cases hx : x = a
  · subst hx
    rw [AList.lookup_erase, Function.update_self]
  · rw [AList.lookup_erase_ne hx, Function.update_of_ne hx]

end Lookup

/-- The members of the guilds, and the guild of each channel. -/
def grouping (st : GuildStore) : Grouping UInt32 Int32 where
  groups := Option.map GuildData.members ∘ fun guildId => st.guilds.lookup guildId
  index := fun channelId => st.channelToGuild.lookup channelId

variable {guildId : UInt32} {guild : GuildData}

theorem grouping_groups (h : st.guilds.lookup guildId = some guild) :
    st.grouping.groups guildId = some guild.members :=
  congrArg (Option.map GuildData.members) h

theorem create_grouping (st : GuildStore) (channelId : Int32) (r : GuildCreateReq) :
    (st.create channelId r).grouping = st.grouping.found st.nextGuildId channelId := by
  simp only [grouping, create, Grouping.found, lookup_insert_update, Function.comp_update,
    Option.map_some]

theorem join_grouping (st : GuildStore) (channelId : Int32) (guildId : UInt32)
    (guild : GuildData) :
    (st.join channelId guildId guild).grouping
      = st.grouping.enter guildId guild.members channelId := by
  simp only [grouping, join, Grouping.enter, lookup_insert_update, Function.comp_update,
    Option.map_some]

theorem leave_grouping (h : st.guilds.lookup guildId = some guild) (channelId : Int32) :
    (st.leave channelId guildId).grouping
      = st.grouping.leave guildId guild.members channelId := by
  simp only [grouping, leave, h, Grouping.leave, Grouping.kept, List.isEmpty_iff,
    lookup_erase_update]
  -- a guild without members is erased, another one is written back
  split
  · simp only [lookup_erase_update, Function.comp_update, Option.map_none]
  · simp only [lookup_insert_update, Function.comp_update, Option.map_some]

theorem leave_grouping_gone (h : st.guilds.lookup guildId = none) (channelId : Int32) :
    (st.leave channelId guildId).grouping
      = ⟨st.grouping.groups, Function.update st.grouping.index channelId none⟩ := by
  simp only [grouping, leave, h, lookup_erase_update]

/-! ## What requests keep -/

/-- What holds after any requests: every member is indexed in its guild, and a guild
carries its own key. -/
structure Sound (st : GuildStore) : Prop where
  linked : st.grouping.Linked
  id_eq : ∀ guildId guild, st.guilds.lookup guildId = some guild → guild.id = guildId

theorem sound_empty (nextGuildId : UInt32) : Sound { nextGuildId } := by
  refine ⟨⟨?_, ?_, ?_⟩, ?_⟩ <;> intros <;> contradiction

/-- A guild after an operation was there before, with the same id, or is the new one. -/
theorem apply_lookup (happly : st.apply channelId req = some st')
    (hlookup : st'.guilds.lookup guildId = some guild) :
    (∃ old, st.guilds.lookup guildId = some old ∧ guild.id = old.id) ∨
      (req.creates = true ∧ guildId = st.nextGuildId ∧ guild.id = guildId) := by
  -- an operation writes one guild; the others are found as before
  rcases apply_cases happly with ⟨-, r, rfl, -, rfl⟩ | ⟨-, key, old, -, hold, -, rfl⟩ |
    ⟨key, -, -, rfl⟩
  · rcases lookup_insert_eq_some.mp hlookup with ⟨rfl, rfl⟩ | ⟨-, h⟩
    · exact .inr ⟨rfl, rfl, rfl⟩
    · exact .inl ⟨guild, h, rfl⟩
  · rcases lookup_insert_eq_some.mp hlookup with ⟨rfl, rfl⟩ | ⟨-, h⟩
    · exact .inl ⟨old, hold, rfl⟩
    · exact .inl ⟨guild, h, rfl⟩
  · cases hold : st.guilds.lookup key with
    | none =>
      simp only [leave, hold] at hlookup
      exact .inl ⟨guild, hlookup, rfl⟩
    | some old =>
      simp only [leave, hold] at hlookup
      split at hlookup
      · exact .inl ⟨guild, (lookup_erase_eq_some.mp hlookup).2, rfl⟩
      · rcases lookup_insert_eq_some.mp hlookup with ⟨rfl, rfl⟩ | ⟨-, h⟩
        · exact .inl ⟨old, hold, rfl⟩
        · exact .inl ⟨guild, h, rfl⟩

theorem apply_linked (h : Sound st) (happly : st.apply channelId req = some st') :
    st'.grouping.Linked := by
  rcases apply_cases happly with ⟨-, r, -, hfree, rfl⟩ |
    ⟨-, guildId, guild, -, hguild, hfree, rfl⟩ | ⟨guildId, -, hmem, rfl⟩
  · rw [create_grouping]
    exact h.linked.found hfree _
  · rw [join_grouping]
    exact h.linked.enter (grouping_groups hguild) hfree
  · cases hguild : st.guilds.lookup guildId with
    | none =>
      rw [leave_grouping_gone hguild]
      exact h.linked.leave_gone (congrArg (Option.map GuildData.members) hguild) hmem
    | some guild =>
      rw [leave_grouping hguild]
      exact h.linked.leave (grouping_groups hguild) hmem

theorem apply_sound (h : Sound st) (happly : st.apply channelId req = some st') : Sound st' := by
  refine ⟨apply_linked h happly, ?_⟩
  intro guildId guild hlookup
  rcases apply_lookup happly hlookup with ⟨old, hold, hid⟩ | ⟨-, -, hid⟩
  · rw [hid]
    exact h.id_eq guildId old hold
  · exact hid

/-- What holds as long as the `n` ids given out so far are all different. -/
structure Numbered (n : Nat) (st : GuildStore) : Prop extends Sound st where
  inverse : st.grouping.Inverse
  next : st.nextGuildId.toNat = n + 1
  below : ∀ guildId ∈ st.guilds, guildId < st.nextGuildId

theorem numbered_empty : Numbered 0 {} where
  toSound := sound_empty 1
  inverse := ⟨(sound_empty 1).linked, nofun⟩
  next := rfl
  below := nofun

theorem apply_next (happly : st.apply channelId req = some st') :
    st'.nextGuildId = if req.creates then st.nextGuildId + 1 else st.nextGuildId := by
  rcases apply_cases happly with ⟨-, r, rfl, -, rfl⟩ | ⟨-, guildId, guild, rfl, -, -, rfl⟩ |
    ⟨guildId, rfl, -, rfl⟩
  · rfl
  · rfl
  · rfl

variable {n : Nat}

/-- An id that is given out for the first time is the key of no guild. -/
theorem Numbered.fresh (h : Numbered n st) : st.nextGuildId ∉ st.guilds :=
  fun hmem => absurd (h.below _ hmem) (UInt32.lt_irrefl _)

/-- A new guild does not take the place of another one. -/
theorem Numbered.create_keeps (h : Numbered n st) (channelId : Int32) (payload : List UInt8)
    (hguild : st.guilds.lookup guildId = some guild) :
    ((st.apply channelId (.create payload)).getD st).guilds.lookup guildId = some guild := by
  cases happly : st.apply channelId (.create payload) with
  | none => exact hguild
  | some st' =>
    rcases apply_cases happly with ⟨-, r, -, -, rfl⟩ | ⟨_, _, _, hreq, _⟩ | ⟨_, hreq, _⟩
    · have hne : guildId ≠ st.nextGuildId := by
        rintro rfl
        exact h.fresh (mem_of_lookup hguild)
      rw [Option.getD_some, create, AList.lookup_insert_ne hne, hguild]
    · cases hreq
    · cases hreq

theorem apply_inverse (h : Numbered n st) (happly : st.apply channelId req = some st') :
    st'.grouping.Inverse := by
  rcases apply_cases happly with ⟨-, r, -, hfree, rfl⟩ |
    ⟨-, guildId, guild, -, hguild, hfree, rfl⟩ | ⟨guildId, -, hmem, rfl⟩
  · have hnew : st.grouping.groups st.nextGuildId = none :=
      congrArg (Option.map GuildData.members) (AList.lookup_eq_none.mpr h.fresh)
    rw [create_grouping]
    exact h.inverse.found hnew hfree
  · rw [join_grouping]
    exact h.inverse.enter (grouping_groups hguild) hfree
  · -- the guild that the channel is indexed in exists
    obtain ⟨members, hgroups, -⟩ := h.inverse.listed hmem
    obtain ⟨guild, hguild, -⟩ := Option.map_eq_some_iff.mp hgroups
    rw [leave_grouping hguild]
    exact h.inverse.leave (grouping_groups hguild) hmem

/-- Requests keep the numbering, as long as the counter does not come round. -/
theorem apply_numbered (h : Numbered n st) (happly : st.apply channelId req = some st')
    (hlt : n + req.creates.toNat < 2 ^ 32 - 1) :
    Numbered (n + req.creates.toNat) st' := by
  have hsound := apply_sound h.toSound happly
  have hnext := h.next
  have hnext' : st'.nextGuildId.toNat = n + req.creates.toNat + 1 := by
    rw [apply_next happly]
    cases hc : req.creates with
    | false => exact hnext
    | true =>
      simp only [hc, Bool.toNat_true] at hlt
      simp only [if_true, UInt32.toNat_add, hnext, UInt32.toNat_one, Bool.toNat_true]
      omega
  refine ⟨hsound, apply_inverse h happly, hnext', ?_⟩
  intro guildId hmem
  obtain ⟨guild, hguild⟩ := exists_lookup hmem
  rw [UInt32.lt_iff_toNat_lt, hnext']
  rcases apply_lookup happly hguild with ⟨old, hold, -⟩ | ⟨hc, rfl, -⟩
  · have hlt' := h.below guildId (mem_of_lookup hold)
    rw [UInt32.lt_iff_toNat_lt, hnext] at hlt'
    omega
  · rw [hnext, hc]
    exact Nat.lt_succ_self _

end GuildStore

/-! ## The handlers -/

namespace GameServer

/-- The guild store of the server. -/
def guildStore (s : GameServer) : GuildStore where
  guilds := s.guilds
  channelToGuild := s.channelToGuild
  nextGuildId := s.nextGuildId

/-- The server with another guild store. -/
def withGuilds (s : GameServer) (st : GuildStore) : GameServer :=
  { s with
    guilds := st.guilds, channelToGuild := st.channelToGuild, nextGuildId := st.nextGuildId }

/-- `t` is `s` after an answer may have been sent: only channel objects have changed, and
`mtx_` is locked if the send did not return. -/
def Answered (s t : GameServer) : Prop :=
  ∃ net mtx, (∀ id, id ∈ net ↔ id ∈ s.net) ∧ t = { s with net, mtx }

theorem Answered.refl (s : GameServer) : Answered s s := ⟨s.net, s.mtx, fun _ => .rfl, rfl⟩

theorem mem_net_insert {s : GameServer} {id : Int32} {ch : AsioChannel}
    (h : s.net.lookup id = some ch) (ch' : AsioChannel) (id' : Int32) :
    id' ∈ s.net.insert id ch' ↔ id' ∈ s.net := by
  rw [AList.mem_insert]
  constructor
  · rintro (rfl | hmem)
    · rw [← AList.lookup_isSome, h]
      rfl
    · exact hmem
  · exact .inr

/-- Under the lock a channel that closes does not get through `on_close`. -/
theorem callChannel_locked {s : GameServer} (h : s.mtx = true) (channelId : Int32)
    {call : AsioChannel → AsioChannel × List Callback}
    (hcall : ∀ ch, AsioChannel.Ends ch (call ch)) :
    ∃ net, (∀ id, id ∈ net ↔ id ∈ s.net) ∧
      (callChannel channelId call s = .ok () { s with net } ∨
        callChannel channelId call s = .error .selfDeadlock { s with net }) := by
  rcases callChannel_cases channelId hcall s with heq | ⟨ch, hch, ⟨-, heq⟩ | ⟨-, -, heq⟩⟩
  · exact ⟨s.net, fun _ => .rfl, .inl heq⟩
  · exact ⟨_, mem_net_insert hch _, .inl heq⟩
  · refine ⟨_, mem_net_insert hch (call ch).1, .inr ?_⟩
    rw [heq]
    exact onClose_locked (s := { s with net := s.net.insert channelId (call ch).1 }) h channelId

theorem sendTestFrame_answered (env : Env) (channelId : Int32) (msgId : UInt16)
    (data : List UInt8) (s : GameServer) :
    Answered s (after (sendTestFrame env channelId msgId data) s) := by
  by_cases hm : s.mtx = true
  · rw [after, sendTestFrame, withMtx_locked hm]
    exact .refl s
  · rw [Bool.not_eq_true] at hm
    rw [after, sendTestFrame, withMtx_free hm, bind_assoc, get_bind_apply]
    by_cases hid : channelId ∈ s.channels
    · obtain ⟨net, hnet, hok | herror⟩ := callChannel_locked (s := { s with mtx := true }) rfl
        channelId (sendPacket_ends env (pack msgId 0 1 0 data))
      · rw [if_pos hid, sendFrame, sendPacket, bind_ok hok]
        exact ⟨net, false, hnet, rfl⟩
      · rw [if_pos hid, sendFrame, sendPacket, bind_error herror]
        exact ⟨net, true, hnet, rfl⟩
    · rw [if_neg hid]
      exact ⟨s.net, false, fun _ => .rfl, rfl⟩

theorem leaveGuild_eq (s : GameServer) (channelId : Int32) (guildId : UInt32) :
    s.leaveGuild channelId guildId = s.withGuilds (s.guildStore.leave channelId guildId) := by
  simp only [leaveGuild, withGuilds, GuildStore.leave, guildStore]
  cases s.guilds.lookup guildId with
  | none => rfl
  | some guild =>
    dsimp only
    split
    · rfl
    · rfl

end GameServer

namespace GuildRequest

open GameServer

/-- The handler of a request. -/
def run (env : Env) (channelId : Int32) : GuildRequest → ServerM Unit
  | .create payload => handleGuildCreate env channelId payload
  | .join payload => handleGuildJoin env channelId payload
  | .leave => handleGuildLeave env channelId

/-- **The handlers implement the store**: after a request the store is as `apply` says,
unchanged if the request was refused, and nothing else is touched but for the answer. -/
theorem after_run (env : Env) (channelId : Int32) (req : GuildRequest) (s : GameServer) :
    Answered (s.withGuilds ((s.guildStore.apply channelId req).getD s.guildStore))
      (after (req.run env channelId) s) := by
  cases req with
  | create payload =>
    rw [run, handleGuildCreate, GuildStore.apply]
    cases GuildCreateReq.parse payload with
    | error _ _ => exact .refl s
    | ok r rest =>
      dsimp only
      rw [after_bind_ok (get_apply s)]
      by_cases hmem : channelId ∈ s.channelToGuild
      · rw [if_pos hmem, if_pos (show channelId ∈ s.guildStore.channelToGuild from hmem)]
        exact sendTestFrame_answered ..
      · rw [if_neg hmem, if_neg (show channelId ∉ s.guildStore.channelToGuild from hmem)]
        rw [after_bind_ok (show createGuild channelId r s
          = .ok s.nextGuildId (s.withGuilds (s.guildStore.create channelId r)) from rfl)]
        exact sendTestFrame_answered ..
  | join payload =>
    rw [run, handleGuildJoin, GuildStore.apply]
    cases GuildJoinReq.parse payload with
    | error _ _ => exact .refl s
    | ok r rest =>
      dsimp only
      rw [after_bind_ok (get_apply s), show s.guildStore.guilds = s.guilds from rfl]
      cases hguild : s.guilds.lookup r.guildId with
      | none => exact sendTestFrame_answered ..
      | some guild =>
        dsimp only
        rw [after_bind_ok (get_apply s)]
        by_cases hmem : channelId ∈ s.channelToGuild
        · rw [if_pos hmem, if_pos (show channelId ∈ s.guildStore.channelToGuild from hmem)]
          exact sendTestFrame_answered ..
        · rw [if_neg hmem, if_neg (show channelId ∉ s.guildStore.channelToGuild from hmem)]
          exact sendTestFrame_answered env channelId 2002 _
            (s.withGuilds (s.guildStore.join channelId r.guildId guild))
  | leave =>
    rw [run, handleGuildLeave, GuildStore.apply, after_bind_ok (get_apply s),
      show s.guildStore.channelToGuild = s.channelToGuild from rfl]
    cases hguild : s.channelToGuild.lookup channelId with
    | none => exact .refl s
    | some guildId =>
      have hleave : (modify fun s => s.leaveGuild channelId guildId : ServerM PUnit) s
          = .ok ⟨⟩ (s.withGuilds (s.guildStore.leave channelId guildId)) := by
        rw [modify_apply, leaveGuild_eq]
      dsimp only
      rw [after_bind_ok hleave]
      exact sendTestFrame_answered ..

end GuildRequest

/-! ## Sequences of requests -/

namespace GameServer

/-- A guild request of any channel, or something that leaves the guild store alone. -/
inductive GuildEvent where
  | request (channelId : Int32) (req : GuildRequest)
  | other (t : GameServer)

/-- A request, or anything that leaves the guild store alone. -/
def guildStep (env : Env) (s : GameServer) : GuildEvent → GameServer
  | .request channelId req => after (req.run env channelId) s
  | .other t => t.withGuilds s.guildStore

/-- How many guilds a sequence of events creates. -/
def creations (env : Env) : GameServer → List GuildEvent → Nat
  | _, [] => 0
  | s, e :: es =>
    (match e with
      | .request channelId req =>
        if (s.guildStore.apply channelId req).isSome then req.creates.toNat else 0
      | .other _ => 0) + creations env (guildStep env s e) es

variable {s : GameServer}

theorem Answered.guildStore {t : GameServer} (h : Answered s t) :
    t.guildStore = s.guildStore := by
  obtain ⟨net, mtx, -, rfl⟩ := h
  rfl

theorem request_guildStore (env : Env) (s : GameServer) (channelId : Int32)
    (req : GuildRequest) :
    (after (req.run env channelId) s).guildStore
      = (s.guildStore.apply channelId req).getD s.guildStore :=
  (req.after_run env channelId s).guildStore

theorem refused_answered (env : Env) {channelId : Int32} {req : GuildRequest}
    (h : s.guildStore.Refused channelId req) :
    Answered s (after (req.run env channelId) s) := by
  have hrun := req.after_run env channelId s
  rw [GuildStore.apply_eq_none h] at hrun
  exact hrun

/-- **A whole run**, by induction on the events: the numbering survives as long as the
guilds created before and in the run are fewer than the ids. -/
theorem guildRun_numbered (env : Env) {n : Nat} (h : s.guildStore.Numbered n) (es : List GuildEvent)
    (hcount : n + creations env s es < 2 ^ 32 - 1) :
    ∃ n', (es.foldl (guildStep env) s).guildStore.Numbered n' := by
  induction es generalizing s n with
  | nil => exact ⟨n, h⟩
  | cons e es ih =>
    cases e with
    | other t =>
      refine ih (s := t.withGuilds s.guildStore) h ?_
      simp only [creations, guildStep, Nat.zero_add] at hcount
      exact hcount
    | request channelId req =>
      simp only [creations, guildStep] at hcount
      have hstore := request_guildStore env s channelId req
      cases happly : s.guildStore.apply channelId req with
      | none =>
        rw [happly, Option.getD_none] at hstore
        rw [happly, Option.isSome_none, if_neg Bool.false_ne_true, Nat.zero_add] at hcount
        exact ih (hstore ▸ h) hcount
      | some st' =>
        rw [happly, Option.getD_some] at hstore
        rw [happly, Option.isSome_some, if_pos rfl, ← Nat.add_assoc] at hcount
        have hnumbered := GuildStore.apply_numbered h happly (by omega)
        exact ih (hstore ▸ hnumbered) hcount

/-- **The guild store is consistent.** From the empty store, after any requests of any
channels with anything else in between, and fewer than `2^32 - 1` guilds created:
`channel_to_guild_` says exactly who is listed where; a guild has members, each once, and
its own key, which is below `next_guild_id_`; a new guild leaves the existing ones as
they are; and a refused request changes nothing, apart from the answer that is sent. -/
theorem guild_store_invariant (env : Env) (s : GameServer) (es : List GuildEvent)
    (hempty : s.guildStore = {}) (hcount : creations env s es < 2 ^ 32 - 1) :
    let t := es.foldl (guildStep env) s
    (∀ channelId guildId, t.channelToGuild.lookup channelId = some guildId ↔
      ∃ guild, t.guilds.lookup guildId = some guild ∧ channelId ∈ guild.members) ∧
    (∀ guildId guild, t.guilds.lookup guildId = some guild →
      guild.members ≠ [] ∧ guild.members.Nodup ∧ guild.id = guildId ∧
        guildId < t.nextGuildId) ∧
    (∀ channelId payload guildId guild, t.guilds.lookup guildId = some guild →
      (after (handleGuildCreate env channelId payload) t).guilds.lookup guildId
        = some guild) ∧
    (∀ channelId req, t.guildStore.Refused channelId req →
      Answered t (after (req.run env channelId) t)) := by
  intro t
  have hinit : s.guildStore.Numbered 0 := hempty ▸ GuildStore.numbered_empty
  obtain ⟨n, h⟩ := guildRun_numbered env hinit es (by rwa [Nat.zero_add])
  have hgroups : ∀ {guildId guild}, t.guilds.lookup guildId = some guild →
      t.guildStore.grouping.groups guildId = some guild.members :=
    fun hguild => GuildStore.grouping_groups (show t.guildStore.guilds.lookup _ = _ from hguild)
  refine ⟨?_, ?_, ?_, fun _ _ => refused_answered env⟩
  · intro channelId guildId
    refine (h.inverse.index_iff (i := channelId) (k := guildId)).trans ?_
    constructor
    · rintro ⟨members, hmembers, hmem⟩
      obtain ⟨guild, hguild, rfl⟩ := Option.map_eq_some_iff.mp hmembers
      exact ⟨guild, hguild, hmem⟩
    · rintro ⟨guild, hguild, hmem⟩
      exact ⟨guild.members, hgroups hguild, hmem⟩
  · intro guildId guild hguild
    refine ⟨h.linked.nonempty (hgroups hguild), h.linked.nodup (hgroups hguild),
      h.id_eq guildId guild hguild, h.below guildId ?_⟩
    exact mem_of_lookup hguild
  · intro channelId payload guildId guild hguild
    have hstore : (after (handleGuildCreate env channelId payload) t).guildStore
        = (t.guildStore.apply channelId (.create payload)).getD t.guildStore :=
      request_guildStore env t channelId (.create payload)
    show (after (handleGuildCreate env channelId payload) t).guildStore.guilds.lookup guildId = _
    rw [hstore]
    exact h.create_keeps channelId payload hguild

/-- The request that creates a guild in the runs below. -/
def guildCreatePayload : List UInt8 :=
  { guildName := ascii "ants", guildDescription := [], maxMembers := 10, guildType := 0
    : GuildCreateReq }.serialize

/-- Channel 1 creates a guild, channel 2 joins, channel 1 is refused a second guild and
leaves: one guild was created, and channel 2 is in it alone. -/
theorem guild_store_invariant_two :
    let events : List GuildEvent :=
      [.other (execute plainEnv (plainServer false {}) [.accept 1 0, .accept 2 0]),
       .request 1 (.create guildCreatePayload),
       .request 2 (.join (GuildJoinReq.serialize ⟨1, []⟩)),
       .request 1 (.create guildCreatePayload), .request 1 .leave]
    let t := events.foldl (guildStep plainEnv) (plainServer false {})
    creations plainEnv (plainServer false {}) events = 1 ∧
    t.channelToGuild.lookup 2 = some 1 ∧
    ∃ guild, t.guilds.lookup 1 = some guild ∧ 2 ∈ guild.members := by
  intro events t
  have hcount : creations plainEnv (plainServer false {}) events = 1 := by decide +kernel
  have hindex : t.channelToGuild.lookup 2 = some 1 := by decide +kernel
  refine ⟨hcount, hindex, ?_⟩
  exact ((guild_store_invariant plainEnv (plainServer false {}) events rfl
    (by rw [hcount]; decide)).1 2 1).mp hindex

end GameServer

end EcsAsioServer
