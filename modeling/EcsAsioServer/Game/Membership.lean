import EcsAsioServer.Game.Closing

/-!
# Guild members and their connections

`on_close` takes a channel out of `channels_` and the session maps, but the guild maps
are changed by requests alone. Over all events of the server:

- a guild request leaves the connections alone, and every other event leaves the guild
  store alone (`serverStep_guilds`);
- every member of a guild is connected exactly as long as no event closes a channel that is
  in a guild (`guild_members_connected_iff`);
- every guild is led by one of its members exactly as long as no leader leaves others
  behind (`guild_led_iff`): `master_channel_id` is written once, by the creation.
-/

namespace EcsAsioServer.GameServer

open Db Ecs FrameCodec Protocol StateProgram Transition

/-! ## What an event does to guilds and connections -/

/-- The guild store and the channel objects are those of `s`, and nobody has connected. -/
structure GuildsKept (s t : GameServer) : Prop where
  store : t.guildStore = s.guildStore
  channels : ∀ id ∈ t.channels, id ∈ s.channels
  net : ∀ id, id ∈ t.net ↔ id ∈ s.net

theorem guildsKept_core (s : GameServer) : CoreKept (GuildsKept s) (GuildsKept s) where
  mtx _ _ h := ⟨h.store, h.channels, h.net⟩
  locked _ _ h := h
  ecs _ _ h := ⟨h.store, h.channels, h.net⟩
  mainThread _ _ h := ⟨h.store, h.channels, h.net⟩
  net t _ _ ch' hch _ h :=
    ⟨h.store, h.channels, fun id => (mem_net_insert hch ch' id).trans (h.net id)⟩
  close t _ _ ch' _ hch _ _ _ h := by
    refine ⟨h.store, ?_, fun id => (mem_net_insert hch ch' id).trans (h.net id)⟩
    intro id hid
    exact h.channels id (AList.mem_erase.mp hid).2
  stuck t _ _ ch' hch _ _ _ h :=
    ⟨h.store, h.channels, fun id => (mem_net_insert hch ch' id).trans (h.net id)⟩
  setEntity _ _ _ _ h := ⟨h.store, h.channels, h.net⟩
  eraseEntity _ _ h := ⟨h.store, h.channels, h.net⟩
  setDbId _ _ _ _ h := ⟨h.store, h.channels, h.net⟩
  setMap _ _ _ _ _ h := ⟨h.store, h.channels, h.net⟩
  post _ _ _ _ h := ⟨h.store, h.channels, h.net⟩
  completions _ _ _ h := ⟨h.store, h.channels, h.net⟩

/-- The request that a guild message carries. -/
def guildRequest (payload : List UInt8) : MessageId → Option GuildRequest
  | .guildCreate => some (.create payload)
  | .guildJoin => some (.join payload)
  | .guildLeave => some .leave
  | _ => none

variable {env : Env} {s t : GameServer} {e : ServerEvent}

/-- **One event** is a guild request of a connected channel, a new connection, or
something that leaves the guild store alone. -/
theorem serverStep_guilds (hstep : ServerStep env s e t) :
    (∃ channelId req, channelId ∈ s.channels ∧
      t = after (GuildRequest.run env channelId req) s) ∨
    (∃ channelId ch, channelId ∉ s.net ∧ t = s.accepted channelId ch) ∨
    GuildsKept s t := by
  obtain ⟨henabled, rfl⟩ := hstep
  have hrefl : GuildsKept s s := ⟨rfl, fun _ => id, fun _ => .rfl⟩
  by_cases haccept : ∃ channelId now, e = .accept channelId now
  · obtain ⟨channelId, now, rfl⟩ := haccept
    exact .inr (.inl ⟨channelId, _, henabled.2, after_ok (acceptChannel_ok henabled.1 _ now)⟩)
  by_cases hstrand : ∃ channelId out, e = .strand channelId out
  · obtain ⟨channelId, out, rfl⟩ := hstrand
    obtain ⟨storage, completions, heq⟩ := runStrand_eq env s channelId out
    refine .inr (.inr ?_)
    show GuildsKept s (s.runStrand env channelId out)
    rw [heq]
    exact ⟨rfl, fun _ => id, fun _ => .rfl⟩
  by_cases hguild : ∃ channelId cmd payload msg req, e = .frame channelId cmd payload ∧
      messageId cmd = some msg ∧ guildRequest payload msg = some req
  · obtain ⟨channelId, cmd, payload, msg, req, rfl, hmsg, hreq⟩ := hguild
    refine .inl ⟨channelId, req, henabled.2, ?_⟩
    have hrun : act env (.frame channelId cmd payload) = req.run env channelId := by
      rw [act, dispatch, hmsg]
      cases msg <;> cases hreq <;> rfl
    rw [hrun]
  · refine .inr (.inr (or_self_iff.mp ((guildsKept_core s).event hrefl henabled ?_ ?_ ?_)))
    · exact fun channelId now heq => haccept ⟨channelId, now, heq⟩
    · exact fun channelId out heq => hstrand ⟨channelId, out, heq⟩
    · intro channelId cmd payload heq msg hmsg
      cases hreq : guildRequest payload msg with
      | some req => exact absurd ⟨channelId, cmd, payload, msg, req, heq, hmsg, hreq⟩ hguild
      | none => cases msg <;> cases hreq <;> rfl

/-! ## Members are connected -/

/-- Every channel that occurs in the guild maps is connected. -/
structure MembersConnected (s : GameServer) : Prop where
  indexed : ∀ id ∈ s.channelToGuild, id ∈ s.channels
  listed : ∀ guildId guild, s.guilds.lookup guildId = some guild →
    ∀ id ∈ guild.members, id ∈ s.channels

/-- The event closes no channel that is in a guild. -/
def KeepsMembers (env : Env) (s : GameServer) (e : ServerEvent) : Prop :=
  ∀ id, closing env s e = some id → id ∉ s.channelToGuild

theorem keepsMembers_iff (hstep : ServerStep env s e t) : KeepsMembers env s e ↔
    ∀ id ∈ s.channelToGuild, id ∈ s.channels → id ∈ t.channels := by
  constructor
  · intro h id hmem hid
    by_contra hgone
    exact h id ((closing_iff hstep).mpr ⟨hid, hgone⟩) hmem
  · intro h id hclose hmem
    obtain ⟨hid, hgone⟩ := (closing_iff hstep).mp hclose
    exact hgone (h id hmem hid)

/-- What holds after any events: the store is sound, and the ids in `channels_` and
`channel_to_guild_` belong to channel objects, so no new connection has them. -/
structure GuildsHeld (s : GameServer) : Prop where
  sound : s.guildStore.Sound
  channels_net : ∀ id ∈ s.channels, id ∈ s.net
  index_net : ∀ id ∈ s.channelToGuild, id ∈ s.net

/-- Members are indexed, so the index decides. -/
theorem GuildsHeld.connected_iff (h : GuildsHeld s) :
    MembersConnected s ↔ ∀ id ∈ s.channelToGuild, id ∈ s.channels := by
  refine ⟨fun hs => hs.indexed, fun hs => ⟨hs, ?_⟩⟩
  intro guildId guild hguild id hid
  have hgroups : s.guildStore.grouping.groups guildId = some guild.members :=
    GuildStore.grouping_groups hguild
  have hindex : s.channelToGuild.lookup id = some guildId :=
    h.sound.linked.index_of_mem hgroups hid
  exact hs id (mem_of_lookup hindex)

/-- A request moves its own channel only. -/
theorem apply_index {st st' : GuildStore} {channelId id : Int32} {req : GuildRequest}
    (happly : st.apply channelId req = some st') (hne : id ≠ channelId) :
    id ∈ st'.channelToGuild ↔ id ∈ st.channelToGuild := by
  rcases GuildStore.apply_cases happly with ⟨-, r, -, -, rfl⟩ | ⟨-, guildId, guild, -, -, -, rfl⟩ |
    ⟨guildId, -, -, rfl⟩
  · simp [GuildStore.create, AList.mem_insert, hne]
  · simp [GuildStore.join, AList.mem_insert, hne]
  · simp [GuildStore.leave, AList.mem_erase, hne]

theorem getD_apply_index (st : GuildStore) {channelId id : Int32} (req : GuildRequest)
    (hne : id ≠ channelId) :
    id ∈ ((st.apply channelId req).getD st).channelToGuild ↔ id ∈ st.channelToGuild := by
  cases happly : st.apply channelId req with
  | none => exact .rfl
  | some st' => exact apply_index happly hne

theorem getD_apply_sound {st : GuildStore} (h : st.Sound) (channelId : Int32)
    (req : GuildRequest) : ((st.apply channelId req).getD st).Sound := by
  cases happly : st.apply channelId req with
  | none => exact h
  | some st' => exact GuildStore.apply_sound h happly

theorem guildsHeld_init (h : ServerInit s) : GuildsHeld s := by
  refine ⟨?_, ?_, ?_⟩
  · rw [guildStore, h.guilds, h.channelToGuild]
    exact GuildStore.sound_empty s.nextGuildId
  · intro id hid
    rw [h.channels] at hid
    exact absurd hid (AList.notMem_empty id)
  · intro id hid
    rw [h.channelToGuild] at hid
    exact absurd hid (AList.notMem_empty id)

/-- **One event.** -/
theorem guildsHeld_step (h : GuildsHeld s) (hstep : ServerStep env s e t) : GuildsHeld t := by
  rcases serverStep_guilds hstep with ⟨channelId, req, hid, heq⟩ | ⟨channelId, ch, -, rfl⟩ | hkept
  · obtain ⟨net, mtx, hnet, hafter⟩ := req.after_run env channelId s
    rw [heq, hafter]
    refine ⟨getD_apply_sound h.sound channelId req, ?_, ?_⟩
    · intro id hmem
      exact (hnet id).mpr (h.channels_net id hmem)
    · intro id hmem
      by_cases hne : id = channelId
      · rw [hne]
        exact (hnet channelId).mpr (h.channels_net channelId hid)
      · exact (hnet id).mpr (h.index_net id ((getD_apply_index _ req hne).mp hmem))
  · refine ⟨h.sound, ?_, ?_⟩
    · intro id hmem
      rcases (AList.mem_insert _).mp hmem with rfl | hold
      · exact (AList.mem_insert _).mpr (.inl rfl)
      · exact (AList.mem_insert _).mpr (.inr (h.channels_net id hold))
    · intro id hmem
      exact (AList.mem_insert _).mpr (.inr (h.index_net id hmem))
  · have hindex : t.channelToGuild = s.channelToGuild :=
      congrArg GuildStore.channelToGuild hkept.store
    refine ⟨hkept.store ▸ h.sound, ?_, ?_⟩
    · intro id hmem
      exact (hkept.net id).mpr (h.channels_net id (hkept.channels id hmem))
    · intro id hmem
      rw [hindex] at hmem
      exact (hkept.net id).mpr (h.index_net id hmem)

/-- **One event**: the members are connected afterwards exactly if they were before and
the event disconnects none of them. -/
theorem membersConnected_step (h : GuildsHeld s) (hstep : ServerStep env s e t) :
    MembersConnected t ↔ MembersConnected s ∧ KeepsMembers env s e := by
  rw [(guildsHeld_step h hstep).connected_iff, h.connected_iff, keepsMembers_iff hstep]
  rcases serverStep_guilds hstep with ⟨channelId, req, hid, hreq⟩ | ⟨channelId, ch, hnew, heq⟩ |
    hkept
  · -- a request: the connections stay, and only the requesting channel moves
    obtain ⟨net, mtx, -, heq⟩ := req.after_run env channelId s
    rw [← hreq] at heq
    have hchannels : t.channels = s.channels := by rw [heq]; rfl
    have hindex : ∀ id, id ≠ channelId → (id ∈ t.channelToGuild ↔ id ∈ s.channelToGuild) := by
      intro id hne
      rw [heq]
      exact getD_apply_index _ req hne
    refine ⟨fun ht => ⟨fun id hmem => ?_, fun id _ hmem => hchannels ▸ hmem⟩, fun hs id hmem => ?_⟩
    · by_cases hne : id = channelId
      · exact hne ▸ hid
      · exact hchannels ▸ ht id ((hindex id hne).mpr hmem)
    · rw [hchannels]
      by_cases hne : id = channelId
      · exact hne ▸ hid
      · exact hs.1 id ((hindex id hne).mp hmem)
  · -- a new connection: its id is in no guild
    have hmem_channels : ∀ id ∈ s.channelToGuild, id ∈ t.channels ↔ id ∈ s.channels := by
      intro id hmem
      have hne : id ≠ channelId := by
        rintro rfl
        exact hnew (h.index_net id hmem)
      rw [heq, accepted, AList.mem_insert]
      exact or_iff_right hne
    have hindex : t.channelToGuild = s.channelToGuild := by rw [heq]; rfl
    rw [hindex]
    exact ⟨fun ht => ⟨fun id hmem => (hmem_channels id hmem).mp (ht id hmem),
        fun id hmem _ => ht id hmem⟩,
      fun hs id hmem => (hmem_channels id hmem).mpr (hs.1 id hmem)⟩
  · have hindex : t.channelToGuild = s.channelToGuild :=
      congrArg GuildStore.channelToGuild hkept.store
    rw [hindex]
    refine ⟨fun ht => ⟨fun id hmem => hkept.channels id (ht id hmem), fun id hmem _ => ht id hmem⟩,
      fun hs id hmem => ?_⟩
    exact hs.2 id hmem (hs.1 id hmem)

end EcsAsioServer.GameServer

/-! ## Who leads a guild -/

namespace EcsAsioServer

open GameServer Protocol StateProgram Transition

namespace GuildStore

/-- Every guild is led by one of its members. -/
def Led (st : GuildStore) : Prop :=
  ∀ guildId guild, st.guilds.lookup guildId = some guild →
    guild.masterChannelId ∈ guild.members

/-- A leader leaves only as the last member. -/
def LeaderStays (st : GuildStore) (channelId : Int32) : GuildRequest → Prop
  | .create _ | .join _ => True
  | .leave => ∀ guildId guild, st.channelToGuild.lookup channelId = some guildId →
      st.guilds.lookup guildId = some guild → guild.masterChannelId = channelId →
        ∀ id ∈ guild.members, id = channelId

variable {st st' : GuildStore} {channelId : Int32} {req : GuildRequest}

theorem Led.create (h : Led st) (channelId : Int32) (req : GuildCreateReq) :
    Led (st.create channelId req) := by
  intro guildId guild hlookup
  rcases lookup_insert_eq_some.mp hlookup with ⟨-, rfl⟩ | ⟨-, hold⟩
  · exact List.mem_singleton_self channelId
  · exact h guildId guild hold

theorem Led.join (h : Led st) {guildId : UInt32} {guild : GuildData}
    (hguild : st.guilds.lookup guildId = some guild) (channelId : Int32) :
    Led (st.join channelId guildId guild) := by
  intro key value hlookup
  rcases lookup_insert_eq_some.mp hlookup with ⟨-, rfl⟩ | ⟨-, hold⟩
  · exact List.mem_append_left _ (h guildId guild hguild)
  · exact h key value hold

/-- Nobody but the channel is a member. -/
theorem filter_isEmpty_iff (members : List Int32) (channelId : Int32) :
    (members.filter (· ≠ channelId)).isEmpty = true ↔ ∀ id ∈ members, id = channelId := by
  simp [List.isEmpty_iff, List.filter_eq_nil_iff]

/-- A guild that remains keeps its leader only if it was not the leader who left. -/
theorem Led.leave_iff (h : Led st) {guildId : UInt32}
    (hindex : st.channelToGuild.lookup channelId = some guildId) :
    Led (st.leave channelId guildId) ↔ st.LeaderStays channelId .leave := by
  cases hguild : st.guilds.lookup guildId with
  | none =>
    -- the guild has been overwritten and disbanded since
    have hsame : (st.leave channelId guildId).guilds = st.guilds := by
      simp only [leave, hguild]
    refine iff_of_true ?_ ?_
    · unfold Led
      rw [hsame]
      exact h
    · intro key guild hkey hlookup
      rw [hindex] at hkey
      cases hkey
      rw [hguild] at hlookup
      cases hlookup
  | some guild =>
    have hstays : st.LeaderStays channelId .leave ↔
        (guild.masterChannelId = channelId → ∀ id ∈ guild.members, id = channelId) := by
      constructor
      · exact fun hs => hs guildId guild hindex hguild
      · intro hs key value hkey hvalue
        rw [hindex] at hkey
        cases hkey
        rw [hguild] at hvalue
        cases hvalue
        exact hs
    rw [hstays, ← filter_isEmpty_iff]
    by_cases hempty : (guild.members.filter (· ≠ channelId)).isEmpty = true
    · have hguilds : (st.leave channelId guildId).guilds = st.guilds.erase guildId := by
        simp only [leave, hguild, if_pos hempty]
      refine iff_of_true ?_ fun _ => hempty
      intro key value hlookup
      rw [hguilds] at hlookup
      exact h key value (lookup_erase_eq_some.mp hlookup).2
    · have hguilds : (st.leave channelId guildId).guilds = st.guilds.insert guildId
          { guild with members := guild.members.filter (· ≠ channelId) } := by
        simp only [leave, hguild, if_neg hempty]
      have hmaster := h guildId guild hguild
      unfold Led
      rw [hguilds]
      constructor
      · intro hled heq
        have hmem := hled guildId _ (AList.lookup_insert _)
        rw [List.mem_filter] at hmem
        exact absurd heq (by simpa using hmem.2)
      · intro hs key value hlookup
        rcases lookup_insert_eq_some.mp hlookup with ⟨-, rfl⟩ | ⟨-, hold⟩
        · refine List.mem_filter.mpr ⟨hmaster, ?_⟩
          simpa using fun heq => hempty (hs heq)
        · exact h key value hold

/-- **One request**: the guilds are led by members afterwards exactly if it is not a leader
who leaves others behind. -/
theorem Led.apply_iff (h : Led st) (happly : st.apply channelId req = some st') :
    Led st' ↔ st.LeaderStays channelId req := by
  rcases apply_cases happly with ⟨payload, r, rfl, -, rfl⟩ |
    ⟨payload, guildId, guild, rfl, hguild, -, rfl⟩ | ⟨guildId, rfl, hindex, rfl⟩
  · exact iff_of_true (h.create channelId r) trivial
  · exact iff_of_true (h.join hguild channelId) trivial
  · exact h.leave_iff hindex

/-- A request that is refused changes nothing; a leave is refused only to a channel that is
in no guild. -/
theorem Led.getD_apply_iff (h : Led st) (channelId : Int32) (req : GuildRequest) :
    Led ((st.apply channelId req).getD st) ↔ st.LeaderStays channelId req := by
  cases happly : st.apply channelId req with
  | some st' => exact h.apply_iff happly
  | none =>
    refine iff_of_true h ?_
    cases req with
    | create payload | join payload => trivial
    | leave =>
      intro guildId guild hindex
      rw [apply, hindex] at happly
      cases happly

end GuildStore

namespace GameServer

/-- One event of the guild store. -/
def GuildStep (env : Env) (s : GameServer) (e : GuildEvent) (t : GameServer) : Prop :=
  guildStep env s e = t

/-- The event is not the leave of a leader who leaves others behind. -/
def LeaderStays (s : GameServer) : GuildEvent → Prop
  | .request channelId req => s.guildStore.LeaderStays channelId req
  | .other _ => True

theorem led_step_iff (env : Env) {s t : GameServer} {e : GuildEvent} (h : s.guildStore.Led)
    (hstep : GuildStep env s e t) : t.guildStore.Led ↔ s.LeaderStays e := by
  subst hstep
  cases e with
  | request channelId req =>
    show (after (req.run env channelId) s).guildStore.Led ↔ _
    rw [request_guildStore]
    exact h.getD_apply_iff channelId req
  | other t => exact iff_of_true h trivial

/-- **When guilds are led by their members.** From a server without guilds, through any
requests of any channels with anything else in between: all guilds are led by one of their
members all along exactly if no leader ever leaves others behind. -/
theorem guild_led_iff (env : Env) {s t : GameServer} {es : List GuildEvent}
    (hempty : s.guilds = ∅) :
    Run (staying (fun s => s.guildStore.Led) (GuildStep env)) s es t ↔
      Run (guarded LeaderStays (GuildStep env)) s es t := by
  have hled : s.guildStore.Led := by
    intro guildId guild hlookup
    change s.guilds.lookup guildId = some guild at hlookup
    rw [hempty] at hlookup
    cases hlookup
  exact Run.staying_iff (I := fun _ => True) trivial hled (fun _ _ _ _ _ => trivial)
    fun _ _ _ _ h hstep => led_step_iff env h hstep

/-- Channel 1 creates a guild; channel 2 joins and leaves. -/
theorem guild_led_two :
    let events : List GuildEvent :=
      [.request 1 (.create guildCreatePayload),
       .request 2 (.join (GuildJoinReq.serialize ⟨1, []⟩)), .request 2 .leave]
    let t := events.foldl (guildStep plainEnv) (plainServer false {})
    (t.guilds.lookup 1).map GuildData.members = some [1] ∧
      Run (staying (fun s => s.guildStore.Led) (GuildStep plainEnv)) (plainServer false {})
        events t := by
  intro events t
  let s₂ := (events.take 2).foldl (guildStep plainEnv) (plainServer false {})
  have hindex : s₂.channelToGuild.lookup 2 = some 1 := by decide +kernel
  have hmaster : (s₂.guilds.lookup 1).map GuildData.masterChannelId = some 1 := by decide +kernel
  have hleave : s₂.LeaderStays (.request 2 .leave) := by
    intro guildId guild hkey hguild heq
    have hkey : some guildId = some 1 := hkey.symm.trans hindex
    cases hkey
    rw [show s₂.guilds.lookup 1 = some guild from hguild, Option.map_some, heq] at hmaster
    cases hmaster
  refine ⟨by decide +kernel, (guild_led_iff plainEnv rfl).mpr ?_⟩
  exact Run.of_along ⟨trivial, trivial, hleave, trivial⟩

/-- Channel 1 creates a guild, channel 2 joins, and channel 1 leaves: the guild of channel 2
is still led by channel 1. -/
theorem leader_gone :
    let t := [GuildEvent.request 1 (.create guildCreatePayload),
      .request 2 (.join (GuildJoinReq.serialize ⟨1, []⟩)), .request 1 .leave].foldl
        (guildStep plainEnv) (plainServer false {})
    (t.guilds.lookup 1).map GuildData.masterChannelId = some 1 ∧
      (t.guilds.lookup 1).map GuildData.members = some [2] ∧ ¬ t.guildStore.Led := by
  intro t
  have hmaster : (t.guilds.lookup 1).map GuildData.masterChannelId = some 1 := by decide +kernel
  have hmembers : (t.guilds.lookup 1).map GuildData.members = some [2] := by decide +kernel
  refine ⟨hmaster, hmembers, fun hled => ?_⟩
  obtain ⟨guild, hguild, hleader⟩ := Option.map_eq_some_iff.mp hmaster
  rw [hguild, Option.map_some, Option.some_inj] at hmembers
  have hmem := hled 1 guild hguild
  rw [hleader, hmembers] at hmem
  exact absurd hmem (by decide)

end GameServer

end EcsAsioServer
