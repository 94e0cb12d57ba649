import EcsAsioServer.Game.Runs

/-!
# Sending under `mtx_`

`send_test_frame`, `broadcast` and `broadcast_except` call `send` while they hold `mtx_`.
When the packet does not fit into a recipient's queue, `send` closes the channel, the
channel calls `on_close`, and `on_close` locks `mtx_` again: the io thread waits for
itself.

`Sends s x sends` says what a program does that sends `sends` under the lock: it stops
exactly if the packets to some registered channel do not fit (`Overflow`), and otherwise
each of them is queued. `Sends.bind` puts programs together, and `lockedSends` is the list
for every message. Nothing is taken off a queue while a handler runs, so all that counts
is the sum of the sizes for each recipient.
-/

namespace EcsAsioServer.GameServer

open AsioChannel (maxQueueBytes)
open Db Ecs FrameCodec Protocol StateProgram Transition

/-! ## Registered channels are open -/

/-- Every registered channel has an object that has not closed. -/
def RegisteredOpen (s : GameServer) : Prop :=
  ∀ id ∈ s.channels, ∃ ch, s.net.lookup id = some ch ∧ ch.closed = false

variable {s : GameServer} {sends : List (Int32 × List UInt8)}

theorem RegisteredOpen.update (h : RegisteredOpen s) {id : Int32} {ch ch' : AsioChannel}
    (hch : s.net.lookup id = some ch) (hclosed : ch'.closed = ch.closed) :
    RegisteredOpen { s with net := s.net.insert id ch' } := by
  intro k hk
  by_cases hkid : k = id
  · -- the channel itself: `ch'` has the same flag as the object it replaces
    subst hkid
    obtain ⟨ch₀, hch₀, hopen⟩ := h k hk
    rw [hch] at hch₀
    cases hch₀
    exact ⟨ch', AList.lookup_insert _, hclosed.trans hopen⟩
  · obtain ⟨ch₀, hch₀, hopen⟩ := h k hk
    exact ⟨ch₀, (AList.lookup_insert_ne hkid).trans hch₀, hopen⟩

theorem RegisteredOpen.close (h : RegisteredOpen s) (id : Int32) (ch : AsioChannel)
    (ecs : GameService ComponentType.Val) :
    RegisteredOpen (closeWith { s with net := s.net.insert id ch } id ecs) := by
  intro k hk
  obtain ⟨hne, hmem⟩ := AList.mem_erase.mp hk
  obtain ⟨ch₀, hch₀, hopen⟩ := h k hmem
  exact ⟨ch₀, (AList.lookup_insert_ne hne).trans hch₀, hopen⟩

theorem RegisteredOpen.accept (h : RegisteredOpen s) (id : Int32) {ch : AsioChannel}
    (hopen : ch.closed = false) : RegisteredOpen (s.accepted id ch) := by
  intro k hk
  by_cases hkid : k = id
  · subst hkid
    exact ⟨ch, AList.lookup_insert _, hopen⟩
  · rcases (AList.mem_insert _).mp hk with hk | hk
    · exact absurd hk hkid
    · obtain ⟨ch₀, hch₀, hopen₀⟩ := h k hk
      exact ⟨ch₀, (AList.lookup_insert_ne hkid).trans hch₀, hopen₀⟩

theorem registeredOpen_kept (env : Env) :
    ServerKept env RegisteredOpen fun s => s.mtx = true where
  mtx _ _ h := h
  locked _ hm _ := hm
  ecs _ _ h := h
  guild _ _ _ _ h := h
  mainThread _ _ h := h
  net _ _ _ _ hch hclosed h := h.update hch hclosed
  close _ id _ ch' ecs _ _ _ _ h := h.close id ch' ecs
  stuck _ _ _ _ _ _ _ hm _ := hm
  setEntity _ _ _ _ h := h
  eraseEntity _ _ h := h
  setDbId _ _ _ _ h := h
  setMap _ _ _ _ _ h := h
  post _ _ _ _ h := h
  completions _ _ _ h := h
  accept _ id _ _ hopen h := h.accept id hopen
  strand s id out h := by
    obtain ⟨storage, completions, heq⟩ := runStrand_eq env s id out
    rw [heq]
    exact h
  stuck_mtx _ h := h
  stuck_ecs _ _ h := h
  stuck_strand s id out h := (runStrand_mtx env s id out).trans h

theorem reachable_registeredOpen (env : Env) (hs : Reachable ServerInit (ServerStep env) s)
    (hmtx : s.mtx = false) : RegisteredOpen s := by
  refine (registeredOpen_kept env).reachable_free ?_ hs hmtx
  intro s₀ hinit id hid
  rw [hinit.channels] at hid
  exact absurd hid (AList.notMem_empty id)

/-! ## Packets on their way to channels -/

/-- The bytes for one recipient. -/
def bytesTo (id : Int32) (sends : List (Int32 × List UInt8)) : Nat :=
  ((sends.filter fun p => p.1 = id).map fun p => sentBytes p.2).sum

@[simp] theorem bytesTo_nil (id : Int32) : bytesTo id [] = 0 := rfl

@[simp] theorem bytesTo_append (id : Int32) (sends sends' : List (Int32 × List UInt8)) :
    bytesTo id (sends ++ sends') = bytesTo id sends + bytesTo id sends' := by
  simp [bytesTo]

theorem bytesTo_self (id : Int32) (pkt : List UInt8) : bytesTo id [(id, pkt)] = sentBytes pkt := by
  simp [bytesTo]

theorem bytesTo_ne {id id' : Int32} (h : id ≠ id') (pkt : List UInt8) :
    bytesTo id' [(id, pkt)] = 0 := by
  simp [bytesTo, h]

/-- `current_queue_bytes` of a channel. -/
def queued (s : GameServer) (id : Int32) : Nat :=
  (s.net.lookup id).elim 0 AsioChannel.currentQueueBytes

/-- The packets to some registered channel do not fit into its queue. -/
def Overflow (s : GameServer) (sends : List (Int32 × List UInt8)) : Prop :=
  ∃ id ∈ s.channels, 0 < bytesTo id sends ∧ maxQueueBytes < s.queued id + bytesTo id sends

instance (s : GameServer) (sends : List (Int32 × List UInt8)) : Decidable (Overflow s sends) :=
  decidable_of_iff (∃ id ∈ s.channels.keys,
    0 < bytesTo id sends ∧ maxQueueBytes < s.queued id + bytesTo id sends) Iff.rfl

theorem not_overflow_nil (s : GameServer) : ¬ Overflow s [] := by
  rintro ⟨id, -, hpos, -⟩
  exact absurd hpos (Nat.lt_irrefl 0)

/-- All packets have been queued. -/
structure Sent (s : GameServer) (sends : List (Int32 × List UInt8)) (s' : GameServer) :
    Prop where
  mtx : s'.mtx = s.mtx
  channels : s'.channels = s.channels
  opened : RegisteredOpen s'
  queued : ∀ id ∈ s.channels, s'.queued id = s.queued id + bytesTo id sends

theorem Sent.trans {s' s'' : GameServer} {sends' : List (Int32 × List UInt8)} (h : Sent s sends s')
    (h' : Sent s' sends' s'') : Sent s (sends ++ sends') s'' where
  mtx := h'.mtx.trans h.mtx
  channels := h'.channels.trans h.channels
  opened := h'.opened
  queued id hid := by
    rw [h'.queued id (h.channels ▸ hid), h.queued id hid, bytesTo_append, Nat.add_assoc]

theorem Overflow.append (h : Overflow s sends) (sends' : List (Int32 × List UInt8)) :
    Overflow s (sends ++ sends') := by
  obtain ⟨id, hid, hpos, hover⟩ := h
  refine ⟨id, hid, ?_, ?_⟩ <;> rw [bytesTo_append] <;> omega

/-- After packets that fitted, the rest overflows exactly if the whole does. -/
theorem overflow_append_iff {s' : GameServer} (hfit : ¬ Overflow s sends) (h : Sent s sends s')
    (sends' : List (Int32 × List UInt8)) :
    Overflow s (sends ++ sends') ↔ Overflow s' sends' := by
  constructor
  · rintro ⟨id, hid, hpos, hover⟩
    rw [bytesTo_append] at hpos hover
    refine ⟨id, h.channels ▸ hid, ?_, ?_⟩
    · -- a recipient of nothing more has overflowed before
      by_contra hzero
      exact hfit ⟨id, hid, by omega, by omega⟩
    · rw [h.queued id hid]
      omega
  · rintro ⟨id, hid, hpos, hover⟩
    rw [h.channels] at hid
    rw [h.queued id hid] at hover
    refine ⟨id, hid, ?_, ?_⟩ <;> rw [bytesTo_append] <;> omega

/-! ## Programs that send under the lock -/

/-- The program stops in a self-deadlock exactly if the packets overflow a queue, and
queues all of them otherwise. -/
def Sends {α : Type} (s : GameServer) (x : ServerM α) (sends : List (Int32 × List UInt8)) :
    Prop :=
  (Overflow s sends ∧ ∃ s', x s = .error .selfDeadlock s') ∨
  (¬ Overflow s sends ∧ ∃ a s', x s = .ok a s' ∧ Sent s sends s')

section Sends

variable {α β : Type} {s : GameServer} {sends sends' : List (Int32 × List UInt8)} {x : ServerM α}

/-- **Sequencing**: the packets of the parts, one after the other. -/
theorem Sends.bind {f : α → ServerM β} (hx : Sends s x sends)
    (hf : ∀ a s', x s = .ok a s' → Sent s sends s' → Sends s' (f a) sends') :
    Sends s (x >>= f) (sends ++ sends') := by
  rcases hx with ⟨hover, s', hx⟩ | ⟨hfit, a, s', hx, hsent⟩
  · -- stopped in the first part: the packets of the rest do not matter
    exact .inl ⟨hover.append sends', s', bind_error hx f⟩
  · unfold Sends
    rw [overflow_append_iff hfit hsent, bind_ok hx]
    rcases hf a s' hx hsent with hstop | ⟨hfit', b, s'', hrest, hsent'⟩
    · exact .inl hstop
    · exact .inr ⟨hfit', b, s'', hrest, hsent.trans hsent'⟩

theorem Sends.nil {a : α} {s' : GameServer} (hx : x s = .ok a s') (hmtx : s'.mtx = s.mtx)
    (hnet : s'.net = s.net) (hchannels : s'.channels = s.channels) (hopen : RegisteredOpen s) :
    Sends s x [] := by
  refine .inr ⟨not_overflow_nil s, a, s', hx, hmtx, hchannels, ?_, ?_⟩
  · unfold RegisteredOpen
    rw [hnet, hchannels]
    exact hopen
  · intro id _
    rw [bytesTo_nil, Nat.add_zero]
    unfold queued
    rw [hnet]

/-- An instruction that only changes entities and components. -/
theorem Sends.ecs_bind {f : α → ServerM β} {a : α} {ecs : GameService ComponentType.Val}
    (hx : x s = .ok a { s with ecs }) (h : Sends { s with ecs } (f a) sends) :
    Sends s (x >>= f) sends := by
  unfold Sends
  rw [bind_ok hx]
  rcases h with hstop | ⟨hfit, b, s', hf, hsent⟩
  · exact .inl hstop
  · exact .inr ⟨hfit, b, s', hf, hsent.mtx, hsent.channels, hsent.opened, hsent.queued⟩

/-- A scope that sends. -/
theorem Sends.withMtx {body : ServerM α} (hmtx : s.mtx = false)
    (hb : Sends { s with mtx := true } body sends) : Sends s (withMtx body) sends := by
  rcases hb with ⟨hover, s', hb⟩ | ⟨hfit, a, s', hb, hsent⟩
  · exact .inl ⟨hover, s', withMtx_error hmtx hb⟩
  · refine .inr ⟨hfit, a, _, withMtx_ok hmtx hb, hmtx.symm, hsent.channels, ?_, ?_⟩
    · exact hsent.opened
    · exact hsent.queued

/-- The program stops in a self-deadlock exactly if the packets overflow a queue, and gives the
lock back otherwise. -/
def Stops {α : Type} (s : GameServer) (x : ServerM α) (sends : List (Int32 × List UInt8)) : Prop :=
  (Overflow s sends ∧ ∃ s', x s = .error .selfDeadlock s') ∨
  (¬ Overflow s sends ∧ ∃ a s', x s = .ok a s' ∧ s'.mtx = false)

theorem Sends.stops (h : Sends s x sends) (hmtx : s.mtx = false) :
    Stops s x sends := by
  rcases h with hstop | ⟨hfit, a, s', hx, hsent⟩
  · exact .inl hstop
  · exact .inr ⟨hfit, a, s', hx, hsent.mtx.trans hmtx⟩

theorem Stops.faults_iff (h : Stops s x sends) :
    (∃ s', x s = .error .selfDeadlock s') ↔ Overflow s sends := by
  rcases h with ⟨hover, hx⟩ | ⟨hfit, a, s', hx, -⟩
  · exact ⟨fun _ => hover, fun _ => hx⟩
  · refine ⟨?_, fun hover => absurd hover hfit⟩
    rintro ⟨s'', hx'⟩
    rw [hx] at hx'
    cases hx'

end Sends

/-! ## One packet and loops -/

section Packets

variable {s : GameServer} (env : Env)

theorem sent_update {id : Int32} {ch ch' : AsioChannel} {pkt : List UInt8}
    (hopen : RegisteredOpen s) (hch : s.net.lookup id = some ch)
    (hclosed : ch'.closed = ch.closed)
    (hbytes : ch'.currentQueueBytes = ch.currentQueueBytes + sentBytes pkt) :
    Sent s [(id, pkt)] { s with net := s.net.insert id ch' } := by
  refine ⟨rfl, rfl, hopen.update hch hclosed, ?_⟩
  intro k _
  show ((s.net.insert id ch').lookup k).elim 0 _ = (s.net.lookup k).elim 0 _ + _
  by_cases hk : k = id
  · subst hk
    rw [AList.lookup_insert, hch, bytesTo_self]
    exact hbytes
  · rw [AList.lookup_insert_ne hk, bytesTo_ne (Ne.symm hk)]
    rfl

/-- A `send` under the lock. -/
theorem sendPacket_sends {id : Int32} (hmtx : s.mtx = true) (hopen : RegisteredOpen s)
    (hid : id ∈ s.channels) (pkt : List UInt8) :
    Sends s (sendPacket env id pkt) [(id, pkt)] := by
  obtain ⟨ch, hch, hchOpen⟩ := hopen id hid
  have hqueued : s.queued id = ch.currentQueueBytes := by
    unfold queued
    rw [hch]
    rfl
  let call : AsioChannel → AsioChannel × List Callback :=
    fun ch => ch.send env.order pkt (Int32.ofNat pkt.length)
  by_cases hover : 0 < sentBytes pkt ∧ maxQueueBytes < ch.currentQueueBytes + sentBytes pkt
  · -- the channel closes and calls `on_close`
    let s' : GameServer := { s with net := s.net.insert id (call ch).1 }
    refine .inl ⟨⟨id, hid, ?_, ?_⟩, s', ?_⟩
    · rw [bytesTo_self]
      exact hover.1
    · rw [bytesTo_self, hqueued]
      exact hover.2
    · show callChannel id call s = _
      rw [callChannel_closing hch (send_overflows env hchOpen hover.1 hover.2)]
      exact onClose_locked (show s'.mtx = true from hmtx) id
  · -- the packet is queued, and no other queue changes
    obtain ⟨hnil, hclosed, hbytes⟩ := send_fits env hchOpen fun hpos =>
      Nat.not_lt.mp fun hlt => hover ⟨hpos, hlt⟩
    refine .inr ⟨?_, (), _, callChannel_silent hch hnil,
      sent_update hopen hch (hclosed.trans hchOpen.symm) hbytes⟩
    rintro ⟨k, -, hpos, hlt⟩
    by_cases hk : k = id
    · subst hk
      rw [bytesTo_self] at hpos hlt
      rw [hqueued] at hlt
      exact hover ⟨hpos, hlt⟩
    · rw [bytesTo_ne (Ne.symm hk)] at hpos
      omega

/-- The loops of `broadcast` and `broadcast_except`. -/
theorem forM_sends (p : Int32 → Prop) [DecidablePred p] (pkt : List UInt8) {ids : List Int32}
    (hmtx : s.mtx = true) (hopen : RegisteredOpen s) (hids : ∀ id ∈ ids, id ∈ s.channels) :
    Sends s (ids.forM fun id => if p id then sendPacket env id pkt else pure ())
      ((ids.filter fun id => p id).map fun id => (id, pkt)) := by
  -- the lock is held and the channels stay open from one recipient to the next
  induction ids generalizing s with
  | nil => exact .nil rfl rfl rfl rfl hopen
  | cons id ids ih =>
    have hid : id ∈ s.channels := hids id (List.mem_cons_self ..)
    have hrest : ∀ id ∈ ids, id ∈ s.channels := fun k hk => hids k (List.mem_cons_of_mem id hk)
    show Sends s ((if p id then _ else _) >>= fun _ => _) _
    by_cases hp : p id
    · rw [List.filter_cons_of_pos (p := fun id => decide (p id)) (decide_eq_true hp), if_pos hp]
      refine (sendPacket_sends env hmtx hopen hid pkt).bind fun _ s' _ hsent => ?_
      refine ih (hsent.mtx.trans hmtx) hsent.opened ?_
      rw [hsent.channels]
      exact hrest
    · rw [List.filter_cons_of_neg (p := fun id => decide (p id)) (by simpa using hp), if_neg hp]
      exact ih hmtx hopen hrest

/-- The packets of `broadcast`. -/
def toAll (s : GameServer) (pkt : List UInt8) : List (Int32 × List UInt8) :=
  s.channels.keys.map fun id => (id, pkt)

/-- The packets of `broadcast_except`. -/
def toOthers (s : GameServer) (excludeChannelId : Int32) (pkt : List UInt8) :
    List (Int32 × List UInt8) :=
  (s.channels.keys.filter fun id => id ≠ excludeChannelId).map fun id => (id, pkt)

variable (hmtx : s.mtx = false) (hopen : RegisteredOpen s)

include hmtx hopen

theorem sendTestFrame_sends {channelId : Int32} (hid : channelId ∈ s.channels) (msgId : UInt16)
    (data : List UInt8) :
    Sends s (sendTestFrame env channelId msgId data)
      [(channelId, pack msgId 0 1 0 data)] := by
  refine .withMtx hmtx ?_
  show Sends { s with mtx := true } (if channelId ∈ s.channels then _ else _) _
  rw [if_pos hid]
  exact sendPacket_sends (s := { s with mtx := true }) env rfl hopen hid _

theorem broadcast_sends (cmd : UInt16) (data : List UInt8) :
    Sends s (broadcast env cmd data) (s.toAll (pack cmd 0 1 0 data)) := by
  refine .withMtx hmtx ?_
  have hloop := forM_sends (s := { s with mtx := true }) env (fun _ => True)
    (pack cmd 0 1 0 data) rfl hopen fun id (hid : id ∈ s.channels.keys) => hid
  simp only [if_true, decide_true, List.filter_true] at hloop
  exact hloop

theorem broadcastExcept_sends (excludeChannelId : Int32) (cmd : UInt16) (data : List UInt8) :
    Sends s (broadcastExcept env excludeChannelId cmd data)
      (s.toOthers excludeChannelId (pack cmd 0 1 0 data)) := by
  refine .withMtx hmtx ?_
  exact forM_sends (s := { s with mtx := true }) env (fun id => id ≠ excludeChannelId)
    (pack cmd 0 1 0 data) rfl hopen fun _ hid => hid

end Packets

/-! ## Programs that send nothing -/

/-- Nothing has been sent or closed since `s₀`. -/
def Unsent (s₀ : GameServer) (locked : Bool) (s : GameServer) : Prop :=
  s.mtx = locked ∧ s.net = s₀.net ∧ s.channels = s₀.channels

theorem unsent_quiet (s₀ : GameServer) :
    QuietKept (Unsent s₀ false) (Unsent s₀ true) fun _ => False where
  lock _ _ hs := ⟨rfl, hs.2⟩
  unlock _ hs := ⟨rfl, hs.2⟩
  locked s hm hs := by
    rw [hs.1] at hm
    cases hm
  ecs _ _ hs := hs
  ecsLocked _ _ hs := hs

theorem quiet_sends {α : Type} {x : ServerM α} (hmtx : s.mtx = false) (hopen : RegisteredOpen s)
    (hx : Keeps (Unsent s false) (fun _ => False) x) :
    Sends s x [] := by
  have hs := hx s ⟨hmtx, rfl, rfl⟩
  cases hr : x s with
  | ok a s' =>
    rw [hr] at hs
    exact .nil hr (hs.1.trans hmtx.symm) hs.2.1 hs.2.2 hopen
  | error e s' =>
    rw [hr] at hs
    exact hs.elim

/-! ## The packets of every message -/

/-! What each handler sends under the lock, from the state before. -/

section LockedSends

variable (s : GameServer) (channelId : Int32) (payload : List UInt8)

/-- What `handle_move` sends. -/
def moveSends : List (Int32 × List UInt8) :=
  match PlayerMoveReq.parse payload with
  | .error _ _ => []
  | .ok req _ =>
    if s.mainThreadManager.isSome then []
    else s.toOthers channelId (pack 1002 0 1 0 (moveNotice channelId req))
      ++ [(channelId, pack 1002 0 1 0 (ascii "ok"))]

/-- What `handle_chat` sends. -/
def chatSends : List (Int32 × List UInt8) :=
  if s.mainThreadManager.isSome then []
  else s.toAll (pack 1003 0 1 0 (writeLe32 channelId.toUInt32 ++ payload))
    ++ [(channelId, pack 1003 0 1 0 (ascii "CHAT_SUCCESS"))]

/-- What `handle_attack` sends. -/
def attackSends : List (Int32 × List UInt8) :=
  match AttackReq.parse payload with
  | .error _ _ => []
  | .ok req _ =>
    let attacker := (s.channelToEntity.lookup channelId).getD 0
    let target := (s.channelToEntity.lookup req.targetId.toInt32).getD 0
    if attacker = 0 ∨ target = 0 then [(channelId, pack 1004 0 1 0 attackFailed.serialize)]
    else
      let hp := s.remainingHp target req
      [(channelId, pack 1004 0 1 0 (attackRes req hp).serialize)]
        ++ s.toOthers channelId (pack 1004 0 1 0 (damageNotify channelId req hp).serialize)

/-- What `handle_map_enter` sends. -/
def mapEnterSends : List (Int32 × List UInt8) :=
  match MapEnterReq.parse payload with
  | .error _ _ => []
  | .ok req _ =>
    match s.config.maps.find? fun m => m.id = req.mapId.toInt32 with
    | none => [(channelId, pack 1005 0 1 0 mapNotFound.serialize)]
    | some mapCfg => [(channelId, pack 1005 0 1 0 (mapEntered req mapCfg).serialize)]

/-- What `handle_guild_create` sends. -/
def guildCreateSends : List (Int32 × List UInt8) :=
  match GuildCreateReq.parse payload with
  | .error _ _ => []
  | .ok _ _ =>
    let res : GuildCreateRes :=
      if channelId ∈ s.channelToGuild then
        { success := false, message := ascii "already in a guild", guildId := 0 }
      else { success := true, message := ascii "ok", guildId := s.nextGuildId }
    [(channelId, pack 2001 0 1 0 res.serialize)]

/-- What `handle_guild_join` sends. -/
def guildJoinSends : List (Int32 × List UInt8) :=
  match GuildJoinReq.parse payload with
  | .error _ _ => []
  | .ok req _ =>
    let (success, message) :=
      match s.guilds.lookup req.guildId with
      | none => (false, ascii "guild not found")
      | some _ =>
        if channelId ∈ s.channelToGuild then (false, ascii "already in a guild")
        else (true, ascii "ok")
    [(channelId, pack 2002 0 1 0
      { success, message, applicationId := 0 : GuildJoinRes }.serialize)]

/-- What `handle_guild_leave` sends. -/
def guildLeaveSends : List (Int32 × List UInt8) :=
  if channelId ∈ s.channelToGuild then
    [(channelId, pack 2003 0 1 0
      { success := true, message := ascii "ok" : GuildLeaveRes }.serialize)]
  else []

/-- The packets of a message. `PING`, `ECHO` and `LOGIN` reply outside the lock. -/
def lockedSends : MessageId → List (Int32 × List UInt8)
  | .ping => []
  | .echo => []
  | .login => []
  | .move => s.moveSends channelId payload
  | .chat => s.chatSends channelId payload
  | .attack => s.attackSends channelId payload
  | .mapEnter => s.mapEnterSends channelId payload
  | .guildCreate => s.guildCreateSends channelId payload
  | .guildJoin => s.guildJoinSends channelId payload
  | .guildLeave => s.guildLeaveSends channelId

end LockedSends

theorem leaveGuild_same (s : GameServer) (channelId : Int32) (guildId : UInt32) :
    (s.leaveGuild channelId guildId).mtx = s.mtx ∧ (s.leaveGuild channelId guildId).net = s.net ∧
      (s.leaveGuild channelId guildId).channels = s.channels := by
  unfold leaveGuild
  dsimp only
  split
  · exact ⟨rfl, rfl, rfl⟩
  · split <;> exact ⟨rfl, rfl, rfl⟩

section Messages

variable {s : GameServer} (env : Env) {channelId : Int32} (payload : List UInt8)
  (hmtx : s.mtx = false) (hopen : RegisteredOpen s) (hid : channelId ∈ s.channels)

include hmtx hopen hid

theorem handleMove_sends :
    Sends s (handleMove env channelId payload) (s.moveSends channelId payload) := by
  unfold handleMove moveSends
  cases PlayerMoveReq.parse payload with
  | error _ _ => exact .nil rfl rfl rfl rfl hopen
  | ok req _ =>
    -- the same two sends with and without a position to update before them
    have hdirect : ∀ s', s'.mtx = false → s'.channels = s.channels → RegisteredOpen s' →
        Sends s' (do
            broadcastExcept env channelId 1002 (moveNotice channelId req)
            sendTestFrame env channelId 1002 (ascii "ok"))
          (s.toOthers channelId (pack 1002 0 1 0 (moveNotice channelId req))
            ++ [(channelId, pack 1002 0 1 0 (ascii "ok"))]) := by
      intro s' hmtx' hchannels hopen'
      have hothers := broadcastExcept_sends env hmtx' hopen' channelId 1002
        (moveNotice channelId req)
      rw [toOthers, hchannels] at hothers
      refine hothers.bind fun _ s'' _ hsent => ?_
      refine sendTestFrame_sends env (hsent.mtx.trans hmtx') hsent.opened ?_ 1002 _
      rw [hsent.channels, hchannels]
      exact hid
    show Sends s (if s.mainThreadManager.isSome = true then _ else _)
      (if s.mainThreadManager.isSome = true then _ else _)
    by_cases hmain : s.mainThreadManager.isSome = true
    · rw [if_pos hmain, if_pos hmain]
      exact .nil rfl rfl rfl rfl hopen
    · rw [if_neg hmain, if_neg hmain]
      show Sends s (if s.config.useEcs = true then _ else _) _
      by_cases hecs : s.config.useEcs = true
      · rw [if_pos hecs]
        refine (quiet_sends hmtx hopen ((unsent_quiet s).movePlayer channelId req)).bind
          fun _ s' _ hsent => ?_
        exact hdirect s' (hsent.mtx.trans hmtx) hsent.channels hsent.opened
      · rw [if_neg hecs]
        exact hdirect s hmtx rfl hopen

theorem handleChat_sends :
    Sends s (handleChat env channelId payload) (s.chatSends channelId payload) := by
  show Sends s (if s.mainThreadManager.isSome = true then _ else _)
    (if s.mainThreadManager.isSome = true then _ else _)
  by_cases hmain : s.mainThreadManager.isSome = true
  · rw [if_pos hmain, if_pos hmain]
    exact .nil rfl rfl rfl rfl hopen
  · rw [if_neg hmain, if_neg hmain]
    refine (broadcast_sends env hmtx hopen 1003 _).bind fun _ s' _ hsent => ?_
    refine sendTestFrame_sends env (hsent.mtx.trans hmtx) hsent.opened ?_ 1003 _
    rw [hsent.channels]
    exact hid

/-- The answer, and the notice to all others. -/
theorem attackEntity_sends (targetChannel : Int32) (target : Entity) (req : AttackReq) :
    Sends s (attackEntity env channelId targetChannel target req)
      ([(channelId, pack 1004 0 1 0 (attackRes req (s.remainingHp target req)).serialize)]
        ++ s.toOthers channelId (pack 1004 0 1 0
          (damageNotify channelId req (s.remainingHp target req)).serialize)) := by
  obtain ⟨ecs₁, hdamage, -, -, hhealth⟩ := takeDamage_ok s target (attackDamage req)
  obtain ⟨ecs₂, hhp, -⟩ := getHp_ok { s with ecs := ecs₁ } target
  have hremaining : s.remainingHp target req
      = (ecs₁.component .health target : Option Health).elim 0 Health.hp := by
    rw [hhealth]
    rfl
  -- a kill takes the lock once more, after all packets have been sent
  have hdead : ∀ s' : GameServer, s'.mtx = false → RegisteredOpen s' →
      Sends s' (if s.remainingHp target req = 0 then do
          destroyEntity target
          withMtx <| modify fun s =>
            { s with channelToEntity := s.channelToEntity.erase targetChannel }
        else pure ()) [] := by
    intro s' hmtx' hopen'
    have hquiet := unsent_quiet s'
    refine quiet_sends hmtx' hopen' (.ite (fun _ => ?_) fun _ => .pure _)
    exact (hquiet.destroyEntity target).bind fun _ =>
      hquiet.keeps_withMtx (.modify fun _ hs => hs)
  rw [← hremaining] at hhp
  -- the answer and the notice carry the hit points read after the damage
  refine .ecs_bind hdamage (.ecs_bind hhp ?_)
  refine (sendTestFrame_sends (s := { s with ecs := ecs₂ }) env hmtx hopen hid 1004 _).bind
    fun _ s₃ _ hsent => ?_
  rw [← List.append_nil (s.toOthers _ _)]
  have hothers := broadcastExcept_sends env (hsent.mtx.trans hmtx) hsent.opened channelId 1004
    (damageNotify channelId req (s.remainingHp target req)).serialize
  rw [toOthers, hsent.channels] at hothers
  refine hothers.bind fun _ s₄ _ hsent' => ?_
  exact hdead s₄ (hsent'.mtx.trans (hsent.mtx.trans hmtx)) hsent'.opened

theorem handleAttack_sends :
    Sends s (handleAttack env channelId payload) (s.attackSends channelId payload) := by
  unfold handleAttack attackSends
  cases AttackReq.parse payload with
  | error _ _ => exact .nil rfl rfl rfl rfl hopen
  | ok req _ =>
    unfold Sends
    dsimp only
    rw [bind_ok (withMtx_read hmtx _)]
    show Sends s (if _ ∨ _ then _ else _) (if _ ∨ _ then _ else _)
    split
    · exact sendTestFrame_sends env hmtx hopen hid 1004 _
    · exact attackEntity_sends env hmtx hopen hid _ _ req

/-- The answer of MAP_ENTER, on either path. -/
theorem handleMapEnter_sends :
    Sends s (handleMapEnter env channelId payload) (s.mapEnterSends channelId payload) := by
  unfold handleMapEnter mapEnterSends
  cases MapEnterReq.parse payload with
  | error _ _ => exact .nil rfl rfl rfl rfl hopen
  | ok req _ =>
    show Sends s
      (match s.config.maps.find? fun m => m.id = req.mapId.toInt32 with | none => _ | some _ => _)
      (match s.config.maps.find? fun m => m.id = req.mapId.toInt32 with | none => _ | some _ => _)
    cases s.config.maps.find? fun m => m.id = req.mapId.toInt32 with
    | none => exact sendTestFrame_sends env hmtx hopen hid 1005 _
    | some mapCfg =>
      have hswitch : Keeps (Unsent s false) (fun _ => False)
          (switchMap channelId req.mapId.toInt32) :=
        Keeps.get.bind fun _ => Keeps.get.bind fun _ =>
          .ite (fun _ => .modify fun _ hs => hs) fun _ => .pure _
      refine (quiet_sends hmtx hopen hswitch).bind fun _ s' _ hsent => ?_
      refine (quiet_sends (hsent.mtx.trans hmtx) hsent.opened
        ((unsent_quiet s').setPlayerMapId channelId _)).bind fun _ s'' _ hsent' => ?_
      refine sendTestFrame_sends env (hsent'.mtx.trans (hsent.mtx.trans hmtx)) hsent'.opened ?_
        1005 _
      rw [hsent'.channels, hsent.channels]
      exact hid

/-- A change that touches neither the channels nor the lock, and then an answer. -/
theorem answer_sends {α : Type} {x : ServerM α} {a : α} {s' : GameServer} (hx : x s = .ok a s')
    (hmtx' : s'.mtx = s.mtx) (hnet : s'.net = s.net) (hchannels : s'.channels = s.channels)
    (msgId : UInt16) (data : α → List UInt8) :
    Sends s (x >>= fun a => sendTestFrame env channelId msgId (data a))
      [(channelId, pack msgId 0 1 0 (data a))] := by
  refine (Sends.nil hx hmtx' hnet hchannels hopen).bind fun a' s'' hx' hsent => ?_
  rw [hx] at hx'
  cases hx'
  refine sendTestFrame_sends env (hsent.mtx.trans hmtx) hsent.opened ?_ msgId (data a)
  rw [hsent.channels]
  exact hid

theorem handleGuildCreate_sends :
    Sends s (handleGuildCreate env channelId payload) (s.guildCreateSends channelId payload) := by
  unfold handleGuildCreate guildCreateSends
  cases GuildCreateReq.parse payload with
  | error _ _ => exact .nil rfl rfl rfl rfl hopen
  | ok req _ =>
    show Sends s (if channelId ∈ s.channelToGuild then _ else _)
      [(channelId,
        pack 2001 0 1 0 (ite (channelId ∈ s.channelToGuild) _ _ : GuildCreateRes).serialize)]
    by_cases hguild : channelId ∈ s.channelToGuild
    · rw [if_pos hguild, if_pos hguild]
      exact sendTestFrame_sends env hmtx hopen hid 2001 _
    · rw [if_neg hguild, if_neg hguild]
      exact answer_sends (x := createGuild channelId req) env hmtx hopen hid rfl rfl rfl rfl 2001 _

theorem handleGuildJoin_sends :
    Sends s (handleGuildJoin env channelId payload) (s.guildJoinSends channelId payload) := by
  unfold handleGuildJoin guildJoinSends
  cases GuildJoinReq.parse payload with
  | error _ _ => exact .nil rfl rfl rfl rfl hopen
  | ok req _ =>
    dsimp only
    unfold Sends
    rw [get_bind_apply]
    cases s.guilds.lookup req.guildId with
    | none => exact sendTestFrame_sends env hmtx hopen hid 2002 _
    | some guild =>
      show Sends s (if channelId ∈ s.channelToGuild then _ else _) _
      by_cases hguild : channelId ∈ s.channelToGuild
      · rw [if_pos hguild]
        dsimp only
        rw [if_pos hguild]
        exact sendTestFrame_sends env hmtx hopen hid 2002 _
      · rw [if_neg hguild]
        dsimp only
        rw [if_neg hguild]
        exact answer_sends (x := modify _) env hmtx hopen hid rfl rfl rfl rfl 2002 _

theorem handleGuildLeave_sends :
    Sends s (handleGuildLeave env channelId) (s.guildLeaveSends channelId) := by
  unfold handleGuildLeave guildLeaveSends
  unfold Sends
  rw [get_bind_apply]
  cases hguild : s.channelToGuild.lookup channelId with
  | none =>
    rw [if_neg (by rw [← AList.lookup_isSome, hguild]; decide)]
    exact Sends.nil (x := pure ()) rfl rfl rfl rfl hopen
  | some guildId =>
    obtain ⟨hmtx', hnet, hchannels⟩ := leaveGuild_same s channelId guildId
    have hleave : (modify fun s => s.leaveGuild channelId guildId : ServerM PUnit) s
        = .ok ⟨⟩ (s.leaveGuild channelId guildId) := rfl
    rw [if_pos (by rw [← AList.lookup_isSome, hguild]; rfl)]
    exact answer_sends env hmtx hopen hid hleave hmtx' hnet hchannels 2003 fun _ =>
      ({ success := true, message := ascii "ok" } : GuildLeaveRes).serialize

end Messages

/-! ## Replies outside the lock -/

section Replies

variable (env : Env)

/-- The lock is free. -/
def Free (s : GameServer) : Prop := s.mtx = false

theorem free_quiet : QuietKept Free (fun s => s.mtx = true) fun _ => False where
  lock _ _ _ := rfl
  unlock _ _ := rfl
  locked s hm hs := by
    rw [hs] at hm
    cases hm
  ecs _ _ hs := hs
  ecsLocked _ _ hs := hs

/-- With the lock free a channel may close in the call. -/
theorem free_callChannel (channelId : Int32) {call : AsioChannel → AsioChannel × List Callback}
    (hcall : ∀ ch, AsioChannel.Ends ch (call ch)) :
    Keeps Free (fun _ => False) (callChannel channelId call) := by
  intro s hs
  obtain ⟨net, heq | ⟨ecs, heq, -⟩⟩ := callChannel_free hs channelId hcall
  · rw [heq]
    exact hs
  · -- `on_close` takes the free lock and gives it back
    rw [heq]
    exact rfl

theorem free_reply (channelId : Int32) (msgId : UInt16) (data : List UInt8) :
    Keeps Free (fun _ => False) (reply env channelId msgId data) := by
  refine (free_quiet.findChannel channelId).bind fun _ => .ite (fun _ => ?_) fun _ => .pure _
  unfold sendFrame
  exact free_callChannel channelId (sendPacket_ends env _)

theorem free_handleLogin (channelId : Int32) (payload : List UInt8) :
    Keeps Free (fun _ => False) (handleLogin env channelId payload) := by
  unfold handleLogin
  cases LoginReq.parse payload with
  | error _ _ => exact .pure _
  | ok req _ =>
    refine Keeps.get.bind fun s => .ite (fun _ => free_reply env channelId 1001 _) fun _ =>
      Keeps.get.bind fun s => .ite (fun _ => ?_) fun _ => ?_
    · -- with a database: the task is posted
      exact (free_quiet.keeps_withMtx (Keeps.get.bind fun _ => .pure _)).bind fun _ =>
        .ite (fun _ => .modify fun _ hs => hs) fun _ => .pure _
    · -- without: the entity is made on the spot
      refine Keeps.bind ?_ fun _ => free_reply env channelId 1001 _
      refine Keeps.get.bind fun s => .ite (fun _ => ?_) fun _ => .pure _
      refine (free_quiet.spawnPlayer _ _ _ _ _ _).bind fun player => ?_
      refine (free_quiet.keeps_withMtx (.modify ?_)).bind fun _ => .pure _
      exact fun _ hs => hs

theorem free_loginCompleted (c : Completion) :
    Keeps Free (fun _ => False) (loginCompleted env c) := by
  refine (free_quiet.findChannel c.channelId).bind fun _ => .ite (fun _ => ?_) fun _ => .pure _
  cases c.record with
  | none => exact free_reply env c.channelId 1001 _
  | some record =>
    refine Keeps.bind ?_ fun _ => free_reply env c.channelId 1001 _
    refine Keeps.get.bind fun s => .ite (fun _ => ?_) fun _ => .pure _
    refine (free_quiet.spawnPlayer _ _ _ _ _ _).bind fun player => ?_
    refine (free_quiet.keeps_withMtx (Keeps.bind (.modify ?_) fun _ => ?_)).bind fun _ => .pure _
    · exact fun _ hs => hs
    · exact .ite (fun _ => .modify fun _ hs => hs) fun _ => .pure _

theorem free_runCompletion (i : Nat) : Keeps Free (fun _ => False) (runCompletion env i) := by
  refine Keeps.get.bind fun s => ?_
  cases s.completions[i]? with
  | none => exact .pure _
  | some c => exact Keeps.bind (.modify fun _ hs => hs) fun _ => free_loginCompleted env c

theorem free_flushEntries (ids : List (Int32 × Int64)) :
    Keeps (fun s => s.mtx = true) (fun _ => False) (flushEntries ids) := by
  induction ids with
  | nil => exact .pure _
  | cons id rest ih =>
    have hget : ∀ t entity, Keeps (fun s : GameServer => s.mtx = true) (fun _ => False)
        (getComponent t entity) := keeps_getComponent fun _ _ hs => hs
    unfold flushEntries
    refine Keeps.get.bind fun s => ?_
    split
    · exact ((hget .position _).bind fun _ => (hget .player _).bind fun _ => .pure _).bind
        fun _ => ih.bind fun _ => .pure _
    · exact ih

theorem free_flushPlayers : Keeps Free (fun _ => False) flushPlayers := by
  refine Keeps.get.bind fun s => .ite (fun _ => ?_) fun _ => .pure _
  refine (free_quiet.keeps_withMtx (Keeps.get.bind fun s => free_flushEntries _)).bind
    fun entries => ?_
  exact .forM fun e _ => .modify fun s hs => hs

/-- Such a program does not stop, and has nothing to overflow. -/
theorem free_stops {s : GameServer} {x : ServerM Unit} (hmtx : s.mtx = false)
    (hx : Keeps Free (fun _ => False) x) : Stops s x [] := by
  refine .inr ⟨not_overflow_nil s, ?_⟩
  have hs := hx s hmtx
  cases heq : x s with
  | ok a s' =>
    rw [heq] at hs
    exact ⟨a, s', rfl, hs⟩
  | error e s' =>
    rw [heq] at hs
    exact hs.elim

end Replies

/-! ## Self-deadlocks -/

/-- **One message** stops the io thread exactly if its packets overflow. -/
theorem handle_stops (env : Env) (hmtx : s.mtx = false) (hopen : RegisteredOpen s)
    {channelId : Int32} (hid : channelId ∈ s.channels) (payload : List UInt8) (msg : MessageId) :
    Stops s (handle env channelId payload msg) (s.lockedSends channelId payload msg) := by
  cases msg with
  | ping => exact free_stops hmtx (free_reply env channelId 2 _)
  | echo => exact free_stops hmtx (free_reply env channelId 100 _)
  | login => exact free_stops hmtx (free_handleLogin env channelId payload)
  | move => exact (handleMove_sends env payload hmtx hopen hid).stops hmtx
  | chat => exact (handleChat_sends env payload hmtx hopen hid).stops hmtx
  | attack => exact (handleAttack_sends env payload hmtx hopen hid).stops hmtx
  | mapEnter => exact (handleMapEnter_sends env payload hmtx hopen hid).stops hmtx
  | guildCreate => exact (handleGuildCreate_sends env payload hmtx hopen hid).stops hmtx
  | guildJoin => exact (handleGuildJoin_sends env payload hmtx hopen hid).stops hmtx
  | guildLeave => exact (handleGuildLeave_sends env hmtx hopen hid).stops hmtx

/-- The packets that the handler of a frame sends under the lock do not fit. -/
def Overflows (s : GameServer) : ServerEvent → Prop
  | .frame channelId cmd payload =>
    ∃ msg, messageId cmd = some msg ∧ Overflow s (s.lockedSends channelId payload msg)
  | _ => False

instance (s : GameServer) : DecidablePred s.Overflows
  | .frame channelId cmd payload =>
    match h : messageId cmd with
    | none => .isFalse (by simp [Overflows, h])
    | some msg =>
      decidable_of_iff (Overflow s (s.lockedSends channelId payload msg)) (by simp [Overflows, h])
  | .accept .. | .written .. | .writeError _ | .readError _ | .idleTimer .. | .pingTimer _
  | .flushTimer | .completion _ | .strand .. | .gameThreads _ => .isFalse id

/-- **When a message stops the server.** From every reachable state with the io thread
free, the handler of a frame locks `mtx_` while it holds it if and only if the packets
that it sends under the lock do not fit into the queue of some registered channel. -/
theorem dispatch_deadlocks_iff (env : Env) {s : GameServer}
    (hs : Reachable ServerInit (ServerStep env) s) {cmd : UInt16} {channelId : Int32}
    {payload : List UInt8} (henabled : Enabled s (.frame channelId cmd payload)) :
    (∃ s', dispatch env cmd channelId payload s = .error .selfDeadlock s') ↔
      ∃ msg, messageId cmd = some msg ∧ Overflow s (s.lockedSends channelId payload msg) := by
  obtain ⟨hmtx, hid⟩ := henabled
  have hopen : RegisteredOpen s := reachable_registeredOpen env hs hmtx
  unfold dispatch
  cases messageId cmd with
  | none =>
    constructor
    · rintro ⟨s', heq⟩
      cases heq
    · rintro ⟨msg, hmsg, -⟩
      cases hmsg
  | some msg =>
    refine (handle_stops env hmtx hopen hid payload msg).faults_iff.trans ?_
    constructor
    · intro hover
      exact ⟨msg, rfl, hover⟩
    · rintro ⟨msg', hmsg', hover⟩
      cases hmsg'
      exact hover

/-- One connection to a server without game threads. -/
def oneChannel : GameServer := execute plainEnv (plainServer false {}) [.accept 1 0]

theorem oneChannel_reachable : Reachable ServerInit (ServerStep plainEnv) oneChannel :=
  plainServer_reachable (by decide)

theorem dispatch_deadlocks_chat :
    Enabled oneChannel (.frame 1 1003 (ascii "hi")) ∧
    ¬ ∃ s', dispatch plainEnv 1003 1 (ascii "hi") oneChannel = .error .selfDeadlock s' := by
  refine ⟨by decide, ?_⟩
  rw [dispatch_deadlocks_iff plainEnv oneChannel_reachable (by decide)]
  rintro ⟨msg, hmsg, hover⟩
  cases hmsg
  exact absurd hover (by decide)

/-- The notice of a long chat message does not fit into an empty queue. -/
theorem chat_overflows {payload : List UInt8} (hlong : 262144 ≤ payload.length)
    (hshort : payload.length < 2 ^ 20) :
    Overflow oneChannel (oneChannel.chatSends 1 payload) := by
  let pkt := pack 1003 0 1 0 (writeLe32 (1 : Int32).toUInt32 ++ payload)
  have hlen : pkt.length = 20 + payload.length := by
    have hheader : kHeaderTotal = 16 := rfl
    rw [length_pack, List.length_append, length_writeLe32]
    omega
  have hsends : oneChannel.chatSends 1 payload
      = [(1, pkt)] ++ [(1, pack 1003 0 1 0 (ascii "CHAT_SUCCESS"))] := rfl
  have hbytes : sentBytes pkt = 20 + payload.length := by
    rw [sentBytes_of_lt (by omega), hlen]
  have hmax : maxQueueBytes = 262144 := rfl
  refine ⟨1, by decide, ?_, ?_⟩ <;>
    · rw [hsends, bytesTo_append, bytesTo_self]
      omega

/-- A chat message of 262144 bytes, well below the limit of a frame, deadlocks the
server on the first recipient. -/
theorem chat_262144_deadlocks :
    Reachable ServerInit (ServerStep plainEnv) oneChannel ∧
    Enabled oneChannel (.frame 1 1003 (List.replicate 262144 0)) ∧
    ∃ s', dispatch plainEnv 1003 1 (List.replicate 262144 0) oneChannel
      = .error .selfDeadlock s' := by
  have hmtx : oneChannel.mtx = false := rfl
  have hid : (1 : Int32) ∈ oneChannel.channels := by decide
  have hopen := reachable_registeredOpen plainEnv oneChannel_reachable hmtx
  refine ⟨oneChannel_reachable, ⟨hmtx, hid⟩, ?_⟩
  refine ((handleChat_sends plainEnv _ hmtx hopen hid).stops hmtx).faults_iff.mpr
    (chat_overflows ?_ ?_)
  · rw [List.length_replicate]
  · rw [List.length_replicate]
    decide

end EcsAsioServer.GameServer
