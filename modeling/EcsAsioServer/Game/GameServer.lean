import EcsAsioServer.Db.Players
import EcsAsioServer.Game.Ecs
import EcsAsioServer.Lib.StateProgram
import EcsAsioServer.Lib.Strands
import EcsAsioServer.Network.Callbacks
import EcsAsioServer.Protocol.Messages

/-!
# The server state and its channel callbacks (`server/game/game_server.{hpp,cpp}`)

`GameServer` is the state that the io thread works on: the maps of the class, the
channels that call it, and the services behind it. A function of the class is a
program over this state (`ServerM`), with the two callbacks `on_accept` and `on_close`
that the channel layer makes.

`mtx_` is a plain `std::mutex`. The io thread is the only one that locks it, so
finding it locked means that the same call tree holds it: the thread then waits for
itself, and the program stops with `selfDeadlock`. A send can get there, because a
channel whose queue overflows closes itself and calls `on_close` before `send`
returns.
-/

namespace EcsAsioServer

open Db Ecs FrameCodec Protocol StateProgram

/-- A map keyed by channel id. -/
abbrev ChannelMap (V : Type) := AList fun _ : Int32 => V

section Lookup

variable {α β : Type} [DecidableEq α] {m : AList fun _ : α => β} {a k : α} {b v : β}

theorem mem_of_lookup (h : m.lookup k = some v) : k ∈ m :=
  AList.lookup_isSome.mp (Option.isSome_of_eq_some h)

theorem exists_lookup (h : k ∈ m) : ∃ v, m.lookup k = some v :=
  Option.isSome_iff_exists.mp (AList.lookup_isSome.mpr h)

theorem lookup_insert_eq (m : AList fun _ : α => β) (a k : α) (b : β) :
    (m.insert a b).lookup k = if k = a then some b else m.lookup k := by
  split
  · next h =>
    rw [h]
    exact AList.lookup_insert m
  · next h => exact AList.lookup_insert_ne h

theorem lookup_insert_eq_some :
    (m.insert a b).lookup k = some v ↔ k = a ∧ b = v ∨ k ≠ a ∧ m.lookup k = some v := by
  rw [lookup_insert_eq]
  split <;> simp [*]

theorem lookup_erase_eq_some :
    (m.erase a).lookup k = some v ↔ k ≠ a ∧ m.lookup k = some v := by
  by_cases hk : k = a
  · subst hk
    simp
  · rw [AList.lookup_erase_ne hk]
    simp [hk]

end Lookup

/-! ## State -/

/-- The part of a map's configuration that the handlers read. -/
structure MapConfig where
  id : Int32
  name : List UInt8
deriving DecidableEq, Repr

/-- What the server reads of its configuration. -/
structure ServerConfig where
  useEcs : Bool
  maps : List MapConfig
deriving DecidableEq, Repr

/-- `GuildData`. -/
structure GuildData where
  id : UInt32
  name : List UInt8
  description : List UInt8
  masterChannelId : Int32
  members : List Int32
deriving DecidableEq, Repr

/-- A packet in the queue of a map thread. -/
structure Packet where
  channelId : Int32
  cmd : UInt16
  data : List UInt8
deriving DecidableEq, Repr

/-- `MainThreadManager` as the io thread uses it: the queued global chat tasks and
the packet queues of the map threads. -/
structure MainThreadManager where
  globalTasks : List (Int32 × List UInt8) := []
  packets : AList fun _ : Int32 => List Packet := ∅

/-- What differs between builds and installations. -/
structure Env where
  order : ArgOrder
  mySql : MySql

/-- The state of the server. -/
structure GameServer where
  config : ServerConfig
  /-- `mtx_` is locked. -/
  mtx : Bool := false
  /-- `channels_`: a registered channel is identified by its id. -/
  channels : ChannelMap Unit := ∅
  /-- Every channel object, also those that have closed. -/
  net : ChannelMap AsioChannel := ∅
  channelToEntity : ChannelMap Entity := ∅
  channelToDbId : ChannelMap Int64 := ∅
  /-- `db_strands_`: the strand of a channel is identified by the channel's id. -/
  dbStrands : ChannelMap Unit := ∅
  playerMapMapping : ChannelMap Int32 := ∅
  guilds : AList fun _ : UInt32 => GuildData := ∅
  channelToGuild : ChannelMap UInt32 := ∅
  nextGuildId : UInt32 := 1
  mainThreadManager : Option MainThreadManager := none
  ecs : GameService ComponentType.Val := {}
  /-- `db_pool_` exists. -/
  hasDbPool : Bool := false
  /-- `player_dao_` exists. -/
  hasPlayerDao : Bool := false
  storage : Storage := {}
  dbPool : Strands.Pool Int32 DbTask := .empty
  /-- Login completions posted to the io thread. -/
  completions : List Completion := []

/-- Why the io thread does not come back from a handler. -/
inductive Fault where
  | selfDeadlock
deriving DecidableEq, Repr

/-- A program of the io thread. -/
abbrev ServerM := EStateM Fault GameServer

namespace GameServer

/-! ## `mtx_` -/

/-- A scope with a `std::lock_guard` on `mtx_`. -/
def withMtx {α : Type} (body : ServerM α) : ServerM α := do
  -- the mutex is not recursive
  if (← get).mtx then throw .selfDeadlock
  modify fun s => { s with mtx := true }
  let a ← body
  modify fun s => { s with mtx := false }
  return a

/-! ## The services -/

/-- `game_service().get_component<T>(entity)`. -/
def getComponent (t : ComponentType) (entity : Entity) : ServerM (Option t.Val) := do
  let (component, ecs) := (← get).ecs.getComponent t entity
  modify fun s => { s with ecs }
  return component

/-- `game_service().add_component(entity, component)`; also an assignment through
the pointer that `get_component` has returned. -/
def addComponent (t : ComponentType) (entity : Entity) (component : t.Val) : ServerM Unit :=
  modify fun s => { s with ecs := s.ecs.addComponent t entity component }

/-- `game_service().create_entity()`. -/
def createEntity : ServerM Entity := do
  let (entity, ecs) := (← get).ecs.createEntity
  modify fun s => { s with ecs }
  return entity

/-- `game_service().destroy_entity(entity)`. -/
def destroyEntity (entity : Entity) : ServerM Unit :=
  modify fun s => { s with ecs := s.ecs.destroyEntity entity }

/-- `asio::post` to the strand of a channel. -/
def post (strand : Int32) (task : DbTask) : ServerM Unit :=
  modify fun s => { s with dbPool := s.dbPool.post strand task }

/-- `redis_client_->del_player_cache(db_id)`, if there is a client. -/
def delPlayerCache (dbId : Int64) : ServerM Unit :=
  modify fun s =>
    { s with storage := { s.storage with redis := s.storage.redis.map (·.delPlayerCache dbId) } }

/-! ## `player_map_mapping_` -/

/-- `get_player_map`: map 1 for a channel that has none. -/
def getPlayerMap (s : GameServer) (channelId : Int32) : Int32 :=
  (s.playerMapMapping.lookup channelId).getD 1

/-- `update_player_map`. -/
def updatePlayerMap (channelId mapId : Int32) : ServerM Unit :=
  modify fun s => { s with playerMapMapping := s.playerMapMapping.insert channelId mapId }

/-! ## Channel callbacks -/

/-- `on_accept`. -/
def onAccept (channelId : Int32) : ServerM Unit := withMtx do
  modify fun s => { s with channels := s.channels.insert channelId () }
  if (← get).hasDbPool then
    -- `emplace` keeps an existing strand
    modify fun s => { s with dbStrands := s.dbStrands.insert channelId () }
  if (← get).mainThreadManager.isSome then
    updatePlayerMap channelId 1

/-- What the locked part of `on_close` takes out of the maps. -/
structure Closed where
  entity : Entity
  dbId : Int64
  strand : Bool

/-- The locked part of `on_close`. -/
def unregister (channelId : Int32) : ServerM Closed := withMtx do
  let s ← get
  let entity := (s.channelToEntity.lookup channelId).getD 0
  let dbId := (s.channelToDbId.lookup channelId).getD 0
  let strand := decide (channelId ∈ s.dbStrands)
  set { s with
    channels := s.channels.erase channelId
    channelToEntity := s.channelToEntity.erase channelId
    channelToDbId := s.channelToDbId.erase channelId
    dbStrands := s.dbStrands.erase channelId }
  return { entity, dbId, strand }

/-- The save task of `on_close`: position, map, hit points and name come from the
components, `level` and `exp` are the initial values of local variables. -/
def closeTask (entity : Entity) (dbId : Int64) : ServerM DbTask := do
  let pos ← getComponent .position entity
  let player ← getComponent .player entity
  let health ← getComponent .health entity
  let (x, y, z) : F32 × F32 × F32 := match pos with
    | some (pos : Position) => (pos.x, pos.y, pos.z)
    | none => (.zero, .zero, .zero)
  let (mapId, playerName) : Int32 × List UInt8 := match player with
    | some (player : Player) => (player.mapId.toInt32, player.playerName)
    | none => (1, [])
  let hp : Int32 := match health with
    | some (health : Health) => health.hp.toInt32
    | none => 100
  let level := 1
  let exp := 0
  return .close dbId x y z mapId level exp hp playerName

/-- The save that `on_close` posts for a logged-in player. -/
def saveClosed (channelId : Int32) (closed : Closed) : ServerM Unit := do
  if closed.strand ∧ (← get).hasPlayerDao ∧ 0 < closed.dbId ∧ closed.entity ≠ 0 then
    let task ← closeTask closed.entity closed.dbId
    post channelId task

/-- The rest of `on_close`: the cache, the map and the entity. -/
def forgetPlayer (channelId : Int32) (closed : Closed) : ServerM Unit := do
  if 0 < closed.dbId then
    delPlayerCache closed.dbId
  if (← get).mainThreadManager.isSome then
    modify fun s => { s with playerMapMapping := s.playerMapMapping.erase channelId }
  if closed.entity ≠ 0 ∧ (← get).config.useEcs then
    destroyEntity closed.entity

/-- `on_close`. -/
def onClose (channelId : Int32) : ServerM Unit := do
  let closed ← unregister channelId
  saveClosed channelId closed
  forgetPlayer channelId closed

/-- A call of the channel layer. Frames go to the dispatcher, and `close_callback_`
only releases the channel object. -/
def onCallback (channelId : Int32) : Callback → ServerM Unit
  | .onAccept => onAccept channelId
  | .onClose _ => onClose channelId
  | .onFrame .. => pure ()
  | .closeCallback _ => pure ()

/-- A call of a channel's member function, with the callbacks it leads to. -/
def callChannel (channelId : Int32) (call : AsioChannel → AsioChannel × List Callback) :
    ServerM Unit := do
  match (← get).net.lookup channelId with
  | none => pure ()
  | some ch =>
    let (ch, callbacks) := call ch
    -- `closed_` is set before the callbacks run
    modify fun s => { s with net := s.net.insert channelId ch }
    callbacks.forM (onCallback channelId)

/-! ## Sending -/

/-- `ch->send(pkt.data(), static_cast<int>(pkt.size()))`. -/
def sendPacket (env : Env) (channelId : Int32) (pkt : List UInt8) : ServerM Unit :=
  callChannel channelId fun ch => ch.send env.order pkt (Int32.ofNat pkt.length)

/-- `send_frame`. -/
def sendFrame (env : Env) (channelId : Int32) (msgId : UInt16) (data : List UInt8) :
    ServerM Unit :=
  sendPacket env channelId (pack msgId 0 1 0 data)

/-- `send_test_frame`. -/
def sendTestFrame (env : Env) (channelId : Int32) (msgId : UInt16) (data : List UInt8) :
    ServerM Unit := withMtx do
  if channelId ∈ (← get).channels then
    sendFrame env channelId msgId data

/-- `broadcast`. -/
def broadcast (env : Env) (cmd : UInt16) (data : List UInt8) : ServerM Unit :=
  let pkt := pack cmd 0 1 0 data
  withMtx do
    (← get).channels.keys.forM fun id => sendPacket env id pkt

/-- `broadcast_except`. -/
def broadcastExcept (env : Env) (excludeChannelId : Int32) (cmd : UInt16)
    (data : List UInt8) : ServerM Unit :=
  let pkt := pack cmd 0 1 0 data
  withMtx do
    (← get).channels.keys.forM fun id =>
      if id ≠ excludeChannelId then sendPacket env id pkt else pure ()

/-- The lookup of a channel in a scope of its own; the send that follows is outside
the lock. -/
def findChannel (channelId : Int32) : ServerM Bool := withMtx do
  return decide (channelId ∈ (← get).channels)

/-- A reply outside the lock. -/
def reply (env : Env) (channelId : Int32) (msgId : UInt16) (data : List UInt8) :
    ServerM Unit := do
  if ← findChannel channelId then sendFrame env channelId msgId data

/-! ## Periodic saves -/

/-- The save of one player by `flush_players`. -/
def flushTask (entity : Entity) (dbId : Int64) : ServerM DbTask := do
  let pos ← getComponent .position entity
  let player ← getComponent .player entity
  let (x, y, z) : F32 × F32 × F32 := match pos with
    | some (pos : Position) => (pos.x, pos.y, pos.z)
    | none => (.zero, .zero, .zero)
  let mapId : Int32 := match player with
    | some (player : Player) => player.mapId.toInt32
    | none => 1
  return .flush dbId x y z mapId

/-- The entries that `flush_players` collects under the lock. -/
def flushEntries : List (Int32 × Int64) → ServerM (List (Int32 × DbTask))
  | [] => return []
  | (channelId, dbId) :: rest => do
    let s ← get
    match s.channelToEntity.lookup channelId, s.dbStrands.lookup channelId with
    | some entity, some _ =>
      let task ← flushTask entity dbId
      return (channelId, task) :: (← flushEntries rest)
    | _, _ => flushEntries rest

/-- `flush_players`. -/
def flushPlayers : ServerM Unit := do
  if (← get).hasPlayerDao then
    let entries ← withMtx do
      flushEntries ((← get).channelToDbId.entries.map fun e => (e.1, e.2))
    entries.forM fun e => post e.1 e.2

/-! ## What the functions do -/

section Spec

variable {α : Type} {s s' : GameServer}

theorem withMtx_locked (h : s.mtx = true) (body : ServerM α) :
    withMtx body s = .error .selfDeadlock s := by
  rw [withMtx, get_bind_apply, if_pos h]
  rfl

theorem withMtx_free (h : s.mtx = false) (body : ServerM α) :
    withMtx body s = (body >>= fun a => do
      modify fun s => { s with mtx := false }
      return a) { s with mtx := true } := by
  rw [withMtx, get_bind_apply, if_neg (by simp [h])]
  rfl

theorem withMtx_ok {body : ServerM α} {a : α} (h : s.mtx = false)
    (hb : body { s with mtx := true } = .ok a s') :
    withMtx body s = .ok a { s' with mtx := false } := by
  rw [withMtx_free h, bind_ok hb]
  rfl

theorem withMtx_error {body : ServerM α} {e : Fault} (h : s.mtx = false)
    (hb : body { s with mtx := true } = .error e s') :
    withMtx body s = .error e s' := by
  rw [withMtx_free h, bind_error hb]

/-- A scope that only reads. -/
theorem withMtx_read (h : s.mtx = false) (g : GameServer → α) :
    withMtx (do return g (← get)) s = .ok (g { s with mtx := true }) s := by
  rw [withMtx_free h]
  show EStateM.Result.ok (g { s with mtx := true }) { s with mtx := false } = _
  rw [← h]

theorem findChannel_free (h : s.mtx = false) (channelId : Int32) :
    findChannel channelId s = .ok (decide (channelId ∈ s.channels)) s := withMtx_read h _

theorem getComponent_apply (t : ComponentType) (entity : Entity) (s : GameServer) :
    getComponent t entity s
      = .ok (s.ecs.component t entity) { s with ecs := (s.ecs.getComponent t entity).2 } := by
  rw [← GameService.getComponent_fst]
  rfl

/-- What `on_close` saves of an entity. -/
def closeTaskOf (ecs : GameService ComponentType.Val) (entity : Entity) (dbId : Int64) :
    DbTask :=
  let pos : Option Position := ecs.component .position entity
  let player : Option Player := ecs.component .player entity
  let health : Option Health := ecs.component .health entity
  .close dbId (pos.elim .zero Position.x) (pos.elim .zero Position.y) (pos.elim .zero Position.z)
    (player.elim 1 fun p => p.mapId.toInt32) 1 0 (health.elim 100 fun h => h.hp.toInt32)
    (player.elim [] Player.playerName)

theorem closeTask_ok (entity : Entity) (dbId : Int64) (s : GameServer) :
    ∃ ecs, closeTask entity dbId s = .ok (closeTaskOf s.ecs entity dbId) { s with ecs } ∧
      s.ecs.Same ecs := by
  let ecs₁ := (s.ecs.getComponent .position entity).2
  let ecs₂ := (ecs₁.getComponent .player entity).2
  have hsame₁ : s.ecs.Same ecs₁ := s.ecs.same_getComponent ..
  have hsame₂ : s.ecs.Same ecs₂ := hsame₁.trans (ecs₁.same_getComponent ..)
  refine ⟨(ecs₂.getComponent .health entity).2, ?_, hsame₂.trans (ecs₂.same_getComponent ..)⟩
  have hplayer : ecs₁.component .player entity = s.ecs.component .player entity :=
    hsame₁.component ..
  have hhealth : ecs₂.component .health entity = s.ecs.component .health entity :=
    hsame₂.component ..
  rw [closeTask, bind_ok (getComponent_apply ..), bind_ok (getComponent_apply ..),
    bind_ok (getComponent_apply ..), closeTaskOf, ← hplayer, ← hhealth]
  cases s.ecs.component .position entity <;> cases ecs₁.component .player entity <;>
    cases ecs₂.component .health entity <;> rfl

theorem saveClosed_ok (channelId : Int32) (closed : Closed) (s : GameServer) :
    ∃ ecs, saveClosed channelId closed s = .ok () { s with
      ecs
      dbPool :=
        if closed.strand ∧ s.hasPlayerDao ∧ 0 < closed.dbId ∧ closed.entity ≠ 0 then
          s.dbPool.post channelId (closeTaskOf s.ecs closed.entity closed.dbId)
        else s.dbPool } ∧ s.ecs.Same ecs := by
  rw [saveClosed, get_bind_apply]
  by_cases hsave : closed.strand ∧ s.hasPlayerDao ∧ 0 < closed.dbId ∧ closed.entity ≠ 0
  · obtain ⟨ecs, hecs, hsame⟩ := closeTask_ok closed.entity closed.dbId s
    refine ⟨ecs, ?_, hsame⟩
    rw [if_pos hsave, if_pos hsave, bind_ok hecs]
    rfl
  · refine ⟨s.ecs, ?_, .refl _⟩
    rw [if_neg hsave, if_neg hsave]
    rfl

theorem forgetPlayer_ok (channelId : Int32) (closed : Closed) (s : GameServer) :
    forgetPlayer channelId closed s = .ok () { s with
      ecs :=
        if closed.entity ≠ 0 ∧ s.config.useEcs then s.ecs.destroyEntity closed.entity else s.ecs
      storage :=
        if 0 < closed.dbId then
          { s.storage with redis := s.storage.redis.map (·.delPlayerCache closed.dbId) }
        else s.storage
      playerMapMapping :=
        if s.mainThreadManager.isSome then s.playerMapMapping.erase channelId
        else s.playerMapMapping } := by
  -- three independent conditions, each of which changes a field of its own
  unfold forgetPlayer delPlayerCache destroyEntity
  by_cases hdb : 0 < closed.dbId <;> by_cases hmap : s.mainThreadManager.isSome = true <;>
    by_cases hent : closed.entity ≠ 0 ∧ s.config.useEcs = true <;> simp [hdb, hmap, hent]

/-- The state after `on_close`, up to the entity component system. -/
def closeWith (s : GameServer) (channelId : Int32) (ecs : GameService ComponentType.Val) :
    GameServer :=
  let entity := (s.channelToEntity.lookup channelId).getD 0
  let dbId := (s.channelToDbId.lookup channelId).getD 0
  { s with
    mtx := false
    channels := s.channels.erase channelId
    channelToEntity := s.channelToEntity.erase channelId
    channelToDbId := s.channelToDbId.erase channelId
    dbStrands := s.dbStrands.erase channelId
    dbPool :=
      if channelId ∈ s.dbStrands ∧ s.hasPlayerDao ∧ 0 < dbId ∧ entity ≠ 0 then
        s.dbPool.post channelId (closeTaskOf s.ecs entity dbId)
      else s.dbPool
    storage :=
      if 0 < dbId then
        { s.storage with redis := s.storage.redis.map (·.delPlayerCache dbId) }
      else s.storage
    playerMapMapping :=
      if s.mainThreadManager.isSome then s.playerMapMapping.erase channelId
      else s.playerMapMapping
    ecs }

theorem closeWith_dbPool (s : GameServer) (channelId : Int32)
    (ecs : GameService ComponentType.Val) :
    (s.closeWith channelId ecs).dbPool = s.dbPool ∨
      channelId ∈ s.dbStrands ∧
        ∃ task, (s.closeWith channelId ecs).dbPool = s.dbPool.post channelId task := by
  unfold closeWith
  dsimp only
  by_cases hsave : channelId ∈ s.dbStrands ∧ s.hasPlayerDao = true ∧
      0 < (s.channelToDbId.lookup channelId).getD 0 ∧
      (s.channelToEntity.lookup channelId).getD 0 ≠ 0
  · rw [if_pos hsave]
    exact .inr ⟨hsave.1, _, rfl⟩
  · rw [if_neg hsave]
    exact .inl rfl

theorem onClose_locked (h : s.mtx = true) (channelId : Int32) :
    onClose channelId s = .error .selfDeadlock s := by
  rw [onClose, unregister, bind_error (withMtx_locked h _)]

/-- What `on_close` leaves of the entity component system: reading the components for the
save may have created stores. -/
def ClosedEcs (s : GameServer) (channelId : Int32) (ecs : GameService ComponentType.Val) : Prop :=
  let entity := (s.channelToEntity.lookup channelId).getD 0
  (if entity ≠ 0 ∧ s.config.useEcs then s.ecs.destroyEntity entity else s.ecs).Same ecs

/-- `on_close` with the lock free. -/
theorem onClose_ecs (h : s.mtx = false) (channelId : Int32) :
    ∃ ecs, onClose channelId s = .ok () (s.closeWith channelId ecs) ∧
      s.ClosedEcs channelId ecs := by
  let closed : Closed :=
    { entity := (s.channelToEntity.lookup channelId).getD 0
      dbId := (s.channelToDbId.lookup channelId).getD 0
      strand := decide (channelId ∈ s.dbStrands) }
  let s₁ : GameServer :=
    { s with
      mtx := false
      channels := s.channels.erase channelId
      channelToEntity := s.channelToEntity.erase channelId
      channelToDbId := s.channelToDbId.erase channelId
      dbStrands := s.dbStrands.erase channelId }
  have hunreg : unregister channelId s = .ok closed s₁ := by
    rw [unregister, withMtx_free h]
    rfl
  obtain ⟨ecs₂, hsave, hsame⟩ := saveClosed_ok channelId closed s₁
  have hforget := forgetPlayer_ok channelId closed
  refine ⟨if closed.entity ≠ 0 ∧ s.config.useEcs then ecs₂.destroyEntity closed.entity else ecs₂,
    ?_, ?_⟩
  · rw [onClose, bind_ok hunreg, bind_ok hsave, hforget, closeWith]
    simp [s₁, closed]
  · unfold ClosedEcs
    dsimp only
    by_cases hent : (s.channelToEntity.lookup channelId).getD 0 ≠ 0 ∧ s.config.useEcs = true
    · rw [if_pos hent, if_pos hent]
      exact hsame.destroyEntity _
    · rw [if_neg hent, if_neg hent]
      exact hsame

theorem onClose_ok (h : s.mtx = false) (channelId : Int32) :
    ∃ ecs, onClose channelId s = .ok () (s.closeWith channelId ecs) := by
  obtain ⟨ecs, hok, -⟩ := onClose_ecs h channelId
  exact ⟨ecs, hok⟩

variable {ch : AsioChannel} {channelId : Int32} {call : AsioChannel → AsioChannel × List Callback}
  {pkt : List UInt8}

theorem callChannel_absent (h : s.net.lookup channelId = none)
    (call : AsioChannel → AsioChannel × List Callback) :
    callChannel channelId call s = .ok () s := by
  rw [callChannel, get_bind_apply, h]
  rfl

/-- A call that reports nothing. -/
theorem callChannel_silent (h : s.net.lookup channelId = some ch) (hcall : (call ch).2 = []) :
    callChannel channelId call s
      = .ok () { s with net := s.net.insert channelId (call ch).1 } := by
  rw [callChannel, get_bind_apply, h]
  show (modify _ >>= fun _ => (call ch).2.forM (onCallback channelId)) s = _
  rw [hcall]
  rfl

/-- A call in which the channel closes. -/
theorem callChannel_closing {reason : CloseFunction} (h : s.net.lookup channelId = some ch)
    (hcall : (call ch).2 = [.onClose reason, .closeCallback reason]) :
    callChannel channelId call s
      = onClose channelId { s with net := s.net.insert channelId (call ch).1 } := by
  rw [callChannel, get_bind_apply, h]
  show (modify _ >>= fun _ => (call ch).2.forM (onCallback channelId)) s = _
  rw [hcall, modify_bind_apply]
  show (onClose channelId >>= fun _ => (pure () : ServerM Unit)) _ = _
  rw [bind_apply]
  cases onClose channelId { s with net := s.net.insert channelId (call ch).1 } <;> rfl

/-- What a call of a member function does to the server: nothing, a change of the
channel object, or a change of the channel object and `on_close`. -/
theorem callChannel_cases (channelId : Int32) (hcall : ∀ ch, AsioChannel.Ends ch (call ch))
    (s : GameServer) :
    callChannel channelId call s = .ok () s ∨
    ∃ ch, s.net.lookup channelId = some ch ∧
      (((call ch).1.closed = ch.closed ∧ callChannel channelId call s
          = .ok () { s with net := s.net.insert channelId (call ch).1 }) ∨
       (ch.closed = false ∧ (call ch).1.closed = true ∧ callChannel channelId call s
          = onClose channelId { s with net := s.net.insert channelId (call ch).1 })) := by
  cases h : s.net.lookup channelId with
  | none => exact .inl (callChannel_absent h call)
  | some ch =>
    refine .inr ⟨ch, rfl, ?_⟩
    rcases (hcall ch).report with ⟨hclosed, hnil⟩ | ⟨hopen, hclosed, reason, hcalls⟩
    · exact .inl ⟨hclosed, callChannel_silent h hnil⟩
    · exact .inr ⟨hopen, hclosed, callChannel_closing h hcalls⟩

/-- With the lock free, a channel that closes gets through `on_close`. -/
theorem callChannel_free (hm : s.mtx = false) (channelId : Int32)
    (hcall : ∀ ch, AsioChannel.Ends ch (call ch)) :
    ∃ net, callChannel channelId call s = .ok () { s with net } ∨
      ∃ ecs, callChannel channelId call s = .ok () (closeWith { s with net } channelId ecs) ∧
        ClosedEcs { s with net } channelId ecs := by
  rcases callChannel_cases channelId hcall s with heq | ⟨ch, -, ⟨-, heq⟩ | ⟨-, -, heq⟩⟩
  · exact ⟨s.net, .inl heq⟩
  · exact ⟨_, .inl heq⟩
  · obtain ⟨ecs, hok, hecs⟩ := onClose_ecs
      (s := { s with net := s.net.insert channelId (call ch).1 }) hm channelId
    exact ⟨_, .inr ⟨ecs, heq.trans hok, hecs⟩⟩

/-- The arguments with which a packet is sent. -/
def packetArgs (pkt : List UInt8) : AsioChannel.SendArgs where
  data := pkt
  size := Int32.ofNat pkt.length
  readable := by
    rw [Int32.toInt_ofNat']
    have hsize : Int32.size = 4294967296 := rfl
    simp only [Int.bmod, hsize]
    split <;> omega

/-- The bytes that are queued for a packet. The size goes through an `int`, so this is
the length only below 2 GiB. -/
def sentBytes (pkt : List UInt8) : Nat := (packetArgs pkt).buffer.length

theorem sentBytes_of_lt (h : pkt.length < 2 ^ 31) :
    sentBytes pkt = pkt.length := by
  have hlen : sentBytes pkt = (Int32.ofNat pkt.length).toInt.toNat :=
    (packetArgs pkt).length_buffer
  rw [hlen, Int32.toInt_ofNat_of_lt h]
  rfl

theorem sendPacket_ends (env : Env) (pkt : List UInt8) (ch : AsioChannel) :
    AsioChannel.Ends ch (ch.send env.order pkt (Int32.ofNat pkt.length)) :=
  AsioChannel.send_ends env.order ch (packetArgs pkt)

/-- A packet that fits is queued, and nothing is reported. -/
theorem send_fits (env : Env) (hopen : ch.closed = false)
    (hfit : 0 < sentBytes pkt → ch.currentQueueBytes + sentBytes pkt ≤ AsioChannel.maxQueueBytes) :
    (ch.send env.order pkt (Int32.ofNat pkt.length)).2 = [] ∧
    (ch.send env.order pkt (Int32.ofNat pkt.length)).1.closed = false ∧
    (ch.send env.order pkt (Int32.ofNat pkt.length)).1.currentQueueBytes
      = ch.currentQueueBytes + sentBytes pkt := by
  have hlen : sentBytes pkt = (packetArgs pkt).size.toInt.toNat := (packetArgs pkt).length_buffer
  have hends := sendPacket_ends env pkt ch
  rcases AsioChannel.send_cases env.order ch (packetArgs pkt) with
    ⟨-, hskip, heq⟩ | ⟨-, -, hpos, hover, -⟩ | ⟨-, -, -, -, heq⟩
  · -- a size that is not positive as an `int`
    have hzero : sentBytes pkt = 0 := by
      rcases hskip with hclosed | hsize
      · rw [hopen] at hclosed
        cases hclosed
      · omega
    rw [show ch.send env.order pkt (Int32.ofNat pkt.length) = (ch, []) from heq, hzero]
    exact ⟨rfl, hopen, rfl⟩
  · have hsent : (packetArgs pkt).buffer.length = sentBytes pkt := rfl
    omega
  · rcases hends.report with ⟨hclosed, hnil⟩ | ⟨-, -, reason, hcalls⟩
    · refine ⟨hnil, hclosed.trans hopen, ?_⟩
      rw [show ch.send env.order pkt (Int32.ofNat pkt.length) = _ from heq]
      exact AsioChannel.startWrite_currentQueueBytes ..
    · rw [show ch.send env.order pkt (Int32.ofNat pkt.length) = _ from heq] at hcalls
      cases hcalls

/-- A packet that does not fit closes the channel. -/
theorem send_overflows (env : Env) (hopen : ch.closed = false) (hpos : 0 < sentBytes pkt)
    (hover : AsioChannel.maxQueueBytes < ch.currentQueueBytes + sentBytes pkt) :
    (ch.send env.order pkt (Int32.ofNat pkt.length)).2
      = [.onClose .forceClosed, .closeCallback .forceClosed] := by
  have hlen : sentBytes pkt = (packetArgs pkt).size.toInt.toNat := (packetArgs pkt).length_buffer
  rcases AsioChannel.send_cases env.order ch (packetArgs pkt) with
    ⟨-, hskip, -⟩ | ⟨-, -, -, -, heq⟩ | ⟨-, -, -, hfit, -⟩
  · rcases hskip with hclosed | hsize
    · rw [hopen] at hclosed
      cases hclosed
    · omega
  · rw [show ch.send env.order pkt (Int32.ofNat pkt.length) = _ from heq, AsioChannel.close,
      if_neg (show ¬ ch.closed = true by rw [hopen]; decide)]
  · exact absurd hover (Nat.not_lt.mpr hfit)

end Spec

end GameServer

end EcsAsioServer
