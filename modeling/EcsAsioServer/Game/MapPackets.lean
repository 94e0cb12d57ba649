import EcsAsioServer.Game.Accounts
import EcsAsioServer.Game.Locking

/-!
# What the game threads do with MOVE and CHAT

Without game threads the io thread handles MOVE and CHAT itself. With them it queues a
packet for the map of the player (MOVE), or a task for the main thread that queues a packet
for every map (CHAT). The map threads take the packets from their queues in
`process_packets`.

`process_single_packet` has a handler for each kind of packet, and all that these do is to
write a line to the log (`processSinglePacket_server`). So after the queues have been
drained everything but the queues is as before the request (`drain_queued`): no `Position`
has changed and nothing has been sent, not even to the client that asked.
`threaded_path_differs` compares this with the direct path.
-/

namespace EcsAsioServer

open Db Ecs FrameCodec Protocol StateProgram Transition

/-- A line in the log of a map thread. -/
inductive MapLog where
  | move (mapId channelId : Int32) (x y z : F32)
  | combat (mapId channelId : Int32)
  | interaction (mapId channelId : Int32)
  | chat (mapId channelId : Int32)
  | unknown (mapId : Int32) (cmd : UInt16)
deriving DecidableEq, Repr

/-! ## The main thread -/

namespace MainThreadManager

/-- The task of `handle_global_chat`: a packet for every map. -/
def chatTask (m : MainThreadManager) (task : Int32 × List UInt8) : MainThreadManager :=
  m.packets.keys.foldl (fun m mapId =>
    GameServer.sendPacketToMap mapId { channelId := task.1, cmd := 0x1004, data := task.2 } m) m

/-- `process_global_systems`. -/
def processGlobalSystems (m : MainThreadManager) : MainThreadManager :=
  m.globalTasks.foldl chatTask { m with globalTasks := [] }

/-- `packet_queue_.front()` and `packet_queue_.pop()`. -/
def popPacket (m : MainThreadManager) (mapId : Int32) : Option (Packet × MainThreadManager) :=
  match m.packets.lookup mapId with
  | some (packet :: rest) => some (packet, { m with packets := m.packets.insert mapId rest })
  | _ => none

/-- The queue of a map, empty if there is no thread. -/
def queue (m : MainThreadManager) (mapId : Int32) : List Packet :=
  (m.packets.lookup mapId).getD []

theorem queue_insert (m : MainThreadManager) (mapId : Int32) (packets : List Packet) :
    queue { m with packets := m.packets.insert mapId packets }
      = Function.update m.queue mapId packets := by
  funext id
  by_cases hid : id = mapId
  · subst hid
    simp [queue]
  · simp [queue, hid, AList.lookup_insert_ne hid]

theorem queue_of_not_mem {m : MainThreadManager} {mapId : Int32} (h : mapId ∉ m.packets) :
    m.queue mapId = [] := by
  rw [queue, AList.lookup_eq_none.mpr h]
  rfl

/-- Taking a packet from a queue. -/
theorem popPacket_cases (m : MainThreadManager) (mapId : Int32) :
    (m.queue mapId = [] ∧ m.popPacket mapId = none) ∨
    ∃ packet rest m', m.queue mapId = packet :: rest ∧ m.popPacket mapId = some (packet, m') ∧
      m'.queue = Function.update m.queue mapId rest ∧ m'.globalTasks = m.globalTasks ∧
      ∀ id, id ∈ m'.packets ↔ id ∈ m.packets := by
  unfold queue popPacket
  cases hlookup : m.packets.lookup mapId with
  | none => exact .inl ⟨rfl, rfl⟩
  | some packets =>
    cases packets with
    | nil => exact .inl ⟨rfl, rfl⟩
    | cons packet rest =>
      refine .inr ⟨packet, rest, _, rfl, rfl, m.queue_insert mapId rest, rfl, ?_⟩
      intro id
      have hmem : mapId ∈ m.packets := mem_of_lookup hlookup
      rw [AList.mem_insert]
      exact ⟨fun h => h.elim (fun heq => heq ▸ hmem) (fun h => h), .inr⟩

/-- A packet for a map that does not exist is dropped. -/
theorem sendPacketToMap_cases (m : MainThreadManager) (mapId : Int32) (packet : Packet) :
    (mapId ∉ m.packets ∧ GameServer.sendPacketToMap mapId packet m = m) ∨
    (mapId ∈ m.packets ∧
      (GameServer.sendPacketToMap mapId packet m).queue
        = Function.update m.queue mapId (m.queue mapId ++ [packet]) ∧
      (GameServer.sendPacketToMap mapId packet m).globalTasks = m.globalTasks ∧
      ∀ id, id ∈ (GameServer.sendPacketToMap mapId packet m).packets ↔ id ∈ m.packets) := by
  unfold GameServer.sendPacketToMap
  cases hlookup : m.packets.lookup mapId with
  | none => exact .inl ⟨AList.lookup_eq_none.mp hlookup, rfl⟩
  | some packets =>
    have hmem : mapId ∈ m.packets := mem_of_lookup hlookup
    have hqueue : m.queue mapId = packets := by
      rw [queue, hlookup]
      rfl
    refine .inr ⟨hmem, ?_, rfl, ?_⟩
    · rw [hqueue]
      exact m.queue_insert mapId _
    · intro id
      show id ∈ m.packets.insert mapId _ ↔ _
      rw [AList.mem_insert]
      exact ⟨fun h => h.elim (fun heq => heq ▸ hmem) (fun h => h), .inr⟩

theorem globalTasks_chatTask (m : MainThreadManager) (task : Int32 × List UInt8) :
    (m.chatTask task).globalTasks = m.globalTasks := by
  unfold chatTask
  induction m.packets.keys generalizing m with
  | nil => rfl
  | cons mapId ids ih =>
    rw [List.foldl_cons, ih]
    rcases m.sendPacketToMap_cases mapId ⟨task.1, 0x1004, task.2⟩ with ⟨-, heq⟩ | ⟨-, -, htasks, -⟩
    · rw [heq]
    · exact htasks

/-- The main thread runs all the tasks. -/
theorem globalTasks_processGlobalSystems (m : MainThreadManager) :
    m.processGlobalSystems.globalTasks = [] := by
  have hfold : ∀ (tasks : List (Int32 × List UInt8)) (m : MainThreadManager),
      (tasks.foldl chatTask m).globalTasks = m.globalTasks := by
    intro tasks
    induction tasks with
    | nil => exact fun _ => rfl
    | cons task tasks ih =>
      exact fun m => (ih (m.chatTask task)).trans (m.globalTasks_chatTask task)
  exact hfold m.globalTasks { m with globalTasks := [] }

end MainThreadManager

namespace GameServer

/-! ## The map threads -/

/-- The server, with what the map threads have logged. -/
structure Threaded where
  server : GameServer
  log : List MapLog := []

namespace Threaded

/-- A line for the log. -/
def logLine (t : Threaded) (line : MapLog) : Threaded := { t with log := t.log ++ [line] }

/-- The first 12 bytes of a packet as three floats. -/
def readMove : Reader (F32 × F32 × F32) := do
  need 12
  let x ← readFloatLe
  let y ← readFloatLe
  let z ← readFloatLe
  return (x, y, z)

/-- `handle_movement_packet`: the move is logged. -/
def handleMovementPacket (mapId channelId : Int32) (data : List UInt8) (t : Threaded) :
    Threaded :=
  match readMove data with
  | .ok (x, y, z) _ => t.logLine (.move mapId channelId x y z)
  | .error _ _ => t

/-- `process_single_packet`. -/
def processSinglePacket (mapId : Int32) (packet : Packet) (t : Threaded) : Threaded :=
  if packet.cmd = 0x1001 then handleMovementPacket mapId packet.channelId packet.data t
  else if packet.cmd = 0x1002 then t.logLine (.combat mapId packet.channelId)
  else if packet.cmd = 0x1003 then t.logLine (.interaction mapId packet.channelId)
  else if packet.cmd = 0x1004 then t.logLine (.chat mapId packet.channelId)
  else t.logLine (.unknown mapId packet.cmd)

/-- One round of the loop of `process_packets`. -/
def processPacket (mapId : Int32) (t : Threaded) : Threaded :=
  match t.server.mainThreadManager.bind (·.popPacket mapId) with
  | none => t
  | some (packet, m) =>
    processSinglePacket mapId packet
      { t with server := { t.server with mainThreadManager := some m } }

/-- `process_packets`: no round adds a packet, so there is one for each. -/
def processPackets (mapId : Int32) (t : Threaded) : Threaded :=
  (processPacket mapId)^[(t.server.mainThreadManager.elim [] (·.queue mapId)).length] t

/-- The main thread runs its tasks. -/
def runTasks (t : Threaded) : Threaded :=
  { t with server := { t.server with
    mainThreadManager := t.server.mainThreadManager.map MainThreadManager.processGlobalSystems } }

/-- The main thread runs its tasks, and then each map thread takes its packets. -/
def drain (t : Threaded) : Threaded :=
  let t := t.runTasks
  (t.server.mainThreadManager.elim [] (·.packets.keys)).foldl
    (fun t mapId => processPackets mapId t) t

/-- **A packet changes nothing**: its handler only writes to the log. -/
theorem processSinglePacket_server (mapId : Int32) (packet : Packet) (t : Threaded) :
    (processSinglePacket mapId packet t).server = t.server := by
  have hmove : (handleMovementPacket mapId packet.channelId packet.data t).server = t.server := by
    unfold handleMovementPacket
    split <;> rfl
  unfold processSinglePacket
  repeat' split
  · exact hmove
  all_goals rfl

/-- The server is the same, up to the queues of its game threads, and has game threads. -/
def Queued (s : GameServer) (m : MainThreadManager) (t : Threaded) : Prop :=
  t.server = { s with mainThreadManager := some m }

section Drain

variable {s : GameServer} {m : MainThreadManager} {t : Threaded}

/-- One round takes the first packet of the queue. -/
theorem processPacket_queued (h : Queued s m t) (mapId : Int32) :
    ∃ m', Queued s m' (processPacket mapId t) ∧
      m'.queue = Function.update m.queue mapId (m.queue mapId).tail ∧
      m'.globalTasks = m.globalTasks ∧ ∀ id, id ∈ m'.packets ↔ id ∈ m.packets := by
  have hpop : t.server.mainThreadManager.bind (·.popPacket mapId) = m.popPacket mapId := by
    rw [h]
    rfl
  unfold processPacket
  rw [hpop]
  rcases m.popPacket_cases mapId with ⟨hqueue, hnone⟩ | ⟨packet, rest, m', hqueue, hsome, hm'⟩
  · rw [hnone]
    refine ⟨m, h, ?_, rfl, fun _ => Iff.rfl⟩
    rw [hqueue, List.tail_nil, ← hqueue, Function.update_eq_self]
  · rw [hsome, hqueue]
    refine ⟨m', ?_, hm'⟩
    exact (processSinglePacket_server mapId packet _).trans (by rw [h])

theorem iterate_processPacket_queued (h : Queued s m t) (mapId : Int32) (n : Nat) :
    ∃ m', Queued s m' ((processPacket mapId)^[n] t) ∧
      m'.queue = Function.update m.queue mapId ((m.queue mapId).drop n) ∧
      m'.globalTasks = m.globalTasks ∧ ∀ id, id ∈ m'.packets ↔ id ∈ m.packets := by
  induction n generalizing m t with
  | zero => exact ⟨m, h, (Function.update_eq_self ..).symm, rfl, fun _ => Iff.rfl⟩
  | succ n ih =>
    obtain ⟨m₁, h₁, hqueue₁, htasks₁, hmaps₁⟩ := processPacket_queued h mapId
    obtain ⟨m₂, h₂, hqueue₂, htasks₂, hmaps₂⟩ := ih h₁
    refine ⟨m₂, h₂, ?_, htasks₂.trans htasks₁, fun id => (hmaps₂ id).trans (hmaps₁ id)⟩
    rw [hqueue₂, hqueue₁, Function.update_self, Function.update_idem, List.drop_tail]

/-- The loop empties the queue of its map and leaves the others alone. -/
theorem processPackets_queued (h : Queued s m t) (mapId : Int32) :
    ∃ m', Queued s m' (processPackets mapId t) ∧ m'.queue = Function.update m.queue mapId [] ∧
      m'.globalTasks = m.globalTasks ∧ ∀ id, id ∈ m'.packets ↔ id ∈ m.packets := by
  have hlength : (t.server.mainThreadManager.elim [] (·.queue mapId)).length
      = (m.queue mapId).length := by
    rw [h]
    rfl
  unfold processPackets
  rw [hlength]
  obtain ⟨m', h', hqueue, hrest⟩ := iterate_processPacket_queued h mapId (m.queue mapId).length
  refine ⟨m', h', ?_, hrest⟩
  rw [hqueue, List.drop_length]

theorem foldl_processPackets_queued (h : Queued s m t) (ids : List Int32) :
    ∃ m', Queued s m' (ids.foldl (fun t mapId => processPackets mapId t) t) ∧
      (∀ id, m'.queue id = if id ∈ ids then [] else m.queue id) ∧
      m'.globalTasks = m.globalTasks := by
  induction ids generalizing m t with
  | nil => exact ⟨m, h, fun _ => rfl, rfl⟩
  | cons mapId ids ih =>
    obtain ⟨m₁, h₁, hqueue₁, htasks₁, -⟩ := processPackets_queued h mapId
    obtain ⟨m₂, h₂, hqueue₂, htasks₂⟩ := ih h₁
    refine ⟨m₂, h₂, ?_, htasks₂.trans htasks₁⟩
    intro id
    rw [hqueue₂, hqueue₁]
    by_cases hid : id = mapId
    · subst hid
      simp
    · rw [Function.update_of_ne hid]
      simp [hid]

/-- **Draining**: all the tasks and packets are gone, and the rest of the server is as it
was. -/
theorem drain_queued (h : Queued s m t) :
    ∃ m', Queued s m' (drain t) ∧ (∀ id, m'.queue id = []) ∧ m'.globalTasks = [] := by
  have hglobal : Queued s m.processGlobalSystems t.runTasks := by
    show ({ t.server with mainThreadManager := _ } : GameServer) = _
    rw [h]
    rfl
  have hids : t.runTasks.server.mainThreadManager.elim [] (·.packets.keys)
      = m.processGlobalSystems.packets.keys := by
    rw [hglobal]
    rfl
  obtain ⟨m', h', hqueue, htasks⟩ :=
    foldl_processPackets_queued hglobal m.processGlobalSystems.packets.keys
  refine ⟨m', ?_, ?_, htasks.trans m.globalTasks_processGlobalSystems⟩
  · rw [drain, hids]
    exact h'
  · intro id
    rw [hqueue]
    split
    · rfl
    · next hid => exact MainThreadManager.queue_of_not_mem hid

end Drain

end Threaded

/-! ## The two paths -/

/-- MOVE with a payload that can be parsed, or CHAT. -/
def MoveOrChat (cmd : UInt16) (payload : List UInt8) : Prop :=
  (cmd = 1002 ∧ ∃ req rest, PlayerMoveReq.parse payload = .ok req rest) ∨ cmd = 1003

/-- The same server without game threads. -/
def withoutThreads (s : GameServer) : GameServer := { s with mainThreadManager := none }

/-- A request, and then the game threads until their queues are empty. -/
def threadedPath (env : Env) (cmd : UInt16) (channelId : Int32) (payload : List UInt8)
    (s : GameServer) : Option Threaded :=
  match dispatch env cmd channelId payload s with
  | .ok _ s' => some (Threaded.drain { server := s' })
  | .error _ _ => none

/-- Where an entity is. -/
def positionOf (s : GameServer) (entity : Entity) : Option Position :=
  s.ecs.component .position entity

/-- The same can be observed after the direct path as in the state: the `Position` of the
player, and how much has been queued for each channel. -/
def SameEffect (entity : Entity) (result : EStateM.Result Fault GameServer Unit)
    (t : GameServer) : Prop :=
  ∃ u, result = .ok () u ∧
    u.positionOf entity = t.positionOf entity ∧ ∀ id, u.queued id = t.queued id

section Paths

variable {s : GameServer} {cmd : UInt16} {channelId : Int32} {payload : List UInt8}

/-- MOVE with game threads. -/
theorem handleMove_queued (env : Env) {req : PlayerMoveReq} {rest : List UInt8}
    (hparse : PlayerMoveReq.parse payload = .ok req rest)
    (hmain : s.mainThreadManager.isSome = true) :
    handleMove env channelId payload s = .ok () { s with
      mainThreadManager := s.mainThreadManager.map
        (sendPacketToMap (s.getPlayerMap channelId) ⟨channelId, 0x1001, payload⟩) } := by
  rw [handleMove, hparse]
  show (if s.mainThreadManager.isSome = true then routePacketToMap channelId 0x1001 payload
    else _) s = _
  rw [if_pos hmain]
  rfl

/-- CHAT with game threads. -/
theorem handleChat_queued (env : Env) (hmain : s.mainThreadManager.isSome = true) :
    handleChat env channelId payload s = .ok () { s with
      mainThreadManager := s.mainThreadManager.map fun m =>
        { m with globalTasks := m.globalTasks ++ [(channelId, payload)] } } := by
  rw [handleChat, get_bind_apply, if_pos hmain]
  rfl

/-- With game threads the io thread does nothing but queue the request. -/
theorem dispatch_queues (env : Env) (channelId : Int32) (hrequest : MoveOrChat cmd payload)
    {m : MainThreadManager} (hmain : s.mainThreadManager = some m) :
    ∃ m', dispatch env cmd channelId payload s
      = .ok () { s with mainThreadManager := some m' } := by
  have hsome : s.mainThreadManager.isSome = true := Option.isSome_of_eq_some hmain
  rcases hrequest with ⟨rfl, req, rest, hparse⟩ | rfl
  · refine ⟨sendPacketToMap (s.getPlayerMap channelId) ⟨channelId, 0x1001, payload⟩ m, ?_⟩
    refine (handleMove_queued env hparse hsome).trans ?_
    rw [hmain]
    rfl
  · refine ⟨{ m with globalTasks := m.globalTasks ++ [(channelId, payload)] }, ?_⟩
    refine (handleChat_queued env hsome).trans ?_
    rw [hmain]
    rfl

/-- What the direct path sends. -/
def directSends (s : GameServer) (cmd : UInt16) (channelId : Int32) (payload : List UInt8) :
    List (Int32 × List UInt8) :=
  if cmd = 1002 then s.withoutThreads.moveSends channelId payload
  else s.withoutThreads.chatSends channelId payload

theorem dispatch_sends (env : Env) (hrequest : MoveOrChat cmd payload) (hmtx : s.mtx = false)
    (hopen : RegisteredOpen s) (hid : channelId ∈ s.channels) :
    Sends s.withoutThreads (dispatch env cmd channelId payload)
      (s.directSends cmd channelId payload) := by
  rcases hrequest with ⟨rfl, -⟩ | rfl
  · exact handleMove_sends (s := s.withoutThreads) env payload hmtx hopen hid
  · exact handleChat_sends (s := s.withoutThreads) env payload hmtx hopen hid

/-- The direct path answers the client. -/
theorem bytesTo_directSends (s : GameServer) (channelId : Int32)
    (hrequest : MoveOrChat cmd payload) :
    0 < bytesTo channelId (s.directSends cmd channelId payload) := by
  rcases hrequest with ⟨rfl, req, rest, hparse⟩ | rfl
  · have hsends : s.directSends 1002 channelId payload
        = s.toOthers channelId (pack 1002 0 1 0 (moveNotice channelId req))
          ++ [(channelId, pack 1002 0 1 0 (ascii "ok"))] := by
      show s.withoutThreads.moveSends channelId payload = _
      rw [moveSends, hparse]
      rfl
    have hack : 0 < sentBytes (pack 1002 0 1 0 (ascii "ok")) := by decide +kernel
    rw [hsends, bytesTo_append, bytesTo_self]
    omega
  · have hsends : s.directSends 1003 channelId payload
        = s.toAll (pack 1003 0 1 0 (writeLe32 channelId.toUInt32 ++ payload))
          ++ [(channelId, pack 1003 0 1 0 (ascii "CHAT_SUCCESS"))] := rfl
    have hack : 0 < sentBytes (pack 1003 0 1 0 (ascii "CHAT_SUCCESS")) := by decide +kernel
    rw [hsends, bytesTo_append, bytesTo_self]
    omega

/-- **The two paths never agree.** A request that goes through the game threads leaves
everything but their queues as it was, and these are empty in the end; the direct path
queues at least an answer for the client, or stops because it does not fit. -/
theorem threaded_path_differs (env : Env) {m : MainThreadManager} (entity : Entity)
    (hs : Reachable ServerInit (ServerStep env) s) (hmtx : s.mtx = false)
    (hmain : s.mainThreadManager = some m) (hid : channelId ∈ s.channels)
    (hrequest : MoveOrChat cmd payload) :
    ∃ t m', threadedPath env cmd channelId payload s = some t ∧
      t.server = { s with mainThreadManager := some m' } ∧
      (∀ mapId, m'.queue mapId = []) ∧ m'.globalTasks = [] ∧
      Sends s.withoutThreads (dispatch env cmd channelId payload)
        (s.directSends cmd channelId payload) ∧
      ¬ SameEffect entity (dispatch env cmd channelId payload s.withoutThreads) t.server := by
  have hopen := reachable_registeredOpen env hs hmtx
  obtain ⟨m₁, hqueued⟩ := dispatch_queues env channelId hrequest hmain
  obtain ⟨m₂, hdrained, hempty, htasks⟩ :=
    Threaded.drain_queued (s := s) (m := m₁)
      (t := { server := { s with mainThreadManager := some m₁ } }) rfl
  have hsends := dispatch_sends env hrequest hmtx hopen hid
  refine ⟨_, m₂, ?_, hdrained, hempty, htasks, hsends, ?_⟩
  · rw [threadedPath, hqueued]
  · rintro ⟨u, hok, -, hqueue⟩
    rcases hsends with ⟨-, u', herror⟩ | ⟨-, a, u', hok', hsent⟩
    · rw [herror] at hok
      cases hok
    · rw [hok'] at hok
      cases hok
      -- the answer makes the queue of the client longer
      have hlonger : u.queued channelId = s.queued channelId
          + bytesTo channelId (s.directSends cmd channelId payload) :=
        hsent.queued channelId hid
      have hsame := hqueue channelId
      rw [hdrained] at hsame
      have hpos := bytesTo_directSends s channelId hrequest
      have hbefore : GameServer.queued { s with mainThreadManager := some m₂ } channelId
          = s.queued channelId := rfl
      omega

end Paths

/-- A server with the thread of one map. -/
def mapServer : GameServer :=
  { kimServer with mainThreadManager := some { packets := (∅ : AList _).insert 1 [] } }

theorem mapServer_init : ServerInit mapServer := by
  constructor <;> rfl

/-- The player is in the game. -/
def kimPlays : GameServer :=
  execute plainEnv mapServer [.accept 1 0, .frame 1 1001 kimLogin, .strand 1 {}, .completion 0]

theorem kimPlays_reachable : Reachable ServerInit (ServerStep plainEnv) kimPlays :=
  ⟨mapServer, _, mapServer_init, run_execute (by decide +kernel)⟩

/-- A move to (1, 0, 0). -/
def stepReq : PlayerMoveReq :=
  { x := ⟨0x3f800000⟩, y := .zero, z := .zero, rotation := .zero, timestamp := 0 }

theorem stepReq_parse : PlayerMoveReq.parse stepReq.serialize = .ok stepReq [] :=
  rfl

theorem threaded_path_differs_move :
    ∃ t m', threadedPath plainEnv 1002 1 stepReq.serialize kimPlays = some t ∧
      t.server = { kimPlays with mainThreadManager := some m' } ∧
      (∀ mapId, m'.queue mapId = []) ∧ m'.globalTasks = [] ∧
      Sends kimPlays.withoutThreads (dispatch plainEnv 1002 1 stepReq.serialize)
        (kimPlays.directSends 1002 1 stepReq.serialize) ∧
      ¬ SameEffect 1 (dispatch plainEnv 1002 1 stepReq.serialize kimPlays.withoutThreads)
        t.server := by
  have hmain : kimPlays.mainThreadManager.isSome = true := by decide +kernel
  obtain ⟨m, hm⟩ := Option.isSome_iff_exists.mp hmain
  exact threaded_path_differs plainEnv 1 kimPlays_reachable (by decide +kernel) hm
    (by decide +kernel) (.inl ⟨rfl, stepReq, [], stepReq_parse⟩)

/-- The map thread logs the move, and the player stays where it was: the client gets no
answer. Without game threads the player moves and the client gets 18 bytes. -/
theorem move_only_logged :
    let threaded := threadedPath plainEnv 1002 1 stepReq.serialize kimPlays
    let direct := after (dispatch plainEnv 1002 1 stepReq.serialize) kimPlays.withoutThreads
    threaded.map Threaded.log = some [.move 1 1 stepReq.x stepReq.y stepReq.z] ∧
    threaded.map (fun t => t.server.positionOf 1) = some (some ⟨.zero, .zero, .zero⟩) ∧
    threaded.map (fun t => t.server.queued 1) = some (kimPlays.queued 1) ∧
    direct.positionOf 1 = some ⟨stepReq.x, stepReq.y, stepReq.z⟩ ∧
    direct.queued 1 = kimPlays.queued 1 + 18 := by
  intro threaded direct
  refine ⟨?_, ?_, ?_, ?_, ?_⟩ <;> decide +kernel

end GameServer

end EcsAsioServer
