import EcsAsioServer.Lib.Lanes
import EcsAsioServer.Game.MapPackets
import EcsAsioServer.Game.Routing

/-!
# The order of MOVE packets

The io thread routes each MOVE to the map that its channel is on at that moment, and each
map thread takes the packets of its own queue, at its own pace. `Routed` is a run of both,
with the queues as lanes (`Lanes`): the lanes are the real queues, with a serial number for
each packet (`faithful_step`), and their histories say what was dispatched and what has
been processed.

A channel that has changed its map may have packets in two queues. Nothing makes the new
map wait for the old one, so there are schedules in which a later MOVE is processed first.
And a MOVE for a map without a thread is dropped. `moves_in_order_iff` says that nothing
else goes wrong.
-/

namespace EcsAsioServer.GameServer

open Db Ecs FrameCodec Protocol StateProgram Transition

/-! ## What an event does to the queues -/

/-- The queue of a map. -/
def queueOf (s : GameServer) (mapId : Int32) : List Packet :=
  s.mainThreadManager.elim [] (·.queue mapId)

/-- The maps with a thread. -/
def mapIds (s : GameServer) : List Int32 := s.mainThreadManager.elim [] (·.packets.keys)

variable {s : GameServer}

theorem queueOf_of_not_mem {mapId : Int32} (h : mapId ∉ s.mapIds) :
    s.queueOf mapId = [] := by
  unfold queueOf
  cases hmain : s.mainThreadManager with
  | none => rfl
  | some m =>
    rw [mapIds, hmain] at h
    exact MainThreadManager.queue_of_not_mem h

/-- The packet that the event sends to a map thread. -/
def movePacket (s : GameServer) : ServerEvent → Option Packet
  | .frame channelId cmd payload =>
    if cmd = 1002 ∧ s.mainThreadManager.isSome then
      match PlayerMoveReq.parse payload with
      | .ok _ _ => some { channelId, cmd := 0x1001, data := payload }
      | .error _ _ => none
    else none
  | _ => none

/-- The map that the channel is on, if it has a thread. -/
def laneOf (s : GameServer) (channelId : Int32) : Option Int32 :=
  let mapId := s.getPlayerMap channelId
  if mapId ∈ s.mapIds then some mapId else none

/-- Only a MOVE that parses, with game threads, sends a packet. -/
theorem movePacket_eq_some {e : ServerEvent} {packet : Packet} (h : movePacket s e = some packet) :
    ∃ channelId payload req rest, e = .frame channelId 1002 payload ∧
      packet = ⟨channelId, 0x1001, payload⟩ ∧ PlayerMoveReq.parse payload = .ok req rest ∧
      s.mainThreadManager.isSome = true := by
  cases e with
  | frame channelId cmd payload =>
    simp only [movePacket] at h
    by_cases hcond : cmd = 1002 ∧ s.mainThreadManager.isSome = true
    · rw [if_pos hcond] at h
      obtain ⟨rfl, hsome⟩ := hcond
      cases hparse : PlayerMoveReq.parse payload with
      | error err rest =>
        rw [hparse] at h
        cases h
      | ok req rest =>
        rw [hparse] at h
        exact ⟨channelId, payload, req, rest, rfl, (Option.some.inj h).symm, hparse, hsome⟩
    · rw [if_neg hcond] at h
      cases h
  | accept | written | writeError | readError | idleTimer | pingTimer | flushTimer | completion
  | strand | gameThreads => cases h

theorem messageId_eq_move {cmd : UInt16} (h : messageId cmd = some .move) : cmd = 1002 := by
  grind [messageId]

theorem messageId_eq_chat {cmd : UInt16} (h : messageId cmd = some .chat) : cmd = 1003 := by
  grind [messageId]

/-- Only MOVE and CHAT reach for the game threads. -/
theorem mainThread_guildKept (manager : Option MainThreadManager) :
    GuildKept (fun s => s.mainThreadManager = manager) fun s => s.mainThreadManager = manager where
  mtx _ _ hs := hs
  locked _ _ hs := hs
  ecs _ _ hs := hs
  net _ _ _ _ _ _ hs := hs
  close _ _ _ _ _ _ _ _ _ hs := hs
  stuck _ _ _ _ _ _ _ _ hs := hs
  setEntity _ _ _ _ hs := hs
  eraseEntity _ _ hs := hs
  setDbId _ _ _ _ hs := hs
  setMap _ _ _ _ _ hs := hs
  post _ _ _ _ hs := hs
  guild _ _ _ _ hs := hs

/-- Without game threads there is nothing to reach for. -/
theorem noThreads_kept :
    Kept (fun s => s.mainThreadManager = none) fun s => s.mainThreadManager = none where
  toGuildKept := mainThread_guildKept none
  mainThread s f hs := by
    show s.mainThreadManager.map f = none
    rw [hs]
    rfl
  completions _ _ _ hs := hs

/-- The same packets in the same queues. -/
def SamePackets (s t : GameServer) : Prop :=
  t.mainThreadManager.map (·.packets) = s.mainThreadManager.map (·.packets)

theorem SamePackets.of_eq {t : GameServer} (h : t.mainThreadManager = s.mainThreadManager) :
    SamePackets s t :=
  congrArg _ h

theorem SamePackets.queueOf {t : GameServer} (h : SamePackets s t) : t.queueOf = s.queueOf := by
  funext mapId
  unfold SamePackets at h
  unfold GameServer.queueOf
  cases hs : s.mainThreadManager <;> cases ht : t.mainThreadManager <;> simp_all
  rw [MainThreadManager.queue, h]
  rfl

section Step

variable {env : Env} {s t : GameServer} {e : ServerEvent}

/-- A message that is no CHAT, and no MOVE with a packet for a map thread. -/
theorem mainThread_frame {channelId : Int32} {cmd : UInt16} {payload : List UInt8}
    (hid : channelId ∈ s.channels) (hmove : movePacket s (.frame channelId cmd payload) = none)
    (hchat : cmd = 1003 → s.mainThreadManager = none) :
    (after (dispatch env cmd channelId payload) s).mainThreadManager = s.mainThreadManager := by
  cases hmain : s.mainThreadManager with
  | none =>
    exact (noThreads_kept.dispatch env cmd channelId payload).after_same (s := s) ⟨hmain, hid⟩
  | some m =>
    unfold dispatch
    cases hmsg : messageId cmd with
    | none => exact hmain
    | some msg =>
      cases hqueued : msg.isQueued with
      | false =>
        exact ((mainThread_guildKept (some m)).handle env hqueued channelId
          payload).after_same (s := s) ⟨hmain, hid⟩
      | true =>
        cases msg with
        | move =>
          cases messageId_eq_move hmsg
          show (after (handleMove env channelId payload) s).mainThreadManager = _
          cases hparse : PlayerMoveReq.parse payload with
          | error err rest =>
            have hignored : handleMove env channelId payload s = .ok () s := by
              rw [handleMove, hparse]
              rfl
            rw [after_ok hignored]
            exact hmain
          | ok req rest => simp [movePacket, hmain, hparse] at hmove
        | chat =>
          rw [hchat (messageId_eq_chat hmsg)] at hmain
          cases hmain
        | ping | echo | login | attack | mapEnter | guildCreate | guildJoin | guildLeave =>
          cases hqueued

/-- Any other event leaves the main thread alone. -/
theorem mainThread_step (hstep : ServerStep env s e t) (hmove : movePacket s e = none)
    (hchat : ∀ channelId payload, e = .frame channelId 1003 payload →
      s.mainThreadManager = none) :
    t.mainThreadManager = s.mainThreadManager := by
  obtain ⟨henabled, rfl⟩ := hstep
  have hdirect := (mainThread_guildKept s.mainThreadManager).toDirectKept
  cases e with
  | accept channelId now =>
    rw [act, after_ok (acceptChannel_ok henabled.1 channelId now)]
    rfl
  | frame channelId cmd payload =>
    refine mainThread_frame henabled.2 hmove ?_
    rintro rfl
    exact hchat channelId payload rfl
  | strand channelId out =>
    obtain ⟨storage, completions, heq⟩ := runStrand_eq env s channelId out
    show (s.runStrand env channelId out).mainThreadManager = _
    rw [heq]
  | completion i => exact (hdirect.runCompletion (fun _ _ _ hs => hs) env i).after_same (s := s) rfl
  | written | writeError | readError | idleTimer | pingTimer | flushTimer | gameThreads =>
    exact (hdirect.event rfl rfl).elim id id

/-- **The io thread**: an event leaves the queues alone, or it is a MOVE and sends its packet
to the map of the channel. -/
theorem packets_step (hstep : ServerStep env s e t) :
    (movePacket s e = none ∧ SamePackets s t) ∨
    ∃ packet, movePacket s e = some packet ∧ t = { s with
      mainThreadManager := s.mainThreadManager.map
        (sendPacketToMap (s.getPlayerMap packet.channelId) packet) } := by
  cases hmove : movePacket s e with
  | some packet =>
    obtain ⟨-, rfl⟩ := hstep
    obtain ⟨channelId, payload, req, rest, rfl, rfl, hparse, hsome⟩ := movePacket_eq_some hmove
    exact .inr ⟨_, rfl, after_ok (handleMove_queued env hparse hsome)⟩
  | none =>
    refine .inl ⟨rfl, ?_⟩
    by_cases hchat : ∀ channelId payload, e = .frame channelId 1003 payload →
        s.mainThreadManager = none
    · exact .of_eq (mainThread_step hstep hmove hchat)
    · -- a CHAT queues a task for the main thread
      push Not at hchat
      obtain ⟨channelId, payload, rfl, hmain⟩ := hchat
      obtain ⟨-, rfl⟩ := hstep
      show SamePackets s (after (handleChat env channelId payload) s)
      rw [after_ok (handleChat_queued env (Option.isSome_iff_ne_none.mpr hmain))]
      show (s.mainThreadManager.map _).map _ = _
      rw [Option.map_map]
      rfl

/-- The queues after a MOVE. -/
theorem queueOf_send (channelId : Int32) (packet : Packet) :
    GameServer.queueOf { s with
        mainThreadManager := s.mainThreadManager.map
          (sendPacketToMap (s.getPlayerMap channelId) packet) }
      = (s.laneOf channelId).elim s.queueOf fun mapId =>
        Function.update s.queueOf mapId (s.queueOf mapId ++ [packet]) := by
  cases hmain : s.mainThreadManager with
  | none =>
    have hlane : s.laneOf channelId = none := by simp [laneOf, mapIds, hmain]
    rw [hlane]
    funext mapId
    simp [queueOf, hmain]
  | some m =>
    have hids : s.mapIds = m.packets.keys := by rw [mapIds, hmain, Option.elim_some]
    have hqueueOf : s.queueOf = m.queue := by
      funext mapId
      rw [queueOf, hmain, Option.elim_some]
    show (sendPacketToMap (s.getPlayerMap channelId) packet m).queue = _
    rcases m.sendPacketToMap_cases (s.getPlayerMap channelId) packet with ⟨hnone, heq⟩ |
      ⟨hmem, hqueue, -, -⟩
    · have hlane : s.laneOf channelId = none := if_neg (by rw [hids]; exact hnone)
      rw [hlane, heq, Option.elim_none, hqueueOf]
    · have hlane : s.laneOf channelId = some (s.getPlayerMap channelId) :=
        if_pos (by rw [hids]; exact hmem)
      rw [hlane, hqueue, Option.elim_some, hqueueOf]

end Step

/-! ## The server and its map threads -/

/-- The server and its map threads, with the lanes. -/
structure Routed extends Threaded where
  lanes : Lanes.State Int32 Packet

/-- An event of the server, or a map thread processes a packet. -/
inductive RoutedEvent where
  | io (e : ServerEvent)
  | drain (mapId : Int32)

/-- A map thread processes the first packet of its queue. -/
def drainPacket (x : Routed) (mapId : Int32) : Routed :=
  ⟨Threaded.processPacket mapId x.toThreaded, x.lanes.take mapId⟩

/-- The effect of an event. -/
def routedStep (env : Env) (x : Routed) : RoutedEvent → Routed
  | .io e =>
    { server := after (act env e) x.server
      log := x.log
      lanes := (movePacket x.server e).elim x.lanes fun packet =>
        x.lanes.send (x.server.laneOf packet.channelId) packet }
  | .drain mapId => drainPacket x mapId

/-- Map threads may look for packets at any time. -/
def MayHappen (x : Routed) : RoutedEvent → Prop
  | .io e => Enabled x.server e
  | .drain _ => True

instance (x : Routed) : DecidablePred (MayHappen x) := fun e => by
  cases e <;> unfold MayHappen <;> infer_instance

/-- One event. -/
def RoutedStep (env : Env) : Routed → RoutedEvent → Routed → Prop :=
  guarded MayHappen fun x e y => routedStep env x e = y

/-- The lanes are the queues. -/
def Faithful (x : Routed) : Prop :=
  ∀ mapId, x.server.queueOf mapId = (x.lanes.queue mapId).map Prod.fst

/-- **In order**: whatever the map threads do next, the packets of every channel are
processed in the order in which they were dispatched, each once. -/
def InOrder (x : Routed) : Prop :=
  ∀ mapIds y, Run (fun x mapId y => drainPacket x mapId = y) x mapIds y →
    ∀ channelId, y.lanes.Delivered Packet.channelId channelId

/-- A MOVE finds a thread for its map, and no packet of its channel in another queue. -/
def RoutesClear (x : Routed) : RoutedEvent → Prop
  | .io e => ∀ packet ∈ movePacket x.server e, ∃ mapId ∈ x.server.laneOf packet.channelId,
      ∀ id ∈ x.server.mapIds, id ≠ mapId →
        ∀ waiting ∈ x.server.queueOf id, waiting.channelId ≠ packet.channelId
  | .drain _ => True

-- The ids are those of a list and of an `Option`: all values of `Int32` are never tried.
instance (x : Routed) : DecidablePred (RoutesClear x)
  | .io _ =>
    letI clear (packet : Packet) (mapId : Int32) : Decidable (∀ id ∈ x.server.mapIds, id ≠ mapId →
        ∀ waiting ∈ x.server.queueOf id, waiting.channelId ≠ packet.channelId) :=
      List.decidableBAll _ _
    @Option.decidableForallMem _ _ (fun packet => @Option.decidableExistsMem _ _ (clear packet) _) _
  | .drain _ => inferInstanceAs (Decidable True)

theorem inOrder_iff (x : Routed) : InOrder x ↔ x.lanes.Safe Packet.channelId := by
  have hlanes : ∀ (mapIds : List Int32) (x : Routed),
      (mapIds.foldl drainPacket x).lanes = x.lanes.takeAll mapIds := by
    intro mapIds
    induction mapIds with
    | nil => exact fun _ => rfl
    | cons mapId mapIds ih => exact fun x => ih (drainPacket x mapId)
  constructor
  · intro h mapIds channelId
    have hend := h mapIds _ (Run.foldl drainPacket x mapIds) channelId
    rw [hlanes] at hend
    exact hend
  · intro h mapIds y hrun channelId
    rw [hrun.eq_foldl, hlanes]
    exact h mapIds channelId

section Along

variable {env : Env} {x y : Routed} {e : RoutedEvent}

theorem wellFormed_step (h : x.lanes.WellFormed) (hstep : RoutedStep env x e y) :
    y.lanes.WellFormed := by
  obtain ⟨-, rfl⟩ := hstep
  cases e with
  | drain mapId => exact h.take mapId
  | io e =>
    show ((movePacket x.server e).elim x.lanes _).WellFormed
    cases movePacket x.server e with
    | none => exact h
    | some packet => exact h.send _ packet

/-- The queues after a map thread has taken a packet. -/
theorem queueOf_processPacket (t : Threaded) (mapId : Int32) :
    (Threaded.processPacket mapId t).server.queueOf
      = Function.update t.server.queueOf mapId (t.server.queueOf mapId).tail := by
  cases hmain : t.server.mainThreadManager with
  | none =>
    have hsame : Threaded.processPacket mapId t = t := by
      rw [Threaded.processPacket, hmain]
      rfl
    have hempty : t.server.queueOf mapId = [] := by rw [queueOf, hmain, Option.elim_none]
    rw [hsame, hempty, List.tail_nil, ← hempty, Function.update_eq_self]
  | some m =>
    have hqueued : Threaded.Queued t.server m t := by
      rw [Threaded.Queued, ← hmain]
    have hqueueOf : ∀ {s : GameServer} {m}, s.mainThreadManager = some m → s.queueOf = m.queue := by
      intro s m h
      funext id
      rw [queueOf, h, Option.elim_some]
    obtain ⟨m', hqueued', hqueue, -⟩ := Threaded.processPacket_queued hqueued mapId
    rw [hqueueOf hmain, ← hqueue]
    exact hqueueOf (congrArg mainThreadManager hqueued')

/-- **The lanes stay the queues**: of the packet that an event sends and the packet that a
map thread takes, the lanes keep track. -/
theorem faithful_step (h : Faithful x) (hstep : RoutedStep env x e y) : Faithful y := by
  obtain ⟨henabled, rfl⟩ := hstep
  intro mapId
  cases e with
  | io e =>
    have hserver : ServerStep env x.server e (after (act env e) x.server) := ⟨henabled, rfl⟩
    show (after (act env e) x.server).queueOf mapId = _
    rcases packets_step hserver with ⟨hnone, hsame⟩ | ⟨packet, hsome, hsent⟩
    · rw [hsame.queueOf, h mapId, routedStep, hnone]
      rfl
    · rw [hsent, queueOf_send, routedStep, hsome]
      show _ = ((x.lanes.send (x.server.laneOf packet.channelId) packet).queue mapId).map Prod.fst
      cases x.server.laneOf packet.channelId with
      | none => exact h mapId
      | some lane =>
        by_cases hid : mapId = lane
        · subst hid
          rw [Lanes.State.queue_send_self, List.map_append, ← h mapId]
          exact Function.update_self ..
        · rw [x.lanes.queue_send_ne fun heq => hid (Option.some.inj heq).symm, ← h mapId]
          exact Function.update_of_ne hid ..
  | drain lane =>
    show (Threaded.processPacket lane x.toThreaded).server.queueOf mapId
      = ((x.lanes.take lane).queue mapId).map Prod.fst
    rw [queueOf_processPacket]
    by_cases hid : mapId = lane
    · subst hid
      rw [Function.update_self, h mapId, x.lanes.queue_take, List.map_tail]
    · rw [Function.update_of_ne hid, x.lanes.queue_take_ne hid]
      exact h mapId

/-- The guard, for the lanes. -/
theorem routesClear_iff (h : Faithful x) {ev : ServerEvent} {packet : Packet}
    (hmove : movePacket x.server ev = some packet) :
    RoutesClear x (.io ev) ↔
      x.lanes.Clear Packet.channelId (x.server.laneOf packet.channelId) packet.channelId := by
  have hlane : ∀ id, Lanes.ofKey Packet.channelId packet.channelId (x.lanes.queue id) = [] ↔
      ∀ waiting ∈ x.server.queueOf id, waiting.channelId ≠ packet.channelId := by
    intro id
    rw [Lanes.ofKey_eq_nil, h id, List.forall_mem_map]
  unfold RoutesClear Lanes.State.Clear
  simp only [hmove, Option.mem_some_iff, forall_eq', hlane]
  refine exists_congr fun mapId => and_congr_right fun _ => forall_congr' fun id => ?_
  constructor
  · intro hids hne waiting hwaiting
    by_cases hid : id ∈ x.server.mapIds
    · exact hids hid hne waiting hwaiting
    · rw [queueOf_of_not_mem hid] at hwaiting
      cases hwaiting
  · exact fun hall _ => hall

/-- **One event**: what is in order stays so exactly if a MOVE finds its way clear. -/
theorem inOrder_step (hwf : x.lanes.WellFormed) (hfaithful : Faithful x) (horder : InOrder x)
    (hstep : RoutedStep env x e y) : InOrder y ↔ RoutesClear x e := by
  have hwf' := wellFormed_step hwf hstep
  rw [inOrder_iff, Lanes.State.safe_iff hwf] at horder
  rw [inOrder_iff, Lanes.State.safe_iff hwf']
  obtain ⟨-, rfl⟩ := hstep
  cases e with
  | drain mapId => exact iff_of_true (fun k => Lanes.State.inLine_take (horder k) mapId) trivial
  | io e =>
    cases hmove : movePacket x.server e with
    | none =>
      refine iff_of_true ?_ ?_
      · rw [routedStep, hmove]
        exact horder
      · intro packet hpacket
        rw [hmove] at hpacket
        cases hpacket
    | some packet =>
      rw [routesClear_iff hfaithful hmove, routedStep, hmove]
      exact Lanes.State.inLine_send_iff horder _ packet

end Along

/-- The server when its map threads have started. -/
def Routed.started (s : GameServer) : Routed := ⟨⟨s, []⟩, .empty⟩

/-- **The order of MOVE packets.** As long as every MOVE is for a map with a thread, and no
packet of its channel is still waiting for another map, the packets of every channel are
processed in order, each once; and no longer than that. -/
theorem moves_in_order_iff (env : Env) {s : GameServer} (hidle : ∀ mapId, s.queueOf mapId = [])
    {es : List RoutedEvent} {y : Routed} :
    (Run (staying InOrder (RoutedStep env)) (.started s) es y ↔
      Run (guarded RoutesClear (RoutedStep env)) (.started s) es y) ∧
    (Run (RoutedStep env) (.started s) es y → Faithful y) := by
  have hfaithful : Faithful (.started s) := hidle
  have hwf : (Routed.started s).lanes.WellFormed := Lanes.State.wellFormed_empty
  constructor
  · refine Run.staying_iff (I := fun x => x.lanes.WellFormed ∧ Faithful x) ⟨hwf, hfaithful⟩ ?_
      (fun x e y hx hstep => ⟨wellFormed_step hx.1 hstep, faithful_step hx.2 hstep⟩)
      (fun x e y hx horder hstep => inOrder_step hx.1 hx.2 horder hstep)
    rw [inOrder_iff, Lanes.State.safe_iff hwf]
    exact Lanes.State.inLine_empty
  · exact fun hrun => hrun.invariant hfaithful fun _ _ _ => faithful_step

/-- The queues of two maps. -/
def twoQueues : AList fun _ : Int32 => List Packet :=
  AList.insert 1 [] (AList.insert 2 [] ∅)

/-- A server with the threads of two maps. -/
def twoMaps : GameServer :=
  { kimServer with mainThreadManager := some { packets := twoQueues } }

/-- A move to the origin. -/
def homeReq : PlayerMoveReq :=
  { x := .zero, y := .zero, z := .zero, rotation := .zero, timestamp := 0 }

theorem twoMaps_idle (mapId : Int32) : twoMaps.queueOf mapId = [] := by
  show (twoQueues.lookup mapId).getD [] = []
  unfold twoQueues
  by_cases h₁ : mapId = 1
  · subst h₁
    rfl
  · rw [AList.lookup_insert_ne h₁]
    by_cases h₂ : mapId = 2
    · subst h₂
      rfl
    · rw [AList.lookup_insert_ne h₂]
      rfl

/-- The thread of map 1 processes a packet before the player goes to map 2. -/
theorem moves_in_order_journey :
    let es : List RoutedEvent :=
      [.io (.accept 1 0), .io (.frame 1 1002 stepReq.serialize), .drain 1,
        .io (.frame 1 1005 enterDesert), .io (.frame 1 1002 homeReq.serialize), .drain 2]
    Run (staying InOrder (RoutedStep plainEnv)) (.started twoMaps) es
      (es.foldl (routedStep plainEnv) (.started twoMaps)) := by
  intro es
  refine (moves_in_order_iff plainEnv twoMaps_idle).1.mpr ?_
  have halong : Along (routedStep plainEnv) (fun x e => RoutesClear x e ∧ MayHappen x e)
      (.started twoMaps) es := by
    decide +kernel
  exact (Run.of_along halong).mono fun x e y h => ⟨h.1.1, h.1.2, h.2⟩

/-- The player goes to map 2 while the thread of map 1 has yet to look at its queue: the
later MOVE is processed first. -/
theorem later_move_first :
    let es : List RoutedEvent :=
      [.io (.accept 1 0), .io (.frame 1 1002 stepReq.serialize), .io (.frame 1 1005 enterDesert),
        .io (.frame 1 1002 homeReq.serialize), .drain 2, .drain 1]
    let t := es.foldl (routedStep plainEnv) (.started twoMaps)
    Run (RoutedStep plainEnv) (.started twoMaps) es t ∧
    t.lanes.sent.map Prod.fst
      = [⟨1, 0x1001, stepReq.serialize⟩, ⟨1, 0x1001, homeReq.serialize⟩] ∧
    t.log = [.move 2 1 homeReq.x homeReq.y homeReq.z, .move 1 1 stepReq.x stepReq.y stepReq.z] := by
  intro es t
  have halong : Along (routedStep plainEnv) MayHappen (.started twoMaps) es := by decide +kernel
  exact ⟨Run.of_along halong, by decide +kernel, by decide +kernel⟩

end EcsAsioServer.GameServer
