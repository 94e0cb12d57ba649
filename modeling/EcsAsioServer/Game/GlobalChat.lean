import EcsAsioServer.Game.Ordering

/-!
# Global chat (`handle_global_chat`, `process_global_systems`)

With game threads a CHAT goes through three hands. The io thread queues a task for the main
thread. The main thread runs the tasks in `process_global_systems`: each one sends a packet to
every map, one map after the other. The map threads take the packets from their queues, among
those of MOVE.

Here these take turns after every access to a queue. The main thread has `global_mutex_` while
it is in `process_global_systems`, so that a CHAT has to wait until it comes out; nothing else
waits.

- `chats_in_order`: every map thread has handled the first so and so many of all chats, in the
  order in which the io thread dispatched them, each once. So any two maps agree on the order.
- `alone_processGlobalSystems`: if nobody comes between, the main thread does what
  `MainThreadManager.processGlobalSystems` does in one step.

The maps are those that the server started with: nothing creates or destroys one later.
-/

namespace EcsAsioServer.GameServer

open Db Ecs FrameCodec Protocol StateProgram Transition

/-! ## The io thread -/

/-- The chat in an event. -/
def posted : ServerEvent → Option (Int32 × List UInt8)
  | .frame channelId cmd payload => if cmd = 1003 then some (channelId, payload) else none
  | _ => none

/-- The packet that is sent to each map. -/
def chatPacket (chat : Int32 × List UInt8) : Packet :=
  { channelId := chat.1, cmd := 0x1004, data := chat.2 }

section Step

variable {env : Env} {s t : GameServer} {e : ServerEvent} {m : MainThreadManager}

theorem posted_eq_none (h : ¬ ∃ channelId payload, e = .frame channelId 1003 payload) :
    posted e = none := by
  cases e with
  | frame channelId cmd payload =>
    refine if_neg ?_
    rintro rfl
    exact h ⟨channelId, payload, rfl⟩
  | accept | written | writeError | readError | idleTimer | pingTimer | flushTimer | completion
  | strand | gameThreads => rfl

/-- **The io thread**: an event leaves the main thread alone, sends a MOVE packet to a map or
queues a chat. -/
theorem manager_step (hstep : ServerStep env s e t) (hmain : s.mainThreadManager = some m) :
    (posted e = none ∧ t.mainThreadManager = some m) ∨
    (posted e = none ∧ ∃ mapId packet, packet.cmd = 0x1001 ∧
      t.mainThreadManager = some (sendPacketToMap mapId packet m)) ∨
    ∃ chat, posted e = some chat ∧
      t.mainThreadManager = some { m with globalTasks := m.globalTasks ++ [chat] } := by
  cases hmove : movePacket s e with
  | some packet =>
    rcases packets_step hstep with ⟨hnone, -⟩ | ⟨packet', hsome, rfl⟩
    · rw [hmove] at hnone
      cases hnone
    · obtain ⟨channelId, payload, req, rest, rfl, rfl, -, -⟩ := movePacket_eq_some hsome
      exact .inr (.inl ⟨rfl, _, _, rfl, congrArg (Option.map _) hmain⟩)
  | none =>
    by_cases hchat : ∃ channelId payload, e = .frame channelId 1003 payload
    · obtain ⟨channelId, payload, rfl⟩ := hchat
      obtain ⟨-, rfl⟩ := hstep
      have hsome : s.mainThreadManager.isSome = true := Option.isSome_of_eq_some hmain
      refine .inr (.inr ⟨(channelId, payload), rfl, ?_⟩)
      show (after (handleChat env channelId payload) s).mainThreadManager = _
      rw [after_ok (handleChat_queued env hsome)]
      exact congrArg (Option.map _) hmain
    · refine .inl ⟨posted_eq_none hchat, (mainThread_step hstep hmove ?_).trans hmain⟩
      intro channelId payload he
      exact absurd ⟨channelId, payload, he⟩ hchat

end Step

/-! ## The threads -/

/-- Where the main thread is. -/
inductive ChatPlace where
  /-- Somewhere else in its loop. -/
  | outside
  /-- Before `!global_tasks_.empty()`. -/
  | inside
  /-- In a task, with the maps that are left. -/
  | sending (chat : Int32 × List UInt8) (mapIds : List Int32)
deriving DecidableEq

/-- The server with its threads; and of what has happened so far, the packets that the map
threads have handled. -/
structure ChatRun extends Threaded where
  main : ChatPlace := .outside
  taken : List (Int32 × Packet) := []

/-- A step of the io thread, of the main thread (`enter`, `next`, `send`) or of a map thread. -/
inductive ChatEvent where
  | io (e : ServerEvent)
  | enter
  | next
  | send
  | drain (mapId : Int32)

namespace ChatRun

variable {env : Env} {x y : ChatRun}

/-- The main thread does something with its queues. -/
def onManager (x : ChatRun) (f : MainThreadManager → MainThreadManager) : GameServer :=
  { x.server with mainThreadManager := x.server.mainThreadManager.map f }

/-- `global_tasks_`. -/
def globalTasks (x : ChatRun) : List (Int32 × List UInt8) :=
  x.server.mainThreadManager.elim [] (·.globalTasks)

/-- The loop of `process_global_systems`: the next task asks for the active maps, or the
thread is through. -/
def next (x : ChatRun) : ChatRun :=
  match x.globalTasks with
  | [] => { x with main := .outside }
  | chat :: rest =>
    { x with
      server := x.onManager fun m => { m with globalTasks := rest }
      main := .sending chat x.server.mapIds }

/-- The loop over the maps in a task. -/
def send (x : ChatRun) : ChatRun :=
  match x.main with
  | .sending _ [] => { x with main := .inside }
  | .sending chat (mapId :: mapIds) =>
    { x with
      server := x.onManager (sendPacketToMap mapId (chatPacket chat))
      main := .sending chat mapIds }
  | _ => x

/-- One round of the loop of `process_packets`. -/
def drain (x : ChatRun) (mapId : Int32) : ChatRun :=
  { toThreaded := Threaded.processPacket mapId x.toThreaded
    main := x.main
    taken := x.taken ++ (x.server.queueOf mapId).head?.toList.map fun packet => (mapId, packet) }

/-- One event. -/
def step (env : Env) (x : ChatRun) : ChatEvent → ChatRun
  | .io e => { x with server := after (act env e) x.server }
  | .enter => { x with main := .inside }
  | .next => x.next
  | .send => x.send
  | .drain mapId => x.drain mapId

/-- The main thread is in a task. -/
def Sending (x : ChatRun) : Prop := x.main ≠ .outside ∧ x.main ≠ .inside

instance (x : ChatRun) : Decidable x.Sending := inferInstanceAs (Decidable (_ ∧ _))

/-- A CHAT waits for `global_mutex_`. -/
def MayHappen (x : ChatRun) : ChatEvent → Prop
  | .io e => Enabled x.server e ∧ ((posted e).isSome = true → x.main = .outside)
  | .enter => x.main = .outside
  | .next => x.main = .inside
  | .send => x.Sending
  | .drain _ => True

instance (x : ChatRun) : DecidablePred x.MayHappen := fun e => by
  cases e <;> unfold MayHappen <;> infer_instance

end ChatRun

/-- One event that may happen. -/
def ChatStep (env : Env) : ChatRun → ChatEvent → ChatRun → Prop :=
  guarded ChatRun.MayHappen fun x e y => x.step env e = y

/-! ## The main thread alone -/

theorem sendPacketToMap_tasks (m : MainThreadManager) (mapId : Int32) (packet : Packet)
    (tasks : List (Int32 × List UInt8)) :
    sendPacketToMap mapId packet { m with globalTasks := tasks }
      = { sendPacketToMap mapId packet m with globalTasks := tasks } := by
  unfold sendPacketToMap
  cases m.packets.lookup mapId with
  | none => rfl
  | some packets => rfl

/-- A task does not look at the other tasks. -/
theorem chatTask_tasks (m : MainThreadManager) (chat : Int32 × List UInt8)
    (tasks : List (Int32 × List UInt8)) :
    MainThreadManager.chatTask { m with globalTasks := tasks } chat
      = { m.chatTask chat with globalTasks := tasks } := by
  unfold MainThreadManager.chatTask
  dsimp only
  induction m.packets.keys generalizing m with
  | nil => rfl
  | cons mapId mapIds ih =>
    rw [List.foldl_cons, List.foldl_cons, sendPacketToMap_tasks]
    exact ih _

namespace ChatRun

variable {env : Env} {x : ChatRun} {m : MainThreadManager}

/-- The state with these queues and the main thread at this place. -/
def atPlace (x : ChatRun) (m : MainThreadManager) (main : ChatPlace) : ChatRun :=
  { x with server := { x.server with mainThreadManager := some m }, main }

theorem sends_alone (chat : Int32 × List UInt8) (mapIds : List Int32)
    (m : MainThreadManager) :
    Run (ChatStep env) (x.atPlace m (.sending chat mapIds))
      (List.replicate (mapIds.length + 1) .send)
      (x.atPlace (mapIds.foldl (fun m mapId => sendPacketToMap mapId (chatPacket chat) m) m)
        .inside) := by
  induction mapIds generalizing m with
  | nil => exact .single ⟨⟨nofun, nofun⟩, rfl⟩
  | cons mapId mapIds ih => exact .append (.single ⟨⟨nofun, nofun⟩, rfl⟩) (ih _)

theorem next_nil (hm : m.globalTasks = []) :
    (x.atPlace m .inside).next = x.atPlace m .outside := by
  have htasks : (x.atPlace m .inside).globalTasks = [] := hm
  unfold next
  rw [htasks]
  rfl

theorem next_cons {chat : Int32 × List UInt8} {rest : List (Int32 × List UInt8)}
    (hm : m.globalTasks = chat :: rest) :
    (x.atPlace m .inside).next
      = x.atPlace { m with globalTasks := rest } (.sending chat m.packets.keys) := by
  have htasks : (x.atPlace m .inside).globalTasks = chat :: rest := hm
  unfold next
  rw [htasks]
  rfl

/-- The main thread works its tasks off, if nobody comes between. -/
theorem tasks_alone (tasks : List (Int32 × List UInt8)) (hm : m.globalTasks = tasks) :
    ∃ es, (∀ e ∈ es, e = .next ∨ e = .send) ∧
      Run (ChatStep env) (x.atPlace m .inside) es
        (x.atPlace (tasks.foldl MainThreadManager.chatTask { m with globalTasks := [] })
          .outside) := by
  induction tasks generalizing m with
  | nil =>
    refine ⟨[.next], by simp, .single ⟨rfl, ?_⟩⟩
    rw [List.foldl_nil, ← hm]
    exact next_nil hm
  | cons chat rest ih =>
    let m' := MainThreadManager.chatTask { m with globalTasks := rest } chat
    have htasks : m'.globalTasks = rest := MainThreadManager.globalTasks_chatTask ..
    have hstart : { m' with globalTasks := [] }
        = MainThreadManager.chatTask { m with globalTasks := [] } chat := by
      rw [chatTask_tasks]
      show { MainThreadManager.chatTask { m with globalTasks := rest } chat with
        globalTasks := [] } = _
      rw [chatTask_tasks]
    obtain ⟨es, hes, hrun⟩ := ih htasks
    refine ⟨[.next] ++ List.replicate (m.packets.keys.length + 1) .send ++ es, ?_, ?_⟩
    · intro e he
      rcases List.mem_append.mp he with he | he
      · rcases List.mem_append.mp he with he | he
        · exact .inl (List.mem_singleton.mp he)
        · exact .inr (List.eq_of_mem_replicate he)
      · exact hes e he
    · rw [List.foldl_cons, ← hstart]
      exact ((Run.single ⟨rfl, next_cons hm⟩).append
        (sends_alone chat m.packets.keys { m with globalTasks := rest })).append hrun

/-- **Alone**, the main thread does what `processGlobalSystems` does in one step. -/
theorem alone_processGlobalSystems (env : Env) (x : ChatRun) (m : MainThreadManager) :
    ∃ es, (∀ e ∈ es, e = .enter ∨ e = .next ∨ e = .send) ∧
      Run (ChatStep env) (x.atPlace m .outside) es (x.atPlace m.processGlobalSystems .outside) := by
  obtain ⟨es, hes, hrun⟩ := @tasks_alone env x m m.globalTasks rfl
  refine ⟨[.enter] ++ es, ?_, (Run.single ⟨rfl, rfl⟩).append hrun⟩
  intro e he
  rcases List.mem_append.mp he with he | he
  · exact .inl (List.mem_singleton.mp he)
  · exact .inr (hes e he)

end ChatRun

/-! ## Where the chats are -/

/-- The chats among some packets. -/
def chatsIn (packets : List Packet) : List Packet := packets.filter (·.cmd = 0x1004)

theorem chatsIn_append (l l' : List Packet) : chatsIn (l ++ l') = chatsIn l ++ chatsIn l' :=
  List.filter_append ..

theorem chatsIn_move {packet : Packet} (h : packet.cmd = 0x1001) : chatsIn [packet] = [] := by
  simp [chatsIn, h]

theorem chatsIn_chatPacket (chat : Int32 × List UInt8) :
    chatsIn [chatPacket chat] = [chatPacket chat] := rfl

/-- The chat that an event brings. -/
def ChatEvent.posted : ChatEvent → Option (Int32 × List UInt8)
  | .io e => GameServer.posted e
  | _ => none

/-- The chat that the main thread has yet to send to a map. -/
def ChatPlace.inFlight : ChatPlace → Int32 → List Packet
  | .outside, _ | .inside, _ => []
  | .sending chat mapIds, mapId => if mapId ∈ mapIds then [chatPacket chat] else []

/-- The maps that are left in the task. -/
def ChatPlace.left : ChatPlace → List Int32
  | .outside | .inside => []
  | .sending _ mapIds => mapIds

namespace ChatRun

variable {env : Env} {x y : ChatRun}

/-- The packets that a map thread has handled. -/
def takenAt (x : ChatRun) (mapId : Int32) : List Packet :=
  (x.taken.filter (·.1 = mapId)).map Prod.snd

/-- The chats that a map thread has handled. -/
def chatsTaken (x : ChatRun) (mapId : Int32) : List Packet := chatsIn (x.takenAt mapId)

/-- **Every chat is somewhere**: for each map, the chats that it has handled, that wait in its
queue, that the main thread is about to send to it and that are still tasks are all chats, in
this order. -/
structure Broadcast (ids : List Int32) (chats : List (Int32 × List UInt8)) (x : ChatRun)
    (m : MainThreadManager) : Prop where
  manager : x.server.mainThreadManager = some m
  maps : ∀ id, id ∈ m.packets ↔ id ∈ ids
  left : x.main.left.Nodup
  order : ∀ id ∈ ids, x.chatsTaken id ++ chatsIn (m.queue id) ++ x.main.inFlight id
    ++ m.globalTasks.map chatPacket = chats.map chatPacket

namespace Broadcast

variable {ids : List Int32} {chats : List (Int32 × List UInt8)} {m : MainThreadManager}

/-- A packet that is no chat. -/
theorem route {mapId : Int32} {packet : Packet} (h : Broadcast ids chats x m)
    (hmove : packet.cmd = 0x1001) {server : GameServer}
    (hserver : server.mainThreadManager = some (sendPacketToMap mapId packet m)) :
    Broadcast ids chats { x with server } (sendPacketToMap mapId packet m) := by
  rcases m.sendPacketToMap_cases mapId packet with ⟨-, heq⟩ | ⟨-, hqueue, htasks, hmaps⟩
  · rw [heq] at hserver ⊢
    exact ⟨hserver, h.maps, h.left, h.order⟩
  · refine ⟨hserver, fun id => (hmaps id).trans (h.maps id), h.left, fun id hid => ?_⟩
    rw [htasks, ← h.order id hid, hqueue]
    by_cases hmap : id = mapId
    · subst hmap
      rw [Function.update_self, chatsIn_append, chatsIn_move hmove, List.append_nil]
      rfl
    · rw [Function.update_of_ne hmap]
      rfl

theorem io (h : Broadcast ids chats x m) {e : ServerEvent} {t : GameServer}
    (hstep : ServerStep env x.server e t) :
    ∃ m', Broadcast ids (chats ++ (posted e).toList) { x with server := t } m' := by
  rcases manager_step hstep h.manager with ⟨hnone, hsame⟩ | ⟨hnone, mapId, packet, hmove, hsent⟩ |
    ⟨chat, hsome, hqueued⟩
  · rw [hnone, Option.toList_none, List.append_nil]
    exact ⟨m, hsame, h.maps, h.left, h.order⟩
  · rw [hnone, Option.toList_none, List.append_nil]
    exact ⟨_, h.route hmove hsent⟩
  · refine ⟨_, hqueued, h.maps, h.left, fun id hid => ?_⟩
    rw [hsome, Option.toList_some, List.map_append, List.map_append, ← List.append_assoc,
      ← h.order id hid]
    rfl

theorem next (h : Broadcast ids chats x m) (hin : x.main = .inside) :
    ∃ m', Broadcast ids chats x.next m' := by
  have hflight : ∀ id, x.main.inFlight id = [] := by
    rw [hin]
    exact fun _ => rfl
  have htasks : x.globalTasks = m.globalTasks := by
    rw [globalTasks, h.manager, Option.elim_some]
  unfold ChatRun.next
  rw [htasks]
  cases hm : m.globalTasks with
  | nil =>
    refine ⟨m, h.manager, h.maps, List.nodup_nil, fun id hid => ?_⟩
    rw [← h.order id hid, hflight]
    rfl
  | cons chat rest =>
    refine ⟨{ m with globalTasks := rest }, ?_, h.maps, ?_, fun id hid => ?_⟩
    · show x.server.mainThreadManager.map _ = _
      rw [h.manager, Option.map_some]
    · show x.server.mapIds.Nodup
      rw [mapIds, h.manager]
      exact m.packets.keys_nodup
    · have hmem : id ∈ x.server.mapIds := by
        rw [mapIds, h.manager]
        exact (h.maps id).mpr hid
      rw [← h.order id hid, hflight, hm, List.append_nil]
      show _ ++ (if id ∈ x.server.mapIds then [chatPacket chat] else []) ++ rest.map chatPacket = _
      rw [if_pos hmem, List.append_assoc]
      rfl

/-- The main thread sends one packet of a chat. -/
theorem send (h : Broadcast ids chats x m) : ∃ m', Broadcast ids chats x.send m' := by
  unfold ChatRun.send
  cases hmain : x.main with
  | outside | inside => exact ⟨m, h⟩
  | sending chat mapIds =>
    have hleft := h.left
    rw [hmain] at hleft
    cases mapIds with
    | nil =>
      refine ⟨m, h.manager, h.maps, List.nodup_nil, fun id hid => ?_⟩
      have hflight : x.main.inFlight id = [] := by
        rw [hmain]
        rfl
      rw [← h.order id hid, hflight]
      rfl
    | cons mapId rest =>
      obtain ⟨hnew, hrest⟩ := List.nodup_cons.mp hleft
      have hmanager : (x.onManager (sendPacketToMap mapId (chatPacket chat))).mainThreadManager
          = some (sendPacketToMap mapId (chatPacket chat) m) :=
        congrArg (Option.map _) h.manager
      -- a map that the task still knows of is one of the maps
      have hflight : ∀ id, id ≠ mapId →
          x.main.inFlight id = (ChatPlace.sending chat rest).inFlight id := by
        intro id hne
        rw [hmain]
        simp [ChatPlace.inFlight, hne]
      rcases m.sendPacketToMap_cases mapId (chatPacket chat) with ⟨hnone, heq⟩ |
        ⟨hmem, hqueue, htasks, hmaps⟩
      · rw [heq] at hmanager
        refine ⟨m, hmanager, h.maps, hrest, fun id hid => ?_⟩
        have hne : id ≠ mapId := by
          rintro rfl
          exact hnone ((h.maps id).mpr hid)
        rw [← h.order id hid, hflight id hne]
        rfl
      · refine ⟨_, hmanager, fun id => (hmaps id).trans (h.maps id), hrest, fun id hid => ?_⟩
        rw [htasks, ← h.order id hid, hqueue]
        by_cases hid : id = mapId
        · subst hid
          have hnow : x.main.inFlight id = [chatPacket chat] := by
            rw [hmain]
            exact if_pos (.head _)
          have hdone : (ChatPlace.sending chat rest).inFlight id = [] := if_neg hnew
          rw [Function.update_self, chatsIn_append, chatsIn_chatPacket, hnow, hdone,
            List.append_nil, ← List.append_assoc]
          rfl
        · rw [Function.update_of_ne hid, hflight id hid]
          rfl

theorem takenAt_drain (x : ChatRun) (mapId id : Int32) :
    (x.drain mapId).takenAt id
      = x.takenAt id ++ if id = mapId then (x.server.queueOf mapId).head?.toList else [] := by
  unfold takenAt
  show ((x.taken ++ _).filter _).map _ = _
  rw [List.filter_append, List.map_append]
  congr 1
  cases (x.server.queueOf mapId).head? with
  | none => simp
  | some packet =>
    by_cases hid : id = mapId
    · simp [hid]
    · simp [hid, Ne.symm hid]

theorem drain (h : Broadcast ids chats x m) (mapId : Int32) :
    ∃ m', Broadcast ids chats (x.drain mapId) m' := by
  have hqueued : Threaded.Queued x.server m x.toThreaded := by
    rw [Threaded.Queued, ← h.manager]
  have hqueueOf : x.server.queueOf mapId = m.queue mapId := by
    rw [queueOf, h.manager, Option.elim_some]
  obtain ⟨m', hqueued', hqueue, htasks, hmaps⟩ := Threaded.processPacket_queued hqueued mapId
  refine ⟨m', congrArg mainThreadManager hqueued', fun id => (hmaps id).trans (h.maps id), h.left,
    fun id hid => ?_⟩
  rw [htasks, ← h.order id hid, hqueue, chatsTaken, takenAt_drain, hqueueOf, chatsIn_append]
  by_cases hid : id = mapId
  · subst hid
    rw [if_pos rfl, Function.update_self, List.append_assoc (chatsIn _), ← chatsIn_append]
    have hhead : (m.queue id).head?.toList ++ (m.queue id).tail = m.queue id := by
      cases m.queue id <;> rfl
    rw [hhead]
    rfl
  · rw [if_neg hid, Function.update_of_ne hid]
    show _ ++ [] ++ _ ++ _ ++ _ = _
    rw [List.append_nil]
    rfl

/-- **One step** of any thread. -/
theorem step {e : ChatEvent} (h : Broadcast ids chats x m) (hstep : ChatStep env x e y) :
    ∃ m', Broadcast ids (chats ++ e.posted.toList) y m' := by
  obtain ⟨hmay, rfl⟩ := hstep
  have hquiet : chats ++ [] = chats := List.append_nil chats
  cases e with
  | io e => exact h.io ⟨hmay.1, rfl⟩
  | enter =>
    have hmain : x.main = .outside := hmay
    refine ⟨m, h.manager, h.maps, List.nodup_nil, fun id hid => ?_⟩
    show _ = (chats ++ []).map chatPacket
    rw [hquiet, ← h.order id hid, hmain]
    rfl
  | next => exact hquiet.symm ▸ h.next hmay
  | send => exact hquiet.symm ▸ h.send
  | drain mapId => exact hquiet.symm ▸ h.drain mapId

theorem run {es : List ChatEvent} (h : Broadcast ids [] x m)
    (hrun : Run (ChatStep env) x es y) :
    ∃ m', Broadcast ids (es.filterMap ChatEvent.posted) y m' := by
  induction hrun with
  | nil => exact ⟨m, h⟩
  | @snoc es _ _ e _ hstep ih =>
    obtain ⟨m', h'⟩ := ih
    have hlast : [e].filterMap ChatEvent.posted = e.posted.toList := by
      cases hposted : e.posted <;> simp [hposted]
    rw [List.filterMap_append, hlast]
    exact h'.step hstep

end Broadcast

end ChatRun

/-- The server when its threads have started. -/
def ChatRun.started (s : GameServer) : ChatRun := { server := s }

/-- **Global chat is in order**: at any time in any run, what the thread of a map has handled
of the chats is the first of all chats that the io thread has dispatched, and it is all of
them when the main thread has no tasks and the map no packets left. So of any two maps, one
has handled the chats of the other and perhaps more. -/
theorem chats_in_order (env : Env) {s : GameServer} {m : MainThreadManager}
    (hmain : s.mainThreadManager = some m) (htasks : m.globalTasks = [])
    (hidle : ∀ mapId, m.queue mapId = []) {es : List ChatEvent} {y : ChatRun}
    (hrun : Run (ChatStep env) (.started s) es y) {mapId : Int32} (hmap : mapId ∈ s.mapIds) :
    y.chatsTaken mapId <+: (es.filterMap ChatEvent.posted).map chatPacket ∧
    (y.main = .outside → y.globalTasks = [] → y.server.queueOf mapId = [] →
      y.chatsTaken mapId = (es.filterMap ChatEvent.posted).map chatPacket) ∧
    ∀ id ∈ s.mapIds, y.chatsTaken mapId <+: y.chatsTaken id ∨
      y.chatsTaken id <+: y.chatsTaken mapId := by
  have hstart : ChatRun.Broadcast s.mapIds [] (.started s) m := by
    refine ⟨hmain, fun id => ?_, List.nodup_nil, fun id _ => ?_⟩
    · rw [mapIds, hmain]
      exact AList.mem_keys
    · rw [hidle, htasks]
      rfl
  obtain ⟨m', h⟩ := hstart.run hrun
  have hfirst : ∀ id ∈ s.mapIds,
      y.chatsTaken id <+: (es.filterMap ChatEvent.posted).map chatPacket := by
    intro id hid
    rw [← h.order id hid, List.append_assoc, List.append_assoc]
    exact List.prefix_append ..
  refine ⟨hfirst mapId hmap, fun hout hnone hempty => ?_, fun id hid => ?_⟩
  · have hqueue : m'.queue mapId = [] := by
      rw [queueOf, h.manager, Option.elim_some] at hempty
      exact hempty
    have htasks' : m'.globalTasks = [] := by
      rw [ChatRun.globalTasks, h.manager, Option.elim_some] at hnone
      exact hnone
    rw [← h.order mapId hmap, hqueue, htasks', hout]
    show _ = _ ++ [] ++ [] ++ []
    rw [List.append_nil, List.append_nil, List.append_nil]
  · exact List.prefix_or_prefix_of_prefix (hfirst mapId hmap) (hfirst id hid)

/-- Two chats on two maps: map 2 has handled both, map 1 the first. -/
theorem chats_in_order_twoMaps :
    let es : List ChatEvent :=
      [.io (.accept 1 0), .io (.frame 1 1003 [1]), .enter, .next, .send, .drain 1, .send, .send,
        .next, .io (.frame 1 1003 [2]), .enter, .next, .send, .drain 2, .drain 2]
    let y := es.foldl (ChatRun.step plainEnv) (.started twoMaps)
    Run (ChatStep plainEnv) (.started twoMaps) es y ∧
    (y.chatsTaken 1).map Packet.data = [[1]] ∧ (y.chatsTaken 2).map Packet.data = [[1], [2]] ∧
    y.chatsTaken 1 <+: (es.filterMap ChatEvent.posted).map chatPacket := by
  intro es y
  have hrun : Run (ChatStep plainEnv) (.started twoMaps) es y :=
    Run.of_along (by decide +kernel)
  exact ⟨hrun, by decide +kernel, by decide +kernel,
    (chats_in_order plainEnv rfl rfl twoMaps_idle hrun (by decide +kernel)).1⟩

end EcsAsioServer.GameServer
