import EcsAsioServer.Game.Guilds

/-!
# Programs that leave a part of the server alone

Most of what a handler does is sending. A packet changes a channel object, and a send that
finds its queue full while `mtx_` is held stops the io thread; nothing else of the server
changes. The same goes for reading components, posting tasks to the pool and queueing work
for the map threads.

`Observation` is a view of the server in which none of this shows, and `Quiet` says of a
program that it leaves what is seen as it was, however the program ends. The sends and the
handlers that only send are quiet for every observation.
-/

namespace EcsAsioServer.GameServer

open Db Ecs FrameCodec Protocol StateProgram Transition

/-- A view of the server that does not show the channel objects, the lock, the pool, what
waits for the map threads and which component stores exist. -/
structure Observation {Ω : Type} (obs : GameServer → Ω) : Prop where
  net : ∀ s net mtx, obs { s with net, mtx } = obs s
  same : ∀ s ecs, s.ecs.Same ecs → obs { s with ecs } = obs s
  mainThread : ∀ s f, obs { s with mainThreadManager := s.mainThreadManager.map f } = obs s
  pool : ∀ s dbPool, obs { s with dbPool } = obs s

/-- The program changes nothing of what is observed, however it ends. -/
def Quiet {Ω α : Type} (obs : GameServer → Ω) (x : ServerM α) : Prop :=
  ∀ ω, Keeps (fun s => obs s = ω) (fun s => obs s = ω) x

variable {Ω : Type} {obs : GameServer → Ω}

section Quiet

variable {α β : Type} {x : ServerM α}

theorem Quiet.after (h : Quiet obs x) (s : GameServer) :
    obs (StateProgram.after x s) = obs s :=
  (h (obs s)).after_same rfl

theorem Quiet.of_after (h : ∀ s, obs (StateProgram.after x s) = obs s) : Quiet obs x := by
  intro ω s hs
  have hx := h s
  unfold StateProgram.after at hx
  cases hr : x s with
  | ok a t =>
    rw [hr] at hx
    exact hx.trans hs
  | error e t =>
    rw [hr] at hx
    exact hx.trans hs

theorem Quiet.pure (a : α) : Quiet obs (Pure.pure a : ServerM α) := fun _ => .pure a

theorem Quiet.get : Quiet obs (MonadState.get : ServerM GameServer) := fun _ => .get

theorem Quiet.bind {f : α → ServerM β} (hx : Quiet obs x) (hf : ∀ a, Quiet obs (f a)) :
    Quiet obs (x >>= f) := fun ω => (hx ω).bind fun a => hf a ω

theorem Quiet.ite {c : Prop} [Decidable c] {y : ServerM α} (hx : Quiet obs x)
    (hy : Quiet obs y) : Quiet obs (if c then x else y) :=
  fun ω => .ite (fun _ => hx ω) fun _ => hy ω

theorem Quiet.modify {f : GameServer → GameServer} (h : ∀ s, obs (f s) = obs s) :
    Quiet obs (modify f : ServerM PUnit) := fun _ => .modify fun s hs => (h s).trans hs

end Quiet

namespace Observation

variable {α : Type} (h : Observation obs) (env : Env)
include h

theorem mtx (s : GameServer) (mtx : Bool) : obs { s with mtx } = obs s := h.net s s.net mtx

/-- A critical section is quiet if its body is with the lock held. -/
theorem critical {x : ServerM α} (hx : ∀ ω, Triple (fun t => t.mtx = true ∧ obs t = ω) x
      (fun _ t => obs t = ω) fun _ t => obs t = ω) :
    Quiet obs (GameServer.withMtx x) := by
  intro ω s hs
  cases hm : s.mtx with
  | true =>
    rw [withMtx_locked hm]
    exact hs
  | false =>
    have hb := hx ω { s with mtx := true } ⟨rfl, (h.mtx s true).trans hs⟩
    cases hr : x { s with mtx := true } with
    | ok a t =>
      rw [hr] at hb
      rw [withMtx_ok hm hr]
      exact (h.mtx t false).trans hb
    | error e t =>
      rw [hr] at hb
      rw [withMtx_error hm hr]
      exact hb

theorem withMtx {x : ServerM α} (hx : Quiet obs x) : Quiet obs (withMtx x) :=
  h.critical fun ω => (hx ω).conseq (fun _ hs => hs.2) (fun _ _ hs => hs) fun _ _ hs => hs

theorem getComponent (t : ComponentType) (entity : Entity) :
    Quiet obs (getComponent t entity) := by
  intro ω s hs
  rw [getComponent_apply]
  exact (h.same s _ (s.ecs.same_getComponent t entity)).trans hs

theorem findEntity (channelId : Int32) : Quiet obs (findEntity channelId) :=
  h.withMtx (Quiet.get.bind fun _ => .pure _)

theorem answered {s t : GameServer} (hst : Answered s t) : obs t = obs s := by
  obtain ⟨net, mtx, -, rfl⟩ := hst
  exact h.net s net mtx

/-! ### Sending under the lock -/

theorem sendTestFrame (channelId : Int32) (msgId : UInt16) (data : List UInt8) :
    Quiet obs (sendTestFrame env channelId msgId data) :=
  .of_after fun s => h.answered (sendTestFrame_answered env channelId msgId data s)

/-- Sending to all channels. -/
theorem sendAll {send : Int32 → ServerM Unit}
    (hsend : ∀ id, send id = pure () ∨ ∃ pkt, send id = sendPacket env id pkt) :
    Quiet obs (GameServer.withMtx do (← get).channels.keys.forM send) := by
  refine h.critical fun ω => ?_
  -- as long as the mutex is held, a channel that closes stops the io thread
  have hloop : ∀ ids : List Int32, Keeps (fun t => t.mtx = true ∧ obs t = ω)
      (fun t => obs t = ω) (ids.forM send) := by
    refine fun ids => .forM fun id _ => ?_
    rcases hsend id with heq | ⟨pkt, heq⟩
    · rw [heq]
      exact .pure _
    · rw [heq]
      rintro t ⟨hm, ht⟩
      obtain ⟨net, -, hok | herror⟩ := callChannel_locked hm id (sendPacket_ends env pkt)
      · rw [sendPacket, hok]
        exact ⟨hm, (h.net t net t.mtx).trans ht⟩
      · rw [sendPacket, herror]
        exact (h.net t net t.mtx).trans ht
  exact (Keeps.get.bind fun s => hloop _).conseq (fun _ hs => hs) (fun _ _ hs => hs.2)
    fun _ _ hs => hs

theorem broadcast (cmd : UInt16) (data : List UInt8) :
    Quiet obs (broadcast env cmd data) :=
  h.sendAll env fun _ => .inr ⟨_, rfl⟩

theorem broadcastExcept (excludeChannelId : Int32) (cmd : UInt16) (data : List UInt8) :
    Quiet obs (broadcastExcept env excludeChannelId cmd data) :=
  h.sendAll env fun id => by
    by_cases hid : id = excludeChannelId
    · exact .inl (if_neg (not_not.mpr hid))
    · exact .inr ⟨_, if_pos hid⟩

/-! ### Handlers and timers that only send, read and post -/

/-- A MOVE is quiet if what it does to the `Position` is. -/
theorem handleMove (channelId : Int32) (payload : List UInt8)
    (hmove : ∀ req, Quiet obs (movePlayer channelId req)) :
    Quiet obs (handleMove env channelId payload) := by
  unfold GameServer.handleMove
  cases PlayerMoveReq.parse payload with
  | error _ _ => exact .pure _
  | ok req _ =>
    have hdirect : Quiet obs (do
        GameServer.broadcastExcept env channelId 1002 (moveNotice channelId req)
        GameServer.sendTestFrame env channelId 1002 (ascii "ok")) :=
      (h.broadcastExcept env channelId 1002 _).bind fun _ => h.sendTestFrame env channelId _ _
    refine Quiet.get.bind fun s => .ite (.modify fun s => ?_) (Quiet.get.bind fun s => .ite ?_ ?_)
    · exact h.mainThread s _
    · exact (hmove req).bind fun _ => hdirect
    · exact hdirect

theorem handleChat (channelId : Int32) (payload : List UInt8) :
    Quiet obs (handleChat env channelId payload) := by
  refine Quiet.get.bind fun s => .ite (.modify fun s => ?_) ?_
  · exact h.mainThread s _
  · exact (h.broadcast env 1003 _).bind fun _ => h.sendTestFrame env channelId _ _

theorem loginWithDb (channelId : Int32) (req : LoginReq) :
    Quiet obs (loginWithDb channelId req) :=
  .bind (h.withMtx (Quiet.get.bind fun _ => .pure _)) fun _ =>
    .ite (.modify fun s => h.pool s _) (.pure _)

theorem flushTask (entity : Entity) (dbId : Int64) : Quiet obs (flushTask entity dbId) :=
  (h.getComponent .position entity).bind fun _ =>
    (h.getComponent .player entity).bind fun _ => .pure _

theorem flushEntries (ids : List (Int32 × Int64)) : Quiet obs (flushEntries ids) := by
  induction ids with
  | nil => exact .pure _
  | cons id rest ih =>
    unfold GameServer.flushEntries
    refine Quiet.get.bind fun s => ?_
    split
    · exact (h.flushTask _ _).bind fun _ => ih.bind fun _ => .pure _
    · exact ih

theorem flushPlayers : Quiet obs flushPlayers := by
  refine Quiet.get.bind fun s => .ite ?_ (.pure _)
  refine Quiet.bind (h.withMtx (Quiet.get.bind fun _ => h.flushEntries _)) fun entries ω => ?_
  exact .forM fun e _ => .modify fun s hs => (h.pool s _).trans hs

end Observation

end EcsAsioServer.GameServer
