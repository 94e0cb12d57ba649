import EcsAsioServer.Game.Closing

/-!
# Positions and health of players

The components of a player that `on_close` saves are `Position`, `Player` and `Health`. The
`Player` belongs to the sessions; here are the other two. A MOVE changes the position of its
own player, unless it is left to the map threads, an ATTACK the health of its target, and the
game threads change both. No other event does: what is sent, saved or closed leaves the
components alone, and a player who enters gets an entity of its own (`vitals_step`).
-/

namespace EcsAsioServer.GameServer

open Db Ecs FrameCodec Protocol StateProgram Transition

/-- Position and health of an entity. -/
def vitals (entity : Entity) (s : GameServer) : Option Position × Option Health :=
  (s.ecs.component .position entity, s.ecs.component .health entity)

section Programs

variable {entity : Entity} {s : GameServer}

theorem vitals_ecs {ecs : GameService ComponentType.Val}
    (h : ∀ t, t ≠ .player → ecs.component t entity = s.ecs.component t entity) :
    vitals entity { s with ecs } = vitals entity s :=
  Prod.ext (h .position (by decide)) (h .health (by decide))

theorem vitals_observation (entity : Entity) : Observation (vitals entity) where
  net _ _ _ := rfl
  same _ _ h := vitals_ecs fun t _ => h.component t entity
  mainThread _ _ := rfl
  pool _ _ := rfl

theorem vitals_closeWith {channelId : Int32} {ecs : GameService ComponentType.Val}
    (h : s.ClosedEcs channelId ecs) :
    vitals entity (s.closeWith channelId ecs) = vitals entity s := by
  refine vitals_ecs (s := s.closeWith channelId s.ecs) fun t _ => ?_
  rw [h.component t entity]
  split
  · exact s.ecs.component_destroyEntity ..
  · rfl

/-- A destroyed entity leaves its components behind, also when a channel closes. -/
theorem vitals_callChannel (hm : s.mtx = false) (channelId : Int32)
    {call : AsioChannel → AsioChannel × List Callback}
    (hcall : ∀ ch, AsioChannel.Ends ch (call ch)) :
    vitals entity (after (callChannel channelId call) s) = vitals entity s := by
  obtain ⟨net, heq | ⟨ecs, heq, hecs⟩⟩ := callChannel_free hm channelId hcall
  · rw [after_ok heq]
    rfl
  · rw [after_ok heq]
    exact vitals_closeWith hecs

variable (env : Env)

theorem vitals_reply (hm : s.mtx = false) (channelId : Int32) (msgId : UInt16) (data : List UInt8) :
    vitals entity (after (reply env channelId msgId data) s) = vitals entity s := by
  rw [reply, after_bind_ok (findChannel_free hm channelId)]
  split
  · exact vitals_callChannel hm channelId (sendPacket_ends env _)
  · rfl

/-! ## The handlers -/

/-- The place that a MOVE asks for, if it is not left to the map threads. -/
def moveTarget (s : GameServer) (payload : List UInt8) : Option Position :=
  match PlayerMoveReq.parse payload with
  | .error _ _ => none
  | .ok req _ =>
    if s.mainThreadManager.isSome = false ∧ s.config.useEcs then
      some { x := req.x, y := req.y, z := req.z }
    else none

theorem movePlayer_vitals (hm : s.mtx = false) (hentity : entity ≠ 0) (channelId : Int32)
    (req : PlayerMoveReq) :
    ∃ t, movePlayer channelId req s = .ok () t ∧
      vitals entity t = if s.sessions.entity channelId = entity then
          ((vitals entity s).1.map fun _ => { x := req.x, y := req.y, z := req.z },
            (vitals entity s).2)
        else vitals entity s := by
  let player := s.sessions.entity channelId
  let ecs₁ := (s.ecs.getComponent .position player).2
  have hsame : s.ecs.Same ecs₁ := s.ecs.same_getComponent ..
  have hfind : findEntity channelId s = .ok player s := withMtx_read hm _
  rw [movePlayer, bind_ok hfind]
  by_cases hplayer : player = 0
  · refine ⟨s, by rw [if_neg (not_not.mpr hplayer)]; rfl, ?_⟩
    rw [if_neg]
    exact fun heq => hentity (heq.symm.trans hplayer)
  rw [if_pos hplayer, bind_ok (getComponent_apply ..)]
  cases hpos : s.ecs.component .position player with
  | none =>
    refine ⟨{ s with ecs := ecs₁ }, rfl, ?_⟩
    rw [(vitals_observation entity).same s ecs₁ hsame]
    split
    · next heq =>
      subst heq
      refine Prod.ext ?_ rfl
      show s.ecs.component .position player = Option.map _ (s.ecs.component .position player)
      rw [hpos]
      rfl
    · rfl
  | some pos =>
    let moved : Position := { x := req.x, y := req.y, z := req.z }
    refine ⟨{ s with ecs := ecs₁.addComponent .position player moved }, rfl, ?_⟩
    split
    · next heq =>
      subst heq
      refine Prod.ext ((ecs₁.component_addComponent_self ..).trans ?_) ?_
      · show some moved = Option.map (fun _ => moved) (s.ecs.component .position player)
        rw [hpos]
        rfl
      · exact (ecs₁.component_addComponent_ne (by decide) ..).trans (hsame.component ..)
    · next hne =>
      refine vitals_ecs fun t _ => ?_
      exact (ecs₁.component_addComponent_other (Ne.symm hne) _).trans (hsame.component ..)

/-- MOVE sets the position of its sender only. -/
theorem handleMove_vitals (hm : s.mtx = false) (hentity : entity ≠ 0) (channelId : Int32)
    (payload : List UInt8) :
    vitals entity (after (handleMove env channelId payload) s)
      = if s.sessions.entity channelId = entity then
          ((vitals entity s).1.map fun pos => (s.moveTarget payload).getD pos,
            (vitals entity s).2)
        else vitals entity s := by
  have hobs := vitals_observation entity
  -- without a target the position stays
  have hstay : s.moveTarget payload = none →
      vitals entity s = if s.sessions.entity channelId = entity then
          ((vitals entity s).1.map fun pos => (s.moveTarget payload).getD pos,
            (vitals entity s).2)
        else vitals entity s := by
    intro hnone
    rw [hnone]
    split
    · exact Prod.ext (by simp) rfl
    · rfl
  unfold handleMove
  cases hparse : PlayerMoveReq.parse payload with
  | error _ _ =>
    have hnone : s.moveTarget payload = none := by simp [moveTarget, hparse]
    exact hstay hnone
  | ok req _ =>
    have hdirect : Quiet (vitals entity) (do
        broadcastExcept env channelId 1002 (moveNotice channelId req)
        sendTestFrame env channelId 1002 (ascii "ok")) :=
      (hobs.broadcastExcept env channelId 1002 _).bind fun _ =>
        hobs.sendTestFrame env channelId 1002 _
    dsimp only
    rw [after_bind_ok (get_apply s)]
    by_cases hmain : s.mainThreadManager.isSome = true
    · rw [if_pos hmain]
      exact hstay (by simp [moveTarget, hparse, hmain])
    rw [if_neg hmain, after_bind_ok (get_apply s)]
    by_cases hecs : s.config.useEcs = true
    · obtain ⟨t, hmove, ht⟩ := movePlayer_vitals hm hentity channelId req
      have htarget : s.moveTarget payload = some { x := req.x, y := req.y, z := req.z } := by
        simp [moveTarget, hparse, hmain, hecs]
      rw [if_pos hecs, after_bind_ok hmove, hdirect.after, ht, htarget]
      rfl
    · rw [if_neg hecs]
      exact (hdirect.after s).trans (hstay (by simp [moveTarget, hparse, hecs]))

/-- An attack that hits. -/
structure Hit where
  target : Int32
  damage : UInt32

/-- The hit of an ATTACK, if both players have entities. -/
def hit (s : GameServer) (channelId : Int32) (payload : List UInt8) : Option Hit :=
  match AttackReq.parse payload with
  | .error _ _ => none
  | .ok req _ =>
    if s.sessions.entity channelId ≠ 0 ∧ s.sessions.entity req.targetId.toInt32 ≠ 0 then
      some ⟨req.targetId.toInt32, attackDamage req⟩
    else none

theorem quiet_removeDead (targetChannel : Int32) (target : Entity) (hp : UInt32) :
    Quiet (vitals entity) (removeDead targetChannel target hp) := by
  refine .ite (.bind (.modify fun s => ?_) fun _ => ?_) (.pure _)
  · exact vitals_ecs fun t _ => s.ecs.component_destroyEntity ..
  · exact (vitals_observation entity).withMtx (.modify fun _ => rfl)

/-- ATTACK takes hit points from its target only. -/
theorem handleAttack_vitals (hm : s.mtx = false) (channelId : Int32) (payload : List UInt8) :
    vitals entity (after (handleAttack env channelId payload) s)
      = (s.hit channelId payload).elim (vitals entity s) fun h =>
          if s.sessions.entity h.target = entity then
            ((vitals entity s).1, (vitals entity s).2.map (damaged h.damage))
          else vitals entity s := by
  have hobs := vitals_observation entity
  unfold handleAttack hit
  cases AttackReq.parse payload with
  | error _ _ => rfl
  | ok req _ =>
    let attacker := s.sessions.entity channelId
    let target := s.sessions.entity req.targetId.toInt32
    have hfind : withMtx (do
        let s ← get
        return ((s.channelToEntity.lookup channelId).getD 0,
          (s.channelToEntity.lookup req.targetId.toInt32).getD 0)) s = .ok (attacker, target) s :=
      withMtx_read hm _
    dsimp only
    rw [after_bind_ok hfind]
    by_cases hmissing : attacker = 0 ∨ target = 0
    · rw [if_pos hmissing, (hobs.sendTestFrame env channelId 1004 _).after, if_neg]
      · rfl
      · exact fun h => hmissing.elim h.1 h.2
    rw [if_neg hmissing, if_pos (not_or.mp hmissing), Option.elim_some]
    obtain ⟨ecs, hdamage, -, hothers, hhealth⟩ := takeDamage_ok s target (attackDamage req)
    -- what follows the damage only reads, sends and destroys
    have hrest : ∀ u, vitals entity (after (do
        let remainingHp ← getHp target
        sendTestFrame env channelId 1004 (attackRes req remainingHp).serialize
        broadcastExcept env channelId 1004 (damageNotify channelId req remainingHp).serialize
        removeDead req.targetId.toInt32 target remainingHp) u) = vitals entity u := by
      refine Quiet.after (.bind ?_ fun hp => ?_)
      · refine (hobs.getComponent .health target).bind fun health => ?_
        cases health <;> exact .pure _
      · exact (hobs.sendTestFrame env channelId 1004 _).bind fun _ =>
          (hobs.broadcastExcept env channelId 1004 _).bind fun _ => quiet_removeDead _ _ hp
    rw [attackEntity, after_bind_ok hdamage]
    refine (hrest { s with ecs }).trans ?_
    split
    · next heq =>
      subst heq
      exact Prod.ext (hothers .position _ (.inl (by decide))) hhealth
    · next hne => exact vitals_ecs fun t _ => hothers t entity (.inr (Ne.symm hne))

theorem handleMapEnter_vitals (s : GameServer) (channelId : Int32) (payload : List UInt8) :
    vitals entity (after (handleMapEnter env channelId payload) s) = vitals entity s := by
  have hobs := vitals_observation entity
  have hset : ∀ mapId, Quiet (vitals entity) (setPlayerMapId channelId mapId) := by
    intro mapId
    refine hobs.withMtx (Quiet.get.bind fun s => ?_)
    cases s.channelToEntity.lookup channelId with
    | none => exact .pure _
    | some e =>
      refine (hobs.getComponent .player e).bind fun player => ?_
      cases player with
      | none => exact .pure _
      | some player =>
        exact .modify fun s => vitals_ecs fun t ht => s.ecs.component_addComponent_ne ht ..
  refine Quiet.after ?_ s
  unfold handleMapEnter
  cases MapEnterReq.parse payload with
  | error _ _ => exact .pure _
  | ok req _ =>
    refine Quiet.get.bind fun s => ?_
    cases s.config.maps.find? fun m => m.id = req.mapId.toInt32 with
    | none => exact hobs.sendTestFrame env channelId 1005 _
    | some mapCfg =>
      refine .bind ?_ fun _ => (hset _).bind fun _ => hobs.sendTestFrame env channelId 1005 _
      exact Quiet.get.bind fun _ => Quiet.get.bind fun _ => .ite (.modify fun _ => rfl) (.pure _)

end Programs

/-! ## Every event -/

/-- What the handler of a message makes of position and health of an entity. -/
def messageVitals (s : GameServer) (channelId : Int32) (payload : List UInt8) (entity : Entity) :
    MessageId → Option Position × Option Health
  | .move =>
    if s.sessions.entity channelId = entity then
      ((vitals entity s).1.map fun pos => (s.moveTarget payload).getD pos, (vitals entity s).2)
    else vitals entity s
  | .attack =>
    (s.hit channelId payload).elim (vitals entity s) fun h =>
      if s.sessions.entity h.target = entity then
        ((vitals entity s).1, (vitals entity s).2.map (damaged h.damage))
      else vitals entity s
  | _ => vitals entity s

/-- What an event makes of position and health of an entity. -/
def vitalsAfter (s : GameServer) (entity : Entity) : ServerEvent → Option Position × Option Health
  | .frame channelId cmd payload =>
    (messageId cmd).elim (vitals entity s) (s.messageVitals channelId payload entity)
  | .gameThreads ecs => (ecs.component .position entity, ecs.component .health entity)
  | _ => vitals entity s

section Events

variable {env : Env} {s t : GameServer} {e : ServerEvent} {entity : Entity}

theorem guildRequest_vitals (req : GuildRequest) (channelId : Int32) :
    vitals entity (after (req.run env channelId) s) = vitals entity s := by
  have hanswered := (vitals_observation entity).answered (req.after_run env channelId s)
  exact hanswered

/-- What a message does to position and hit points. -/
theorem handle_vitals (hm : s.mtx = false) (hdao : s.hasPlayerDao = true) (hentity : entity ≠ 0)
    (channelId : Int32) (payload : List UInt8) (msg : MessageId) :
    vitals entity (after (handle env channelId payload msg) s)
      = s.messageVitals channelId payload entity msg := by
  have hobs := vitals_observation entity
  cases msg with
  | ping => exact vitals_reply env hm channelId 2 _
  | echo => exact vitals_reply env hm channelId 100 _
  | login =>
    show vitals entity (after (handleLogin env channelId payload) s) = vitals entity s
    unfold handleLogin
    cases LoginReq.parse payload with
    | error _ _ => rfl
    | ok req _ =>
      dsimp only
      rw [after_bind_ok (get_apply s)]
      split
      · exact vitals_reply env hm channelId 1001 _
      · rw [after_bind_ok (get_apply s), if_pos hdao]
        exact (hobs.loginWithDb channelId req).after s
  | move => exact handleMove_vitals env hm hentity channelId payload
  | chat => exact (hobs.handleChat env channelId payload).after s
  | attack => exact handleAttack_vitals env hm channelId payload
  | mapEnter => exact handleMapEnter_vitals env s channelId payload
  | guildCreate => exact guildRequest_vitals (.create payload) channelId
  | guildJoin => exact guildRequest_vitals (.join payload) channelId
  | guildLeave => exact guildRequest_vitals .leave channelId

/-- The completion of a login gives the new entity what the row says. -/
theorem runCompletion_enters (hm : s.mtx = false) (hecs : s.config.useEcs = true) {i : Nat}
    {id : Int32} {playerName : List UInt8} {record : PlayerRecord} (hid : id ∈ s.channels)
    (hc : s.completions[i]? = some ⟨some record, id, playerName⟩) :
    let next := s.ecs.entityManager.nextEntityId
    ∃ ecs : GameService ComponentType.Val,
      ecs.component .position next
        = some ({ x := record.posX, y := record.posY, z := record.posZ } : Position) ∧
      ecs.component .health next = some
        ({ Health.make record.maxHp.toUInt32 50 with hp := record.hp.toUInt32 } : Health) ∧
      (∀ t e, e ≠ next → ecs.component t e = s.ecs.component t e) ∧
      ∀ entity, vitals entity (after (runCompletion env i) s) = vitals entity { s with ecs } := by
  intro next
  let s₁ : GameServer := { s with completions := s.completions.eraseIdx i }
  obtain ⟨ecs, henter, -, hposition, -, hhealth, hothers⟩ :=
    enterGame_ok (s := s₁) hm hecs id playerName record
  refine ⟨ecs, hposition, hhealth, hothers, fun entity => ?_⟩
  rw [after_runCompletion env hc, loginCompleted, after_bind_ok (findChannel_free (s := s₁) hm id),
    if_pos (decide_eq_true hid)]
  dsimp only
  rw [after_bind_ok henter]
  refine vitals_reply env ?_ id 1001 _
  exact hm

/-- It touches no other entity. -/
theorem runCompletion_vitals (hm : s.mtx = false) {i : Nat}
    (hnew : ∀ entry, s.completionEntry i = some entry → entity ≠ s.ecs.entityManager.nextEntityId) :
    vitals entity (after (runCompletion env i) s) = vitals entity s := by
  cases hc : s.completions[i]? with
  | none =>
    rw [runCompletion, after_bind_ok (get_apply s), hc]
    rfl
  | some c =>
    obtain ⟨record, id, playerName⟩ := c
    let s₁ : GameServer := { s with completions := s.completions.eraseIdx i }
    have hrun := after_runCompletion env hc
    rw [loginCompleted, after_bind_ok (findChannel_free (s := s₁) hm id)] at hrun
    by_cases hid : id ∈ s.channels
    · rw [if_pos (decide_eq_true hid)] at hrun
      cases record with
      | none =>
        rw [hrun]
        exact vitals_reply env (s := s₁) hm id 1001 _
      | some record =>
        cases hecs : s.config.useEcs with
        | false =>
          have henter : enterGame id playerName record s₁ = .ok 0 s₁ := by
            rw [enterGame, get_bind_apply, show s₁.config.useEcs = false from hecs]
            rfl
          dsimp only at hrun
          rw [hrun, after_bind_ok henter]
          exact vitals_reply env (s := s₁) hm id 1001 _
        | true =>
          obtain ⟨ecs, -, -, hothers, hafter⟩ :=
            @runCompletion_enters env s hm hecs i id playerName record hid hc
          have hne := hnew (recordEntry id playerName record)
            (by simp [completionEntry, hc, hid, hecs])
          rw [hafter]
          exact vitals_ecs fun t _ => hothers t entity hne
    · rw [hrun, if_neg (by simp [s₁, hid])]
      rfl

/-- **What an event does to position and health** of an entity, in a server with a database. -/
theorem vitals_step (hstep : ServerStep env s e t) (hm : s.mtx = false)
    (hdao : s.hasPlayerDao = true) (hentity : entity ≠ 0)
    (hnew : ∀ entry, s.entering e = some entry → entity ≠ s.ecs.entityManager.nextEntityId) :
    vitals entity t = s.vitalsAfter entity e := by
  obtain ⟨-, rfl⟩ := hstep
  cases e with
  | accept channelId now =>
    rw [act, after_ok (acceptChannel_ok hm channelId now)]
    rfl
  | frame channelId cmd payload =>
    rw [act, dispatch, vitalsAfter]
    cases messageId cmd with
    | none => rfl
    | some msg => exact handle_vitals hm hdao hentity channelId payload msg
  | written channelId now =>
    rw [act]
    exact vitals_callChannel hm channelId fun ch => ch.writeDone_ends env.order now
  | writeError channelId => exact vitals_callChannel hm channelId fun ch => ch.writeFailed_ends
  | readError channelId => exact vitals_callChannel hm channelId fun ch => ch.close_ends .read
  | idleTimer channelId now =>
    exact vitals_callChannel hm channelId fun ch => ch.idleExpired_ends now
  | pingTimer channelId =>
    exact vitals_callChannel hm channelId fun ch => ch.pingExpired_ends env.order
  | flushTimer => exact (vitals_observation entity).flushPlayers.after s
  | completion i => exact runCompletion_vitals hm hnew
  | strand channelId out =>
    obtain ⟨storage, completions, heq⟩ := runStrand_eq env s channelId out
    show vitals entity (s.runStrand env channelId out) = _
    rw [heq]
    rfl
  | gameThreads ecs => rfl

end Events

end EcsAsioServer.GameServer
