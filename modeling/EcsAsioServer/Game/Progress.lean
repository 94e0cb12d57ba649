import EcsAsioServer.Game.Saves
import EcsAsioServer.Game.Vitals

/-!
# What is left of a session

`PlayerProgress` is what `on_close` saves of a player: position, map, level, experience and hit
points. `progress` keeps an account of it next to a run: it starts with the row that the login
has loaded, and every game event of the session changes it as the game means it to. A MOVE
sets the position, an ATTACK takes hit points from its target, MAP_ENTER sets the map, and
after a turn of the game threads position and hit points are what their components say.

As long as the player lives, the components hold the account (`InGame.run`), and `on_close`
saves it but for level and experience, where it saves 1 and 0. After a kill it saves nothing.
So the account is written back exactly if the player is not killed and the row had these two
values from the start (`writesBack_iff`).
-/

namespace EcsAsioServer

open Db Ecs FrameCodec Protocol Strands StateProgram Transition

/-- What `on_close` saves of a player. -/
structure PlayerProgress where
  position : Position
  mapId : Int32
  level : Int32
  exp : Int32
  hp : Int32
deriving DecidableEq, Repr

namespace PlayerProgress

/-- What the row of a player says. -/
def loaded (r : PlayerRecord) : PlayerProgress where
  position := { x := r.posX, y := r.posY, z := r.posZ }
  mapId := r.mapId
  level := r.level
  exp := r.exp
  hp := r.hp

/-- A hit takes hit points, as many as there are. -/
def hurt (damage : UInt32) (p : PlayerProgress) : PlayerProgress :=
  { p with hp := (if damage < p.hp.toUInt32 then p.hp.toUInt32 - damage else 0).toInt32 }

/-- The row holds the progress, as far as its columns can. -/
structure Stored (my : MySql) (p : PlayerProgress) (row : PlayerRecord) : Prop where
  posX : row.posX = my.storedFloat p.position.x
  posY : row.posY = my.storedFloat p.position.y
  posZ : row.posZ = my.storedFloat p.position.z
  mapId : row.mapId = p.mapId
  level : row.level = p.level
  exp : row.exp = p.exp
  hp : row.hp = p.hp

end PlayerProgress

namespace GameServer

/-! ## The account -/

/-- What a message from `sender` makes of the progress of the player on `channelId`. -/
def messageProgress (s : GameServer) (channelId sender : Int32) (payload : List UInt8)
    (p : PlayerProgress) : MessageId → PlayerProgress
  | .move =>
    if sender = channelId then { p with position := (s.moveTarget payload).getD p.position } else p
  | .attack =>
    (s.hit sender payload).elim p fun h => if h.target = channelId then p.hurt h.damage else p
  | .mapEnter =>
    if sender = channelId then { p with mapId := (s.travelTarget payload).getD p.mapId } else p
  | _ => p

/-- What an event makes of the progress of the player on `channelId`. -/
def progressAfter (channelId : Int32) (s : GameServer) (p : PlayerProgress) :
    ServerEvent → PlayerProgress
  | .frame sender cmd payload =>
    (messageId cmd).elim p (s.messageProgress channelId sender payload p)
  | .gameThreads ecs =>
    let position : Option Position := ecs.component .position (s.sessions.entity channelId)
    let health : Option Health := ecs.component .health (s.sessions.entity channelId)
    { p with
      position := position.getD p.position
      hp := health.elim p.hp fun h => h.hp.toInt32 }
  | _ => p

/-- The progress after a list of events, which start in `s`. -/
def progress (env : Env) (channelId : Int32) (s : GameServer) (p : PlayerProgress)
    (es : List ServerEvent) : PlayerProgress :=
  (es.foldl (fun (x : GameServer × PlayerProgress) e =>
    (after (act env e) x.1, progressAfter channelId x.1 x.2 e)) (s, p)).2

theorem progress_snoc (env : Env) (channelId : Int32) (s : GameServer) (p : PlayerProgress)
    (es : List ServerEvent) (e : ServerEvent) :
    progress env channelId s p (es ++ [e])
      = progressAfter channelId (execute env s es) (progress env channelId s p es) e := by
  have hstate : ∀ es : List ServerEvent, (es.foldl (fun (x : GameServer × PlayerProgress) e =>
      (after (act env e) x.1, progressAfter channelId x.1 x.2 e)) (s, p)).1
      = execute env s es := by
    intro es
    induction es using List.reverseRecOn with
    | nil => rfl
    | append_singleton es e ih => rw [List.foldl_append, execute_append, ← ih]; rfl
  rw [progress, List.foldl_append, ← hstate es]
  rfl

/-- No event changes level and experience. -/
theorem progressAfter_level (channelId : Int32) (s : GameServer) (p : PlayerProgress)
    (e : ServerEvent) :
    (progressAfter channelId s p e).level = p.level ∧
      (progressAfter channelId s p e).exp = p.exp := by
  cases e with
  | frame sender cmd payload =>
    rw [progressAfter]
    cases messageId cmd with
    | none => exact ⟨rfl, rfl⟩
    | some msg =>
      cases msg with
      | move | mapEnter =>
        rw [Option.elim_some, messageProgress]
        split <;> exact ⟨rfl, rfl⟩
      | attack =>
        rw [Option.elim_some, messageProgress]
        cases s.hit sender payload with
        | none => exact ⟨rfl, rfl⟩
        | some h =>
          rw [Option.elim_some]
          split <;> exact ⟨rfl, rfl⟩
      | ping | echo | login | chat | guildCreate | guildJoin | guildLeave => exact ⟨rfl, rfl⟩
  | accept | written | writeError | readError | idleTimer | pingTimer | flushTimer | completion
  | strand | gameThreads => exact ⟨rfl, rfl⟩

theorem progress_level (env : Env) (channelId : Int32) (s : GameServer) (p : PlayerProgress)
    (es : List ServerEvent) :
    (progress env channelId s p es).level = p.level ∧
      (progress env channelId s p es).exp = p.exp := by
  induction es using List.reverseRecOn with
  | nil => exact ⟨rfl, rfl⟩
  | append_singleton es e ih =>
    rw [progress_snoc]
    obtain ⟨hlevel, hexp⟩ := progressAfter_level channelId (execute env s es)
      (progress env channelId s p es) e
    exact ⟨hlevel.trans ih.1, hexp.trans ih.2⟩

/-! ## The components -/

/-- The components of the entity hold the progress of the player. -/
structure Embodied (s : GameServer) (entity : Entity) (playerName : List UInt8)
    (p : PlayerProgress) : Prop where
  position : s.ecs.component .position entity = some p.position
  player : ∃ player : Player, s.ecs.component .player entity = some player ∧
    player.playerName = playerName ∧ player.mapId = p.mapId.toUInt32
  health : ∃ health : Health, s.ecs.component .health entity = some health ∧
    health.hp = p.hp.toUInt32

variable {s : GameServer}

/-- What `on_close` saves of them. -/
theorem Embodied.closeTaskOf_eq {entity : Entity} {playerName : List UInt8} {p : PlayerProgress}
    (h : Embodied s entity playerName p) (dbId : Int64) :
    closeTaskOf s.ecs entity dbId
      = .close dbId p.position.x p.position.y p.position.z p.mapId 1 0 p.hp playerName := by
  obtain ⟨player, hplayer, hname, hmap⟩ := h.player
  obtain ⟨health, hhealth, hhp⟩ := h.health
  unfold closeTaskOf
  rw [h.position, hplayer, hhealth]
  simp [hname, hmap, hhp]

/-- The events that the account of a session speaks of: the ids do not wrap around, the game
threads leave the players and their components in place, and the player does not log in again
(that would be the next session). -/
structure InSession (env : Env) (channelId : Int32) (s : GameServer) (e : ServerEvent) :
    Prop where
  orderly : Orderly env s e
  one_login : ∀ entry ∈ s.entering e, entry.channelId ≠ channelId
  components : ∀ ecs entity, e = .gameThreads ecs →
    s.channelToEntity.lookup channelId = some entity →
    (ecs.component .position entity).isSome ∧ (ecs.component .health entity).isSome

theorem inSession_of_io {env : Env} {channelId : Int32} {e : ServerEvent}
    (hio : ∀ ecs, e ≠ .gameThreads ecs)
    (hids : s.ecs.entityManager.nextEntityId < s.ecs.entityManager.nextEntityId + 1)
    (hlogin : ∀ entry ∈ s.entering e, entry.channelId ≠ channelId) : InSession env channelId s e :=
  ⟨orderly_of_ids hio hids, hlogin, fun ecs _ heq => absurd heq (hio ecs)⟩

/-- An event of a session, after which it still goes on. -/
def SessionStep (env : Env) (channelId : Int32) :
    GameServer → ServerEvent → GameServer → Prop :=
  staying (fun s => channelId ∈ s.channels ∧ s.mtx = false)
    (guarded (InSession env channelId) (ServerStep env))

/-- A list of events of a session in which the player is not killed. -/
theorem run_execute_session {env : Env} {channelId : Int32} {es : List ServerEvent}
    (h : Executable env s es)
    (hsession : Meets env (fun s e => s.killed e ≠ some channelId ∧ InSession env channelId s e)
      s es) (hstays : ∀ n < es.length, channelId ∈ (execute env s (es.take (n + 1))).channels ∧
      (execute env s (es.take (n + 1))).mtx = false) :
    Run (guarded (fun s e => s.killed e ≠ some channelId) (SessionStep env channelId)) s es
      (execute env s es) := by
  induction es generalizing s with
  | nil => exact .nil
  | cons e es ih =>
    have hfirst : guarded (fun s e => s.killed e ≠ some channelId) (SessionStep env channelId) s e
        (after (act env e) s) :=
      ⟨hsession.1.1, ⟨hsession.1.2, h.1, rfl⟩, hstays 0 (Nat.zero_lt_succ _)⟩
    refine (Run.single hfirst).append (ih h.2 hsession.2 fun n hn => ?_)
    exact hstays (n + 1) (Nat.succ_lt_succ hn)

/-- The session of a player: the row is bound to the channel, and while the player lives the
components hold the progress. -/
structure InGame (s : GameServer) (channelId : Int32) (dbId : Int64) (playerName : List UInt8)
    (p : PlayerProgress) : Prop where
  free : s.mtx = false
  ready : DbReady s
  registered : channelId ∈ s.channels
  row : s.channelToDbId.lookup channelId = some dbId
  ne_zero : s.channelToEntity.lookup channelId ≠ some 0
  body : ∀ entity, s.channelToEntity.lookup channelId = some entity →
    Embodied s entity playerName p

section Step

variable {env : Env} {s t : GameServer} {e : ServerEvent} {channelId : Int32} {entity : Entity}

/-- No other channel has the entity. -/
theorem entity_eq_iff (h : s.sessions.Tied) (hlookup : s.sessions.entities.lookup channelId
    = some entity) (id : Int32) : s.sessions.entity id = entity ↔ id = channelId := by
  rw [← Sessions.lookup_eq_some_iff (h.linked _ _ hlookup).ne_zero]
  exact ⟨fun hid => h.inj id channelId entity hid hlookup, fun heq => heq ▸ hlookup⟩

/-- The row of a channel changes only with a login on it. -/
theorem lookup_row_after (hlogin : ∀ entry ∈ s.entering e, entry.channelId ≠ channelId) :
    (sessionsAfter env s e).dbIds.lookup channelId = s.channelToDbId.lookup channelId := by
  cases hev : sessionEvent env s e with
  | none => rw [sessionsAfter_none hev]; rfl
  | some ev =>
    rw [sessionsAfter_some hev]
    cases ev with
    | leave id => cases sessionEvent_change hev
    | connect | travel | kill | simulate => rfl
    | enter entry =>
      have hne := hlogin entry (sessionEvent_enter_iff.mp hev)
      show (entry.dbId.elim s.channelToDbId _).lookup channelId = _
      cases entry.dbId with
      | none => rfl
      | some dbId => exact AList.lookup_insert_ne hne.symm

/-- Its entity goes with a kill. -/
theorem lookup_entity_after (hfree : (after (act env e) s).mtx = false)
    (hlogin : ∀ entry ∈ s.entering e, entry.channelId ≠ channelId) :
    (sessionsAfter env s e).entities.lookup channelId
      = if s.killed e = some channelId then none else s.channelToEntity.lookup channelId := by
  have hother : (∀ target, sessionEvent env s e ≠ some (.kill target)) →
      s.killed e ≠ some channelId :=
    fun h hkilled => h channelId (sessionEvent_kill_iff.mpr ⟨hkilled, hfree⟩)
  cases hev : sessionEvent env s e with
  | none =>
    rw [sessionsAfter_none hev, if_neg (hother (by simp [hev]))]
    rfl
  | some ev =>
    rw [sessionsAfter_some hev]
    cases ev with
    | leave id => cases sessionEvent_change hev
    | connect | travel | simulate =>
      rw [if_neg (hother (by simp [hev]))]
      rfl
    | enter entry =>
      rw [if_neg (hother (by simp [hev])), Sessions.apply, Sessions.lookup_entities_enter, if_neg]
      · rfl
      · exact (hlogin entry (sessionEvent_enter_iff.mp hev)).symm
    | kill target =>
      have hkilled : s.killed e = some target := (sessionEvent_kill_iff.mp hev).1
      by_cases htarget : target = channelId
      · subst htarget
        rw [if_pos hkilled]
        exact AList.lookup_erase ..
      · rw [hkilled, if_neg (by simpa using htarget)]
        exact AList.lookup_erase_ne (Ne.symm htarget)

/-- The `Player` of the entity changes only when the player travels. -/
theorem player_after (htied : s.sessions.Tied) (horderly : Orderly env s e)
    (hlookup : s.sessions.entities.lookup channelId = some entity) :
    (∃ mapId, sessionEvent env s e = some (.travel channelId mapId) ∧
      (sessionsAfter env s e).players entity
        = (s.sessions.players entity).map fun player =>
          { player with mapId := mapId.toUInt32 }) ∨
    (∀ mapId, sessionEvent env s e ≠ some (.travel channelId mapId)) ∧
      (sessionsAfter env s e).players entity = s.sessions.players entity := by
  cases hev : sessionEvent env s e with
  | none => exact .inr ⟨by simp, by rw [sessionsAfter_none hev]⟩
  | some ev =>
    rw [sessionsAfter_some hev]
    cases ev with
    | leave id => cases sessionEvent_change hev
    | connect | kill => exact .inr ⟨by simp, rfl⟩
    | enter entry =>
      refine .inr ⟨by simp, Function.update_of_ne ?_ _ _⟩
      exact fun heq => UInt32.lt_irrefl _ (heq ▸ (htied.linked _ _ hlookup).issued)
    | simulate manager players =>
      exact .inr ⟨by simp, congrFun (horderly.sessions hev).players_eq entity⟩
    | travel id mapId =>
      by_cases hid : id = channelId
      · subst hid
        refine .inl ⟨mapId, rfl, ?_⟩
        show (s.sessions.entities.lookup id).elim s.sessions.players
          (Sessions.relocate s.sessions.players mapId.toUInt32) entity = _
        rw [hlookup]
        exact Function.update_self ..
      · refine .inr ⟨by simp [hid], ?_⟩
        show (s.sessions.entities.lookup id).elim s.sessions.players
          (Sessions.relocate s.sessions.players mapId.toUInt32) entity = _
        cases hlookup' : s.sessions.entities.lookup id with
        | none => rfl
        | some other =>
          refine Function.update_of_ne (fun heq => hid ?_) _ _
          exact htied.inj id channelId entity (heq ▸ hlookup') hlookup

/-- The account of the map. -/
theorem mapId_progressAfter (p : PlayerProgress) :
    (∀ mapId, sessionEvent env s e = some (.travel channelId mapId) →
      (progressAfter channelId s p e).mapId = mapId) ∧
    ((∀ mapId, sessionEvent env s e ≠ some (.travel channelId mapId)) →
      (progressAfter channelId s p e).mapId = p.mapId) := by
  constructor
  · intro mapId hev
    cases sessionEvent_change hev with
    | mapEnter hcmd htarget => simp [progressAfter, hcmd, messageProgress, htarget]
  · intro hno
    cases e with
    | frame sender cmd payload =>
      rw [progressAfter]
      cases hmsg : messageId cmd with
      | none => rfl
      | some msg =>
        rw [Option.elim_some]
        cases msg with
        | ping | echo | login | chat | guildCreate | guildJoin | guildLeave => rfl
        | move =>
          rw [messageProgress]
          split <;> rfl
        | attack =>
          rw [messageProgress]
          cases s.hit sender payload with
          | none => rfl
          | some h =>
            rw [Option.elim_some]
            split <;> rfl
        | mapEnter =>
          rw [messageProgress]
          split
          · next hsender =>
            subst hsender
            cases htarget : s.travelTarget payload with
            | none => rfl
            | some mapId =>
              exact absurd (by simp [sessionEvent, hmsg, messageEvent, htarget]) (hno mapId)
          · rfl
    | accept | written | writeError | readError | idleTimer | pingTimer | flushTimer | completion
    | strand | gameThreads => rfl

/-- Position and health of a living player follow the account. -/
theorem vitals_progressAfter {p : PlayerProgress} {playerName : List UInt8}
    (htied : s.sessions.Tied)
    (hlookup : s.sessions.entities.lookup channelId = some entity)
    (hbody : Embodied s entity playerName p) (hsession : InSession env channelId s e) :
    (s.vitalsAfter entity e).1 = some (progressAfter channelId s p e).position ∧
      ∃ health : Health, (s.vitalsAfter entity e).2 = some health ∧
        health.hp = (progressAfter channelId s p e).hp.toUInt32 := by
  have hposition : (vitals entity s).1 = some p.position := hbody.position
  obtain ⟨health, hhealth, hhp⟩ := hbody.health
  replace hhealth : (vitals entity s).2 = some health := hhealth
  have hsame : (vitals entity s).1 = some p.position ∧
      ∃ health : Health, (vitals entity s).2 = some health ∧ health.hp = p.hp.toUInt32 :=
    ⟨hposition, health, hhealth, hhp⟩
  have howner := entity_eq_iff htied hlookup
  cases e with
  | frame sender cmd payload =>
    rw [vitalsAfter, progressAfter]
    cases messageId cmd with
    | none => exact hsame
    | some msg =>
      rw [Option.elim_some, Option.elim_some]
      cases msg with
      | ping | echo | login | chat | guildCreate | guildJoin | guildLeave => exact hsame
      | mapEnter =>
        rw [messageProgress]
        split <;> exact hsame
      | move =>
        rw [messageVitals, messageProgress]
        simp only [howner]
        split
        · exact ⟨by rw [hposition]; rfl, health, hhealth, hhp⟩
        · exact hsame
      | attack =>
        rw [messageVitals, messageProgress]
        cases s.hit sender payload with
        | none => exact hsame
        | some h =>
          simp only [Option.elim_some, howner]
          split
          · refine ⟨hposition, damaged h.damage health, by rw [hhealth]; rfl, ?_⟩
            simp [damaged, PlayerProgress.hurt, hhp]
          · exact hsame
  | gameThreads ecs =>
    obtain ⟨hpos, hhealth'⟩ := hsession.components ecs entity rfl hlookup
    obtain ⟨pos, hpos⟩ := Option.isSome_iff_exists.mp hpos
    obtain ⟨health', hhealth'⟩ : ∃ health' : Health, ecs.component .health entity = some health' :=
      Option.isSome_iff_exists.mp hhealth'
    have hentity : s.sessions.entity channelId = entity := (howner channelId).mpr rfl
    simp only [vitalsAfter, progressAfter, hentity, hpos, hhealth']
    exact ⟨rfl, health', rfl, by simp⟩
  | accept | written | writeError | readError | idleTimer | pingTimer | flushTimer | completion
  | strand => exact hsame

variable {dbId : Int64} {playerName : List UInt8} {p : PlayerProgress}

/-- **One event of a session**: the components of a player who lives on follow the account. -/
theorem InGame.step (h : InGame s channelId dbId playerName p) (htied : s.sessions.Tied)
    (hstep : SessionStep env channelId s e t) :
    InGame t channelId dbId playerName (progressAfter channelId s p e) ∧
      (channelId ∈ t.channelToEntity ↔
        channelId ∈ s.channelToEntity ∧ s.killed e ≠ some channelId) := by
  obtain ⟨⟨hsession, hserver⟩, hopen, hfree⟩ := hstep
  obtain ⟨hentities, hrows, hplayers⟩ := sessions_of_open hserver hopen
  have hready : DbReady t :=
    ((dbReady_kept env).step_free h.ready hserver).resolve_right (by simp [hfree])
  have hentity : t.channelToEntity.lookup channelId
      = if s.killed e = some channelId then none else s.channelToEntity.lookup channelId :=
    hentities.trans
      (lookup_entity_after (by rw [hserver.2]; exact hfree) hsession.one_login)
  refine ⟨⟨hfree, hready, hopen, ?_, ?_, ?_⟩, ?_⟩
  · exact (hrows.trans (lookup_row_after hsession.one_login)).trans h.row
  · rw [hentity]
    split
    · simp
    · exact h.ne_zero
  · intro entity hlookup
    rw [hentity] at hlookup
    split at hlookup
    · cases hlookup
    have hbody := h.body entity hlookup
    have hlinked := htied.linked _ _ hlookup
    have hvitals : vitals entity t = s.vitalsAfter entity e := by
      refine vitals_step hserver h.free h.ready.dao hlinked.ne_zero fun entry _ heq => ?_
      exact UInt32.lt_irrefl _ (heq ▸ hlinked.issued)
    obtain ⟨hposition, hhealth⟩ := vitals_progressAfter htied hlookup hbody hsession
    rw [← hvitals] at hposition hhealth
    refine ⟨hposition, ?_, hhealth⟩
    obtain ⟨player, hplayer, hname, hmap⟩ := hbody.player
    obtain ⟨htravel, hstay⟩ := @mapId_progressAfter env s e channelId p
    rcases player_after htied hsession.orderly hlookup with ⟨mapId, hev, hafter⟩ | ⟨hno, hafter⟩
    · refine ⟨{ player with mapId := mapId.toUInt32 }, ?_, hname, ?_⟩
      · refine (congrFun hplayers entity).trans (hafter.trans ?_)
        show Option.map _ (s.ecs.component .player entity) = _
        rw [hplayer]
        rfl
      · rw [htravel mapId hev]
    · refine ⟨player, (congrFun hplayers entity).trans (hafter.trans hplayer), hname, ?_⟩
      rw [hstay hno]
      exact hmap
  · rw [← AList.lookup_isSome, ← AList.lookup_isSome, hentity]
    split <;> simp [*]

end Step

/-! ## Whole sessions -/

section Session

variable {env : Env} {s t u : GameServer} {es : List ServerEvent} {e : ServerEvent}
  {channelId : Int32} {dbId : Int64} {playerName : List UInt8} {p : PlayerProgress}

theorem tied_session (htied : s.sessions.Tied) (hrun : Run (SessionStep env channelId) s es t) :
    t.sessions.Tied :=
  hrun.invariant (I := fun s => s.sessions.Tied) htied
    fun _ _ _ hs hst => tied_step hs ⟨hst.1.1.orderly, hst.1.2⟩

/-- **Along a session** the components of the living player hold the account. -/
theorem InGame.run (h : InGame s channelId dbId playerName p) (htied : s.sessions.Tied)
    (hrun : Run (SessionStep env channelId) s es t) :
    InGame t channelId dbId playerName (progress env channelId s p es) := by
  induction hrun with
  | nil => exact h
  | snoc hpre hstep ih =>
    have hstate := (hpre.mono fun _ _ _ hst => hst.1.2.2).eq_foldl
    rw [progress_snoc, execute, ← hstate]
    exact (ih.step (tied_session htied hpre) hstep).1

/-- The player lives exactly if no event was a kill. -/
theorem InGame.lives_iff (h : InGame s channelId dbId playerName p) (htied : s.sessions.Tied)
    (hlives : channelId ∈ s.channelToEntity) (hrun : Run (SessionStep env channelId) s es t) :
    channelId ∈ t.channelToEntity ↔
      Run (guarded (fun s e => s.killed e ≠ some channelId) (SessionStep env channelId)) s es t :=
  hrun.guarded_iff
    (I := fun s => s.sessions.Tied ∧ ∃ p, InGame s channelId dbId playerName p) ⟨htied, p, h⟩ hlives
    (fun _ _ _ ⟨hs, _, hin⟩ hst =>
      ⟨tied_step hs ⟨hst.1.1.orderly, hst.1.2⟩, _, (hin.step hs hst).1⟩)
    fun _ _ _ ⟨hs, _, hin⟩ hst => (hin.step hs hst).2

/-- What `on_close` posts. -/
theorem InGame.close (h : InGame u channelId dbId playerName p) (hpos : 0 < dbId)
    (hclose : ServerStep env u e t) (hgone : channelId ∉ t.channels)
    (hlogin : ∀ entry ∈ u.entering e, entry.channelId ≠ channelId) :
    t.dbPool = if channelId ∈ u.channelToEntity then
        u.dbPool.post channelId (.close dbId p.position.x p.position.y p.position.z p.mapId 1 0
          p.hp playerName)
      else u.dbPool := by
  obtain ⟨w, hclosed, hentry, hnone⟩ := step_closes hclose h.registered hgone
  -- only the channel that a player enters on may close afterwards
  have hnoenter : ∀ entry, sessionEvent env u e ≠ some (.enter entry) := fun entry hev =>
    hlogin entry (sessionEvent_enter_iff.mp hev) (hentry entry hev)
  obtain ⟨hev, hecs⟩ := hnone hnoenter
  have hrow : u.sessions.dbIds.lookup channelId = some dbId := h.row
  rw [hclosed.pool h.ready h.registered, sessionsAfter_none hev, hrow, hecs, Option.getD_some]
  cases hlookup : u.channelToEntity.lookup channelId with
  | none =>
    have hentity : u.sessions.entity channelId = 0 := congrArg (Option.getD · 0) hlookup
    rw [if_neg (by simp [hentity]), if_neg (AList.lookup_eq_none.mp hlookup)]
  | some entity =>
    have hentity : u.sessions.entity channelId = entity := congrArg (Option.getD · 0) hlookup
    have hne : entity ≠ 0 := fun heq => h.ne_zero (heq ▸ hlookup)
    rw [hentity, if_pos ⟨hpos, hne⟩, if_pos (mem_of_lookup hlookup),
      (h.body entity hlookup).closeTaskOf_eq]

/-- A completed login registers no channel. -/
theorem registered_before_completion {i : Nat} (hstep : ServerStep env s (.completion i) t)
    (hin : channelId ∈ t.channels) : channelId ∈ s.channels := by
  have hchannels : (sessionsAfter env s (.completion i)).channels = s.channels := by
    rw [sessionsAfter, sessionEvent]
    cases s.completionEntry i <;> rfl
  change channelId ∈ t.sessions.channels at hin
  obtain ⟨id, hsame | hleft, -⟩ := serverStep_sessions hstep
  · rw [hsame, hchannels] at hin
    exact hin
  · rw [hleft] at hin
    rw [← hchannels]
    exact (AList.mem_erase.mp hin).2

/-- The login puts the row into the components of a new entity. -/
theorem inGame_of_completion {i : Nat} {r : PlayerRecord} (hready : DbReady s)
    (hecs : s.config.useEcs = true)
    (hc : s.completions[i]? = some ⟨some r, channelId, playerName⟩) (hid : 0 < r.id)
    (hlogin : ServerStep env s (.completion i) t) (hnext : s.ecs.createEntity.1 ≠ 0)
    (hin : channelId ∈ t.channels) :
    InGame t channelId r.id playerName (.loaded r) ∧ channelId ∈ t.channelToEntity := by
  have hm : s.mtx = false := hlogin.1.1
  have hfree : t.mtx = false := by
    rw [← hlogin.2]
    exact ((free_runCompletion env i).after hm).resolve_right id
  have hready' : DbReady t :=
    ((dbReady_kept env).step_free hready hlogin).resolve_right (by simp [hfree])
  have hid' : channelId ∈ s.channels := registered_before_completion hlogin hin
  let entry := recordEntry channelId playerName r
  have hentry : sessionEvent env s (.completion i) = some (.enter entry) := by
    simp [sessionEvent, completionEntry, hc, hid', hecs, entry]
  obtain ⟨hentities, hrows, hplayers⟩ := sessions_of_open hlogin hin
  rw [sessionsAfter_some hentry] at hentities hrows hplayers
  have hlookup : t.channelToEntity.lookup channelId = some s.ecs.entityManager.nextEntityId := by
    refine hentities.trans ?_
    rw [Sessions.apply, Sessions.lookup_entities_enter,
      if_pos (show channelId = entry.channelId from rfl)]
    rfl
  refine ⟨⟨hfree, hready', hin, ?_, ?_, ?_⟩, mem_of_lookup hlookup⟩
  · refine hrows.trans ?_
    rw [Sessions.apply, Sessions.lookup_dbIds_enter (show entry.dbId = some r.id from if_pos hid),
      if_pos (show channelId = entry.channelId from rfl)]
  · rw [hlookup]
    exact fun heq => hnext (Option.some.inj heq)
  · intro entity hentity
    obtain rfl : s.ecs.entityManager.nextEntityId = entity :=
      Option.some.inj (hlookup.symm.trans hentity)
    obtain ⟨ecs, hposition, hhealth, -, hafter⟩ := runCompletion_enters hm hecs hid' hc
    have hvitals := hafter s.ecs.entityManager.nextEntityId
    rw [show after (runCompletion env i) s = t from hlogin.2] at hvitals
    refine ⟨(congrArg Prod.fst hvitals).trans hposition, ?_, ?_⟩
    · exact ⟨entry.player _, (congrFun hplayers _).trans (Function.update_self ..), rfl, rfl⟩
    · exact ⟨_, (congrArg Prod.snd hvitals).trans hhealth, rfl⟩

/-- `on_close` of the channel, in the event from `u` to `t`, writes back the progress: it posts a
task that leaves the row with it whenever both saves succeed. -/
def WritesBack (my : MySql) (u t : GameServer) (channelId : Int32) (dbId : Int64)
    (p : PlayerProgress) : Prop :=
  ∃ task, t.dbPool = u.dbPool.post channelId task ∧
    ∀ (st : Storage) (out : DbOutcome), saveSucceeds out.position = true →
      saveSucceeds out.stats = true →
      ∀ row ∈ (st.run my out task).1.db.rows, row.id = dbId → p.Stored my row

/-- The task of `on_close` stores what it holds. -/
theorem writesBack_close_iff {my : MySql} {level exp : Int32}
    (hpool : t.dbPool = u.dbPool.post channelId (.close dbId p.position.x p.position.y p.position.z
      p.mapId level exp p.hp playerName)) :
    WritesBack my u t channelId dbId p ↔ p.level = level ∧ p.exp = exp := by
  constructor
  · rintro ⟨task, hpost, hstored⟩
    obtain rfl := post_injective (hpost.symm.trans hpool)
    -- a table in which the row is
    let st : Storage := { db := { rows := [{ id := dbId }] } }
    obtain ⟨row, hrow, hid⟩ : ∃ row ∈ (st.runClose my dbId p.position.x p.position.y p.position.z
        p.mapId level exp p.hp playerName {}).db.rows, row.id = dbId :=
      Storage.runClose_keeps_row (by decide) (by decide) (List.mem_singleton.mpr rfl) rfl
    obtain ⟨⟨hlevel, hexp, -⟩, -⟩ := Storage.runClose_row (by decide) (by decide) hrow hid
    have hrow' := hstored st {} (by decide) (by decide) row hrow hid
    exact ⟨hrow'.level.symm.trans hlevel, hrow'.exp.symm.trans hexp⟩
  · rintro ⟨rfl, rfl⟩
    refine ⟨_, hpool, fun st out hposition hstats row hrow hid => ?_⟩
    obtain ⟨⟨hlevel, hexp, hhp, hmap⟩, hx, hy, hz⟩ :=
      Storage.runClose_row hposition hstats hrow hid
    exact ⟨hx, hy, hz, hmap, hlevel, hexp, hhp⟩

/-- The session of a stored player between login and close, in a server with a database: the
completion of the login leads from `before` to `s`, the session to `u`, and `e` closes the
channel. -/
structure PlayedSession (env : Env) (channelId : Int32) (playerName : List UInt8)
    (r : PlayerRecord) (s : GameServer) (es : List ServerEvent) (u : GameServer) (e : ServerEvent)
    (t : GameServer) : Prop where
  dbId_pos : 0 < r.id
  login : ∃ start es₀ before i, ServerInit start ∧ NoPlayers start ∧
    start.hasPlayerDao = true ∧ start.hasDbPool = true ∧
    Run (guarded (Orderly env) (ServerStep env)) start es₀ before ∧
    before.config.useEcs = true ∧
    before.completions[i]? = some ⟨some r, channelId, playerName⟩ ∧
    guarded (Orderly env) (ServerStep env) before (.completion i) s
  registered : channelId ∈ s.channels
  session : Run (SessionStep env channelId) s es u
  close : ServerStep env u e t
  last : ∀ entry ∈ u.entering e, entry.channelId ≠ channelId
  gone : channelId ∉ t.channels

/-- **What a session leaves.** `on_close` writes back what was loaded at the login, as the events
of the session have changed it, exactly if none of them was a kill of the player and the row had
level 1 and experience 0. -/
theorem writesBack_iff {r : PlayerRecord}
    (h : PlayedSession env channelId playerName r s es u e t) :
    WritesBack env.mySql u t channelId r.id (progress env channelId s (.loaded r) es) ↔
      Run (guarded (fun s e => s.killed e ≠ some channelId) (SessionStep env channelId)) s es u ∧
        r.level = 1 ∧ r.exp = 0 := by
  obtain ⟨start, es₀, before, i, hinit, hnone, hdao, hpool, hbefore, hecs, hc, hlogin⟩ := h.login
  have hready : DbReady before := by
    refine ((dbReady_kept env).run (dbReady_init hinit hdao hpool)
      hbefore.of_guarded).resolve_right ?_
    rw [hlogin.2.1.1]
    decide
  have htied : before.sessions.Tied :=
    hbefore.invariant (I := fun s => s.sessions.Tied) (tied_init hinit hnone)
      fun _ _ _ hs hst => tied_step hs hst
  obtain ⟨hingame, hlives⟩ :=
    inGame_of_completion hready hecs hc h.dbId_pos hlogin.2 htied.next_ne_zero h.registered
  have htied' := tied_step htied hlogin
  have hend := hingame.run htied' h.session
  obtain ⟨hlevel, hexp⟩ := progress_level env channelId s (.loaded r) es
  have hposted := hend.close h.dbId_pos h.close h.gone h.last
  rw [← hingame.lives_iff htied' hlives h.session]
  by_cases halive : channelId ∈ u.channelToEntity
  · rw [if_pos halive] at hposted
    rw [writesBack_close_iff hposted, hlevel, hexp]
    exact (and_iff_right halive).symm
  · rw [if_neg halive] at hposted
    refine iff_of_false ?_ fun h => halive h.1
    rintro ⟨task, hpost, -⟩
    exact Pool.post_ne _ _ _ (hposted.symm.trans hpost)

end Session

end GameServer

end EcsAsioServer
