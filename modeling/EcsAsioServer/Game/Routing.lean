import EcsAsioServer.Game.Saves

/-!
# The map of a player

The map of a player is kept twice. `player_map_mapping_` says to which map thread the
packets of a channel go, and `map_id` in the `Player` component says on which map the player
is. The client knows a third copy, from the answer to its last LOGIN or MAP_ENTER; in
`Tracked` it stands beside the server.

`on_accept` puts a channel on map 1, and a MAP_ENTER changes both copies. A login writes the
component only: the map of the loaded row, or map 1 without a database. So the two copies
agree along a run exactly if every login puts its player on the map that the channel is on
already (`maps_agree_iff`). The component and the client never disagree.
-/

namespace EcsAsioServer

open Db Ecs FrameCodec Protocol Strands StateProgram Transition

namespace Sessions

/-- The map that packets of the channel go to. -/
def route (S : Sessions) (channelId : Int32) : Int32 := (S.maps.lookup channelId).getD 1

/-- Each player is on the map that its packets go to, and has been told so. -/
def Routed (S : Sessions) (reported : Int32 → Option UInt32) : Prop :=
  ∀ channelId entity player, S.entities.lookup channelId = some entity →
    S.players entity = some player →
    (S.route channelId).toUInt32 = player.mapId ∧ reported channelId = some player.mapId

/-- The map in the answer to a login or to a change of map, and its recipient. -/
def report (S : Sessions) : SessionEvent → Option (Int32 × UInt32)
  | .enter entry => some (entry.channelId, (entry.player S.manager.nextEntityId).mapId)
  | .travel channelId mapId => some (channelId, mapId.toUInt32)
  | _ => none

/-- What the clients know after the event. -/
def tell (S : Sessions) (ev : SessionEvent) (reported : Int32 → Option UInt32) :
    Int32 → Option UInt32 :=
  (S.report ev).elim reported fun told => Function.update reported told.1 (some told.2)

variable {S : Sessions} {reported : Int32 → Option UInt32} {entry : Entry} {channelId : Int32}
  {reported' : Int32 → Option UInt32} {id : Int32}

/-- A channel whose map, entity and player are as before, and whose client has been told
nothing else. -/
theorem Routed.at_same {T : Sessions} (h : S.Routed reported) {entity : Entity} {player : Player}
    (hlookup : S.entities.lookup id = some entity) (hplayer : S.players entity = some player)
    (hroute : T.route id = S.route id) (htold : reported' id = reported id) :
    (T.route id).toUInt32 = player.mapId ∧ reported' id = some player.mapId := by
  rw [hroute, htold]
  exact h id entity player hlookup hplayer

theorem Routed.connect (h : S.Routed reported) (hnew : channelId ∉ S.entities) :
    (S.connect channelId).Routed reported := by
  intro id entity player hlookup hplayer
  refine h.at_same hlookup hplayer ?_ rfl
  have hne : id ≠ channelId := by
    rintro rfl
    exact hnew (mem_of_lookup hlookup)
  unfold route Sessions.connect
  dsimp only
  split
  · rw [AList.lookup_insert_ne hne]
  · rfl

theorem Routed.kill (h : S.Routed reported) (channelId : Int32) :
    (S.kill channelId).Routed reported := by
  intro id entity player hlookup hplayer
  exact h id entity player (lookup_erase_eq_some.mp hlookup).2 hplayer

theorem route_leave_ne (h : id ≠ channelId) :
    (S.leave channelId).route id = S.route id := by
  unfold route Sessions.leave
  dsimp only
  split
  · rw [AList.lookup_erase_ne h]
  · rfl

/-- A channel leaves; what its client knows does not matter any more. -/
theorem Routed.leave (h : S.Routed reported)
    (htold : ∀ id ≠ channelId, reported' id = reported id) :
    (S.leave channelId).Routed reported' := by
  intro id entity player hlookup hplayer
  obtain ⟨hne, hlookup⟩ := lookup_erase_eq_some.mp hlookup
  exact h.at_same hlookup hplayer (route_leave_ne hne) (htold id hne)

theorem route_travel (hmaps : S.mapThreads = true) (id mapId : Int32) :
    (S.travel channelId mapId).route id = if id = channelId then mapId else S.route id := by
  unfold route Sessions.travel
  simp only [hmaps, true_and]
  by_cases hid : id = channelId
  · subst hid
    rw [if_pos rfl]
    split
    · rw [AList.lookup_insert, Option.getD_some]
    · next hsame => exact not_not.mp hsame
  · rw [if_neg hid]
    split
    · rw [AList.lookup_insert_ne hid]
    · rfl

/-- MAP_ENTER changes both copies, and says so. -/
theorem Routed.travel (h : S.Routed reported) (htied : S.Tied) (hmaps : S.mapThreads = true)
    (mapId : Int32) :
    (S.travel channelId mapId).Routed
      (Function.update reported channelId (some mapId.toUInt32)) := by
  intro id entity player hlookup hplayer
  change S.entities.lookup id = some entity at hlookup
  change (S.entities.lookup channelId).elim S.players (relocate S.players mapId.toUInt32) entity
    = some player at hplayer
  by_cases hid : id = channelId
  · subst hid
    rw [hlookup, Option.elim_some, relocate, Function.update_self] at hplayer
    obtain ⟨old, -, rfl⟩ := Option.map_eq_some_iff.mp hplayer
    rw [route_travel hmaps, if_pos rfl, Function.update_self]
    exact ⟨rfl, rfl⟩
  · have hother : S.players entity = some player := by
      cases hown : S.entities.lookup channelId with
      | none =>
        rw [hown] at hplayer
        exact hplayer
      | some own =>
        have hne : entity ≠ own := by
          rintro rfl
          exact hid (htied.inj id channelId entity hlookup hown)
        rw [hown, Option.elim_some, relocate, Function.update_of_ne hne] at hplayer
        exact hplayer
    refine h.at_same hlookup hother ?_ (Function.update_of_ne hid ..)
    rw [route_travel hmaps, if_neg hid]

/-- The players who were there when another one enters. -/
theorem Routed.enter_ne (h : S.Routed reported) (htied : S.Tied) {entity : Entity} {player : Player}
    (hid : id ≠ entry.channelId) (hlookup : (S.enter entry).entities.lookup id = some entity)
    (hplayer : (S.enter entry).players entity = some player) (htold : reported' id = reported id) :
    (S.route id).toUInt32 = player.mapId ∧ reported' id = some player.mapId := by
  rw [lookup_entities_enter, if_neg hid] at hlookup
  have hne : entity ≠ S.manager.nextEntityId := by
    rintro rfl
    exact UInt32.lt_irrefl _ (htied.linked id _ hlookup).issued
  change Function.update S.players _ _ entity = _ at hplayer
  rw [Function.update_of_ne hne] at hplayer
  exact h.at_same hlookup hplayer rfl htold

/-- **A login keeps the copies together** exactly if the channel is on the map of the
player already. -/
theorem routed_enter (h : S.Routed reported) (htied : S.Tied) :
    (S.enter entry).Routed (S.tell (.enter entry) reported) ↔
      (S.route entry.channelId).toUInt32 = (entry.player S.manager.nextEntityId).mapId := by
  have hself : (S.enter entry).entities.lookup entry.channelId = some S.manager.nextEntityId := by
    rw [lookup_entities_enter, if_pos rfl]
  have hnew : (S.enter entry).players S.manager.nextEntityId
      = some (entry.player S.manager.nextEntityId) := Function.update_self ..
  constructor
  · intro hrouted
    exact (hrouted entry.channelId _ _ hself hnew).1
  · intro hmap id entity player hlookup hplayer
    by_cases hid : id = entry.channelId
    · subst hid
      rw [hself] at hlookup
      cases hlookup
      rw [hnew] at hplayer
      cases hplayer
      exact ⟨hmap, Function.update_self ..⟩
    · exact h.enter_ne htied hid hlookup hplayer (Function.update_of_ne hid ..)

theorem Routed.enter_leave (h : S.Routed reported) (htied : S.Tied) :
    ((S.enter entry).leave entry.channelId).Routed (S.tell (.enter entry) reported) := by
  intro id entity player hlookup hplayer
  obtain ⟨hne, hlookup⟩ := lookup_erase_eq_some.mp hlookup
  rw [route_leave_ne hne]
  exact h.enter_ne htied hne hlookup hplayer (Function.update_of_ne hne ..)

end Sessions

namespace GameServer

/-! ## The answers -/

/-- A packet that tells its recipient the map it is on: the answer to a LOGIN or to a
MAP_ENTER that has succeeded. -/
def Reports (pkt : List UInt8) (mapId : UInt32) : Prop :=
  (∃ res : LoginRes, res.success = true ∧ res.mapId = mapId ∧
    pkt = pack 1001 0 1 0 res.serialize) ∨
  ∃ res : MapEnterRes, res.success = true ∧ res.mapId = mapId ∧
    pkt = pack 1005 0 1 0 res.serialize

/-- Between `s` and `t` the packet is given to the channel. -/
def Handed (env : Env) (s : GameServer) (channelId : Int32) (pkt : List UInt8) (t : GameServer) :
    Prop :=
  ∃ ch, s.net.lookup channelId = some ch ∧
    t.net.lookup channelId = some (ch.send env.order pkt (Int32.ofNat pkt.length)).1

variable {s t : GameServer} {env : Env} {channelId : Int32} {e : ServerEvent} {entry : Entry}
  {payload : List UInt8} {x y : Tracked} {i : Nat}

theorem after_withMtx_net {α : Type} (hm : s.mtx = false) (body : ServerM α) :
    (after (withMtx body) s).net = (after body { s with mtx := true }).net := by
  unfold after
  cases hb : body { s with mtx := true } with
  | ok a t => rw [withMtx_ok hm hb]
  | error e t => rw [withMtx_error hm hb]

theorem after_onClose_net (s : GameServer) (channelId : Int32) :
    (after (onClose channelId) s).net = s.net := by
  cases hm : s.mtx with
  | true => rw [after, onClose_locked hm]
  | false =>
    obtain ⟨ecs, hok⟩ := onClose_ok hm channelId
    rw [after_ok hok]
    rfl

/-- The channel object is changed before its callbacks run. -/
theorem sendPacket_handed (env : Env) (hid : channelId ∈ s.net) (pkt : List UInt8) :
    Handed env s channelId pkt (after (sendPacket env channelId pkt) s) := by
  obtain ⟨ch, hch⟩ := exists_lookup hid
  let call : AsioChannel → AsioChannel × List Callback :=
    fun ch => ch.send env.order pkt (Int32.ofNat pkt.length)
  refine ⟨ch, hch, ?_⟩
  show (after (callChannel channelId call) s).net.lookup channelId = some (call ch).1
  rcases (sendPacket_ends env pkt ch).report with ⟨-, hnil⟩ | ⟨-, -, reason, hcalls⟩
  · rw [after_ok (callChannel_silent hch hnil)]
    exact AList.lookup_insert _
  · have hnet : (after (callChannel channelId call) s).net
        = s.net.insert channelId (call ch).1 := by
      rw [after, callChannel_closing hch hcalls]
      exact after_onClose_net { s with net := s.net.insert channelId (call ch).1 } channelId
    rw [hnet]
    exact AList.lookup_insert _

theorem sendTestFrame_handed (env : Env) (hm : s.mtx = false) (hid : channelId ∈ s.channels)
    (hnet : channelId ∈ s.net) (msgId : UInt16) (data : List UInt8) :
    Handed env s channelId (pack msgId 0 1 0 data)
      (after (sendTestFrame env channelId msgId data) s) := by
  unfold Handed
  rw [sendTestFrame, after_withMtx_net hm, after_bind_ok (get_apply _), if_pos hid]
  exact sendPacket_handed env (s := { s with mtx := true }) hnet _

theorem Handed.of_net {s' : GameServer} {pkt : List UInt8} (h : Handed env s' channelId pkt t)
    (hnet : s'.net = s.net) : Handed env s channelId pkt t := by
  unfold Handed at h
  rw [hnet] at h
  exact h

/-- An answer that is sent outside the lock. -/
theorem Calls.handed {msgId : UInt16} {data : List UInt8} (h : Calls env s e t)
    (hcall : ownCall env s e = some (channelId, frameCall env msgId data))
    (hnet : channelId ∈ s.net) : Handed env s channelId (pack msgId 0 1 0 data) t := by
  cases h with
  | nothing hnone _ =>
    rw [hnone] at hcall
    cases hcall
  | call u hcall' _ hu ht =>
    cases hcall'.symm.trans hcall
    rw [ht]
    exact (sendPacket_handed env (hu.net ▸ hnet) _).of_net hu.net

/-- The map that an event reports to a client. -/
def report (env : Env) (s : GameServer) (e : ServerEvent) : Option (Int32 × UInt32) :=
  (sessionEvent env s e).bind s.sessions.report

theorem completionEntry_eq (h : s.completionEntry i = some entry) :
    ∃ record playerName, s.completions[i]? = some ⟨some record, entry.channelId, playerName⟩ ∧
      entry = recordEntry entry.channelId playerName record := by
  unfold completionEntry at h
  split at h
  · next record channelId playerName hcompletion =>
    split at h
    · cases h
      exact ⟨record, playerName, hcompletion, rfl⟩
    · cases h
  · cases h

theorem loginEntry_eq (h : s.loginEntry channelId payload = some entry) :
    ∃ req rest, LoginReq.parse payload = .ok req rest ∧
      s.tokenRejected req.sessionToken = false ∧ s.hasPlayerDao = false ∧
      entry = plainEntry channelId req.playerName := by
  unfold loginEntry at h
  cases hparse : LoginReq.parse payload with
  | error _ _ =>
    rw [hparse] at h
    cases h
  | ok req rest =>
    rw [hparse] at h
    dsimp only at h
    split at h
    · next hcond =>
      cases h
      exact ⟨req, rest, rfl, hcond.1, hcond.2.1, rfl⟩
    · cases h

theorem travelTarget_eq {mapId : Int32} (h : s.travelTarget payload = some mapId) :
    ∃ req rest mapCfg, MapEnterReq.parse payload = .ok req rest ∧
      (s.config.maps.find? fun m => m.id = req.mapId.toInt32) = some mapCfg ∧
      mapId = req.mapId.toInt32 := by
  unfold travelTarget at h
  cases hparse : MapEnterReq.parse payload with
  | error _ _ =>
    rw [hparse] at h
    cases h
  | ok req rest =>
    rw [hparse] at h
    dsimp only at h
    split at h
    · next hfound =>
      cases h
      obtain ⟨mapCfg, hmap⟩ := Option.isSome_iff_exists.mp hfound
      exact ⟨req, rest, mapCfg, rfl, hmap, rfl⟩
    · cases h

/-- The answer to a login whose row has been loaded. -/
theorem loaded_handed (env : Env) {record : PlayerRecord} {playerName : List UInt8}
    (hm : s.mtx = false) (hopen : RegisteredOpen s) (hid : channelId ∈ s.channels)
    (hcompletion : s.completions[i]? = some ⟨some record, channelId, playerName⟩) :
    ∃ res : LoginRes, res.success = true ∧ res.mapId = record.mapId.toUInt32 ∧
      Handed env s channelId (pack 1001 0 1 0 res.serialize) (after (runCompletion env i) s) := by
  have hcalls : Calls env s (.completion i) (after (runCompletion env i) s) := completion_calls hm
  obtain ⟨ch, hch, -⟩ := hopen channelId hid
  refine ⟨s.completionRes ⟨some record, channelId, playerName⟩, rfl, rfl, ?_⟩
  exact hcalls.handed (by simp [ownCall, hcompletion, hid]) (mem_of_lookup hch)

theorem completion_handed (hm : s.mtx = false) (hopen : RegisteredOpen s)
    (h : s.completionEntry i = some entry) :
    ∃ pkt, Reports pkt (entry.player s.ecs.entityManager.nextEntityId).mapId ∧
      Handed env s entry.channelId pkt (after (runCompletion env i) s) := by
  obtain ⟨record, playerName, hcompletion, hentry⟩ := completionEntry_eq h
  obtain ⟨res, hsuccess, hmap, hhanded⟩ :=
    loaded_handed env hm hopen (completionEntry_admitted h).registered hcompletion
  refine ⟨_, .inl ⟨res, hsuccess, ?_, rfl⟩, hhanded⟩
  rw [hmap, hentry]
  rfl

/-- The answer to a login without a database. -/
theorem login_handed {cmd : UInt16} (hmsg : messageId cmd = some .login) (hm : s.mtx = false)
    (hopen : RegisteredOpen s) (hid : channelId ∈ s.channels)
    (h : s.loginEntry channelId payload = some entry) :
    ∃ pkt, Reports pkt (entry.player s.ecs.entityManager.nextEntityId).mapId ∧
      Handed env s entry.channelId pkt (after (handleLogin env channelId payload) s) := by
  obtain ⟨req, rest, hparse, htoken, hdao, rfl⟩ := loginEntry_eq h
  have hcalls : Calls env s (.frame channelId cmd payload)
      (after (handleLogin env channelId payload) s) := login_calls hmsg hm hid
  obtain ⟨ch, hch, -⟩ := hopen channelId hid
  let res : LoginRes :=
    { success := true, message := ascii "ok", playerId := s.nextPlayer, mapId := 1 }
  refine ⟨pack 1001 0 1 0 res.serialize, .inl ⟨res, rfl, rfl, rfl⟩, ?_⟩
  refine hcalls.handed ?_ (mem_of_lookup hch)
  simp [ownCall, hmsg, answer, hparse, htoken, hdao, res, plainEntry]

/-- The answer to a change of map. -/
theorem mapEnter_handed {mapId : Int32} (hm : s.mtx = false) (hopen : RegisteredOpen s)
    (hid : channelId ∈ s.channels) (h : s.travelTarget payload = some mapId) :
    ∃ pkt, Reports pkt mapId.toUInt32 ∧
      Handed env s channelId pkt (after (handleMapEnter env channelId payload) s) := by
  obtain ⟨req, rest, mapCfg, hparse, hmap, rfl⟩ := travelTarget_eq h
  let s₁ : GameServer :=
    { s with
      playerMapMapping :=
        if s.mainThreadManager.isSome ∧ s.getPlayerMap channelId ≠ req.mapId.toInt32 then
          s.playerMapMapping.insert channelId req.mapId.toInt32
        else s.playerMapMapping }
  obtain ⟨ecs, hset, -, -⟩ :=
    setPlayerMapId_ok (s := s₁) hm channelId req.mapId.toInt32.toUInt32
  have hafter : after (handleMapEnter env channelId payload) s
      = after (sendTestFrame env channelId 1005 (mapEntered req mapCfg).serialize)
          { s₁ with ecs } := by
    unfold handleMapEnter
    rw [hparse]
    dsimp only
    rw [after_bind_ok (get_apply s), hmap]
    dsimp only
    rw [after_bind_ok (switchMap_ok s channelId _), after_bind_ok hset]
  refine ⟨pack 1005 0 1 0 (mapEntered req mapCfg).serialize,
    .inr ⟨mapEntered req mapCfg, rfl, ?_, rfl⟩, ?_⟩
  · exact (UInt32.toUInt32_toInt32 req.mapId).symm
  · rw [hafter]
    obtain ⟨ch, hch, -⟩ := hopen channelId hid
    exact (sendTestFrame_handed env (s := { s₁ with ecs }) hm hid
      (mem_of_lookup hch) 1005 _).of_net rfl

/-- **Every report reaches its channel**: the client is sent a successful answer with the
map. -/
theorem report_handed (hopen : RegisteredOpen s) (hstep : ServerStep env s e t) {mapId : UInt32}
    (h : report env s e = some (channelId, mapId)) :
    ∃ pkt, Reports pkt mapId ∧ Handed env s channelId pkt t := by
  obtain ⟨henabled, rfl⟩ := hstep
  obtain ⟨ev, hev, htold⟩ := Option.bind_eq_some_iff.mp h
  cases ev with
  | enter entry =>
    cases htold
    cases sessionEvent_change hev with
    | completion hentry => exact completion_handed henabled.1 hopen hentry
    | login hcmd hentry =>
      rw [act, dispatch, hcmd]
      exact login_handed hcmd henabled.1 hopen henabled.2 hentry
  | travel id target =>
    cases htold
    cases sessionEvent_change hev with
    | mapEnter hcmd htarget =>
      rw [act, dispatch, hcmd]
      exact mapEnter_handed henabled.1 hopen henabled.2 htarget
  | connect | kill | leave | simulate => cases htold

/-! ## Along runs -/

/-- The server, and the map that each client has been told last. -/
structure Tracked where
  server : GameServer
  reported : Int32 → Option UInt32

/-- One event, with what it tells a client. -/
def TrackedStep (env : Env) (x : Tracked) (e : ServerEvent) (y : Tracked) : Prop :=
  ServerStep env x.server e y.server ∧
    y.reported = (report env x.server e).elim x.reported fun told =>
      Function.update x.reported told.1 (some told.2)

/-- The server and what the clients know after a list of events. -/
def Tracked.execute (env : Env) (x : Tracked) (es : List ServerEvent) : Tracked :=
  es.foldl (fun x e => ⟨after (act env e) x.server,
    (report env x.server e).elim x.reported fun told =>
      Function.update x.reported told.1 (some told.2)⟩) x

theorem run_tracked {ok : GameServer → ServerEvent → Prop} {es : List ServerEvent}
    (h : Executable env x.server es) (hok : Meets env ok x.server es) :
    Run (guarded (fun x e => ok x.server e) (TrackedStep env)) x es (x.execute env es) := by
  induction es generalizing x with
  | nil => exact .nil
  | cons e es ih => exact (Run.single ⟨hok.1, ⟨h.1, rfl⟩, rfl⟩).append (ih h.2 hok.2)

/-- **Routing agrees with the players' maps**: the packets of a channel with a player go to
the map that the player is on, and this is what the client has been told. -/
def MapsAgree (x : Tracked) : Prop :=
  x.server.mtx = false → ∀ channelId entity (player : Player),
    x.server.channelToEntity.lookup channelId = some entity →
    x.server.ecs.component .player entity = some player →
    (x.server.getPlayerMap channelId).toUInt32 = player.mapId ∧
      x.reported channelId = some player.mapId

/-- A player who enters, and stays, enters on the map that the channel is on. -/
def EntersOnMap (env : Env) (s : GameServer) (e : ServerEvent) : Prop :=
  ∀ entry, sessionEvent env s e = some (.enter entry) →
    closing env s e ≠ some entry.channelId →
    (s.getPlayerMap entry.channelId).toUInt32
      = (entry.player s.ecs.entityManager.nextEntityId).mapId

instance (env : Env) (s : GameServer) (e : ServerEvent) : Decidable (EntersOnMap env s e) :=
  match h : sessionEvent env s e with
  | some (.enter entry) =>
    decidable_of_iff (closing env s e ≠ some entry.channelId →
        (s.getPlayerMap entry.channelId).toUInt32
          = (entry.player s.ecs.entityManager.nextEntityId).mapId)
      ⟨fun hmap => by simpa [EntersOnMap, h] using hmap, fun hmap => hmap entry h⟩
  | none | some (.connect _) | some (.travel ..) | some (.kill _) | some (.leave _)
  | some (.simulate ..) => .isTrue (by simp [EntersOnMap, h])

theorem entersOnMap_of_other (h : ∀ entry, sessionEvent env s e ≠ some (.enter entry)) :
    EntersOnMap env s e :=
  fun entry hev => absurd hev (h entry)

theorem mapThreads_step (hstep : ServerStep env s e t) :
    t.sessions.mapThreads = s.sessions.mapThreads := by
  have hevent : (sessionsAfter env s e).mapThreads = s.sessions.mapThreads := by
    unfold sessionsAfter
    cases sessionEvent env s e with
    | none => rfl
    | some ev => cases ev <;> rfl
  obtain ⟨channelId, hsame | hleft, -⟩ := serverStep_sessions hstep
  · rw [hsame]
    exact hevent
  · rw [hleft]
    exact hevent

/-- A login keeps the copies together exactly if the channel is on the map of the row, or
closes at once. -/
theorem routed_step_enter (htied : x.server.sessions.Tied)
    (hs : x.server.sessions.Routed x.reported)
    (hev : sessionEvent env x.server e = some (.enter entry))
    (hserver : ServerStep env x.server e y.server)
    (hclose : UpToClose entry.channelId (x.server.sessions.enter entry) y.server.sessions)
    (htold : y.reported = x.server.sessions.tell (.enter entry) x.reported) :
    y.server.sessions.Routed y.reported ↔ EntersOnMap env x.server e := by
  have hiff : y.server.sessions.Routed y.reported ↔
      (entry.channelId ∈ y.server.channels →
        (x.server.sessions.route entry.channelId).toUInt32
          = (entry.player x.server.sessions.manager.nextEntityId).mapId) := by
    rw [htold]
    rcases hclose with hsame | hleft
    · have hid : entry.channelId ∈ y.server.channels := by
        show entry.channelId ∈ y.server.sessions.channels
        rw [hsame]
        exact (sessionEvent_admitted hserver.1 hev).registered
      rw [hsame]
      exact (Sessions.routed_enter hs htied).trans ⟨fun h _ => h, fun h => h hid⟩
    · have hid : entry.channelId ∉ y.server.channels := by
        show entry.channelId ∉ y.server.sessions.channels
        rw [hleft]
        exact fun hmem => (AList.mem_erase.mp hmem).1 rfl
      refine ⟨fun _ h => absurd h hid, fun _ => ?_⟩
      rw [hleft]
      exact hs.enter_leave htied
  rw [hiff]
  constructor
  · intro h entry' heq hid
    rw [hev] at heq
    cases heq
    exact h ((entry_open_iff hserver hev).mp hid)
  · intro h hid
    exact h entry hev ((entry_open_iff hserver hev).mpr hid)

/-- **One event** from a state in which the copies agree. -/
theorem routed_step (htied : x.server.sessions.Tied) (hmaps : x.server.sessions.mapThreads = true)
    (hopen : RegisteredOpen x.server) (hs : x.server.sessions.Routed x.reported)
    (horderly : Orderly env x.server e) (hstep : TrackedStep env x e y) :
    y.server.sessions.Routed y.reported ↔ EntersOnMap env x.server e := by
  obtain ⟨hserver, htold⟩ := hstep
  obtain ⟨channelId, hclose, hentry⟩ := serverStep_sessions hserver
  -- any other event than a login, whether the channel closes or not
  have hother : (∀ entry, sessionEvent env x.server e ≠ some (.enter entry)) →
      ∀ S : Sessions, UpToClose channelId S y.server.sessions → S.Routed y.reported →
        (y.server.sessions.Routed y.reported ↔ EntersOnMap env x.server e) := by
    intro henter S hclose hS
    refine iff_of_true ?_ (entersOnMap_of_other henter)
    rcases hclose with hsame | hleft
    · rw [hsame]
      exact hS
    · rw [hleft]
      exact hS.leave fun _ _ => rfl
  unfold report at htold
  cases hev : sessionEvent env x.server e with
  | none =>
    rw [sessionsAfter_none hev] at hclose
    rw [hev] at htold
    exact hother (by simp [hev]) _ hclose (htold ▸ hs)
  | some ev =>
    rw [sessionsAfter_some hev] at hclose
    rw [hev] at htold
    change y.reported = x.server.sessions.tell ev x.reported at htold
    cases ev with
    | enter entry =>
      exact routed_step_enter htied hs hev hserver (hentry entry hev ▸ hclose) htold
    | connect id =>
      cases sessionEvent_change hev
      refine hother (by simp [hev]) _ hclose ?_
      rw [htold]
      refine hs.connect fun hmem => ?_
      -- the id is new, so it has no entity
      obtain ⟨entity, hlookup⟩ := exists_lookup hmem
      obtain ⟨ch, hch, -⟩ := hopen id (htied.linked id entity hlookup).registered
      exact hserver.1.2 (mem_of_lookup hch)
    | travel id mapId =>
      refine hother (by simp [hev]) _ hclose ?_
      rw [htold]
      exact hs.travel htied hmaps mapId
    | kill target =>
      refine hother (by simp [hev]) _ hclose ?_
      rw [htold]
      exact hs.kill target
    | leave id =>
      refine hother (by simp [hev]) _ hclose ?_
      rw [htold]
      exact hs.leave fun _ _ => rfl
    | simulate manager players =>
      refine hother (by simp [hev]) _ hclose ?_
      have hcalm : x.server.sessions.Calm manager players := horderly.sessions hev
      rw [htold, hcalm.players_eq]
      exact hs

/-- **One event**, also with the io thread stuck. -/
theorem mapsAgree_step (htied : x.server.sessions.Tied)
    (hmaps : x.server.sessions.mapThreads = true)
    (hopen : RegisteredOpen x.server ∨ x.server.mtx = true) (hs : MapsAgree x)
    (horderly : Orderly env x.server e) (hstep : TrackedStep env x e y) :
    MapsAgree y ↔ EntersOnMap env x.server e := by
  cases htm : y.server.mtx with
  | false =>
    have hm : x.server.mtx = false := hstep.1.free_before htm
    rw [← routed_step htied hmaps (hopen.resolve_right (by simp [hm])) (hs hm) horderly hstep]
    exact ⟨fun h => h htm, fun h _ => h⟩
  | true =>
    -- no login ends with the io thread stuck
    refine ⟨fun _ => entersOnMap_of_other fun entry hev => ?_,
      fun _ hfree => absurd htm (by simp [hfree])⟩
    have hm : x.server.mtx = false := by
      cases sessionEvent_change hev <;> exact hstep.1.1.1
    have hover := (stuck_iff hm (hopen.resolve_right (by simp [hm])) hstep.1).mp htm
    exact not_entering_of_overflows hover entry (sessionEvent_enter_iff.mp hev)

/-- A MAP_ENTER for map 2. -/
def enterDesert : List UInt8 :=
  { mapId := 2, x := .zero, y := .zero, z := .zero, timestamp := 0 : MapEnterReq }.serialize

theorem not_mapsAgree {entity : Entity} {mapId : UInt32} (hmtx : s.mtx = false)
    (hentity : s.channelToEntity.lookup channelId = some entity)
    (hplayer : (s.sessions.players entity).map Player.mapId = some mapId)
    (hroute : (s.getPlayerMap channelId).toUInt32 ≠ mapId) (reported : Int32 → Option UInt32) :
    ¬ MapsAgree ⟨s, reported⟩ := by
  intro hagree
  obtain ⟨player, hsome, rfl⟩ := Option.map_eq_some_iff.mp hplayer
  exact hroute (hagree hmtx channelId entity player hentity hsome).1

end GameServer

end EcsAsioServer
