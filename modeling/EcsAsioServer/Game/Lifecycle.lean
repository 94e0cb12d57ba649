import EcsAsioServer.Game.Runs

/-!
# State of connections

`channels_` holds the registered channels. Four more maps are keyed by channel id: the
entity and the database id of a logged-in player, the DB strand, and the map the
player is on. They are filled by `on_accept`, by a login on the spot, by a login
completion that arrives any time later, and by a change of map; `on_close` and a kill
take entries out.

The invariant `KeysOk` is checked change by change (`keysOk_kept`) and holds in every
reachable state, also after a self-deadlock. `PoolKnown` says the same of the DB pool,
for channels that exist or have existed: a save may wait after its channel has closed.
-/

namespace EcsAsioServer.GameServer

open Db Ecs FrameCodec Protocol StateProgram Transition

/-! ## Keys within keys -/

/-- Every key of `m` is a key of `channels`. -/
def Within {V : Type} (m : ChannelMap V) (channels : ChannelMap Unit) : Prop :=
  ∀ id ∈ m, id ∈ channels

section Within

variable {V : Type} {m : ChannelMap V} {channels : ChannelMap Unit} {id : Int32}

theorem Within.empty : Within (∅ : ChannelMap V) channels := fun id hid =>
  absurd hid (AList.notMem_empty id)

theorem Within.insert (h : Within m channels) (hid : id ∈ channels) (v : V) :
    Within (m.insert id v) channels := by
  intro k hk
  rcases (AList.mem_insert _).mp hk with rfl | hk
  · exact hid
  · exact h k hk

theorem Within.erase (h : Within m channels) (id : Int32) : Within (m.erase id) channels := by
  intro k hk
  exact h k (AList.mem_erase.mp hk).2

theorem Within.register (h : Within m channels) (id : Int32) :
    Within m (channels.insert id ()) := by
  intro k hk
  exact (AList.mem_insert _).mpr (.inr (h k hk))

/-- Unregistering a channel together with its entry. -/
theorem Within.unregister (h : Within m channels) (id : Int32) :
    Within (m.erase id) (channels.erase id) := by
  intro k hk
  obtain ⟨hne, hmem⟩ := AList.mem_erase.mp hk
  exact AList.mem_erase.mpr ⟨hne, h k hmem⟩

end Within

/-! ## The invariant -/

/-- Only registered channels have state. Without game threads `on_close` leaves
`player_map_mapping_` alone, which is sound because the map is then empty. -/
structure KeysOk (s : GameServer) : Prop where
  entity : Within s.channelToEntity s.channels
  dbId : Within s.channelToDbId s.channels
  strand : Within s.dbStrands s.channels
  map : Within s.playerMapMapping s.channels
  noMap : s.mainThreadManager = none → s.playerMapMapping = ∅

variable {s : GameServer}

theorem keysOk_init (h : ServerInit s) : KeysOk s where
  entity := h.channelToEntity ▸ .empty
  dbId := h.channelToDbId ▸ .empty
  strand := h.dbStrands ▸ .empty
  map := h.playerMapMapping ▸ .empty
  noMap _ := h.playerMapMapping

theorem KeysOk.close (h : KeysOk s) (id : Int32) (ecs : GameService ComponentType.Val) :
    KeysOk (s.closeWith id ecs) where
  entity := h.entity.unregister id
  dbId := h.dbId.unregister id
  strand := h.strand.unregister id
  map := by
    show Within (if s.mainThreadManager.isSome = true then _ else _) _
    cases hmain : s.mainThreadManager with
    | none =>
      -- `on_close` keeps the entry, but there is none
      rw [if_neg (by simp), h.noMap hmain]
      exact .empty
    | some m =>
      rw [if_pos (by rfl)]
      exact h.map.unregister id
  noMap hmain := by
    show (if s.mainThreadManager.isSome = true then _ else _) = _
    rw [show s.mainThreadManager = none from hmain, if_neg (by simp)]
    exact h.noMap hmain

theorem KeysOk.accept (h : KeysOk s) (id : Int32) (ch : AsioChannel) :
    KeysOk (s.accepted id ch) := by
  have hid : id ∈ s.channels.insert id () := (AList.mem_insert _).mpr (.inl rfl)
  refine ⟨h.entity.register id, h.dbId.register id, ?_, ?_, ?_⟩
  · show Within (if s.hasDbPool = true then _ else _) _
    split
    · exact (h.strand.register id).insert hid ()
    · exact h.strand.register id
  · show Within (if s.mainThreadManager.isSome = true then _ else _) _
    split
    · exact (h.map.register id).insert hid 1
    · exact h.map.register id
  · intro hmain
    show (if s.mainThreadManager.isSome = true then _ else _) = _
    rw [show s.mainThreadManager = none from hmain, if_neg (by simp)]
    exact h.noMap hmain

theorem KeysOk.strand_step (h : KeysOk s) (env : Env) (id : Int32) (out : DbOutcome) :
    KeysOk (s.runStrand env id out) := by
  obtain ⟨storage, completions, heq⟩ := runStrand_eq env s id out
  rw [heq]
  exact ⟨h.entity, h.dbId, h.strand, h.map, h.noMap⟩

/-- **Every change** of the server keeps the invariant. -/
theorem keysOk_kept (env : Env) :
    ServerKept env KeysOk fun s => s.mtx = true ∧ KeysOk s where
  mtx _ _ h := ⟨h.entity, h.dbId, h.strand, h.map, h.noMap⟩
  ecs _ _ h := ⟨h.entity, h.dbId, h.strand, h.map, h.noMap⟩
  locked _ hm h := ⟨hm, h⟩
  guild _ _ _ _ h := ⟨h.entity, h.dbId, h.strand, h.map, h.noMap⟩
  mainThread _ _ h := ⟨h.entity, h.dbId, h.strand, h.map, fun hmain =>
    h.noMap (Option.map_eq_none_iff.mp hmain)⟩
  net _ _ _ _ _ _ h := ⟨h.entity, h.dbId, h.strand, h.map, h.noMap⟩
  close s id _ ch' ecs _ _ _ _ h :=
    KeysOk.close (s := { s with net := s.net.insert id ch' })
      ⟨h.entity, h.dbId, h.strand, h.map, h.noMap⟩ id ecs
  stuck _ _ _ _ _ _ _ hm h := ⟨hm, h.entity, h.dbId, h.strand, h.map, h.noMap⟩
  setEntity _ _ entity hid h := ⟨h.entity.insert hid entity, h.dbId, h.strand, h.map, h.noMap⟩
  eraseEntity _ id h := ⟨h.entity.erase id, h.dbId, h.strand, h.map, h.noMap⟩
  setDbId _ _ dbId hid h := ⟨h.entity, h.dbId.insert hid dbId, h.strand, h.map, h.noMap⟩
  setMap _ _ mapId hid hmain h := ⟨h.entity, h.dbId, h.strand, h.map.insert hid mapId,
    fun hnone => absurd hmain (by rw [show _ = none from hnone]; decide)⟩
  post _ _ _ _ h := ⟨h.entity, h.dbId, h.strand, h.map, h.noMap⟩
  completions _ _ _ h := ⟨h.entity, h.dbId, h.strand, h.map, h.noMap⟩
  accept _ id ch _ _ h := h.accept id ch
  strand _ id out h := h.strand_step env id out
  stuck_mtx _ h := h.1
  stuck_ecs _ _ h := ⟨h.1, h.2.entity, h.2.dbId, h.2.strand, h.2.map, h.2.noMap⟩
  stuck_strand s id out h :=
    ⟨(runStrand_mtx env s id out).trans h.1, h.2.strand_step env id out⟩

/-- The invariant holds in every reachable state, stuck or not. -/
theorem reachable_keysOk (env : Env) (hs : Reachable ServerInit (ServerStep env) s) : KeysOk s := by
  rcases (keysOk_kept env).reachable (fun _ h => keysOk_init h) hs with h | h
  · exact h
  · exact h.2

/-! ## Late completions -/

/-- A completion for a channel that is not registered does nothing. -/
theorem loginCompleted_closed {c : Completion} (env : Env) (hmtx : s.mtx = false)
    (hclosed : c.channelId ∉ s.channels) :
    loginCompleted env c s = .ok () s := by
  rw [loginCompleted, bind_ok (findChannel_free hmtx _), decide_eq_false hclosed]
  rfl

theorem completion_closed {c : Completion} {i : Nat} (env : Env) (hmtx : s.mtx = false)
    (hc : s.completions[i]? = some c) (hclosed : c.channelId ∉ s.channels) :
    after (act env (.completion i)) s = { s with completions := s.completions.eraseIdx i } := by
  rw [act, after_runCompletion env hc]
  exact after_ok (loginCompleted_closed env hmtx hclosed)

/-- **No state for dead channels.** In every reachable state the four maps hold keys of
registered channels only, and a login completion that arrives for any other channel
changes nothing: no entity is created for it. -/
theorem reachable_keys_registered (env : Env) {s : GameServer}
    (hs : Reachable ServerInit (ServerStep env) s) :
    (∀ id, id ∈ s.channelToEntity ∨ id ∈ s.channelToDbId ∨ id ∈ s.dbStrands
      ∨ id ∈ s.playerMapMapping → id ∈ s.channels) ∧
    ∀ i c t, s.completions[i]? = some c → c.channelId ∉ s.channels →
      ServerStep env s (.completion i) t →
      t = { s with completions := s.completions.eraseIdx i } := by
  have hkeys := reachable_keysOk env hs
  constructor
  · rintro id (hid | hid | hid | hid)
    · exact hkeys.entity id hid
    · exact hkeys.dbId id hid
    · exact hkeys.strand id hid
    · exact hkeys.map id hid
  · rintro i c t hc hclosed ⟨henabled, rfl⟩
    exact completion_closed env henabled.1 hc hclosed

/-- A connection that logs in and closes before the completion of its login runs. -/
def lateLogin : GameServer :=
  execute plainEnv (plainServer true {}) [
    .accept 7 0,
    .frame 7 1001 { playerName := ascii "kim", sessionToken := [] : LoginReq }.serialize,
    .strand 7 {}, .readError 7]

theorem reachable_keys_registered_late :
    (∀ id, id ∈ lateLogin.channelToEntity ∨ id ∈ lateLogin.channelToDbId
      ∨ id ∈ lateLogin.dbStrands ∨ id ∈ lateLogin.playerMapMapping → id ∈ lateLogin.channels) ∧
    lateLogin.completions.map (·.channelId) = [7] ∧
    after (act plainEnv (.completion 0)) lateLogin = { lateLogin with completions := [] } := by
  have hlate := reachable_keys_registered plainEnv (s := lateLogin)
    (plainServer_reachable (by decide))
  refine ⟨hlate.1, by decide, ?_⟩
  exact hlate.2 0 _ _ rfl (by decide) ⟨by decide, rfl⟩

/-! ## Tasks of known channels -/

/-- Strands and waiting tasks belong to channels that exist or have existed. -/
structure PoolKnown (s : GameServer) : Prop where
  strand : ∀ id ∈ s.dbStrands, id ∈ s.net
  pending : ∀ id, s.dbPool.pending id ≠ [] → id ∈ s.net

section PoolKnown

variable {s : GameServer}

theorem PoolKnown.update (h : PoolKnown s) (id : Int32) (ch : AsioChannel) :
    PoolKnown { s with net := s.net.insert id ch } where
  strand k hk := (AList.mem_insert _).mpr (.inr (h.strand k hk))
  pending k hk := (AList.mem_insert _).mpr (.inr (h.pending k hk))

theorem PoolKnown.post (h : PoolKnown s) {id : Int32} (hid : id ∈ s.dbStrands) (task : DbTask) :
    PoolKnown { s with dbPool := s.dbPool.post id task } := by
  refine ⟨h.strand, ?_⟩
  intro k hk
  by_cases hkid : k = id
  · subst hkid
    exact h.strand k hid
  · refine h.pending k ?_
    rwa [← Strands.Pool.pending_post_ne s.dbPool hkid task]

theorem PoolKnown.close (h : PoolKnown s) (id : Int32) (ecs : GameService ComponentType.Val) :
    PoolKnown (s.closeWith id ecs) := by
  refine ⟨fun k hk => h.strand k (AList.mem_erase.mp hk).2, ?_⟩
  -- the save is posted to the strand that `on_close` has just taken out of the map
  rcases s.closeWith_dbPool id ecs with hpool | ⟨hid, task, hpool⟩ <;> rw [hpool]
  · exact h.pending
  · exact (h.post hid task).pending

theorem PoolKnown.accept (h : PoolKnown s) (id : Int32) (ch : AsioChannel) :
    PoolKnown (s.accepted id ch) := by
  refine ⟨?_, (h.update id ch).pending⟩
  intro k hk
  change k ∈ (if s.hasDbPool = true then _ else _ : ChannelMap Unit) at hk
  split at hk
  · rcases (AList.mem_insert _).mp hk with heq | hk
    · exact (AList.mem_insert _).mpr (.inl heq)
    · exact (h.update id ch).strand k hk
  · exact (h.update id ch).strand k hk

theorem PoolKnown.advance (h : PoolKnown s) (env : Env) (id : Int32) (out : DbOutcome) :
    PoolKnown (s.runStrand env id out) := by
  obtain ⟨storage, completions, heq⟩ := runStrand_eq env s id out
  rw [heq]
  refine ⟨h.strand, ?_⟩
  intro k hk
  refine h.pending k ?_
  intro hnil
  apply hk
  show (s.dbPool.advance id).pending k = []
  by_cases hkid : k = id
  · subst hkid
    rw [Strands.Pool.pending_advance_self, hnil]
    rfl
  · rw [Strands.Pool.pending_advance_ne _ hkid, hnil]

theorem poolKnown_kept (env : Env) : ServerKept env PoolKnown fun s => s.mtx = true where
  mtx _ _ h := ⟨h.strand, h.pending⟩
  locked _ hm _ := hm
  ecs _ _ h := ⟨h.strand, h.pending⟩
  guild _ _ _ _ h := ⟨h.strand, h.pending⟩
  mainThread _ _ h := ⟨h.strand, h.pending⟩
  net _ id _ ch' _ _ h := h.update id ch'
  close _ id _ ch' ecs _ _ _ _ h := (h.update id ch').close id ecs
  stuck _ _ _ _ _ _ _ hm _ := hm
  setEntity _ _ _ _ h := ⟨h.strand, h.pending⟩
  eraseEntity _ _ h := ⟨h.strand, h.pending⟩
  setDbId _ _ _ _ h := ⟨h.strand, h.pending⟩
  setMap _ _ _ _ _ h := ⟨h.strand, h.pending⟩
  post _ _ task hid h := h.post hid task
  completions _ _ _ h := ⟨h.strand, h.pending⟩
  accept _ id ch _ _ h := h.accept id ch
  strand _ id out h := h.advance env id out
  stuck_mtx _ h := h
  stuck_ecs _ _ h := h
  stuck_strand s id out h := (runStrand_mtx env s id out).trans h

/-- A channel that is still to come has nothing waiting. -/
theorem reachable_pending_fresh (env : Env) (hs : Reachable ServerInit (ServerStep env) s)
    (hmtx : s.mtx = false) {id : Int32} (hid : id ∉ s.net) : s.dbPool.pending id = [] := by
  have hknown : PoolKnown s := by
    refine (poolKnown_kept env).reachable_free ?_ hs hmtx
    intro s₀ hinit
    constructor
    · intro k hk
      rw [hinit.dbStrands] at hk
      exact absurd hk (AList.notMem_empty k)
    · intro k hk
      rw [hinit.dbPool] at hk
      exact absurd rfl hk
  by_contra hne
  exact hid (hknown.pending id hne)

end PoolKnown

/-! ## Login with a database -/

/-- A LOGIN that is not refused posts its task to the strand of the channel. -/
theorem login_posts {channelId : Int32} {payload rest : List UInt8} {req : LoginReq} (env : Env)
    (hmtx : s.mtx = false) (hparse : LoginReq.parse payload = .ok req rest)
    (htoken : s.tokenRejected req.sessionToken = false) (hdao : s.hasPlayerDao = true)
    (hstrand : channelId ∈ s.dbStrands) :
    dispatch env 1001 channelId payload s
      = .ok () { s with dbPool := s.dbPool.post channelId (.login channelId req.playerName) } := by
  show handleLogin env channelId payload s = _
  unfold handleLogin
  rw [hparse]
  show (if s.tokenRejected req.sessionToken = true then _ else _ : ServerM Unit) s = _
  rw [if_neg (by rw [htoken]; decide)]
  show (if s.hasPlayerDao = true then _ else _ : ServerM Unit) s = _
  rw [if_pos hdao, loginWithDb, bind_ok (withMtx_read hmtx _)]
  show (if decide (channelId ∈ s.dbStrands) = true then _ else _ : ServerM Unit) s = _
  rw [if_pos (decide_eq_true hstrand)]
  rfl

end EcsAsioServer.GameServer
