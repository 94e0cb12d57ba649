import EcsAsioServer.Game.PlayerCache
import EcsAsioServer.Game.Tokens

/-!
# Cached players

The task of a login stores the player in Redis, under the id of the row
(`set_player_cache`). Nothing remembers the key until the completion has bound the channel
to the row, and `on_close` deletes the key of the row that the channel is bound to
(`del_player_cache`). Redis does what it is asked here, and no key expires.

Each event of the server is an event of the protocol `PlayerCache`, and then the close of the
channel that it closes, if any (`serverStep_cache`). `cache_owned_iff`: every key that a login
has stored stays owned exactly if

* no task stores a row for a channel that has closed, or that will not be bound to it,
* no completion binds a channel that is bound to another row, and
* no channel closes before its completions have run,

unless someone else owns the key that is concerned.
-/

namespace EcsAsioServer

open Db Ecs Protocol StateProgram Transition

/-! ## The server follows the protocol -/

/-- The ids under which Redis holds players. -/
def Db.Storage.cachedKeys (st : Storage) : Finset Int64 :=
  st.redis.elim ∅ fun redis => redis.players.keys.toFinset

/-- Only the task of a login stores a player. -/
theorem Db.Storage.cachedKeys_run (my : MySql) (st : Storage) (out : DbOutcome) (task : DbTask) :
    (st.run my out task).1.cachedKeys = st.cachedKeys ∪
      ((st.run my out task).2.bind fun completion =>
        (CacheEvent.load completion st.redis.isSome).stores).toFinset := by
  cases task with
  | login channelId playerName =>
    unfold Storage.run Storage.runLogin cachedKeys
    dsimp only
    cases st.redis with
    | none => simp [CacheEvent.stores]
    | some redis =>
      cases (st.db.findOrCreate my playerName out.login).1 with
      | none => simp [CacheEvent.stores]
      | some record =>
        ext key
        simp only [Redis.setPlayerCache, Option.elim_some, Option.isSome_some, Option.bind_some,
          CacheEvent.stores, Option.map_some, Option.toFinset_some, Finset.mem_union,
          Finset.mem_singleton, List.mem_toFinset]
        show key ∈ redis.players.insert record.id _ ↔ key ∈ redis.players ∨ _
        rw [AList.mem_insert, or_comm]
  | flush => simp [Storage.run, cachedKeys]
  | close =>
    unfold Storage.run Storage.runClose cachedKeys
    dsimp only
    split <;> simp

namespace GameServer

/-- The protocol as it stands in the server. -/
def playerCache (s : GameServer) : PlayerCache where
  useEcs := s.config.useEcs
  channels := s.channels
  rows := s.channelToDbId
  waiting := s.completions
  keys := s.storage.cachedKeys

variable {s : GameServer}

/-- `on_close` in the protocol. -/
theorem playerCache_closeWith (h : s.playerCache.Bound) (channelId : Int32)
    (ecs : GameService ComponentType.Val) :
    (s.closeWith channelId ecs).playerCache = s.playerCache.apply (.close channelId) := by
  have hkeys : (s.closeWith channelId ecs).storage.cachedKeys
      = (s.playerCache.apply (.close channelId)).keys := by
    ext key
    rw [PlayerCache.mem_keys_apply]
    unfold closeWith Storage.cachedKeys
    show key ∈ (ite _ _ _ : Storage).redis.elim ∅ _ ↔
      (key ∈ s.storage.redis.elim ∅ _ ∨ none = some key) ∧ s.channelToDbId.lookup channelId ≠ _
    cases hrow : s.channelToDbId.lookup channelId with
    | none => simp
    | some row =>
      have hpos : 0 < row := h.positive channelId row hrow
      rw [Option.getD_some, if_pos hpos]
      cases s.storage.redis with
      | none => simp
      | some redis =>
        simp only [Option.map_some, Option.elim_some, List.mem_toFinset]
        show key ∈ redis.players.erase row ↔ (key ∈ redis.players ∨ _) ∧ _
        rw [AList.mem_erase]
        simp [and_comm, eq_comm]
  exact PlayerCache.ext rfl rfl rfl rfl hkeys

/-! ### Events during which no channel closes -/

/-- As long as no channel has closed, Redis is left alone. -/
structure Untouched (s t : GameServer) : Prop where
  within : Within t.channelToDbId t.channels
  channels : ∀ id ∈ t.channels, id ∈ s.channels
  storage : t.storage = s.storage ∨ ∃ id ∈ s.channels, id ∉ t.channels

theorem Untouched.close {t : GameServer} (h : Untouched s t) (id : Int32)
    (ecs : GameService ComponentType.Val) : Untouched s (t.closeWith id ecs) where
  within := h.within.unregister id
  channels k hk := h.channels k (AList.mem_erase.mp hk).2
  storage := by
    by_cases hid : id ∈ t.channels
    · exact .inr ⟨id, h.channels id hid, fun hmem => (AList.mem_erase.mp hmem).1 rfl⟩
    · -- a channel that is not registered is bound to no row
      have hnone : t.channelToDbId.lookup id = none :=
        AList.lookup_eq_none.mpr fun hmem => hid (h.within id hmem)
      rcases h.storage with hsame | ⟨k, hk, hgone⟩
      · refine .inl ?_
        show ite _ _ _ = _
        rw [hnone, if_neg (by decide), hsame]
      · exact .inr ⟨k, hk, fun hmem => hgone (AList.mem_erase.mp hmem).2⟩

theorem untouched_kept (s : GameServer) : Kept (Untouched s) (Untouched s) where
  mtx _ _ h := ⟨h.within, h.channels, h.storage⟩
  locked _ _ h := h
  ecs _ _ h := ⟨h.within, h.channels, h.storage⟩
  guild _ _ _ _ h := ⟨h.within, h.channels, h.storage⟩
  mainThread _ _ h := ⟨h.within, h.channels, h.storage⟩
  net _ _ _ _ _ _ h := ⟨h.within, h.channels, h.storage⟩
  close t id _ ch' ecs _ _ _ _ h :=
    Untouched.close (t := { t with net := t.net.insert id ch' })
      ⟨h.within, h.channels, h.storage⟩ id ecs
  stuck _ _ _ _ _ _ _ _ h := ⟨h.within, h.channels, h.storage⟩
  setEntity _ _ _ _ h := ⟨h.within, h.channels, h.storage⟩
  eraseEntity _ _ h := ⟨h.within, h.channels, h.storage⟩
  setDbId _ _ dbId hid h := ⟨h.within.insert hid dbId, h.channels, h.storage⟩
  setMap _ _ _ _ _ h := ⟨h.within, h.channels, h.storage⟩
  post _ _ _ _ h := ⟨h.within, h.channels, h.storage⟩
  completions _ _ _ h := ⟨h.within, h.channels, h.storage⟩

section

variable {env : Env} {s t : GameServer} {e : ServerEvent}

/-- An event that closes no channel leaves the storage to the strands. -/
theorem storage_of_sessions (h : s.playerCache.Bound) (hstep : ServerStep env s e t)
    (ht : t.sessions = sessionsAfter env s e) (hstrand : ∀ id out, e ≠ .strand id out) :
    t.storage = s.storage := by
  have hself : Untouched s s := ⟨h.within, fun _ hid => hid, .inl rfl⟩
  have huntouched (hu : Untouched s t ∨ Untouched s t) : t.storage = s.storage := by
    refine (or_self_iff.mp hu).storage.resolve_right ?_
    rintro ⟨id, hid, hgone⟩
    exact hgone (mem_channels_of_sessions ht hid)
  obtain ⟨henabled, rfl⟩ := hstep
  cases e with
  | accept id now =>
    rw [act, after_ok (acceptChannel_ok henabled.1 id now)]
    rfl
  | strand id out => exact absurd rfl (hstrand id out)
  | frame id cmd payload =>
    exact huntouched (((untouched_kept s).dispatch env cmd id payload).after ⟨hself, henabled.2⟩)
  | completion i => exact huntouched (((untouched_kept s).runCompletion env i).after hself)
  | written | writeError | readError | idleTimer | pingTimer | flushTimer | gameThreads =>
    exact huntouched ((untouched_kept s).toDirectKept.event hself rfl)

end

/-! ### Events that may close their channel -/

/-- Nothing has changed, or the channel has closed. -/
def CacheUpToClose (channelId : Int32) (C D : PlayerCache) : Prop :=
  D = C ∨ D = C.apply (.close channelId)

section

variable {s : GameServer}

theorem callChannel_cache (hm : s.mtx = false) (h : s.playerCache.Bound) (channelId : Int32)
    {call : AsioChannel → AsioChannel × List Callback}
    (hcall : ∀ ch, AsioChannel.Ends ch (call ch)) :
    CacheUpToClose channelId s.playerCache (after (callChannel channelId call) s).playerCache := by
  obtain ⟨net, heq | ⟨ecs, heq, -⟩⟩ := callChannel_free hm channelId hcall
  · rw [after_ok heq]
    exact .inl rfl
  · rw [after_ok heq]
    exact .inr (playerCache_closeWith (s := { s with net }) h channelId ecs)

end

/-! ### Every event -/

/-- What an event is in the protocol, apart from a channel that closes. -/
def cacheEvent (env : Env) (s : GameServer) : ServerEvent → Option CacheEvent
  | .accept channelId _ => some (.connect channelId)
  | .completion i => some (.complete i)
  | .strand channelId out =>
    (s.dbPool.pending channelId).head?.bind fun task =>
      (s.storage.run env.mySql out task).2.map fun completion =>
        .load completion s.storage.redis.isSome
  | _ => none

theorem runStrand_cache (env : Env) {channelId : Int32} (out : DbOutcome) :
    (s.runStrand env channelId out).playerCache
      = (cacheEvent env s (.strand channelId out)).elim s.playerCache s.playerCache.apply := by
  unfold cacheEvent runStrand
  dsimp only
  cases s.dbPool.pending channelId with
  | nil => rfl
  | cons task rest =>
    dsimp only [List.head?_cons, Option.bind_some]
    have hkeys := s.storage.cachedKeys_run env.mySql out task
    cases hrun : s.storage.run env.mySql out task with
    | mk storage completion =>
      rw [hrun] at hkeys
      cases completion with
      | none =>
        rw [Option.bind_none, Option.toFinset_none, Finset.union_empty] at hkeys
        exact PlayerCache.ext rfl rfl rfl (List.append_nil _) hkeys
      | some completion =>
        refine PlayerCache.ext rfl rfl rfl rfl (hkeys.trans ?_)
        exact (Finset.sdiff_empty ..).symm

section

variable {env : Env} {s t : GameServer} {e : ServerEvent}

theorem sessionsAfter_useEcs (env : Env) (s : GameServer) (e : ServerEvent) :
    (sessionsAfter env s e).useEcs = s.config.useEcs := by
  unfold sessionsAfter
  cases sessionEvent env s e with
  | none => rfl
  | some ev => cases ev <;> rfl

/-- A message registers no channel and binds none: a login without a database has no row. -/
theorem sessionsAfter_frame (env : Env) (s : GameServer) (channelId : Int32) (cmd : UInt16)
    (payload : List UInt8) :
    (sessionsAfter env s (.frame channelId cmd payload)).channels = s.channels ∧
      (sessionsAfter env s (.frame channelId cmd payload)).dbIds = s.channelToDbId := by
  cases hev : sessionEvent env s (.frame channelId cmd payload) with
  | none =>
    rw [sessionsAfter_none hev]
    exact ⟨rfl, rfl⟩
  | some ev =>
    rw [sessionsAfter_some hev]
    cases sessionEvent_change hev with
    | login hcmd hentry =>
      obtain ⟨req, rest, -, -, -, rfl⟩ := loginEntry_eq hentry
      exact ⟨rfl, rfl⟩
    | mapEnter | attack => exact ⟨rfl, rfl⟩

/-- A completion binds its channel as the protocol says. -/
theorem dbIds_completion (i : Nat) : (sessionsAfter env s (.completion i)).dbIds
    = s.completions[i]?.elim s.channelToDbId fun c =>
      (s.playerCache.binds c).elim s.channelToDbId (s.channelToDbId.insert c.channelId) := by
  rw [sessionsAfter, sessionEvent, completionEntry]
  cases s.completions[i]? with
  | none => rfl
  | some c =>
    obtain ⟨record, channelId, playerName⟩ := c
    cases record with
    | none => simp [PlayerCache.binds, sessions]
    | some record =>
      by_cases hid : channelId ∈ s.channels ∧ s.config.useEcs
      · by_cases hpos : 0 < record.id <;>
          simp [PlayerCache.binds, playerCache, recordEntry, Sessions.apply, Sessions.enter,
            sessions, Option.filter, hid, hpos]
      · simp [PlayerCache.binds, playerCache, hid, sessions]

/-- The protocol reads the sessions, the completions and the keys. -/
theorem playerCache_after (hstrand : ∀ id out, e ≠ .strand id out)
    (hsessions : t.sessions = sessionsAfter env s e)
    (hcompletions : t.completions = s.completionsLeft e) (hstorage : t.storage = s.storage) :
    t.playerCache = (cacheEvent env s e).elim s.playerCache s.playerCache.apply := by
  have hcache : t.playerCache = ⟨t.sessions.useEcs, t.sessions.channels, t.sessions.dbIds,
      t.completions, t.storage.cachedKeys⟩ := rfl
  rw [hcache, hsessions, hcompletions, hstorage]
  cases e with
  | strand id out => exact absurd rfl (hstrand id out)
  | accept id now =>
    exact PlayerCache.ext rfl rfl rfl rfl (PlayerCache.keysAfter_other rfl rfl _).symm
  | completion i =>
    have hchannels : (sessionsAfter env s (.completion i)).channels = s.channels := by
      rw [sessionsAfter, sessionEvent]
      cases s.completionEntry i <;> rfl
    exact PlayerCache.ext (sessionsAfter_useEcs ..) hchannels (dbIds_completion i) rfl
      (PlayerCache.keysAfter_other rfl rfl _).symm
  | frame id cmd payload =>
    obtain ⟨hchannels, hrows⟩ := sessionsAfter_frame env s id cmd payload
    exact PlayerCache.ext (sessionsAfter_useEcs ..) hchannels hrows rfl rfl
  | written | writeError | readError | idleTimer | pingTimer | flushTimer | gameThreads => rfl

/-- The protocol after an event, before a channel closes. -/
def cacheAfter (env : Env) (s : GameServer) (e : ServerEvent) : PlayerCache :=
  (cacheEvent env s e).elim s.playerCache s.playerCache.apply

theorem cacheAfter_bound (h : s.playerCache.Bound) : (cacheAfter env s e).Bound := by
  unfold cacheAfter
  cases cacheEvent env s e with
  | none => exact h
  | some ev => exact h.apply ev

/-- **What an event does to the protocol**: what `cacheEvent` says, and then the close of the
channel that it closes. -/
theorem serverStep_cache (h : s.playerCache.Bound) (hstep : ServerStep env s e t) :
    t.playerCache = (closing env s e).elim (cacheAfter env s e) fun id =>
      (cacheAfter env s e).apply (.close id) := by
  by_cases hstrand : ∃ id out, e = .strand id out
  · obtain ⟨id, out, rfl⟩ := hstrand
    rw [← hstep.2]
    exact runStrand_cache env out
  have hstrand' : ∀ id out, e ≠ .strand id out := fun id out heq => hstrand ⟨id, out, heq⟩
  cases step_calls hstep with
  | nothing hnone hsessions =>
    have hcompletions := (steady_step hstep hstrand' 0 []).completions
    have hstorage := storage_of_sessions h hstep hsessions hstrand'
    rw [closing, hnone]
    exact playerCache_after hstrand' hsessions hcompletions hstorage
  | @call id call u _ hends hu ht =>
    have hcache : u.playerCache = cacheAfter env s e :=
      playerCache_after hstrand' hu.sessions hu.completions hu.storage
    have hbound : u.playerCache.Bound := hcache ▸ cacheAfter_bound h
    have hchannels : u.playerCache.channels = s.channels := hu.channels
    have hclose := callChannel_cache hu.mtx hbound id hends
    rw [← ht] at hclose
    rw [← hcache]
    cases hclosing : closing env s e with
    | none =>
      rcases hclose with hsame | hclosed
      · exact hsame
      · -- the channel was not registered
        rw [hclosed]
        refine PlayerCache.apply_close_of_notMem hbound fun hmem => ?_
        have hgone : id ∉ t.playerCache.channels := by
          rw [hclosed]
          exact fun hin => (AList.mem_erase.mp hin).1 rfl
        rw [hchannels] at hmem
        cases hclosing.symm.trans ((closing_iff hstep).mpr ⟨hmem, hgone⟩)
    | some closed =>
      obtain ⟨hin, hgone⟩ := (closing_iff hstep).mp hclosing
      change closed ∉ t.playerCache.channels at hgone
      rw [← hchannels] at hin
      rcases hclose with hsame | hclosed
      · rw [hsame] at hgone
        exact absurd hin hgone
      · have hid : closed = id := by
          by_contra hne
          rw [hclosed] at hgone
          exact hgone (AList.mem_erase.mpr ⟨hne, hin⟩)
        rw [hid]
        exact hclosed

end

/-! ## The keys of logins -/

/-- The server, and the keys in Redis that logins have stored. Redis may hold others. -/
structure Keyed where
  server : GameServer
  written : Finset Int64

namespace Keyed

/-- One event, with the keys that logins have stored. -/
def step (env : Env) (x : Keyed) (e : ServerEvent) : Keyed :=
  let t := after (act env e) x.server
  let stored := (cacheEvent env x.server e).bind CacheEvent.stores
  { server := t
    written := (x.written ∪ stored.toFinset) ∩ t.storage.cachedKeys }

/-- The protocol for the keys of logins. -/
def cache (x : Keyed) : PlayerCache := { x.server.playerCache with keys := x.written }

/-- The protocol for these keys after an event, before a channel closes. -/
def cacheBefore (env : Env) (x : Keyed) (e : ServerEvent) : PlayerCache :=
  (cacheEvent env x.server e).elim x.cache x.cache.apply

/-- Rows are bound to open channels, and the keys are in Redis. -/
structure Ok (x : Keyed) : Prop where
  bound : x.server.playerCache.Bound
  cached : x.written ⊆ x.server.storage.cachedKeys

end Keyed

/-- One event. -/
def KeyedStep (env : Env) : Keyed → ServerEvent → Keyed → Prop :=
  guarded (fun x => Enabled x.server) fun x e y => x.step env e = y

section

variable {env : Env} {x y : Keyed} {e : ServerEvent}

theorem KeyedStep.server (h : KeyedStep env x e y) : ServerStep env x.server e y.server :=
  ⟨h.1, congrArg Keyed.server h.2⟩

theorem Keyed.Ok.step (hx : x.Ok) (hstep : KeyedStep env x e y) : y.Ok := by
  constructor
  · rw [serverStep_cache hx.bound hstep.server]
    cases closing env x.server e with
    | none => exact cacheAfter_bound hx.bound
    | some id => exact PlayerCache.Bound.apply (cacheAfter_bound hx.bound) (.close id)
  · rw [← hstep.2]
    exact Finset.inter_subset_right

/-- If no other keys are in Redis, the keys of logins are all the keys. -/
theorem KeyedStep.of_server {s t : GameServer} (h : s.playerCache.Bound)
    (hstep : ServerStep env s e t) :
    KeyedStep env ⟨s, s.storage.cachedKeys⟩ e ⟨t, t.storage.cachedKeys⟩ := by
  have hclose := serverStep_cache h hstep
  obtain ⟨henabled, rfl⟩ := hstep
  refine ⟨henabled, congrArg (Keyed.mk _) (Finset.inter_eq_right.mpr fun key hkey => ?_)⟩
  have hbefore : key ∈ (cacheAfter env s e).keys := by
    change key ∈ (after (act env e) s).playerCache.keys at hkey
    rw [hclose] at hkey
    cases hclosing : closing env s e with
    | none => rwa [hclosing] at hkey
    | some id =>
      rw [hclosing, Option.elim_some, PlayerCache.mem_keys_apply] at hkey
      exact hkey.1.resolve_right (by simp [CacheEvent.stores])
  unfold cacheAfter at hbefore
  rw [Finset.mem_union, Option.mem_toFinset]
  cases hev : cacheEvent env s e with
  | none =>
    rw [hev] at hbefore
    exact .inl hbefore
  | some ev =>
    rw [hev] at hbefore
    exact (PlayerCache.mem_keys_apply.mp hbefore).1

theorem run_keyed {P : PlayerCache → Prop} {s t : GameServer} {es : List ServerEvent}
    (hs : s.playerCache.Bound)
    (hrun : Run (staying (fun s => P s.playerCache) (ServerStep env)) s es t) :
    Run (staying (fun x => P x.cache) (KeyedStep env)) ⟨s, s.storage.cachedKeys⟩ es
      ⟨t, t.storage.cachedKeys⟩ ∧ t.playerCache.Bound := by
  induction hrun with
  | nil => exact ⟨.nil, hs⟩
  | snoc _ hstep ih =>
    have hkeyed := KeyedStep.of_server ih.2 hstep.1
    exact ⟨ih.1.snoc ⟨hkeyed, hstep.2⟩, (Keyed.Ok.step ⟨ih.2, subset_rfl⟩ hkeyed).bound⟩

/-- The keys of logins follow the keys in Redis. -/
theorem Keyed.cacheBefore_eq (hx : x.Ok) (env : Env) (e : ServerEvent) :
    let C := cacheAfter env x.server e
    let stored := (cacheEvent env x.server e).bind CacheEvent.stores
    x.cacheBefore env e = { C with keys := (x.written ∪ stored.toFinset) ∩ C.keys } := by
  unfold cacheBefore cache cacheAfter
  cases cacheEvent env x.server e with
  | none =>
    refine PlayerCache.ext rfl rfl rfl rfl ?_
    show x.written = (x.written ∪ ∅) ∩ x.server.storage.cachedKeys
    rw [Finset.union_empty, Finset.inter_eq_left.mpr hx.cached]
  | some ev =>
    dsimp only [Option.elim_some, Option.bind_some]
    rw [PlayerCache.apply_keys]
    refine PlayerCache.ext rfl rfl rfl rfl ?_
    ext key
    have hcached : key ∈ x.written → key ∈ x.server.playerCache.keys := fun hkey => hx.cached hkey
    simp only [PlayerCache.mem_keysAfter, Finset.mem_inter, Finset.mem_union,
      PlayerCache.mem_keys_apply, Option.mem_toFinset, Option.mem_def]
    tauto

theorem keyedStep_cache (hx : x.Ok) (hstep : KeyedStep env x e y) :
    y.cache = (closing env x.server e).elim (x.cacheBefore env e) fun id =>
      (x.cacheBefore env e).apply (.close id) := by
  have hy : y.cache = { y.server.playerCache with keys :=
      (x.written ∪ ((cacheEvent env x.server e).bind CacheEvent.stores).toFinset) ∩
        y.server.playerCache.keys } := by
    rw [← hstep.2]
    rfl
  rw [Keyed.cacheBefore_eq hx env e, hy, serverStep_cache hx.bound hstep.server]
  cases closing env x.server e with
  | none => rfl
  | some id =>
    rw [Option.elim_some, Option.elim_some, PlayerCache.apply_keys]
    refine PlayerCache.ext rfl rfl rfl rfl ?_
    ext key
    simp only [Finset.mem_inter, PlayerCache.mem_keysAfter, PlayerCache.mem_keys_apply]
    simp only [CacheEvent.stores]
    tauto

/-- No key loses its last owner, or is stored without one. -/
structure KeepsOwners (env : Env) (x : Keyed) (e : ServerEvent) : Prop where
  event : ∀ ev, cacheEvent env x.server e = some ev → x.cache.KeepsOwners ev
  close : ∀ id, closing env x.server e = some id → (x.cacheBefore env e).KeepsOwners (.close id)

/-- **One event** keeps the account exactly if it keeps the owners. -/
theorem accounted_step (hx : x.Ok) (haccounted : x.cache.Accounted)
    (hstep : KeyedStep env x e y) : y.cache.Accounted ↔ KeepsOwners env x e := by
  have hbound : x.cache.Bound := ⟨hx.bound.within, hx.bound.positive⟩
  have hbefore : (x.cacheBefore env e).Bound ∧ ((x.cacheBefore env e).Accounted ↔
      ∀ ev, cacheEvent env x.server e = some ev → x.cache.KeepsOwners ev) := by
    unfold Keyed.cacheBefore
    cases cacheEvent env x.server e with
    | none => exact ⟨hbound, iff_of_true haccounted (by simp)⟩
    | some ev =>
      refine ⟨hbound.apply ev, (PlayerCache.accounted_apply_iff hbound haccounted ev).trans ?_⟩
      simp
  rw [keyedStep_cache hx hstep]
  cases hclosing : closing env x.server e with
  | none =>
    rw [Option.elim_none, hbefore.2]
    exact ⟨fun hevent => ⟨hevent, by simp [hclosing]⟩, KeepsOwners.event⟩
  | some id =>
    rw [Option.elim_some, PlayerCache.accounted_close_iff hbefore.1, hbefore.2]
    constructor
    · rintro ⟨hevent, hclose⟩
      refine ⟨hevent, fun closed hclosed => ?_⟩
      cases hclosing.symm.trans hclosed
      exact hclose
    · exact fun h => ⟨h.event, h.close id hclosing⟩

end

theorem bound_init (h : ServerInit s) : s.playerCache.Bound where
  within := (keysOk_init h).dbId
  positive channelId row hrow := by
    change s.channelToDbId.lookup channelId = some row at hrow
    rw [h.channelToDbId] at hrow
    cases hrow

/-- **When cached players belong to sessions.** Along a run of the server every key that a
login has stored is owned exactly if each event keeps the owners. No key is left then when
every channel has closed. -/
theorem cache_owned_iff (env : Env) {s : GameServer} {y : Keyed} {es : List ServerEvent}
    (hinit : ServerInit s) :
    (Run (staying (fun x => x.cache.Accounted) (KeyedStep env)) ⟨s, ∅⟩ es y ↔
      Run (guarded (KeepsOwners env) (KeyedStep env)) ⟨s, ∅⟩ es y) ∧
    (Run (guarded (KeepsOwners env) (KeyedStep env)) ⟨s, ∅⟩ es y →
      y.server.channels = ∅ → y.written = ∅) := by
  have hok : Keyed.Ok ⟨s, ∅⟩ := ⟨bound_init hinit, Finset.empty_subset _⟩
  have hempty : (Keyed.cache ⟨s, ∅⟩).Accounted := by
    intro key hkey
    exact absurd hkey (Finset.notMem_empty key)
  have hiff : Run (staying (fun x => x.cache.Accounted) (KeyedStep env)) ⟨s, ∅⟩ es y ↔
      Run (guarded (KeepsOwners env) (KeyedStep env)) ⟨s, ∅⟩ es y := by
    refine Run.staying_iff hok hempty (fun _ _ _ hx hstep => hx.step hstep) ?_
    exact fun _ _ _ hx haccounted hstep => accounted_step hx haccounted hstep
  refine ⟨hiff, fun hrun hclosed => ?_⟩
  have haccounted : y.cache.Accounted := (hiff.mpr hrun).staying_end hempty
  refine Finset.eq_empty_of_forall_notMem fun key hkey => ?_
  rcases haccounted key hkey with ⟨id, hid, -⟩ | ⟨c, -, hbinds⟩
  · change id ∈ y.server.channels at hid
    rw [hclosed] at hid
    exact AList.notMem_empty id hid
  · have hopen : c.channelId ∈ y.server.channels := (PlayerCache.binds_eq_some.mp hbinds).1
    rw [hclosed] at hopen
    exact AList.notMem_empty _ hopen

/-- A server with a Redis client, in which no player is cached. -/
def cacheServer : GameServer :=
  { kimServer with storage := { db := { rows := [kim], nextId := 2 }, redis := some {} } }

theorem cacheServer_init : ServerInit cacheServer := by
  constructor <;> rfl

theorem eq_empty_of_keys {m : ChannelMap Unit} (h : m.keys = []) : m = ∅ :=
  AList.ext (List.map_eq_nil_iff.mp h)

/-- A player logs in and leaves. -/
def visit : List ServerEvent :=
  [.accept 1 0, .frame 1 1001 kimLogin, .strand 1 {}, .completion 0, .readError 1]

/-- The key is owned from the login on, and deleted when the player leaves. -/
theorem cache_owned_visit :
    let t := execute plainEnv cacheServer visit
    let y : Keyed := ⟨t, t.storage.cachedKeys⟩
    Run (guarded (KeepsOwners plainEnv) (KeyedStep plainEnv)) ⟨cacheServer, ∅⟩ visit y ∧
    y.written = ∅ := by
  intro t y
  have hstays : Run (staying (fun s => s.playerCache.Accounted) (ServerStep plainEnv)) cacheServer
      visit t := run_execute_staying (by decide +kernel) (by decide +kernel)
  obtain ⟨hiff, hempty⟩ := cache_owned_iff (s := cacheServer) (y := y) plainEnv cacheServer_init
  have hrun := hiff.mp (run_keyed (bound_init cacheServer_init) hstays).1
  exact ⟨hrun, hempty hrun (eq_empty_of_keys (by decide +kernel))⟩

/-- The player leaves before the login completes. -/
def shortVisit : List ServerEvent :=
  [.accept 1 0, .frame 1 1001 kimLogin, .strand 1 {}, .readError 1, .completion 0]

/-- The channel was not bound to the row when it closed, and the completion finds it gone.
Nothing is left to do, and the key stays. -/
theorem orphaned_key :
    let t := execute plainEnv cacheServer shortVisit
    Run (KeyedStep plainEnv) ⟨cacheServer, ∅⟩ shortVisit ⟨t, {1}⟩ ∧
    t.channels = ∅ ∧ t.completions = [] ∧ (∀ id, t.dbPool.pending id = []) := by
  intro t
  have hserver : Run (ServerStep plainEnv) cacheServer shortVisit t :=
    run_execute (by decide +kernel)
  have hkeyed := (run_keyed (P := fun _ => True) (bound_init cacheServer_init)
    (hserver.mono fun _ _ _ hstep => ⟨hstep, trivial⟩)).1
  have hkeys : t.storage.cachedKeys = {1} := by decide +kernel
  rw [hkeys] at hkeyed
  refine ⟨hkeyed.mono fun _ _ _ hstep => hstep.1, eq_empty_of_keys (by decide +kernel),
    by decide +kernel, ?_⟩
  intro id
  by_cases hid : id = 1
  · subst hid
    decide +kernel
  · have hreach : Reachable ServerInit (ServerStep plainEnv) t :=
      ⟨cacheServer, shortVisit, cacheServer_init, hserver⟩
    refine reachable_pending_fresh plainEnv hreach (by decide +kernel) ?_
    have hnet : t.net.keys = [1] := by decide +kernel
    rw [AList.mem_keys, hnet, List.mem_singleton]
    exact hid

end GameServer

end EcsAsioServer
