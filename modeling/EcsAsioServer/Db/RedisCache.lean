import EcsAsioServer.Db.RedisClient

/-!
# The cache behind the Redis client (`redis_client.{hpp,cpp}`)

The rest of the server is modelled with `Redis`, a map of tokens and a map of players. Here the
client on a store of byte strings is compared with it.

- `CacheStep`: the maps, with calls that fail and keys that expire.
- `Represents`: the store holds the maps, under the keys of the client.
- `redis_refines`: the runs of the client look to its callers like runs of the maps.
-/

namespace EcsAsioServer.Db

open Protocol Transition

namespace Redis

/-- `set_token`. -/
def setToken (r : Redis) (token : List UInt8) (playerId : Int64) : Redis :=
  { r with tokens := r.tokens.insert (cString token) playerId }

/-- `del_token`. -/
def delToken (r : Redis) (token : List UInt8) : Redis :=
  { r with tokens := r.tokens.erase (cString token) }

/-- `get_player_cache`. -/
def getPlayerCache (r : Redis) (playerId : Int64) : Option (List UInt8) :=
  r.players.lookup playerId

end Redis

/-- What a call does to the maps. -/
def RedisCall.effect (r : Redis) : RedisCall → Redis
  | setToken token playerId => r.setToken token playerId
  | getPlayerIdByToken _ => r
  | delToken token => r.delToken token
  | setPlayerCache playerId jsonData => r.setPlayerCache playerId jsonData
  | getPlayerCache _ => r
  | delPlayerCache playerId => r.delPlayerCache playerId

/-- What a call returns that is served. -/
def RedisCall.answer (r : Redis) : RedisCall → RedisResult
  | setToken _ _ => .ok true
  | getPlayerIdByToken token => .playerId (r.getPlayerIdByToken token)
  | delToken _ => .ok true
  | setPlayerCache _ _ => .ok true
  | getPlayerCache playerId => .document (r.getPlayerCache playerId)
  | delPlayerCache _ => .ok true

/-- What callers see of an event. -/
inductive CacheLabel where
  | called (c : RedisCall) (result : RedisResult)
  | tokenExpired (token : List UInt8)
  | playerExpired (playerId : Int64)
deriving DecidableEq, Repr

/-- The cache as callers see it: a call is served, or it fails, and then it may have taken
effect. A deletion that the server refuses is reported as done. -/
inductive CacheStep : Redis → CacheLabel → Redis → Prop where
  | served (r : Redis) (c : RedisCall) : CacheStep r (.called c (c.answer r)) (c.effect r)
  | lost (r : Redis) (c : RedisCall) : CacheStep r (.called c (c.result none)) (c.effect r)
  | refused (r : Redis) (c : RedisCall) : CacheStep r (.called c (c.result none)) r
  | tokenKept (r : Redis) (token : List UInt8) :
      CacheStep r (.called (.delToken token) (.ok true)) r
  | playerKept (r : Redis) (playerId : Int64) :
      CacheStep r (.called (.delPlayerCache playerId) (.ok true)) r
  | tokenExpires (r : Redis) (token : List UInt8) :
      CacheStep r (.tokenExpired token) (r.delToken token)
  | playerExpires (r : Redis) (playerId : Int64) :
      CacheStep r (.playerExpired playerId) (r.delPlayerCache playerId)

/-- The store holds the two maps. -/
structure Represents (m : Store) (r : Redis) : Prop where
  tokens : ∀ token, m (tokenKey (cString token))
    = (r.tokens.lookup (cString token)).map fun playerId => decimal playerId.toInt
  players : ∀ playerId, m (playerKey playerId) = r.players.lookup playerId

section Represents

variable {m : Store} {r : Redis}

/-- One token is set or deleted. -/
theorem Represents.token (h : Represents m r) {r' : Redis} (token : List UInt8) (v : Option Int64)
    (hself : r'.tokens.lookup (cString token) = v)
    (hother : ∀ key ≠ cString token, r'.tokens.lookup key = r.tokens.lookup key)
    (hplayers : r'.players = r.players) :
    Represents
      (Function.update m (tokenKey (cString token)) (v.map fun playerId => decimal playerId.toInt))
      r' where
  tokens token' := by
    by_cases heq : cString token' = cString token
    · rw [heq, Function.update_self, hself]
    · rw [Function.update_of_ne fun hkey => heq (tokenKey_injective hkey), h.tokens,
        hother _ heq]
  players playerId := by
    rw [Function.update_of_ne (tokenKey_ne_playerKey _ _).symm, h.players, hplayers]

/-- The text of one player is set or deleted. -/
theorem Represents.player (h : Represents m r) {r' : Redis} (playerId : Int64)
    (v : Option (List UInt8)) (hself : r'.players.lookup playerId = v)
    (hother : ∀ key ≠ playerId, r'.players.lookup key = r.players.lookup key)
    (htokens : r'.tokens = r.tokens) :
    Represents (Function.update m (playerKey playerId) v) r' where
  tokens token := by
    rw [Function.update_of_ne (tokenKey_ne_playerKey _ _), h.tokens, htokens]
  players playerId' := by
    by_cases heq : playerId' = playerId
    · rw [heq, Function.update_self, hself]
    · rw [Function.update_of_ne fun hkey => heq (playerKey_injective hkey), h.players,
        hother _ heq]

theorem Represents.delToken (h : Represents m r) (token : List UInt8) :
    Represents (Function.update m (tokenKey (cString token)) none) (r.delToken token) :=
  h.token token none (AList.lookup_erase ..) (fun _ hne => AList.lookup_erase_ne hne) rfl

theorem Represents.delPlayerCache (h : Represents m r) (playerId : Int64) :
    Represents (Function.update m (playerKey playerId) none) (r.delPlayerCache playerId) :=
  h.player playerId none (AList.lookup_erase ..) (fun _ hne => AList.lookup_erase_ne hne) rfl

/-- The command of a call does to the store what the call does to the maps. -/
theorem Represents.run (h : Represents m r) (c : RedisCall) :
    Represents (c.command.run m) (c.effect r) := by
  cases c with
  | setToken token playerId =>
    exact h.token token (some playerId) (AList.lookup_insert _)
      (fun _ hne => AList.lookup_insert_ne hne) rfl
  | getPlayerIdByToken token => exact h
  | delToken token => exact h.delToken token
  | setPlayerCache playerId jsonData =>
    exact h.player playerId (some (cString jsonData)) (AList.lookup_insert _)
      (fun _ hne => AList.lookup_insert_ne hne) rfl
  | getPlayerCache playerId => exact h
  | delPlayerCache playerId => exact h.delPlayerCache playerId

/-- The reply to the command is read as the answer of the maps. -/
theorem Represents.answer (h : Represents m r) (c : RedisCall) :
    c.result (some (c.command.reply m)) = c.answer r := by
  cases c with
  | setToken token playerId => rfl
  | getPlayerIdByToken token =>
    have hkey := h.tokens token
    simp only [RedisCall.command, RedisCommand.reply, RedisCall.result, RedisCall.answer,
      Redis.getPlayerIdByToken, hkey]
    cases r.tokens.lookup (cString token) with
    | none => rfl
    | some playerId =>
      simp only [Option.map_some]
      rw [stoll_decimal]
  | delToken token => rfl
  | setPlayerCache playerId jsonData => rfl
  | getPlayerCache playerId =>
    have hkey := h.players playerId
    simp only [RedisCall.command, RedisCommand.reply, RedisCall.result, RedisCall.answer,
      Redis.getPlayerCache, hkey]
    cases r.players.lookup playerId with
    | none => rfl
    | some text => rfl
  | delPlayerCache playerId => rfl

/-- A call, however its command ends. -/
theorem Represents.call (h : Represents m r) (c : RedisCall) {reply : Option RedisReply}
    {m' : Store} (hreply : Replies c.command m reply m') :
    ∃ r', CacheStep r (.called c (c.result reply)) r' ∧ Represents m' r' := by
  cases hreply with
  | refused => exact ⟨r, .refused r c, h⟩
  | lost => exact ⟨c.effect r, .lost r c, h.run c⟩
  | served =>
    rw [h.answer]
    exact ⟨c.effect r, .served r c, h.run c⟩
  | error =>
    refine ⟨r, ?_, h⟩
    cases c with
    | setToken token playerId => exact .refused r (.setToken token playerId)
    | getPlayerIdByToken token => exact .refused r (.getPlayerIdByToken token)
    | delToken token => exact .tokenKept r token
    | setPlayerCache playerId jsonData => exact .refused r (.setPlayerCache playerId jsonData)
    | getPlayerCache playerId => exact .refused r (.getPlayerCache playerId)
    | delPlayerCache playerId => exact .playerKept r playerId

end Represents

namespace RedisState

/-- What callers see of an event. -/
def label (cfg : RedisConfig) (s : RedisState) : RedisEvent → Option CacheLabel
  | .connect _ => none
  | .disconnect => none
  | .call c net => some (.called c (s.call cfg net c).1)
  | .expireToken token => some (.tokenExpired token)
  | .expirePlayer playerId => some (.playerExpired playerId)

/-- What callers see of a run. -/
def labels (cfg : RedisConfig) : RedisState → List RedisEvent → List CacheLabel
  | _, [] => []
  | s, e :: es => (s.label cfg e).toList ++ labels cfg (s.step cfg e) es

end RedisState

/-- One event. -/
theorem Represents.step {cfg : RedisConfig} {others : Int32 → Store} {lost : Nat}
    {s : RedisState} {r : Redis} (hkept : RedisKept cfg others lost s)
    (h : Represents (s.stores cfg.dbIndex) r) (e : RedisEvent) :
    ∃ r', Run CacheStep r (s.label cfg e).toList r'
      ∧ Represents ((s.step cfg e).stores cfg.dbIndex) r' := by
  cases e with
  | connect net =>
    refine ⟨r, .nil, ?_⟩
    rw [RedisState.step, (hkept.connect net).2.2]
    exact h
  | disconnect =>
    refine ⟨r, .nil, ?_⟩
    rw [RedisState.step, disconnect_stores]
    exact h
  | call c net =>
    obtain ⟨r', hstep, hr'⟩ := h.call c (hkept.exec net c.command).2
    refine ⟨r', ?_, ?_⟩
    · rw [RedisState.label, call_eq]
      exact Run.single hstep
    · rw [RedisState.step, call_eq]
      exact hr'
  | expireToken token =>
    refine ⟨r.delToken token, Run.single (.tokenExpires r token), ?_⟩
    dsimp only [RedisState.step, RedisState.expire]
    rw [Function.update_self]
    exact h.delToken token
  | expirePlayer playerId =>
    refine ⟨r.delPlayerCache playerId, Run.single (.playerExpires r playerId), ?_⟩
    dsimp only [RedisState.step, RedisState.expire]
    rw [Function.update_self]
    exact h.delPlayerCache playerId

theorem Represents.events {cfg : RedisConfig} {others : Int32 → Store} {lost : Nat}
    {s : RedisState} {r : Redis} (hkept : RedisKept cfg others lost s)
    (h : Represents (s.stores cfg.dbIndex) r) (es : List RedisEvent) :
    ∃ r', Run CacheStep r (s.labels cfg es) r'
      ∧ Represents ((es.foldl (RedisState.step cfg) s).stores cfg.dbIndex) r' := by
  induction es generalizing s r lost with
  | nil => exact ⟨r, .nil, h⟩
  | cons e es ih =>
    obtain ⟨r₁, hrun₁, hr₁⟩ := Represents.step hkept h e
    obtain ⟨lost', hkept', -⟩ := hkept.step e
    obtain ⟨r₂, hrun₂, hr₂⟩ := ih hkept' hr₁
    exact ⟨r₂, hrun₁.append hrun₂, hr₂⟩

/-- **The client is the cache**: every run of a new client on a store that holds two maps looks
to its callers like a run of the maps, in which calls may fail. -/
theorem redis_refines (cfg : RedisConfig) (stores : Int32 → Store) (r : Redis)
    (hstore : Represents (stores cfg.dbIndex) r) (es : List RedisEvent) :
    ∃ r', Run CacheStep r (RedisState.labels cfg { stores } es) r'
      ∧ Represents ((es.foldl (RedisState.step cfg) { stores }).stores cfg.dbIndex) r' :=
  Represents.events (redisKept_init cfg stores) hstore es

theorem represents_empty : Represents (fun _ => none) {} := ⟨fun _ => rfl, fun _ => rfl⟩

/-- A token is stored, and found after the connection broke once. -/
theorem redis_refines_token : ∃ r', Run CacheStep {}
    [.called (.setToken (ascii "t") 7) (.ok true),
      .called (.getPlayerIdByToken (ascii "t")) (.playerId none),
      .called (.getPlayerIdByToken (ascii "t")) (.playerId (some 7))] r' := by
  obtain ⟨r', hrun, -⟩ := redis_refines secondStore (fun _ _ => none) {} represents_empty
    brokenOnce
  have hlabels : RedisState.labels secondStore {} brokenOnce
      = [.called (.setToken (ascii "t") 7) (.ok true),
        .called (.getPlayerIdByToken (ascii "t")) (.playerId none),
        .called (.getPlayerIdByToken (ascii "t")) (.playerId (some 7))] := by decide +kernel
  exact ⟨r', hlabels ▸ hrun⟩

end EcsAsioServer.Db
