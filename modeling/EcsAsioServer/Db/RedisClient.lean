import EcsAsioServer.Db.Statements
import EcsAsioServer.Lib.Transition
import Mathlib.Data.List.TakeWhile

/-!
# The Redis client (`redis_client.{hpp,cpp}`)

`RedisClient` keeps one connection (a `redisContext` of hiredis) and opens a new one when a
command finds the old one broken. The server has numbered stores of byte strings; what the
network does to a connection and to each command comes with the call. All calls hold `mtx_`, so
they take place one after another.

- `commands_ready`: data commands only go out on connections that are authenticated and have the
  configured store selected, no other store is touched, and contexts are freed as often as they
  are allocated.
- `call_eq`: every call is one command, and the keys of tokens and players do not collide
  (`tokenKey_injective`, `playerKey_injective`, `tokenKey_ne_playerKey`).
- `stoll_decimal`: a player id is read as it was printed.
-/

namespace EcsAsioServer.Db

open Protocol Json Transition

/-! ## Numbers as texts -/

/-- `isspace` in the C locale. -/
def isSpace (b : UInt8) : Bool := b == 0x20 || (0x09 ≤ b && b ≤ 0x0D)

/-- The sign of a number and what follows it. -/
def signOf : List UInt8 → Bool × List UInt8
  | 0x2D :: text => (true, text)
  | 0x2B :: text => (false, text)
  | text => (false, text)

/-- `std::stoll`, with `none` where it throws. -/
def stoll (text : List UInt8) : Option Int64 :=
  let (minus, text) := signOf (text.dropWhile isSpace)
  let digits := text.takeWhile digit
  let value : Int := if minus then -natOf digits else natOf digits
  if digits ≠ [] ∧ -2 ^ 63 ≤ value ∧ value < 2 ^ 63 then some (Int64.ofInt value) else none

theorem not_isSpace_of_digit {b : UInt8} (h : digit b = true) : isSpace b = false := by
  simp only [digit, Bool.and_eq_true, decide_eq_true_eq, UInt8.le_iff_toNat_le] at h
  have h30 : (0x30 : UInt8).toNat = 0x30 := rfl
  have h0d : (0x0D : UInt8).toNat = 0x0D := rfl
  simp only [isSpace, Bool.or_eq_false_iff, beq_eq_false_iff_ne, Bool.and_eq_false_iff,
    decide_eq_false_iff_not, UInt8.le_iff_toNat_le]
  refine ⟨?_, .inr (by omega)⟩
  rintro rfl
  exact absurd h.1 (by decide)

/-- A digit starts a number without a sign. -/
theorem signOf_digits {text : List UInt8} (h : ∀ b ∈ text, digit b = true) :
    signOf text = (false, text) := by
  unfold signOf
  split
  · exact absurd (h _ List.mem_cons_self) (by decide)
  · exact absurd (h _ List.mem_cons_self) (by decide)
  · rfl

theorem dropWhile_isSpace_digitsOf (n : Nat) :
    (digitsOf n).dropWhile isSpace = digitsOf n := by
  cases htext : digitsOf n with
  | nil => rfl
  | cons b text =>
    have hb : digit b = true :=
      digit_of_mem_digitsOf (n := n) (by rw [htext]; exact List.mem_cons_self)
    rw [List.dropWhile_cons_of_neg (by simp [not_isSpace_of_digit hb])]

theorem takeWhile_digit_digitsOf (n : Nat) : (digitsOf n).takeWhile digit = digitsOf n :=
  List.takeWhile_eq_self_iff.mpr fun _ h => digit_of_mem_digitsOf h

/-- The digits of a number in range, after a sign. -/
theorem stoll_of_sign {text : List UInt8} {minus : Bool} {id : Int64}
    (hsign : signOf (text.dropWhile isSpace) = (minus, digitsOf id.toInt.natAbs))
    (hminus : minus = decide (id.toInt < 0)) : stoll text = some id := by
  have hvalue : (if minus then -((id.toInt.natAbs : Nat) : Int) else (id.toInt.natAbs : Nat))
      = id.toInt := by
    subst hminus
    split
    · next h =>
      have hneg := of_decide_eq_true h
      omega
    · next h =>
      have hpos := of_decide_eq_false (Bool.eq_false_iff.mpr h)
      omega
  simp only [stoll, hsign, takeWhile_digit_digitsOf, natOf_digitsOf, hvalue]
  rw [if_pos ⟨digitsOf_ne_nil _, id.le_toInt, id.toInt_lt⟩, Int64.ofInt_toInt]

/-- A player id is read as it was printed. -/
theorem stoll_decimal (id : Int64) : stoll (decimal id.toInt) = some id := by
  rw [decimal_eq, Numeral.print_ofInt]
  by_cases hneg : id.toInt < 0
  · rw [if_pos hneg]
    exact stoll_of_sign rfl (decide_eq_true hneg).symm
  · rw [if_neg hneg]
    refine stoll_of_sign ?_ (decide_eq_false hneg).symm
    rw [dropWhile_isSpace_digitsOf, signOf_digits fun _ h => digit_of_mem_digitsOf h]

/-! ## Keys -/

/-- The key of a token. -/
def tokenKey (token : List UInt8) : List UInt8 := ascii "token:" ++ token

/-- The key of a player. -/
def playerKey (playerId : Int64) : List UInt8 :=
  ascii "player:" ++ decimal playerId.toInt ++ ascii ":data"

theorem cString_tokenKey (token : List UInt8) :
    cString (tokenKey token) = tokenKey (cString token) :=
  cString_append (by decide) token

theorem cString_playerKey (playerId : Int64) :
    cString (playerKey playerId) = playerKey playerId := by
  refine cString_of_not_mem fun hmem => ?_
  rcases List.mem_append.mp hmem with hmem | hmem
  · rcases List.mem_append.mp hmem with hmem | hmem
    · exact absurd hmem (by decide)
    · exact (printable_decimal _).zero_not_mem hmem
  · exact absurd hmem (by decide)

theorem tokenKey_injective {token token' : List UInt8} (h : tokenKey token = tokenKey token') :
    token = token' :=
  List.append_cancel_left h

theorem playerKey_injective {playerId playerId' : Int64}
    (h : playerKey playerId = playerKey playerId') : playerId = playerId' :=
  Int64.toInt_inj.mp (decimal_injective (List.append_cancel_left (List.append_cancel_right h)))

theorem tokenKey_ne_playerKey (token : List UInt8) (playerId : Int64) :
    tokenKey token ≠ playerKey playerId := by
  intro h
  have hhead := congrArg List.head? h
  simp [tokenKey, playerKey, ascii] at hhead

/-! ## The server -/

/-- A store of the server. -/
abbrev Store := List UInt8 → Option (List UInt8)

/-- The commands that read and write data. -/
inductive RedisCommand where
  | set (key value : List UInt8)
  | get (key : List UInt8)
  | del (key : List UInt8)
deriving DecidableEq, Repr

/-- What `redisCommand` returns. -/
inductive RedisReply where
  | error
  | status
  | nil
  | string (text : List UInt8)
deriving DecidableEq, Repr

/-- What the command does to the keys. -/
def RedisCommand.run (m : Store) : RedisCommand → Store
  | set key value => Function.update m key (some value)
  | get _ => m
  | del key => Function.update m key none

/-- What Redis answers. -/
def RedisCommand.reply (m : Store) : RedisCommand → RedisReply
  | set _ _ => .status
  | get key => match m key with
    | some value => .string value
    | none => .nil
  | del _ => .status

/-- A `redisContext`, and what the server knows of its connection. -/
structure RedisContext where
  err : Bool := false
  authenticated : Bool := false
  store : Int32 := 0
deriving DecidableEq, Repr

/-- What `redisConnectWithTimeout` returns: null, a context with an error, or a connection. -/
inductive ConnectOutcome where
  | null | failed | opened
deriving DecidableEq, Repr

/-- How a command ends: without a reply, which breaks the connection (the server may have
executed the command), with an error, or with the reply to the command. -/
inductive ReplyOutcome where
  | lost (executed : Bool) | error | answered
deriving DecidableEq, Repr

/-- What the network does during a call. -/
structure RedisNet where
  connect : ConnectOutcome := .opened
  auth : ReplyOutcome := .answered
  select : ReplyOutcome := .answered
  reply : ReplyOutcome := .answered
deriving DecidableEq, Repr

/-! ## The client -/

/-- `RedisClient::Config`, as far as it is not about the network. -/
structure RedisConfig where
  password : List UInt8 := []
  dbIndex : Int32 := 0
deriving DecidableEq, Repr

/-- The client and the server. `allocated` and `freed` count contexts, and `sent` are the data
commands with the context on which each went out. -/
structure RedisState where
  ctx : Option RedisContext := none
  allocated : Nat := 0
  freed : Nat := 0
  sent : List (RedisContext × RedisCommand) := []
  stores : Int32 → Store := fun _ _ => none

namespace RedisState

/-- `redisFree`, and `ctx_ = nullptr`. -/
def redisFree (s : RedisState) : RedisState := { s with ctx := none, freed := s.freed + 1 }

/-- `AUTH`, when there is a password. -/
def authenticate (cfg : RedisConfig) (net : RedisNet) (ctx : RedisContext) : Option RedisContext :=
  if cfg.password = [] then some ctx
  else if net.auth = .answered then some { ctx with authenticated := true }
  else none

/-- `SELECT`, when the store is not the first one. -/
def selectStore (cfg : RedisConfig) (net : RedisNet) (ctx : RedisContext) : Option RedisContext :=
  if cfg.dbIndex = 0 then some ctx
  else if net.select = .answered then some { ctx with store := cfg.dbIndex }
  else none

/-- `connect`, which is also the end of `reconnect_if_needed`: whatever `ctx_` was is
overwritten. -/
def connect (cfg : RedisConfig) (net : RedisNet) (s : RedisState) : Bool × RedisState :=
  match net.connect with
  | .null => (false, { s with ctx := none })
  | .failed =>
    (false, redisFree { s with ctx := some { err := true }, allocated := s.allocated + 1 })
  | .opened =>
    let s := { s with ctx := some {}, allocated := s.allocated + 1 }
    match authenticate cfg net {} with
    | none => (false, s.redisFree)
    | some ctx =>
      match selectStore cfg net ctx with
      | none => (false, s.redisFree)
      | some ctx => (true, { s with ctx := some ctx })

/-- `disconnect`. -/
def disconnect (s : RedisState) : RedisState :=
  if s.ctx.isSome then s.redisFree else s

/-- `is_connected`. -/
def isConnected (s : RedisState) : Bool := s.ctx.any fun ctx => !ctx.err

/-- `reconnect_if_needed`. -/
def reconnectIfNeeded (cfg : RedisConfig) (net : RedisNet) (s : RedisState) : Bool × RedisState :=
  if s.isConnected then (true, s)
  else connect cfg net s.disconnect

/-- `redisCommand` for data, on the context. -/
def redisCommand (net : RedisNet) (cmd : RedisCommand) (ctx : RedisContext) (s : RedisState) :
    Option RedisReply × RedisState :=
  let sent := s.sent ++ [(ctx, cmd)]
  let executed := Function.update s.stores ctx.store (cmd.run (s.stores ctx.store))
  match net.reply with
  | .lost true => (none, { s with ctx := some { ctx with err := true }, sent, stores := executed })
  | .lost false => (none, { s with ctx := some { ctx with err := true }, sent })
  | .error => (some .error, { s with sent })
  | .answered => (some (cmd.reply (s.stores ctx.store)), { s with sent, stores := executed })

/-- What `exec_set`, `exec_get` and `exec_del` have in common: `none` is no reply, also because
there was no connection. -/
def exec (cfg : RedisConfig) (net : RedisNet) (cmd : RedisCommand) (s : RedisState) :
    Option RedisReply × RedisState :=
  let (ok, s) := s.reconnectIfNeeded cfg net
  match ok, s.ctx with
  | true, some ctx => s.redisCommand net cmd ctx
  | _, _ => (none, s)

/-- `exec_set`; `%s` reads up to the first zero. -/
def execSet (cfg : RedisConfig) (net : RedisNet) (key value : List UInt8) (s : RedisState) :
    Bool × RedisState :=
  let (r, s) := s.exec cfg net (.set (cString key) (cString value))
  (r.any (· ≠ .error), s)

/-- `exec_get`. -/
def execGet (cfg : RedisConfig) (net : RedisNet) (key : List UInt8) (s : RedisState) :
    Option (List UInt8) × RedisState :=
  let (r, s) := s.exec cfg net (.get (cString key))
  (match r with
    | some (.string text) => some text
    | _ => none, s)

/-- A reply is enough, also one that is an error. -/
def execDel (cfg : RedisConfig) (net : RedisNet) (key : List UInt8) (s : RedisState) :
    Bool × RedisState :=
  let (r, s) := s.exec cfg net (.del (cString key))
  (r.isSome, s)

end RedisState

/-! ## Calls -/

/-- The calls of a client. -/
inductive RedisCall where
  | setToken (token : List UInt8) (playerId : Int64)
  | getPlayerIdByToken (token : List UInt8)
  | delToken (token : List UInt8)
  | setPlayerCache (playerId : Int64) (jsonData : List UInt8)
  | getPlayerCache (playerId : Int64)
  | delPlayerCache (playerId : Int64)
deriving DecidableEq, Repr

/-- What the calls return. -/
inductive RedisResult where
  | ok (b : Bool)
  | playerId (id : Option Int64)
  | document (text : Option (List UInt8))
deriving DecidableEq, Repr

namespace RedisState

/-- `set_token`. -/
def setToken (cfg : RedisConfig) (net : RedisNet) (token : List UInt8) (playerId : Int64)
    (s : RedisState) : Bool × RedisState :=
  s.execSet cfg net (tokenKey token) (decimal playerId.toInt)

/-- `get_player_id_by_token`. -/
def getPlayerIdByToken (cfg : RedisConfig) (net : RedisNet) (token : List UInt8)
    (s : RedisState) : Option Int64 × RedisState :=
  let (value, s) := s.execGet cfg net (tokenKey token)
  (value.bind stoll, s)

/-- `del_token`. -/
def delToken (cfg : RedisConfig) (net : RedisNet) (token : List UInt8) (s : RedisState) :
    Bool × RedisState :=
  s.execDel cfg net (tokenKey token)

/-- `set_player_cache`. -/
def setPlayerCache (cfg : RedisConfig) (net : RedisNet) (playerId : Int64)
    (jsonData : List UInt8) (s : RedisState) : Bool × RedisState :=
  s.execSet cfg net (playerKey playerId) jsonData

/-- `get_player_cache`. -/
def getPlayerCache (cfg : RedisConfig) (net : RedisNet) (playerId : Int64) (s : RedisState) :
    Option (List UInt8) × RedisState :=
  s.execGet cfg net (playerKey playerId)

/-- `del_player_cache`. -/
def delPlayerCache (cfg : RedisConfig) (net : RedisNet) (playerId : Int64) (s : RedisState) :
    Bool × RedisState :=
  s.execDel cfg net (playerKey playerId)

/-- A call and what it returns. -/
def call (cfg : RedisConfig) (net : RedisNet) (s : RedisState) :
    RedisCall → RedisResult × RedisState
  | .setToken token playerId => (s.setToken cfg net token playerId).map .ok id
  | .getPlayerIdByToken token => (s.getPlayerIdByToken cfg net token).map .playerId id
  | .delToken token => (s.delToken cfg net token).map .ok id
  | .setPlayerCache playerId jsonData => (s.setPlayerCache cfg net playerId jsonData).map .ok id
  | .getPlayerCache playerId => (s.getPlayerCache cfg net playerId).map .document id
  | .delPlayerCache playerId => (s.delPlayerCache cfg net playerId).map .ok id

end RedisState

/-- The command of a call. -/
def RedisCall.command : RedisCall → RedisCommand
  | setToken token playerId => .set (tokenKey (cString token)) (decimal playerId.toInt)
  | getPlayerIdByToken token => .get (tokenKey (cString token))
  | delToken token => .del (tokenKey (cString token))
  | setPlayerCache playerId jsonData => .set (playerKey playerId) (cString jsonData)
  | getPlayerCache playerId => .get (playerKey playerId)
  | delPlayerCache playerId => .del (playerKey playerId)

/-- What a call makes of the reply. -/
def RedisCall.result (r : Option RedisReply) : RedisCall → RedisResult
  | setToken _ _ => .ok (r.any (· ≠ .error))
  | getPlayerIdByToken _ => .playerId (match r with
    | some (.string text) => stoll text
    | _ => none)
  | delToken _ => .ok r.isSome
  | setPlayerCache _ _ => .ok (r.any (· ≠ .error))
  | getPlayerCache _ => .document (match r with
    | some (.string text) => some text
    | _ => none)
  | delPlayerCache _ => .ok r.isSome

/-- Every call is one command. -/
theorem call_eq (cfg : RedisConfig) (net : RedisNet) (s : RedisState) (c : RedisCall) :
    s.call cfg net c = (c.result (s.exec cfg net c.command).1, (s.exec cfg net c.command).2) := by
  cases c with
  | setToken token playerId =>
    simp only [RedisState.call, RedisState.setToken, RedisState.execSet, RedisCall.command,
      cString_tokenKey, cString_of_not_mem (printable_decimal _).zero_not_mem]
    rfl
  | getPlayerIdByToken token =>
    simp only [RedisState.call, RedisState.getPlayerIdByToken, RedisState.execGet,
      RedisCall.command, cString_tokenKey, RedisCall.result, Prod.map]
    congr 2
    split
    · rfl
    · rfl
  | delToken token =>
    simp only [RedisState.call, RedisState.delToken, RedisState.execDel, RedisCall.command,
      cString_tokenKey]
    rfl
  | setPlayerCache playerId jsonData =>
    simp only [RedisState.call, RedisState.setPlayerCache, RedisState.execSet,
      RedisCall.command, cString_playerKey]
    rfl
  | getPlayerCache playerId =>
    simp only [RedisState.call, RedisState.getPlayerCache, RedisState.execGet,
      RedisCall.command, cString_playerKey]
    rfl
  | delPlayerCache playerId =>
    simp only [RedisState.call, RedisState.delPlayerCache, RedisState.execDel,
      RedisCall.command, cString_playerKey]
    rfl

/-! ## Connections -/

/-- What a data command needs. -/
structure Usable (cfg : RedisConfig) (ctx : RedisContext) : Prop where
  err : ctx.err = false
  authenticated : cfg.password ≠ [] → ctx.authenticated = true
  store : ctx.store = cfg.dbIndex

/-- How `connect` ends: what it allocated is freed, or it is a connection to use. -/
inductive Connects (cfg : RedisConfig) (s : RedisState) : Bool × RedisState → Prop where
  | fails (n : Nat) : Connects cfg s
      (false, { s with ctx := none, allocated := s.allocated + n, freed := s.freed + n })
  | opens (ctx : RedisContext) (h : Usable cfg ctx) : Connects cfg s
      (true, { s with ctx := some ctx, allocated := s.allocated + 1 })

variable {cfg : RedisConfig}

theorem usable_of_select {net : RedisNet} {ctx ctx' : RedisContext}
    (hauth : RedisState.authenticate cfg net {} = some ctx)
    (hselect : RedisState.selectStore cfg net ctx = some ctx') : Usable cfg ctx' := by
  have hctx : ctx.err = false ∧ ctx.store = 0
      ∧ (cfg.password ≠ [] → ctx.authenticated = true) := by
    unfold RedisState.authenticate at hauth
    split at hauth
    · next hempty =>
      cases hauth
      exact ⟨rfl, rfl, fun hne => absurd hempty hne⟩
    · split at hauth
      · cases hauth
        exact ⟨rfl, rfl, fun _ => rfl⟩
      · cases hauth
  unfold RedisState.selectStore at hselect
  split at hselect
  · next hzero =>
    cases hselect
    exact ⟨hctx.1, hctx.2.2, hctx.2.1.trans hzero.symm⟩
  · split at hselect
    · cases hselect
      exact ⟨hctx.1, hctx.2.2, rfl⟩
    · cases hselect

theorem connect_cases (cfg : RedisConfig) (net : RedisNet) (s : RedisState) :
    Connects cfg s (s.connect cfg net) := by
  unfold RedisState.connect
  split
  · exact .fails 0
  · exact .fails 1
  · dsimp only
    split
    · exact .fails 1
    · next ctx hauth =>
      split
      · exact .fails 1
      · next ctx' hselect => exact .opens ctx' (usable_of_select hauth hselect)

/-- What holds of the client between two calls, when the other stores hold `others` and `lost`
contexts have been forgotten. -/
structure RedisKept (cfg : RedisConfig) (others : Int32 → Store) (lost : Nat) (s : RedisState) :
    Prop where
  ready : ∀ ctx, s.ctx = some ctx → ctx.err = false → Usable cfg ctx
  balanced : s.allocated = s.freed + s.ctx.toList.length + lost
  sent : ∀ p ∈ s.sent, Usable cfg p.1
  others : ∀ i, i ≠ cfg.dbIndex → s.stores i = others i

theorem disconnect_ctx (s : RedisState) : s.disconnect.ctx = none := by
  unfold RedisState.disconnect
  split
  · rfl
  · next h => simpa using h

theorem disconnect_stores (s : RedisState) : s.disconnect.stores = s.stores := by
  unfold RedisState.disconnect
  split
  · rfl
  · rfl

section

variable {cfg : RedisConfig} {others : Int32 → Store} {lost : Nat} {s : RedisState}

theorem RedisKept.disconnect (h : RedisKept cfg others lost s) :
    RedisKept cfg others lost s.disconnect := by
  refine ⟨fun ctx hctx => ?_, ?_, ?_, ?_⟩
  · rw [disconnect_ctx] at hctx
    cases hctx
  · have hbalanced := h.balanced
    unfold RedisState.disconnect
    cases hctx : s.ctx with
    | none =>
      rw [hctx] at hbalanced
      simpa [hctx] using hbalanced
    | some ctx =>
      rw [hctx] at hbalanced
      simpa [RedisState.redisFree] using hbalanced
  · unfold RedisState.disconnect
    split
    · exact h.sent
    · exact h.sent
  · rw [disconnect_stores]
    exact h.others

/-- `connect` overwrites the pointer: a context that is still there is lost. -/
theorem RedisKept.connect (h : RedisKept cfg others lost s) (net : RedisNet) :
    RedisKept cfg others (lost + s.ctx.toList.length) (s.connect cfg net).2
      ∧ ((s.connect cfg net).1 = true → ∃ ctx, (s.connect cfg net).2.ctx = some ctx
        ∧ Usable cfg ctx)
      ∧ (s.connect cfg net).2.stores = s.stores := by
  have hbalanced := h.balanced
  have hcases := connect_cases cfg net s
  generalize s.connect cfg net = r at hcases ⊢
  cases hcases with
  | fails n =>
    refine ⟨⟨fun ctx hctx => (by cases hctx), ?_, h.sent, h.others⟩, fun ht => (by cases ht), rfl⟩
    dsimp only [Option.toList_none, List.length_nil]
    omega
  | opens ctx husable =>
    refine ⟨⟨fun ctx' hctx' _ => ?_, ?_, h.sent, h.others⟩, fun _ => ⟨ctx, rfl, husable⟩, rfl⟩
    · cases hctx'
      exact husable
    · simp only [Option.toList_some, List.length_singleton]
      omega

theorem RedisKept.reconnect (h : RedisKept cfg others lost s) (net : RedisNet) :
    RedisKept cfg others lost (s.reconnectIfNeeded cfg net).2
      ∧ ((s.reconnectIfNeeded cfg net).1 = true →
        ∃ ctx, (s.reconnectIfNeeded cfg net).2.ctx = some ctx ∧ Usable cfg ctx)
      ∧ (s.reconnectIfNeeded cfg net).2.stores = s.stores := by
  unfold RedisState.reconnectIfNeeded
  split
  · next hconnected =>
    refine ⟨h, fun _ => ?_, rfl⟩
    unfold RedisState.isConnected at hconnected
    cases hctx : s.ctx with
    | none =>
      rw [hctx] at hconnected
      cases hconnected
    | some ctx =>
      rw [hctx] at hconnected
      exact ⟨ctx, rfl, h.ready ctx hctx (by simpa using hconnected)⟩
  · obtain ⟨hkept, hctx, hstores⟩ := h.disconnect.connect net
    rw [disconnect_ctx] at hkept
    exact ⟨hkept, hctx, hstores.trans (disconnect_stores s)⟩

/-- How a command ends: the server has not executed it, or it has and the reply arrived or
not. -/
inductive Replies (cmd : RedisCommand) (m : Store) : Option RedisReply → Store → Prop where
  | refused : Replies cmd m none m
  | error : Replies cmd m (some .error) m
  | lost : Replies cmd m none (cmd.run m)
  | served : Replies cmd m (some (cmd.reply m)) (cmd.run m)

/-- A command on a usable context. -/
theorem RedisKept.redisCommand (h : RedisKept cfg others lost s) (net : RedisNet)
    (cmd : RedisCommand) {ctx : RedisContext} (hctx : s.ctx = some ctx) (husable : Usable cfg ctx) :
    RedisKept cfg others lost (s.redisCommand net cmd ctx).2
      ∧ Replies cmd (s.stores cfg.dbIndex) (s.redisCommand net cmd ctx).1
        ((s.redisCommand net cmd ctx).2.stores cfg.dbIndex) := by
  have hsent : ∀ p ∈ s.sent ++ [(ctx, cmd)], Usable cfg p.1 := by
    intro p hp
    rcases List.mem_append.mp hp with hp | hp
    · exact h.sent p hp
    · rw [List.mem_singleton.mp hp]
      exact husable
  have hothers : ∀ i, i ≠ cfg.dbIndex →
      Function.update s.stores ctx.store (cmd.run (s.stores ctx.store)) i = others i := by
    intro i hi
    rw [husable.store, Function.update_of_ne hi]
    exact h.others i hi
  have hbalanced := h.balanced
  rw [hctx] at hbalanced
  have hbroken : ∀ ctx', some { ctx with err := true } = some ctx' → ctx'.err = false →
      Usable cfg ctx' := by
    rintro ctx' ⟨⟩ herr
    cases herr
  rw [← husable.store]
  unfold RedisState.redisCommand
  dsimp only
  split
  · refine ⟨⟨hbroken, hbalanced, hsent, hothers⟩, ?_⟩
    dsimp only
    rw [Function.update_self]
    exact .lost
  · exact ⟨⟨hbroken, hbalanced, hsent, h.others⟩, .refused⟩
  · exact ⟨⟨h.ready, h.balanced, hsent, h.others⟩, .error⟩
  · refine ⟨⟨h.ready, h.balanced, hsent, hothers⟩, ?_⟩
    dsimp only
    rw [Function.update_self]
    exact .served

/-- **One command**: `exec_set`, `exec_get` and `exec_del`. -/
theorem RedisKept.exec (h : RedisKept cfg others lost s) (net : RedisNet) (cmd : RedisCommand) :
    RedisKept cfg others lost (s.exec cfg net cmd).2
      ∧ Replies cmd (s.stores cfg.dbIndex) (s.exec cfg net cmd).1
        ((s.exec cfg net cmd).2.stores cfg.dbIndex) := by
  obtain ⟨hkept, hready, hstores⟩ := h.reconnect net
  unfold RedisState.exec
  generalize s.reconnectIfNeeded cfg net = r at hkept hready hstores ⊢
  obtain ⟨ok, s'⟩ := r
  dsimp only at hkept hready hstores ⊢
  rw [← hstores]
  cases ok with
  | false => exact ⟨hkept, .refused⟩
  | true =>
    obtain ⟨ctx, hctx, husable⟩ := hready rfl
    simp only [hctx]
    exact hkept.redisCommand net cmd hctx husable

end

/-! ## Runs -/

/-- What happens to a client and its keys. -/
inductive RedisEvent where
  | connect (net : RedisNet)
  | disconnect
  | call (c : RedisCall) (net : RedisNet)
  /-- The time of a key is over (`EX`). -/
  | expireToken (token : List UInt8)
  | expirePlayer (playerId : Int64)

namespace RedisState

/-- The server drops a key. -/
def expire (cfg : RedisConfig) (key : List UInt8) (s : RedisState) : RedisState :=
  let store := Function.update (s.stores cfg.dbIndex) key none
  { s with stores := Function.update s.stores cfg.dbIndex store }

/-- One event. -/
def step (cfg : RedisConfig) (s : RedisState) : RedisEvent → RedisState
  | .connect net => (s.connect cfg net).2
  | .disconnect => s.disconnect
  | .call c net => (s.call cfg net c).2
  | .expireToken token => s.expire cfg (tokenKey (cString token))
  | .expirePlayer playerId => s.expire cfg (playerKey playerId)

/-- `connect` is not called while there is a context, a broken one included. -/
def OneConnect (s : RedisState) : RedisEvent → Prop
  | .connect _ => s.ctx = none
  | .disconnect => True
  | .call _ _ => True
  | .expireToken _ => True
  | .expirePlayer _ => True

end RedisState

theorem RedisKept.expire {others : Int32 → Store} {lost : Nat} {s : RedisState}
    (h : RedisKept cfg others lost s) (key : List UInt8) :
    RedisKept cfg others lost (s.expire cfg key) where
  ready := h.ready
  balanced := h.balanced
  sent := h.sent
  others i hi := by
    dsimp only [RedisState.expire]
    rw [Function.update_of_ne hi]
    exact h.others i hi

/-- One event: the invariant holds again, and only a `connect` on a context loses it. -/
theorem RedisKept.step {others : Int32 → Store} {lost : Nat} {s : RedisState}
    (h : RedisKept cfg others lost s) (e : RedisEvent) :
    ∃ lost', RedisKept cfg others lost' (s.step cfg e) ∧ (s.OneConnect e → lost' = lost) := by
  cases e with
  | connect net =>
    refine ⟨_, (h.connect net).1, fun hnone => ?_⟩
    rw [show s.ctx = none from hnone]
    rfl
  | disconnect => exact ⟨lost, h.disconnect, fun _ => rfl⟩
  | call c net =>
    rw [RedisState.step, call_eq]
    exact ⟨lost, (h.exec net c.command).1, fun _ => rfl⟩
  | expireToken token => exact ⟨lost, h.expire _, fun _ => rfl⟩
  | expirePlayer playerId => exact ⟨lost, h.expire _, fun _ => rfl⟩

theorem redisKept_init (cfg : RedisConfig) (stores : Int32 → Store) :
    RedisKept cfg stores 0 { stores } :=
  ⟨fun _ h => (by cases h), rfl, fun _ h => absurd h List.not_mem_nil, fun _ _ => rfl⟩

/-- **Every command is sent where it should be**: from a new client, whatever the network does
in each call, a data command only goes out on a connection without an error that is
authenticated and has the configured store selected. The other stores stay as they are, and
every context except the current one has been freed. -/
theorem commands_ready (cfg : RedisConfig) (stores : Int32 → Store) (es : List RedisEvent)
    (hconnect : Along (RedisState.step cfg) RedisState.OneConnect { stores } es) :
    let s := es.foldl (RedisState.step cfg) { stores }
    (∀ p ∈ s.sent, p.1.err = false ∧ (cfg.password ≠ [] → p.1.authenticated = true)
        ∧ p.1.store = cfg.dbIndex)
      ∧ (∀ i, i ≠ cfg.dbIndex → s.stores i = stores i)
      ∧ s.allocated = s.freed + s.ctx.toList.length := by
  intro s
  have hkept : RedisKept cfg stores 0 s := by
    refine (Run.of_along hconnect).invariant (redisKept_init cfg stores) fun s e t hs hst => ?_
    obtain ⟨lost, hkept, hlost⟩ := hs.step e
    rw [hlost hst.1] at hkept
    exact hst.2 ▸ hkept
  refine ⟨fun p hp => ?_, hkept.others, hkept.balanced⟩
  have husable := hkept.sent p hp
  exact ⟨husable.err, husable.authenticated, husable.store⟩

instance (s : RedisState) : DecidablePred s.OneConnect
  | .connect _ => inferInstanceAs (Decidable (s.ctx = none))
  | .disconnect => .isTrue trivial
  | .call _ _ => .isTrue trivial
  | .expireToken _ => .isTrue trivial
  | .expirePlayer _ => .isTrue trivial

/-- A password, and the store with the number 2. -/
def secondStore : RedisConfig := { password := ascii "pw", dbIndex := 2 }

/-- The connection breaks in the second of three calls. -/
def brokenOnce : List RedisEvent :=
  [.connect {}, .call (.setToken (ascii "t") 7) {},
    .call (.getPlayerIdByToken (ascii "t")) { reply := .lost false },
    .call (.getPlayerIdByToken (ascii "t")) {}]

theorem commands_ready_brokenOnce :
    let s := brokenOnce.foldl (RedisState.step secondStore) {}
    s.sent.length = 3 ∧ (∀ p ∈ s.sent, p.1.authenticated = true ∧ p.1.store = 2)
      ∧ s.allocated = 2 ∧ s.allocated = s.freed + s.ctx.toList.length := by
  intro s
  obtain ⟨hsent, -, hbalanced⟩ := commands_ready secondStore (fun _ _ => none) brokenOnce
    (by decide +kernel)
  refine ⟨by decide +kernel, fun p hp => ?_, by decide +kernel, hbalanced⟩
  obtain ⟨-, hauth, hstore⟩ := hsent p hp
  exact ⟨hauth (by decide), hstore⟩

-- a second `connect` forgets the first context
example : let s := [RedisEvent.connect {}, .connect {}].foldl (RedisState.step {}) {}
    s.allocated = 2 ∧ s.freed = 0 := by decide

end EcsAsioServer.Db
