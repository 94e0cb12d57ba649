import EcsAsioServer.Lib.Settings
import EcsAsioServer.Db.FailureSink

/-!
# The configuration (`server/core/server_config.hpp`, `server/core/server_config.cpp`)

`ServerConfig::load` starts from the defaults, parses the file and assigns what it finds, value
by value. Only the parser is called under a `try`: a value of another type than the field makes
`get` throw out of `load`, and numbers are cast to the type of the field. So the configuration
is made of defaults and of values of the file exactly if each value that is there has the type
of its field and is in its range (`config_falls_back_iff`).

The parser of the JSON library is a parameter, from the bytes of a file to a document or none.
-/

namespace EcsAsioServer.Core

open Protocol Settings
open Db (exponentField fractionField signBit isFinite significand roundHalfEven)

/-! ## Casts -/

/-- The size of a finite float in units of `2⁻¹⁴⁹`. -/
def floatUnits (x : F32) : Nat := significand x * 2 ^ (max 1 (exponentField x) - 1)

/-- The value of a finite float. -/
def floatValue (x : F32) : Option ℚ :=
  if isFinite x then
    let size : ℚ := floatUnits x / 2 ^ 149
    some (if signBit x then -size else size)
  else none

/-- The nearest float, to even in a tie, or an infinity. The number is counted in units of
`2⁻¹⁴⁹` first, of which 24 binary digits are kept. -/
def castFloat (q : ℚ) : F32 :=
  let units := q.num.natAbs * 2 ^ 149
  let k := (units / q.den).log2 - 23
  let size := if k < 254 then k * 2 ^ 23 + roundHalfEven units (q.den * 2 ^ k) else 255 * 2 ^ 23
  ⟨(if q < 0 then 2 ^ 31 + size else size).toUInt32⟩

theorem roundHalfEven_mul {d : Nat} (hd : 0 < d) (n : Nat) : roundHalfEven (n * d) d = n := by
  unfold roundHalfEven
  dsimp only
  rw [Nat.mul_div_cancel _ hd, Nat.mul_mod_left, if_neg (by omega)]

theorem log2_mul_two_pow {n : Nat} (hlow : 2 ^ 23 ≤ n) (hhigh : n < 2 ^ 24) (k : Nat) :
    (n * 2 ^ k).log2 = 23 + k := by
  have hne : n * 2 ^ k ≠ 0 := Nat.mul_ne_zero (by omega) (by positivity)
  rw [Nat.log2_eq_iff hne]
  constructor
  · rw [Nat.pow_add]
    exact Nat.mul_le_mul_right _ hlow
  · rw [show 23 + k + 1 = 24 + k by omega, Nat.pow_add]
    exact Nat.mul_lt_mul_of_pos_right hhigh (by positivity)

theorem log2_floatUnits (x : F32) :
    (floatUnits x).log2 - 23 = max 1 (exponentField x) - 1 := by
  have hfraction : fractionField x < 2 ^ 23 := Nat.mod_lt _ (by decide)
  unfold floatUnits significand
  by_cases hzero : exponentField x = 0
  · -- below 2²⁴ units there is no exponent
    have hlog : (fractionField x).log2 ≤ 23 := by
      by_cases h : fractionField x = 0
      · rw [h]
        decide
      · exact ((Nat.log2_lt h).mpr hfraction).le
    rw [if_pos hzero, hzero, Nat.max_eq_left (by decide), Nat.pow_zero, Nat.mul_one]
    exact Nat.sub_eq_zero_of_le hlog
  · rw [if_neg hzero, Nat.max_eq_right (by omega), log2_mul_two_pow (by omega) (by omega),
      Nat.add_sub_cancel_left]

/-- Exponent and significand make up the bits again. -/
theorem bits_eq (x : F32) : x.bits.toNat
    = (if signBit x then 2 ^ 31 else 0)
      + ((max 1 (exponentField x) - 1) * 2 ^ 23 + significand x) := by
  have hlt := x.bits.toNat_lt
  simp only [signBit, significand, exponentField, fractionField, decide_eq_true_eq]
  by_cases hsign : 2 ^ 31 ≤ x.bits.toNat <;>
    by_cases hzero : x.bits.toNat / 2 ^ 23 % 2 ^ 8 = 0 <;>
    simp only [hsign, hzero, if_true, if_false] <;> omega

variable {v : Document} {q : ℚ}

theorem num_natAbs_mul {n : Nat} (h : |q| = n / 2 ^ 149) :
    q.num.natAbs * 2 ^ 149 = n * q.den := by
  have hden : (q.den : ℚ) ≠ 0 := by exact_mod_cast q.den_ne_zero
  have habs : |q| = q.num.natAbs / q.den := by
    rw [Nat.cast_natAbs, Int.cast_abs, ← Nat.abs_cast q.den, ← abs_div, Rat.num_div_den]
  rw [habs, div_eq_div_iff hden (by positivity)] at h
  exact_mod_cast h

/-- A finite float is read back from its value. -/
theorem castFloat_eq {x : F32} (hfinite : isFinite x = true) (hsize : |q| = floatUnits x / 2 ^ 149)
    (hsign : signBit x = true ↔ q < 0) :
    castFloat q = x := by
  have hunits := num_natAbs_mul hsize
  have hk : (q.num.natAbs * 2 ^ 149 / q.den).log2 - 23 = max 1 (exponentField x) - 1 := by
    rw [hunits, Nat.mul_div_cancel _ q.den_pos, log2_floatUnits]
  have hround : roundHalfEven (q.num.natAbs * 2 ^ 149)
      (q.den * 2 ^ (max 1 (exponentField x) - 1)) = significand x := by
    rw [hunits, floatUnits, Nat.mul_assoc, Nat.mul_comm _ q.den]
    exact roundHalfEven_mul (Nat.mul_pos q.den_pos (by positivity)) _
  have hexponent : max 1 (exponentField x) - 1 < 254 := by
    have hlt : exponentField x < 2 ^ 8 := Nat.mod_lt _ (by decide)
    have hne : exponentField x ≠ 255 := of_decide_eq_true hfinite
    omega
  have hbits : (castFloat q).bits.toNat = x.bits.toNat := by
    simp only [castFloat, hk, hround, if_pos hexponent]
    have hlt := x.bits.toNat_lt
    rw [bits_eq x] at hlt ⊢
    simp only [hsign] at hlt ⊢
    by_cases hq : q < 0
    · rw [if_pos hq] at hlt
      rw [if_pos hq, if_pos hq, Nat.toUInt32_eq, UInt32.toNat_ofNat', Nat.mod_eq_of_lt hlt]
    · rw [if_neg hq, Nat.zero_add] at hlt
      rw [if_neg hq, if_neg hq, Nat.zero_add, Nat.toUInt32_eq, UInt32.toNat_ofNat',
        Nat.mod_eq_of_lt hlt]
  exact congrArg F32.mk (UInt32.toNat_inj.mp hbits)

/-- A number that is the value of a float is cast to that value. -/
theorem floatValue_castFloat {x : F32} (h : floatValue x = some q) :
    floatValue (castFloat q) = some q := by
  have hfinite : isFinite x = true := by
    by_contra hx
    rw [floatValue, if_neg hx] at h
    cases h
  have hq : (if signBit x then -(floatUnits x / 2 ^ 149 : ℚ) else floatUnits x / 2 ^ 149) = q := by
    rw [floatValue, if_pos hfinite] at h
    exact Option.some.inj h
  by_cases hzero : q = 0
  · -- the sign of a zero is lost
    rw [hzero]
    decide +kernel
  · have hsize : 0 ≤ (floatUnits x / 2 ^ 149 : ℚ) := by positivity
    suffices hcast : castFloat q = x by rw [hcast, h]
    split at hq
    case isTrue hsign =>
      have hneg : q < 0 := lt_of_le_of_ne (by rw [← hq]; exact neg_nonpos.mpr hsize) hzero
      refine castFloat_eq hfinite ?_ (iff_of_true hsign hneg)
      rw [← hq, abs_neg, abs_of_nonneg hsize]
    case isFalse hsign =>
      have hpos : ¬ q < 0 := by rw [← hq]; exact not_lt.mpr hsize
      refine castFloat_eq hfinite ?_ (iff_of_false hsign hpos)
      rw [← hq, abs_of_nonneg hsize]

/-- `get<int>`. -/
def int : Kind Int32 := .whole Int32.ofInt Int32.toInt (-2 ^ 31) (2 ^ 31 - 1)

/-- `get<uint16_t>`. -/
def uint16 : Kind UInt16 := .whole UInt16.ofInt (fun x => x.toNat) 0 (2 ^ 16 - 1)

/-- `get<float>`. -/
def float : Kind F32 := .real castFloat floatValue

theorem int_fits_iff {default : Int32} :
    int.Fits default v ↔ (∃ n : Int32, v.number = some (n.toInt : ℚ)) ∨ int.get v = .ok default :=
  Kind.whole_fits_iff Int32.ofInt_toInt (fun n => n.le_toInt) fun n => by
    have hlt := n.toInt_lt
    omega

theorem ofInt_toNat (n : UInt16) : UInt16.ofInt n.toNat = n := by
  have hlt := n.toNat_lt
  have hmod : ((n.toNat : Int) % 2 ^ 16).toNat = n.toNat := by omega
  rw [UInt16.ofInt, hmod, UInt16.ofNat_toNat]

theorem uint16_fits_iff {default : UInt16} :
    uint16.Fits default v ↔
      (∃ n : UInt16, v.number = some ((n.toNat : Int) : ℚ)) ∨ uint16.get v = .ok default :=
  Kind.whole_fits_iff ofInt_toNat (fun n => Int.natCast_nonneg _) fun n => by
    have hlt := n.toNat_lt
    omega

theorem float_fits_iff {default : F32} :
    float.Fits default v ↔
      (∃ x q, v.number = some q ∧ floatValue x = some q) ∨ float.get v = .ok default := by
  have hcast : ∀ x q, floatValue x = some q → floatValue (castFloat q) = some q :=
    fun _ _ => floatValue_castFloat
  exact Kind.real_fits_iff hcast

/-! ## Maps and databases -/

/-- `MapConfig`, with its defaults. -/
structure MapConfig where
  id : Int32 := 0
  name : List UInt8 := []
  width : F32 := castFloat 1000
  height : F32 := castFloat 1000
  maxPlayers : Int32 := 100

namespace MapConfig

/-- What is assigned to `mc`, in the order of the source. -/
def settings : List (Setting MapConfig) :=
  [.mk int [ascii "id"] (·.id) fun c x => { c with id := x },
    .mk .text [ascii "name"] (·.name) fun c x => { c with name := x },
    .mk float [ascii "width"] (·.width) fun c x => { c with width := x },
    .mk float [ascii "height"] (·.height) fun c x => { c with height := x },
    .mk int [ascii "max_players"] (·.maxPlayers) fun c x => { c with maxPlayers := x }]

theorem independent_settings : Independent settings := by
  simp [Independent, settings, Setting.Apart]

theorem ext_of_settings {c c' : MapConfig} (h : ∀ s ∈ settings, s.field c = s.field c') :
    c = c' := by
  cases c
  cases c'
  simpa [settings] using h

end MapConfig

/-- `DbConfig`, with its defaults. -/
structure DbConfig where
  enabled : Bool := false
  host : List UInt8 := ascii "127.0.0.1"
  port : UInt16 := 3306
  name : List UInt8 := ascii "lemondory_game"
  user : List UInt8 := ascii "game_user"
  password : List UInt8 := []
  poolSize : Int32 := 4

namespace DbConfig

/-- What is assigned to `dc`, in the order of the source. -/
def settings : List (Setting DbConfig) :=
  [.mk .flag [ascii "enabled"] (·.enabled) fun c x => { c with enabled := x },
    .mk .text [ascii "host"] (·.host) fun c x => { c with host := x },
    .mk uint16 [ascii "port"] (·.port) fun c x => { c with port := x },
    .mk .text [ascii "name"] (·.name) fun c x => { c with name := x },
    .mk .text [ascii "user"] (·.user) fun c x => { c with user := x },
    .mk .text [ascii "password"] (·.password) fun c x => { c with password := x },
    .mk int [ascii "pool_size"] (·.poolSize) fun c x => { c with poolSize := x }]

theorem independent_settings : Independent settings := by
  simp [Independent, settings, Setting.Apart]

theorem ext_of_settings {c c' : DbConfig} (h : ∀ s ∈ settings, s.field c = s.field c') :
    c = c' := by
  cases c
  cases c'
  simpa [settings] using h

end DbConfig

/-- The three maps that there are without a file. -/
def defaultMaps : List MapConfig :=
  [⟨1, ascii "Forest", castFloat 1000, castFloat 1000, 100⟩,
    ⟨2, ascii "Dungeon", castFloat 800, castFloat 800, 50⟩,
    ⟨3, ascii "City", castFloat 1500, castFloat 1500, 200⟩]

/-- A list that is not empty replaces the maps; anything else leaves them. -/
def mapList : Kind (List MapConfig) where
  get
    | .array (m :: ms) => (m :: ms).mapM (load MapConfig.settings · {})
    | _ => .ok defaultMaps
  Given v maps := ∃ elements, v = .array elements ∧
    List.Forall₂ (Taken MapConfig.settings {}) elements maps

theorem mapList_fits_iff :
    mapList.Fits defaultMaps v ↔
      (∃ elements, v = .array elements ∧ ∀ m ∈ elements, Fits MapConfig.settings {} m) ∨
        mapList.get v = .ok defaultMaps := by
  constructor
  · rintro ⟨maps, hget, rfl | ⟨elements, rfl, htaken⟩⟩
    · exact .inr hget
    · cases elements with
      | nil => exact .inr rfl
      | cons m ms =>
        exact .inl ⟨m :: ms, rfl, (forall_taken_iff MapConfig.independent_settings).mp
          ⟨maps, hget, htaken⟩⟩
  · rintro (⟨elements, rfl, hfits⟩ | hget)
    · cases elements with
      | nil => exact ⟨defaultMaps, rfl, .inl rfl⟩
      | cons m ms =>
        obtain ⟨maps, hload, htaken⟩ :=
          (forall_taken_iff MapConfig.independent_settings).mpr hfits
        exact Kind.fits_of_given hload ⟨m :: ms, rfl, htaken⟩
    · exact ⟨defaultMaps, hget, .inl rfl⟩

/-- The databases by name. -/
abbrev Databases := AList fun _ : List UInt8 => DbConfig

/-- The databases that `ServerConfig` starts with. -/
def defaultDatabases : Databases :=
  ((AList.insert (ascii "game") {} ∅).insert (ascii "guild") {}).insert (ascii "common") {}

/-- `databases[key] = dc` for each member of an object. -/
def assignDatabases (dbs : Databases) : List (List UInt8 × Document) → Except Fault Databases
  | [] => .ok dbs
  | (key, val) :: members => do
    let dc ← load DbConfig.settings val {}
    assignDatabases (dbs.insert key dc) members

/-- The databases of an object are those of its members and, under other names, the
default ones. -/
def databaseMap : Kind Databases where
  get
    | .object members => assignDatabases defaultDatabases members
    | _ => .ok defaultDatabases
  Given v dbs := ∃ members, v = .object members ∧ ∀ key,
    ((∀ e ∈ members, e.1 ≠ key) ∧ dbs.lookup key = defaultDatabases.lookup key) ∨
    ∃ e ∈ members, e.1 = key ∧ ∃ c, dbs.lookup key = some c ∧ Taken DbConfig.settings {} e.2 c

section Databases

variable {members : List (List UInt8 × Document)} {dbs dbs' : Databases}

theorem assignDatabases_cons {e : List UInt8 × Document} :
    assignDatabases dbs (e :: members) = .ok dbs' ↔
      ∃ c, load DbConfig.settings e.2 {} = .ok c ∧
        assignDatabases (dbs.insert e.1 c) members = .ok dbs' :=
  bind_eq_ok

theorem lookup_assignDatabases_of_ne (h : assignDatabases dbs members = .ok dbs')
    {key : List UInt8} (hkey : ∀ e ∈ members, e.1 ≠ key) : dbs'.lookup key = dbs.lookup key := by
  induction members generalizing dbs with
  | nil => cases h; rfl
  | cons e members ih =>
    obtain ⟨c, -, hrest⟩ := assignDatabases_cons.mp h
    obtain ⟨hfirst, hothers⟩ := List.forall_mem_cons.mp hkey
    rw [ih hrest hothers, AList.lookup_insert_ne hfirst.symm]

/-- The keys of an object are distinct, so nothing is assigned twice. -/
theorem lookup_assignDatabases (h : assignDatabases dbs members = .ok dbs')
    (hkeys : (members.map (·.1)).Nodup) {e : List UInt8 × Document} (he : e ∈ members) :
    ∃ c, load DbConfig.settings e.2 {} = .ok c ∧ dbs'.lookup e.1 = some c := by
  induction members generalizing dbs with
  | nil => exact absurd he List.not_mem_nil
  | cons first members ih =>
    obtain ⟨c, hc, hrest⟩ := assignDatabases_cons.mp h
    obtain ⟨hfirst, hothers⟩ := List.nodup_cons.mp hkeys
    obtain rfl | he := List.mem_cons.mp he
    · refine ⟨c, hc, ?_⟩
      rw [lookup_assignDatabases_of_ne hrest, AList.lookup_insert]
      exact fun other hother heq => hfirst (List.mem_map.mpr ⟨other, hother, heq⟩)
    · exact ih hrest hothers he

theorem exists_assignDatabases (dbs : Databases)
    (h : ∀ e ∈ members, ∃ c, load DbConfig.settings e.2 {} = .ok c) :
    ∃ dbs', assignDatabases dbs members = .ok dbs' := by
  induction members generalizing dbs with
  | nil => exact ⟨dbs, rfl⟩
  | cons e members ih =>
    obtain ⟨⟨c, hc⟩, hothers⟩ := List.forall_mem_cons.mp h
    obtain ⟨dbs', hrest⟩ := ih (dbs.insert e.1 c) hothers
    exact ⟨dbs', assignDatabases_cons.mpr ⟨c, hc, hrest⟩⟩

/-- When `databases` is taken from the file as it is. -/
theorem databaseMap_fits_iff {v : Document}
    (hkeys : ∀ members, v = .object members → (members.map (·.1)).Nodup) :
    databaseMap.Fits defaultDatabases v ↔
      (∃ members, v = .object members ∧ ∀ e ∈ members, Fits DbConfig.settings {} e.2) ∨
        databaseMap.get v = .ok defaultDatabases := by
  constructor
  · rintro ⟨dbs, hget, rfl | ⟨members, rfl, hgiven⟩⟩
    · exact .inr hget
    · have hnodup := hkeys members rfl
      refine .inl ⟨members, rfl, fun e he => ?_⟩
      obtain ⟨c, hc, hlookup⟩ := lookup_assignDatabases hget hnodup he
      obtain ⟨hnone, -⟩ | ⟨e', he', heq, c', hc', htaken⟩ := hgiven e.1
      · exact absurd rfl (hnone e he)
      · obtain rfl : e' = e := List.inj_on_of_nodup_map hnodup he' he heq
        obtain rfl : c = c' := Option.some.inj (hlookup.symm.trans hc')
        exact (taken_iff DbConfig.independent_settings).mp ⟨c, hc, htaken⟩
  · rintro (⟨members, rfl, hfits⟩ | hget)
    · have htaken : ∀ e ∈ members, ∃ c, load DbConfig.settings e.2 {} = .ok c ∧
          Taken DbConfig.settings {} e.2 c :=
        fun e he => (taken_iff DbConfig.independent_settings).mpr (hfits e he)
      obtain ⟨dbs, hget⟩ := exists_assignDatabases defaultDatabases fun e he =>
        (htaken e he).imp fun _ hc => hc.1
      refine Kind.fits_of_given hget ⟨members, rfl, fun key => ?_⟩
      by_cases hkey : ∃ e ∈ members, e.1 = key
      · obtain ⟨e, he, rfl⟩ := hkey
        obtain ⟨c, hload, hc⟩ := htaken e he
        obtain ⟨c', hload', hlookup⟩ := lookup_assignDatabases hget (hkeys members rfl) he
        cases hload.symm.trans hload'
        exact .inr ⟨e, he, rfl, c, hlookup, hc⟩
      · push Not at hkey
        exact .inl ⟨hkey, lookup_assignDatabases_of_ne hget hkey⟩
    · exact ⟨defaultDatabases, hget, .inl rfl⟩

end Databases

/-! ## The server -/

/-- `RedisConfig`, with its defaults. -/
structure RedisConfig where
  enabled : Bool := false
  host : List UInt8 := ascii "127.0.0.1"
  port : UInt16 := 6379
  password : List UInt8 := []
  dbIndex : Int32 := 0
  tokenTtlSec : Int32 := 7200
  playerTtlSec : Int32 := 1800

/-- `ServerConfig`, with its defaults. -/
structure ServerConfig where
  host : List UInt8 := ascii "0.0.0.0"
  port : UInt16 := 12345
  backlog : Int32 := 128
  maxConnections : Int32 := 1000
  tcpNoDelay : Bool := true
  logLevel : List UInt8 := ascii "debug"
  logFile : Bool := false
  logFilePath : List UInt8 := ascii "logs/server.log"
  ioThreads : Int32 := 1
  mapThreadsEnabled : Bool := true
  tickRate : Int32 := 60
  useEcs : Bool := true
  memoryPoolSize : Int32 := 1000
  databases : Databases := defaultDatabases
  redis : RedisConfig := {}
  maps : List MapConfig := defaultMaps

namespace ServerConfig

/-- What is assigned to `cfg`, in the order of the source. -/
def settings : List (Setting ServerConfig) :=
  [.mk .text [ascii "server", ascii "host"] (·.host) fun c x => { c with host := x },
    .mk uint16 [ascii "server", ascii "port"] (·.port) fun c x => { c with port := x },
    .mk int [ascii "server", ascii "backlog"] (·.backlog) fun c x => { c with backlog := x },
    .mk int [ascii "server", ascii "max_connections"]
      (·.maxConnections) fun c x => { c with maxConnections := x },
    .mk .flag [ascii "server", ascii "tcp_no_delay"]
      (·.tcpNoDelay) fun c x => { c with tcpNoDelay := x },
    .mk int [ascii "server", ascii "tick_rate"] (·.tickRate) fun c x => { c with tickRate := x },
    .mk .text [ascii "logging", ascii "level"] (·.logLevel) fun c x => { c with logLevel := x },
    .mk .flag [ascii "logging", ascii "file"] (·.logFile) fun c x => { c with logFile := x },
    .mk .text [ascii "logging", ascii "file_path"]
      (·.logFilePath) fun c x => { c with logFilePath := x },
    .mk int [ascii "threading", ascii "io_threads"]
      (·.ioThreads) fun c x => { c with ioThreads := x },
    .mk .flag [ascii "threading", ascii "map_threads_enabled"]
      (·.mapThreadsEnabled) fun c x => { c with mapThreadsEnabled := x },
    .mk .flag [ascii "game", ascii "use_ecs"] (·.useEcs) fun c x => { c with useEcs := x },
    .mk int [ascii "game", ascii "memory_pool_size"]
      (·.memoryPoolSize) fun c x => { c with memoryPoolSize := x },
    .mk mapList [ascii "maps"] (·.maps) fun c x => { c with maps := x },
    .mk databaseMap [ascii "databases"] (·.databases) fun c x => { c with databases := x },
    .mk .flag [ascii "redis", ascii "enabled"]
      (·.redis.enabled) fun c x => { c with redis.enabled := x },
    .mk .text [ascii "redis", ascii "host"] (·.redis.host) fun c x => { c with redis.host := x },
    .mk uint16 [ascii "redis", ascii "port"] (·.redis.port) fun c x => { c with redis.port := x },
    .mk .text [ascii "redis", ascii "password"]
      (·.redis.password) fun c x => { c with redis.password := x },
    .mk int [ascii "redis", ascii "db_index"]
      (·.redis.dbIndex) fun c x => { c with redis.dbIndex := x },
    .mk int [ascii "redis", ascii "token_ttl_sec"]
      (·.redis.tokenTtlSec) fun c x => { c with redis.tokenTtlSec := x },
    .mk int [ascii "redis", ascii "player_ttl_sec"]
      (·.redis.playerTtlSec) fun c x => { c with redis.playerTtlSec := x }]

theorem independent_settings : Independent settings := by
  simp [Independent, settings, Setting.Apart]

theorem ext_of_settings {c c' : ServerConfig} (h : ∀ s ∈ settings, s.field c = s.field c') :
    c = c' := by
  obtain ⟨_, _, _, _, _, _, _, _, _, _, _, _, _, _, ⟨⟩, _⟩ := c
  obtain ⟨_, _, _, _, _, _, _, _, _, _, _, _, _, _, ⟨⟩, _⟩ := c'
  simp only [settings, List.forall_mem_cons] at h
  simp [h]

/-- `ServerConfig::load`, of a file that is not there or has some content. -/
def load (parse : List UInt8 → Option Document) : Option (List UInt8) → Except Fault ServerConfig
  | none => .ok {}
  | some content =>
    match parse content with
    | none => .ok {}
    | some j => Settings.load settings j {}

/-- Every field is the default, or what the document gives if there is one. -/
def FromFile (j : Option Document) (cfg : ServerConfig) : Prop :=
  ∀ s ∈ settings, s.field cfg = s.field {} ∨
    ∃ d ∈ j, ∃ v, d.get? s.path = some v ∧ s.kind.Given v (s.field cfg)

theorem load_fromFile_iff (parse : List UInt8 → Option Document) (content : List UInt8) :
    (∃ cfg, load parse (some content) = .ok cfg ∧ FromFile (parse content) cfg) ↔
      ∀ j, parse content = some j → Fits settings {} j := by
  cases hparse : parse content with
  | none =>
    refine iff_of_true ⟨{}, by simp only [load, hparse], fun s _ => .inl rfl⟩ ?_
    rintro j ⟨⟩
  | some j =>
    simp only [load, hparse, FromFile, Option.mem_some_iff, exists_eq_left', Option.some.injEq,
      forall_eq']
    exact taken_iff independent_settings

/-- **Loading falls back to the defaults or takes over what the file says exactly if every
value that the file has for a setting fits there.** A file that cannot be read or parsed gives
the defaults. The settings are all there is in a configuration. A text must be a string and a
truth value a boolean. A number must be one of the values of the field's type, unless the cast
makes the default of it. Maps and databases must fit in each of their fields. -/
theorem config_falls_back_iff (parse : List UInt8 → Option Document) (content : List UInt8) :
    ((∃ cfg, load parse (some content) = .ok cfg ∧ FromFile (parse content) cfg) ↔
      ∀ j, parse content = some j → Fits settings {} j) ∧
    load parse none = .ok {} ∧
    (parse content = none → load parse (some content) = .ok {}) ∧
    (∀ c c' : ServerConfig, (∀ s ∈ settings, s.field c = s.field c') → c = c') ∧
    (∀ c c' : MapConfig, (∀ s ∈ MapConfig.settings, s.field c = s.field c') → c = c') ∧
    (∀ c c' : DbConfig, (∀ s ∈ DbConfig.settings, s.field c = s.field c') → c = c') ∧
    (∀ default v, Kind.text.Fits default v ↔ ∃ bytes, v = .string bytes) ∧
    (∀ default v, Kind.flag.Fits default v ↔ ∃ b, v = .boolean b) ∧
    (∀ default v, uint16.Fits default v ↔
      (∃ n : UInt16, v.number = some ((n.toNat : Int) : ℚ)) ∨ uint16.get v = .ok default) ∧
    (∀ default v, int.Fits default v ↔
      (∃ n : Int32, v.number = some (n.toInt : ℚ)) ∨ int.get v = .ok default) ∧
    (∀ default v, float.Fits default v ↔
      (∃ x q, v.number = some q ∧ floatValue x = some q) ∨ float.get v = .ok default) ∧
    (∀ v, mapList.Fits defaultMaps v ↔
      (∃ elements, v = .array elements ∧ ∀ m ∈ elements, Fits MapConfig.settings {} m) ∨
        mapList.get v = .ok defaultMaps) ∧
    ∀ v, (∀ members, v = .object members → (members.map (·.1)).Nodup) →
      (databaseMap.Fits defaultDatabases v ↔
        (∃ members, v = .object members ∧ ∀ e ∈ members, Fits DbConfig.settings {} e.2) ∨
          databaseMap.get v = .ok defaultDatabases) := by
  refine ⟨load_fromFile_iff parse content, rfl, fun h => ?_, fun _ _ => ext_of_settings,
    fun _ _ => MapConfig.ext_of_settings, fun _ _ => DbConfig.ext_of_settings,
    fun _ _ => Kind.text_fits_iff, fun _ _ => Kind.flag_fits_iff, fun _ _ => uint16_fits_iff,
    fun _ _ => int_fits_iff, fun _ _ => float_fits_iff, fun _ => mapList_fits_iff,
    fun _ => databaseMap_fits_iff⟩
  simp only [load, h]

/-- Port 70000 becomes 4464, and a port that is a string makes `load` throw. -/
theorem config_narrows_and_throws :
    let large := ascii "\x7b\"server\":\x7b\"port\":70000\x7d\x7d"
    let text := ascii "\x7b\"server\":\x7b\"port\":\"x\"\x7d\x7d"
    let serverPort (port : Document) : Document :=
      .object [(ascii "server", .object [(ascii "port", port)])]
    let parse (bytes : List UInt8) : Option Document :=
      if bytes = large then some (serverPort (.unsigned 70000))
      else if bytes = text then some (serverPort (.string (ascii "x")))
      else none
    (∃ cfg, load parse (some large) = .ok cfg ∧ cfg.port = 4464 ∧
      ¬ FromFile (parse large) cfg) ∧
    load parse (some text) = .error .typeError := by
  intro large text serverPort parse
  refine ⟨⟨{ port := 4464 }, rfl, rfl, fun h => ?_⟩, rfl⟩
  obtain hdefault | ⟨d, hd, v, hv, hgiven⟩ := h _ (.tail _ (.head _))
  · exact absurd hdefault (by decide)
  · cases hd
    cases hv
    have hport : ((70000 : Nat) : ℚ) = ((4464 : Int) : ℚ) := Option.some.inj hgiven
    norm_num at hport

end ServerConfig

end EcsAsioServer.Core
