import EcsAsioServer.Protocol.Wire
import Mathlib.Data.List.AList

/-!
# Stored players (`server/db`)

The table of players, the queries of `PlayerDao` on it, the failure sink and the
Redis client, as the tasks on the DB strands use them.

MySQL and the network to it are the environment: `MySql` holds what the server only
knows through MySQL (how names compare, what a column keeps), and each query takes
the outcomes of its attempts as an argument. `PlayerDao` tries a query at most three
times.
-/

namespace EcsAsioServer.Db

open Protocol

/-- A row of the table `players`. -/
structure PlayerRecord where
  id : Int64 := 0
  name : List UInt8 := []
  level : Int32 := 1
  exp : Int32 := 0
  hp : Int32 := 100
  maxHp : Int32 := 100
  posX : F32 := .zero
  posY : F32 := .zero
  posZ : F32 := .zero
  mapId : Int32 := 1
deriving DecidableEq, Repr

/-- What only MySQL knows. -/
structure MySql where
  /-- Equality of names under the collation of the column. -/
  sameName : List UInt8 → List UInt8 → Bool
  /-- What the column `name` keeps of an inserted name. -/
  storedName : List UInt8 → List UInt8
  /-- What a `FLOAT` column keeps of a number printed with `%.4f`. -/
  storedFloat : F32 → F32

/-- The table `players` with its `AUTO_INCREMENT` counter. It stands for MySQL, of which this
is assumed: names are unique under the collation, and a refused insert takes no id. -/
structure Database where
  rows : List PlayerRecord := []
  nextId : Int64 := 1
deriving DecidableEq, Repr

/-! ## `PlayerDao` -/

/-- How often a statement is tried. -/
def kMaxAttempts : Nat := 3

/-- The size of `name_buf`: a longer name is truncated, and the fetch fails. -/
def nameBufSize : Nat := 64

/-- `fetch_by_conn`. -/
def Database.fetchByConn (my : MySql) (db : Database) (name : List UInt8) :
    Option PlayerRecord :=
  match db.rows.find? fun r => my.sameName name r.name with
  | some r => if r.name.length ≤ nameBufSize then some r else none
  | none => none

/-- `INSERT IGNORE INTO players (name) VALUES (?)`. -/
def Database.insertIgnore (my : MySql) (db : Database) (name : List UInt8) : Database :=
  let name := my.storedName name
  if db.rows.any fun r => my.sameName name r.name then db
  else { rows := db.rows ++ [{ id := db.nextId, name }], nextId := db.nextId + 1 }

/-- How the `INSERT` of one attempt ends. -/
inductive InsertOutcome where
  | inserted | notPrepared | retryable | fatal
deriving DecidableEq, Repr

/-- One attempt of `find_or_create`: whether the pool gave a connection, how the
`INSERT` ended, and whether the `SELECT` reached the server. -/
structure LoginAttempt where
  connected : Bool := true
  insert : InsertOutcome := .inserted
  selected : Bool := true
deriving DecidableEq, Repr

/-- The loop of `find_or_create` with `n` attempts left. -/
def findOrCreateLoop (my : MySql) (name : List UInt8) :
    Nat → List LoginAttempt → Database → Option PlayerRecord × Database
  | 0, _, db => (none, db)
  | n + 1, attempts, db =>
    let attempt := attempts.headD {}
    if attempt.connected then
      match attempt.insert with
      | .fatal => (none, db)
      | .retryable => findOrCreateLoop my name n attempts.tail db
      | insert =>
        -- an `INSERT` that could not be prepared is passed over, and the `SELECT` runs
        let db := if insert = .inserted then db.insertIgnore my name else db
        match if attempt.selected then db.fetchByConn my name else none with
        | some record => (some record, db)
        | none => findOrCreateLoop my name n attempts.tail db
    -- `break`: no connection ends the attempts
    else (none, db)

/-- `find_or_create`. -/
def Database.findOrCreate (my : MySql) (db : Database) (name : List UInt8)
    (attempts : List LoginAttempt) : Option PlayerRecord × Database :=
  findOrCreateLoop my name kMaxAttempts attempts db

/-- How one attempt of an `UPDATE` ends. -/
inductive UpdateOutcome where
  | done | noConnection | retryable | fatal
deriving DecidableEq, Repr

/-- The loop of `save_position` and `save_stats` with `n` attempts left. -/
def updateLoop (update : Database → Database) :
    Nat → List UpdateOutcome → Database → Bool × Database
  | 0, _, db => (false, db)
  | n + 1, outcomes, db =>
    match outcomes.headD .done with
    | .done => (true, update db)
    | .retryable => updateLoop update n outcomes.tail db
    | .noConnection => (false, db)
    | .fatal => (false, db)

/-- `UPDATE players SET ... WHERE id=...`. -/
def Database.updateRow (db : Database) (id : Int64) (f : PlayerRecord → PlayerRecord) :
    Database :=
  { db with rows := db.rows.map fun r => if r.id = id then f r else r }

/-- `save_position`. -/
def Database.savePosition (my : MySql) (db : Database) (id : Int64) (x y z : F32)
    (mapId : Int32) (outcomes : List UpdateOutcome) : Bool × Database :=
  updateLoop (fun db => db.updateRow id fun r =>
    { r with
      posX := my.storedFloat x, posY := my.storedFloat y, posZ := my.storedFloat z
      mapId := mapId }) kMaxAttempts outcomes db

/-- `save_stats`. -/
def Database.saveStats (db : Database) (id : Int64) (level exp hp : Int32)
    (outcomes : List UpdateOutcome) : Bool × Database :=
  updateLoop (fun db => db.updateRow id fun r => { r with level, exp, hp })
    kMaxAttempts outcomes db

/-- Some attempt of an `UPDATE` succeeds. -/
def saveSucceeds (outcomes : List UpdateOutcome) : Bool :=
  (updateLoop id kMaxAttempts outcomes {}).1

variable {db : Database}

theorem updateLoop_of_succeeds {update update' : Database → Database} {n : Nat}
    {outcomes : List UpdateOutcome} {db' : Database}
    (h : (updateLoop update' n outcomes db').1 = true) :
    updateLoop update n outcomes db = (true, update db) := by
  induction n generalizing outcomes with
  | zero => cases h
  | succ n ih =>
    unfold updateLoop at h ⊢
    cases hout : outcomes.headD .done with
    | done => rfl
    | retryable =>
      rw [hout] at h
      exact ih h
    | noConnection =>
      rw [hout] at h
      cases h
    | fatal =>
      rw [hout] at h
      cases h

theorem mem_updateRow_iff {dbId : Int64} {f : PlayerRecord → PlayerRecord} {row : PlayerRecord} :
    row ∈ (db.updateRow dbId f).rows ↔
      ∃ r ∈ db.rows, (if r.id = dbId then f r else r) = row :=
  List.mem_map

theorem fetchByConn_mem {my : MySql} {name : List UInt8} {r : PlayerRecord}
    (h : db.fetchByConn my name = some r) : r ∈ db.rows := by
  unfold Database.fetchByConn at h
  split at h
  · next row hfind =>
    split at h
    · cases h
      exact List.mem_of_find?_eq_some hfind
    · -- the name did not fit into the buffer
      cases h
  · cases h

/-- The row that `find_or_create` returns is in the table that it leaves. -/
theorem findOrCreate_mem {my : MySql} {db' : Database} {name : List UInt8}
    {attempts : List LoginAttempt} {r : PlayerRecord}
    (h : db.findOrCreate my name attempts = (some r, db')) : r ∈ db'.rows := by
  have hloop : ∀ (n : Nat) (attempts : List LoginAttempt) (db : Database),
      findOrCreateLoop my name n attempts db = (some r, db') → r ∈ db'.rows := by
    -- each attempt may have inserted a row, so the table is not fixed
    intro n
    induction n with
    | zero =>
      intro attempts db h
      cases h
    | succ n ih =>
      intro attempts db h
      unfold findOrCreateLoop at h
      dsimp only at h
      split at h
      · split at h
        · cases h
        · exact ih _ _ h
        · split at h
          · next record hfetch =>
            cases h
            split at hfetch
            · exact fetchByConn_mem hfetch
            · cases hfetch
          · exact ih _ _ h
      · cases h
  exact hloop kMaxAttempts attempts db h

/-! ## `FailureSink` -/

/-- What is kept of a save that failed. -/
structure PlayerSaveSnapshot where
  playerId : Int64
  playerName : List UInt8
  operation : List UInt8
  posX : F32
  posY : F32
  posZ : F32
  mapId : Int32
  level : Int32
  exp : Int32
  hp : Int32
  attempts : Int32
  errorMsg : List UInt8
deriving DecidableEq, Repr

/-! ## `RedisClient` -/

/-- A string as `redisCommand` reads it through `%s`. -/
def cString (s : List UInt8) : List UInt8 := s.takeWhile (· ≠ 0)

/-- The keys `token:{token}` and `player:{id}:data`. -/
structure Redis where
  tokens : AList fun _ : List UInt8 => Int64 := ∅
  players : AList fun _ : Int64 => List UInt8 := ∅

namespace Redis

/-- `get_player_id_by_token`. -/
def getPlayerIdByToken (r : Redis) (token : List UInt8) : Option Int64 :=
  r.tokens.lookup (cString token)

/-- `set_player_cache`; `%s` takes the document up to its first zero. -/
def setPlayerCache (r : Redis) (playerId : Int64) (jsonData : List UInt8) : Redis :=
  { r with players := r.players.insert playerId (cString jsonData) }

/-- `del_player_cache`. -/
def delPlayerCache (r : Redis) (playerId : Int64) : Redis :=
  { r with players := r.players.erase playerId }

end Redis

/-- `std::to_string`. -/
def decimal (n : Int) : List UInt8 := ascii (toString n)

/-- The document that the login task stores with `set_player_cache`. -/
def playerJson (record : PlayerRecord) (playerName : List UInt8) : List UInt8 :=
  ascii "\x7b\"id\":" ++ decimal record.id.toInt ++ ascii ",\"name\":\"" ++ playerName ++ ascii "\""
    ++ ascii ",\"map_id\":" ++ decimal record.mapId.toInt ++ ascii ",\"hp\":"
    ++ decimal record.hp.toInt ++ ascii "\x7d"

/-! ## Tasks on the DB strands -/

/-- A task posted to a strand of the DB pool. -/
inductive DbTask where
  /-- `handle_login`: load the player, then post the completion. -/
  | login (channelId : Int32) (playerName : List UInt8)
  /-- `flush_players`: save the position. -/
  | flush (dbId : Int64) (x y z : F32) (mapId : Int32)
  /-- `on_close`: save position and stats. -/
  | close (dbId : Int64) (x y z : F32) (mapId level exp hp : Int32) (playerName : List UInt8)
deriving DecidableEq, Repr

/-- The player whose row the task writes. -/
def DbTask.saves : DbTask → Option Int64
  | .login .. => none
  | .flush dbId .. => some dbId
  | .close dbId .. => some dbId

/-- The outcomes of the queries of one task. -/
structure DbOutcome where
  login : List LoginAttempt := []
  position : List UpdateOutcome := []
  stats : List UpdateOutcome := []
deriving DecidableEq, Repr

/-- What a login task posts back to the io thread. -/
structure Completion where
  record : Option PlayerRecord
  channelId : Int32
  playerName : List UInt8
deriving DecidableEq, Repr

/-- The storage that the tasks act on. -/
structure Storage where
  db : Database := {}
  redis : Option Redis := none
  sink : List PlayerSaveSnapshot := []

namespace Storage

/-- The login task up to its `post` to the io thread. -/
def runLogin (my : MySql) (st : Storage) (channelId : Int32) (playerName : List UInt8)
    (attempts : List LoginAttempt) : Storage × Completion :=
  let (record, db) := st.db.findOrCreate my playerName attempts
  let redis := match st.redis, record with
    | some redis, some record =>
      some (redis.setPlayerCache record.id (playerJson record playerName))
    | redis, _ => redis
  ({ st with db, redis }, { record, channelId, playerName })

/-- The task of `on_close`. -/
def runClose (my : MySql) (st : Storage) (dbId : Int64) (x y z : F32)
    (mapId level exp hp : Int32) (playerName : List UInt8) (out : DbOutcome) : Storage :=
  let (posOk, db) := st.db.savePosition my dbId x y z mapId out.position
  let (statsOk, db) := db.saveStats dbId level exp hp out.stats
  let st := { st with db }
  if posOk && statsOk then st
  else
    { st with sink := st.sink ++ [{
        playerId := dbId, playerName
        operation := if posOk then ascii "save_stats" else ascii "save_position"
        posX := x, posY := y, posZ := z, mapId, level, exp, hp
        attempts := 3, errorMsg := ascii "db_write_failed" }] }

/-- Running a task: the storage after it, and the completion of a login. -/
def run (my : MySql) (st : Storage) (out : DbOutcome) : DbTask → Storage × Option Completion
  | .login channelId playerName =>
    let (st, completion) := st.runLogin my channelId playerName out.login
    (st, some completion)
  | .flush dbId x y z mapId =>
    ({ st with db := (st.db.savePosition my dbId x y z mapId out.position).2 }, none)
  | .close dbId x y z mapId level exp hp playerName =>
    (st.runClose my dbId x y z mapId level exp hp playerName out, none)

variable {my : MySql} {st : Storage} {dbId : Int64} {x y z : F32} {mapId level exp hp : Int32}
  {playerName : List UInt8} {out : DbOutcome}

/-- The saves of `on_close`, when both succeed. -/
theorem runClose_db (hposition : saveSucceeds out.position = true)
    (hstats : saveSucceeds out.stats = true) :
    (st.runClose my dbId x y z mapId level exp hp playerName out).db
      = (st.db.updateRow dbId fun r =>
          { r with
            posX := my.storedFloat x, posY := my.storedFloat y, posZ := my.storedFloat z
            mapId }).updateRow dbId fun r => { r with level, exp, hp } := by
  unfold runClose
  rw [Database.savePosition, updateLoop_of_succeeds hposition]
  dsimp only
  rw [Database.saveStats, updateLoop_of_succeeds hstats]
  rfl

/-- What the row of the player holds after the saves of `on_close`. -/
theorem runClose_row (hposition : saveSucceeds out.position = true)
    (hstats : saveSucceeds out.stats = true) {row : PlayerRecord}
    (hrow : row ∈ (st.runClose my dbId x y z mapId level exp hp playerName out).db.rows)
    (hid : row.id = dbId) :
    (row.level = level ∧ row.exp = exp ∧ row.hp = hp ∧ row.mapId = mapId) ∧
      row.posX = my.storedFloat x ∧ row.posY = my.storedFloat y ∧
        row.posZ = my.storedFloat z := by
  rw [runClose_db hposition hstats, mem_updateRow_iff] at hrow
  obtain ⟨r, hr, rfl⟩ := hrow
  obtain ⟨r₀, -, rfl⟩ := mem_updateRow_iff.mp hr
  by_cases h₀ : r₀.id = dbId
  · simp [h₀]
  · -- the updates leave other rows alone
    simp only [if_neg h₀] at hid
    exact absurd hid h₀

theorem runClose_keeps_row (hposition : saveSucceeds out.position = true)
    (hstats : saveSucceeds out.stats = true) {r : PlayerRecord} (hr : r ∈ st.db.rows)
    (hid : r.id = dbId) :
    ∃ row ∈ (st.runClose my dbId x y z mapId level exp hp playerName out).db.rows,
      row.id = dbId := by
  rw [runClose_db hposition hstats]
  refine ⟨_, mem_updateRow_iff.mpr ⟨_, mem_updateRow_iff.mpr ⟨r, hr, rfl⟩, rfl⟩, ?_⟩
  simp [hid]

end Storage

end EcsAsioServer.Db
