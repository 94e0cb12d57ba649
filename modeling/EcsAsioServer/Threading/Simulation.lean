import EcsAsioServer.Threading.Systems
import EcsAsioServer.Threading.Transfers

/-!
# Simulated time (`server/game/threading/main_thread_manager.cpp`)

Two loops let time pass. `thread_loop` of a map thread calls `update_map`, and `main_loop`
of the main thread calls `GameService::update` and then, through `update_all_map_threads`,
the same `update_map` of the same map. Each loop passes the time since its own last
iteration.

So a monster is moved three times: by `MovementSystem` and by `update_map` for the time of
the main loop, and by `update_map` for the time of the map's loop. `account_run` adds this up
over any interleaving of the two loops, and `simulated_time` says what it means for a period
that both have covered: the monster goes three times as far as it should, and the spawn
timer runs twice as fast.
-/

namespace EcsAsioServer.Threading

open Ecs Protocol Transition

variable {K : Type}

/-! ## The loops -/

namespace MapThreadManager

/-- `get_active_map_ids`. -/
def getActiveMapIds (m : MapThreadManager K) : List Int32 :=
  m.mapThreads.keys.filter m.isMapThreadRunning

/-- The task of `handle_global_chat`. -/
def chatTask (m : MapThreadManager K) (task : Int32 × List UInt8) : MapThreadManager K :=
  m.getActiveMapIds.foldl (fun m mapId =>
    m.sendPacketToMap mapId { channelId := task.1, cmd := 0x1004, data := task.2 }) m

/-- `process_packets`, which only writes to the log. -/
def drained (mapId : Int32) (m : MapThreadManager K) : MapThreadManager K :=
  m.onMap mapId fun s => { s with thread := { s.thread with packetQueue := [] } }

/-- One iteration of `thread_loop`. -/
def threadIteration [Field K] [LinearOrder K] (mapId : Int32) (dt : K) (m : MapThreadManager K) :
    MapThreadManager K :=
  (m.drained mapId).onMap mapId (MapState.updateMap dt)

variable [Field K] [LinearOrder K]

/-- `update_ecs`. -/
def updateEcs (S : Systems K) (dt : K) (draws : Entity → Vec K) (m : MapThreadManager K) :
    MapThreadManager K :=
  { m with ecs := S.updateAll dt draws m.ecs }

end MapThreadManager

/-- `MainThreadManager` with one map thread, and `last_update` of both loops. `waited` is the
time that went into the spawn timer, and `spawnRounds` says how often it ran out. -/
structure Loops (K : Type) where
  manager : MapThreadManager K
  globalTasks : List (Int32 × List UInt8) := []
  taskQueue : List (MainThreadTask MapTransfer) := []
  mainLast : K
  mapLast : K
  waited : K
  spawnRounds : Nat := 0

/-- A request from another thread, or an iteration of a loop at the time `now`. -/
inductive LoopEvent (K : Type) where
  | chat (channelId : Int32) (message : List UInt8)
  | transfer (request : MapTransfer)
  | main (now : K) (draws : Entity → Vec K)
  | map (now : K)

namespace Loops

variable [Field K] [LinearOrder K]

/-- The spawn timer of the map is due after the time `dt`. -/
def due (mapId : Int32) (dt : K) (m : MapThreadManager K) : Bool :=
  (m.mapThreads.lookup mapId).elim false fun t =>
    decide (MapState.spawnInterval ≤ t.spawnTimer + dt)

/-- The history of the spawn timer, with a call of `update_map` for the time `dt`. -/
def record (mapId : Int32) (dt : K) (m : MapThreadManager K) (x : Loops K) : Loops K :=
  { x with
    waited := x.waited + dt
    spawnRounds := x.spawnRounds + if due mapId dt m then 1 else 0 }

/-- The first half of `main_loop`: `process_global_systems` and `update_ecs`, and then
`process_task_queue`. Nothing adds a network task. -/
def beforeMaps (S : Systems K) (dt : K) (draws : Entity → Vec K) (x : Loops K) :
    MapThreadManager K :=
  let m := x.globalTasks.foldl MapThreadManager.chatTask x.manager
  let m := m.updateEcs S dt draws
  (MainThread.processTaskQueue { taskQueue := x.taskQueue, maps := m }).maps

/-- The effect of an event. -/
def apply (S : Systems K) (mapId : Int32) (x : Loops K) : LoopEvent K → Loops K
  | .chat channelId message =>
    { x with globalTasks := x.globalTasks ++ [(channelId, message)] }
  | .transfer request =>
    { x with taskQueue := BinaryHeap.push Task.less (asTask request) x.taskQueue }
  | .main now draws =>
    let dt := now - x.mainLast
    let m := x.beforeMaps S dt draws
    { x.record mapId dt m with
      manager := m.updateAllMapThreads dt, globalTasks := [], taskQueue := [], mainLast := now }
  | .map now =>
    let dt := now - x.mapLast
    { x.record mapId dt x.manager with
      manager := x.manager.threadIteration mapId dt, mapLast := now }

/-- Time does not run backwards. -/
def Later (x : Loops K) : LoopEvent K → Prop
  | .main now _ => x.mainLast ≤ now
  | .map now => x.mapLast ≤ now
  | _ => True

instance (x : Loops K) : DecidablePred x.Later := fun e => by
  cases e <;> unfold Later <;> infer_instance

/-- One event. -/
def LoopStep (S : Systems K) (mapId : Int32) : Loops K → LoopEvent K → Loops K → Prop :=
  guarded Later fun x e y => x.apply S mapId e = y

end Loops

/-! ## One monster -/

/-- One map thread. -/
def oneMap (mapId : Int32) (t : MapThread K) : AList fun _ : Int32 => MapThread K :=
  AList.singleton mapId t

@[simp] theorem lookup_oneMap_self (mapId : Int32) (t : MapThread K) :
    (oneMap mapId t).lookup mapId = some t := by
  rw [oneMap, ← AList.insert_empty, AList.lookup_insert]

theorem lookup_oneMap_ne {mapId id : Int32} (h : id ≠ mapId) (t : MapThread K) :
    (oneMap mapId t).lookup id = none := by
  rw [oneMap, ← AList.insert_empty, AList.lookup_insert_ne h, AList.lookup_empty]

theorem insert_oneMap (mapId : Int32) (t t' : MapThread K) :
    (oneMap mapId t).insert mapId t' = oneMap mapId t' :=
  AList.insert_singleton_eq

theorem eq_oneMap {s : AList fun _ : Int32 => MapThread K} {mapId : Int32}
    (h : s.keys = [mapId]) : ∃ t, s = oneMap mapId t := by
  obtain ⟨⟨id, t⟩, hentries, rfl⟩ := List.map_eq_singleton_iff.mp h
  exact ⟨t, AList.ext hentries⟩

/-- There is one map thread, it is running, and the monster is on its map: at `p`, with the
velocity `v`. The spawn timer is at `timer`. -/
structure Roams (mapId : Int32) (e : Entity) (v p : Vec K) (timer : K)
    (m : MapThreadManager K) : Prop where
  tracks : Tracks e v p m.ecs
  thread : ∃ t, m.mapThreads = oneMap mapId t ∧ t.running = true ∧
    e ∈ t.localMonsters ∧ t.spawnTimer = timer

/-- The monster is not hindered by the map. -/
def MapThreadManager.Unhindered [Field K] [LinearOrder K] (mapId : Int32) (e : Entity)
    (v : Vec K) (dt : K) (m : MapThreadManager K) : Prop :=
  ∀ t ∈ m.mapThreads.lookup mapId, MapState.Unhindered e v dt ⟨t, m.ecs, m.seed⟩

instance [Field K] [LinearOrder K] (mapId : Int32) (e : Entity) (v : Vec K) (dt : K)
    (m : MapThreadManager K) : Decidable (m.Unhindered mapId e v dt) :=
  inferInstanceAs (Decidable (∀ t ∈ m.mapThreads.lookup mapId, _))

namespace Roams

variable {mapId : Int32} {e : Entity} {v p : Vec K} {timer : K} {m : MapThreadManager K}

/-- Something is done with the one map thread, or with none. -/
theorem onMap_eq {t : MapThread K} (hone : m.mapThreads = oneMap mapId t)
    (f : MapState K → MapState K) :
    (m.onMap mapId f).mapThreads = oneMap mapId (f ⟨t, m.ecs, m.seed⟩).thread ∧
      (m.onMap mapId f).ecs = (f ⟨t, m.ecs, m.seed⟩).ecs := by
  have hlookup : m.mapThreads.lookup mapId = some t := by rw [hone, lookup_oneMap_self]
  unfold MapThreadManager.onMap
  rw [hlookup]
  refine ⟨?_, rfl⟩
  show m.mapThreads.insert mapId _ = _
  rw [hone, insert_oneMap]

/-- What concerns the monster does not change. -/
theorem onMap (h : Roams mapId e v p timer m) (id : Int32) {f : MapState K → MapState K}
    (hthread : ∀ s : MapState K, s.thread.Grows (f s).thread)
    (htracks : ∀ s : MapState K, Tracks e v p s.ecs → Tracks e v p (f s).ecs) :
    Roams mapId e v p timer (m.onMap id f) := by
  obtain ⟨t, hone, hrunning, hmonster, htimer⟩ := h.thread
  by_cases hid : id = mapId
  · subst hid
    obtain ⟨hthreads, hecs⟩ := onMap_eq hone f
    have hgrows := hthread ⟨t, m.ecs, m.seed⟩
    refine ⟨?_, _, hthreads, hgrows.running.trans hrunning, hgrows.monsters e hmonster,
      hgrows.spawnTimer.trans htimer⟩
    rw [hecs]
    exact htracks _ h.tracks
  · have hsame : m.onMap id f = m := by
      rw [MapThreadManager.onMap, hone, lookup_oneMap_ne hid]
    rw [hsame]
    exact h

theorem chatTask (h : Roams mapId e v p timer m) (task : Int32 × List UInt8) :
    Roams mapId e v p timer (m.chatTask task) := by
  refine Loop.keeps h ?_
  intro m id _ hm
  exact hm.onMap id (fun s => ⟨rfl, rfl, fun _ he => he⟩) fun _ hs => hs

theorem keptForPlayers : MapThreadManager.KeptForPlayers (Roams mapId e v p timer) where
  add _ id _ _ h := h.onMap id (fun _ => ⟨rfl, rfl, fun _ he => he⟩)
    fun s hs => hs.updateObjects s.thread.mapEntity _
  remove _ id _ h := h.onMap id (fun _ => ⟨rfl, rfl, fun _ he => he⟩) fun _ hs => hs
  createEntity _ h := ⟨⟨h.tracks.position, h.tracks.velocity⟩, h.thread⟩
  mapping _ _ h := ⟨h.tracks, h.thread⟩

/-- The tasks of the main thread move players only. -/
theorem processTaskQueue (h : Roams mapId e v p timer m)
    (taskQueue : List (MainThreadTask MapTransfer)) :
    Roams mapId e v p timer (MainThread.processTaskQueue { taskQueue, maps := m }).maps := by
  rw [MainThread.processTaskQueue, MainThread.runTasks_maps]
  exact Loop.keeps h fun m r _ hm =>
    keptForPlayers.movePlayerToMap hm r.channelId r.fromMap r.toMap

variable [Field K] [LinearOrder K] {dt : K}

/-- The timer after `update_map`. -/
def nextTimer (timer dt : K) : K :=
  if MapState.spawnInterval ≤ timer + dt then 0 else timer + dt

theorem updateMap (h : Roams mapId e v p timer m) (hfree : m.Unhindered mapId e v dt) :
    Roams mapId e v (p.advance v dt) (nextTimer timer dt)
      (m.onMap mapId (MapState.updateMap dt)) := by
  obtain ⟨t, hone, hrunning, hmonster, rfl⟩ := h.thread
  obtain ⟨hthreads, hecs⟩ := onMap_eq hone (MapState.updateMap dt)
  have hgrows := MapState.grows_updateMap dt ⟨t, m.ecs, m.seed⟩
  have hfree : MapState.Unhindered e v dt ⟨t, m.ecs, m.seed⟩ := by
    refine hfree t ?_
    rw [hone, lookup_oneMap_self]
    rfl
  refine ⟨?_, _, hthreads, hgrows.running.trans hrunning, hgrows.monsters e hmonster, ?_⟩
  · rw [hecs]
    exact MapState.tracks_updateMap h.tracks hmonster hfree
  · rw [hgrows.spawnTimer]
    simp [MapState.resetTimer, MapState.spawnDue, nextTimer]

theorem updateAllMapThreads (h : Roams mapId e v p timer m)
    (hfree : m.Unhindered mapId e v dt) :
    Roams mapId e v (p.advance v dt) (nextTimer timer dt) (m.updateAllMapThreads dt) := by
  obtain ⟨t, hone, hrunning, -, -⟩ := h.thread
  have hrun : m.isMapThreadRunning mapId = true := by
    rw [MapThreadManager.isMapThreadRunning, hone, lookup_oneMap_self]
    exact hrunning
  have hloop : m.updateAllMapThreads dt = m.onMap mapId (MapState.updateMap dt) := by
    have hkeys : m.mapThreads.keys = [mapId] := by rw [hone, oneMap, AList.keys_singleton]
    rw [MapThreadManager.updateAllMapThreads, hkeys, List.foldl_cons, List.foldl_nil,
      if_pos hrun]
  rw [hloop]
  exact h.updateMap hfree

theorem threadIteration (h : Roams mapId e v p timer m)
    (hfree : (m.drained mapId).Unhindered mapId e v dt) :
    Roams mapId e v (p.advance v dt) (nextTimer timer dt) (m.threadIteration mapId dt) := by
  have hdrained : Roams mapId e v p timer (m.drained mapId) :=
    h.onMap mapId (fun s => ⟨rfl, rfl, fun _ he => he⟩) fun _ hs => hs
  exact hdrained.updateMap hfree

theorem due_eq (h : Roams mapId e v p timer m) :
    Loops.due mapId dt m = decide (MapState.spawnInterval ≤ timer + dt) := by
  obtain ⟨t, hone, -, -, rfl⟩ := h.thread
  rw [Loops.due, hone, lookup_oneMap_self]
  rfl

end Roams

namespace Loops

variable [Field K] [LinearOrder K]

/-- Nothing gets in the way of the monster: it keeps its velocity, stays inside all bounds
and collides with nothing. -/
def Unhindered (S : Systems K) (mapId : Int32) (e : Entity) (v : Vec K) (x : Loops K) :
    LoopEvent K → Prop
  | .chat _ _ | .transfer _ => True
  | .main now draws =>
    let dt := now - x.mainLast
    Along (S.update dt draws) (S.Unhindered e v dt draws)
      (x.globalTasks.foldl MapThreadManager.chatTask x.manager).ecs S.updateOrder ∧
    (x.beforeMaps S dt draws).Unhindered mapId e v dt
  | .map now => (x.manager.drained mapId).Unhindered mapId e v (now - x.mapLast)

instance (S : Systems K) (mapId : Int32) (e : Entity) (v : Vec K) (x : Loops K) :
    DecidablePred (x.Unhindered S mapId e v) := fun ev => by
  cases ev <;> unfold Unhindered <;> infer_instance

variable {S : Systems K} {mapId : Int32} {e : Entity} {v p : Vec K} {timer : K}

theorem roams_beforeMaps {x : Loops K} {dt : K} {draws : Entity → Vec K}
    (h : Roams mapId e v p timer x.manager)
    (hfree : Along (S.update dt draws) (S.Unhindered e v dt draws)
      (x.globalTasks.foldl MapThreadManager.chatTask x.manager).ecs S.updateOrder) :
    Roams mapId e v (p.advance v dt) timer (x.beforeMaps S dt draws) := by
  have hchats : Roams mapId e v p timer
      (x.globalTasks.foldl MapThreadManager.chatTask x.manager) :=
    Loop.keeps h fun m task _ hm => hm.chatTask task
  have hecs : Roams mapId e v (p.advance v dt) timer
      ((x.globalTasks.foldl MapThreadManager.chatTask x.manager).updateEcs S dt draws) :=
    ⟨Systems.tracks_updateAll hchats.tracks hfree, hchats.thread⟩
  exact hecs.processTaskQueue x.taskQueue

/-- **The account**: since `x₀` the monster has gone twice the way for the time of the main
loop and once the way for the time of the map's loop; the spawn timer has run for both
times, and lost an interval whenever it ran out. -/
structure Account (mapId : Int32) (e : Entity) (v p : Vec K) (timer : K) (x₀ x : Loops K) :
    Prop where
  main_le : x₀.mainLast ≤ x.mainLast
  map_le : x₀.mapLast ≤ x.mapLast
  waited : x.waited = x₀.waited + (x.mainLast - x₀.mainLast) + (x.mapLast - x₀.mapLast)
  roams : ∃ timer', (0 ≤ timer → 0 ≤ timer') ∧
    timer' + 30 * (x.spawnRounds - x₀.spawnRounds)
      ≤ timer + (x.mainLast - x₀.mainLast) + (x.mapLast - x₀.mapLast) ∧
    Roams mapId e v
      (p.advance v (2 * (x.mainLast - x₀.mainLast) + (x.mapLast - x₀.mapLast))) timer' x.manager

variable [IsStrictOrderedRing K] {x₀ x y : Loops K} {ev : LoopEvent K}

omit [IsStrictOrderedRing K] in
theorem Account.refl (h : Roams mapId e v p timer x.manager) :
    Account mapId e v p timer x x := by
  refine ⟨le_refl _, le_refl _, by ring, timer, fun hpos => hpos, ?_, ?_⟩
  · rw [sub_self, sub_self, sub_self, mul_zero, add_zero, add_zero]
  · rw [sub_self, sub_self, mul_zero, add_zero, Vec.advance_zero]
    exact h

theorem nextTimer_nonneg {timer dt : K} (htimer : 0 ≤ timer) (hdt : 0 ≤ dt) :
    0 ≤ Roams.nextTimer timer dt := by
  unfold Roams.nextTimer
  split
  · exact le_refl 0
  · exact add_nonneg htimer hdt

/-- The timer loses an interval when it runs out. -/
theorem nextTimer_le {timer dt B : K} {rounds : Nat} {r₀ : K} {r : Nat}
    (h : timer + 30 * (r - r₀) ≤ B)
    (hrounds : rounds = r + if decide (MapState.spawnInterval ≤ timer + dt) then 1 else 0) :
    Roams.nextTimer timer dt + 30 * (rounds - r₀) ≤ B + dt := by
  unfold Roams.nextTimer
  by_cases hdue : MapState.spawnInterval ≤ timer + dt
  · have hdue' : 30 ≤ timer + dt := hdue
    rw [if_pos hdue, hrounds, if_pos (decide_eq_true hdue)]
    push_cast
    linarith
  · rw [if_neg hdue, hrounds, if_neg (by simpa using hdue)]
    push_cast
    linarith

/-- **One event.** -/
theorem account_step (h : Account mapId e v p timer x₀ x)
    (hstep : guarded (Unhindered S mapId e v) (LoopStep S mapId) x ev y) :
    Account mapId e v p timer x₀ y := by
  obtain ⟨hfree, hlater, rfl⟩ := hstep
  obtain ⟨timer', hpos, hle, hroams⟩ := h.roams
  cases ev with
  | chat channelId message => exact ⟨h.main_le, h.map_le, h.waited, h.roams⟩
  | transfer request => exact ⟨h.main_le, h.map_le, h.waited, h.roams⟩
  | main now draws =>
    have hlater : x.mainLast ≤ now := hlater
    have hbefore := roams_beforeMaps hroams hfree.1
    have hafter := hbefore.updateAllMapThreads hfree.2
    have hpath : 2 * (x.mainLast - x₀.mainLast) + (x.mapLast - x₀.mapLast)
        + (now - x.mainLast + (now - x.mainLast))
        = 2 * (now - x₀.mainLast) + (x.mapLast - x₀.mapLast) := by
      ring
    have htime : timer + (x.mainLast - x₀.mainLast) + (x.mapLast - x₀.mapLast)
        + (now - x.mainLast) = timer + (now - x₀.mainLast) + (x.mapLast - x₀.mapLast) := by
      ring
    rw [Vec.advance_advance, Vec.advance_advance, hpath] at hafter
    refine ⟨h.main_le.trans hlater, h.map_le, ?_, _, ?_, ?_, hafter⟩
    · show x.waited + (now - x.mainLast)
        = x₀.waited + (now - x₀.mainLast) + (x.mapLast - x₀.mapLast)
      rw [h.waited]
      ring
    · exact fun h₀ => nextTimer_nonneg (hpos h₀) (sub_nonneg.mpr hlater)
    · refine (nextTimer_le hle ?_).trans_eq htime
      rw [← hbefore.due_eq]
      rfl
  | map now =>
    have hlater : x.mapLast ≤ now := hlater
    have hafter := hroams.threadIteration hfree
    have hpath : 2 * (x.mainLast - x₀.mainLast) + (x.mapLast - x₀.mapLast) + (now - x.mapLast)
        = 2 * (x.mainLast - x₀.mainLast) + (now - x₀.mapLast) := by
      ring
    have htime : timer + (x.mainLast - x₀.mainLast) + (x.mapLast - x₀.mapLast)
        + (now - x.mapLast) = timer + (x.mainLast - x₀.mainLast) + (now - x₀.mapLast) := by
      ring
    rw [Vec.advance_advance, hpath] at hafter
    refine ⟨h.main_le, h.map_le.trans hlater, ?_, _, ?_, ?_, hafter⟩
    · show x.waited + (now - x.mapLast)
        = x₀.waited + (x.mainLast - x₀.mainLast) + (now - x₀.mapLast)
      rw [h.waited]
      ring
    · exact fun h₀ => nextTimer_nonneg (hpos h₀) (sub_nonneg.mpr hlater)
    · refine (nextTimer_le hle ?_).trans_eq htime
      rw [← hroams.due_eq]
      rfl

/-- **Whole runs.** -/
theorem account_run {es : List (LoopEvent K)} (h : Roams mapId e v p timer x.manager)
    (hrun : Run (guarded (Unhindered S mapId e v) (LoopStep S mapId)) x es y) :
    Account mapId e v p timer x y :=
  hrun.invariant (Account.refl h) fun _ _ _ hx hstep => account_step hx hstep

/-- Three times the way is the same only if there is no way. -/
theorem advance_eq_iff (p v : Vec K) (T : K) :
    p.advance v (3 * T) = p.advance v T ↔ T = 0 ∨ v = ⟨0, 0, 0⟩ := by
  have hcoord : ∀ a b : K, a + b * (3 * T) = a + b * T ↔ T = 0 ∨ b = 0 := by
    intro a b
    constructor
    · intro heq
      have hzero : 2 * (T * b) = 0 := by linear_combination heq
      rcases mul_eq_zero.mp hzero with htwo | hprod
      · exact absurd htwo two_ne_zero
      · exact mul_eq_zero.mp hprod
    · rintro (rfl | rfl) <;> ring
  obtain ⟨a, b, c⟩ := v
  simp only [Vec.advance, Vec.mk.injEq, hcoord]
  tauto

/-- **Simulated time.** Over a period `T` that both loops have covered, a monster that nothing
gets in the way of goes three times as far as its velocity says; this is right only if it
does not move, or if no time passes. The spawn timer runs for twice the time, and there is
a round of spawns for each 30 seconds of that. -/
theorem simulated_time {es : List (LoopEvent K)} {T : K}
    (hx : Roams mapId e v p timer x.manager) (htimer : 0 ≤ timer)
    (hrun : Run (guarded (Unhindered S mapId e v) (LoopStep S mapId)) x es y)
    (hmain : y.mainLast = x.mainLast + T) (hmap : y.mapLast = x.mapLast + T) :
    y.manager.ecs.position e = some (p.advance v (3 * T)) ∧
    (y.manager.ecs.position e = some (p.advance v T) ↔ T = 0 ∨ v = ⟨0, 0, 0⟩) ∧
    y.waited = x.waited + 2 * T ∧ (y.waited ≤ x.waited + T ↔ T = 0) ∧
    30 * ((y.spawnRounds : K) - x.spawnRounds) ≤ timer + 2 * T := by
  have haccount := account_run hx hrun
  obtain ⟨timer', hpos, hle, hroams⟩ := haccount.roams
  have hwaited := haccount.waited
  have hT : 0 ≤ T := by
    have := haccount.main_le
    rw [hmain] at this
    linarith
  rw [hmain, hmap, add_sub_cancel_left, add_sub_cancel_left] at hle hroams hwaited
  have hposition : y.manager.ecs.position e = some (p.advance v (3 * T)) := by
    rw [hroams.tracks.position]
    congr 2
    ring
  refine ⟨hposition, ?_, by rw [hwaited]; ring, ?_, ?_⟩
  · rw [hposition, Option.some.injEq]
    exact advance_eq_iff p v T
  · constructor
    · intro hwait
      linarith
    · rintro rfl
      linarith
  · have := hpos htimer
    linarith

/-- The order of the systems in which they were registered. With one position there are no
distances, so the square root does not matter. -/
def plainSystems : Systems ℚ where
  sqrt := id
  updateOrder := [.movement, .ai, .combat, .map]
  registered := .refl _

/-- A map with one monster, which is given a velocity. -/
def meadow : MapThreadManager ℚ :=
  let m := MapThreadManager.createMapThread 1 (ascii "Meadow") 1000 1000 100 {}
  let m := m.onMap 1 MapState.spawnMonster
  { m with ecs := MovementSystem.setVelocity 2 1 0 0 m.ecs }

/-- Both loops begin. -/
def meadowLoops : Loops ℚ := { manager := meadow, mainLast := 0, mapLast := 0, waited := 0 }

theorem meadow_roams : Roams 1 2 ⟨1, 0, 0⟩ ⟨4273 / 10, 0, 4188 / 10⟩ 0 meadow := by
  have hkeys : meadow.mapThreads.keys = [1] := by decide +kernel
  have hfields : (meadow.mapThreads.lookup 1).map
      (fun t => (t.running, t.localMonsters, t.spawnTimer)) = some (true, [2], 0) := by
    decide +kernel
  refine ⟨⟨by decide +kernel, by decide +kernel⟩, ?_⟩
  obtain ⟨t, hone⟩ := eq_oneMap hkeys
  rw [hone, lookup_oneMap_self] at hfields
  simp only [Option.map_some, Option.some.injEq, Prod.mk.injEq] at hfields
  obtain ⟨hrunning, hmonsters, htimer⟩ := hfields
  exact ⟨t, hone, hrunning, by rw [hmonsters]; decide, htimer⟩

/-- Each loop runs once, after 30 seconds. -/
def halfMinute : List (LoopEvent ℚ) := [.main 30 fun _ => ⟨0, 0, 0⟩, .map 30]

theorem halfMinute_run :
    Run (guarded (Unhindered plainSystems 1 2 ⟨1, 0, 0⟩) (LoopStep plainSystems 1)) meadowLoops
      halfMinute (halfMinute.foldl (apply plainSystems 1) meadowLoops) := by
  have halong : Along (apply plainSystems 1)
      (fun x ev => x.Unhindered plainSystems 1 2 ⟨1, 0, 0⟩ ev ∧ x.Later ev)
      meadowLoops halfMinute := by
    decide +kernel
  exact (Run.of_along halong).mono fun x ev y h => ⟨h.1.1, h.1.2, h.2⟩

theorem simulated_time_meadow :
    let y := halfMinute.foldl (apply plainSystems 1) meadowLoops
    let p : Vec ℚ := ⟨4273 / 10, 0, 4188 / 10⟩
    y.manager.ecs.position 2 = some (p.advance ⟨1, 0, 0⟩ (3 * 30)) ∧
    (y.manager.ecs.position 2 = some (p.advance ⟨1, 0, 0⟩ 30) ↔
      (30 : ℚ) = 0 ∨ (⟨1, 0, 0⟩ : Vec ℚ) = ⟨0, 0, 0⟩) ∧
    y.waited = meadowLoops.waited + 2 * 30 ∧
    (y.waited ≤ meadowLoops.waited + 30 ↔ (30 : ℚ) = 0) ∧
    30 * ((y.spawnRounds : ℚ) - meadowLoops.spawnRounds) ≤ 0 + 2 * 30 :=
  simulated_time meadow_roams (le_refl 0) halfMinute_run (by decide +kernel) (by decide +kernel)

/-- In 30 seconds the monster goes 90 units at one unit per second, and monsters appear
twice. -/
theorem three_times_as_far :
    let y := halfMinute.foldl (apply plainSystems 1) meadowLoops
    Run (LoopStep plainSystems 1) meadowLoops halfMinute y ∧
    y.mainLast = meadowLoops.mainLast + 30 ∧ y.mapLast = meadowLoops.mapLast + 30 ∧
    meadowLoops.manager.ecs.position 2 = some ⟨4273 / 10, 0, 4188 / 10⟩ ∧
    y.manager.ecs.position 2 = some ⟨4273 / 10 + 90, 0, 4188 / 10⟩ ∧
    y.waited = 60 ∧ y.spawnRounds = 2 ∧
    (y.manager.mapThreads.lookup 1).map (·.localMonsters.length) = some 7 := by
  intro y
  exact ⟨halfMinute_run.of_guarded, by decide +kernel, by decide +kernel, by decide +kernel,
    by decide +kernel, by decide +kernel, by decide +kernel, by decide +kernel⟩

end Loops

end EcsAsioServer.Threading
