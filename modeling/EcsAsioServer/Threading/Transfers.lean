import EcsAsioServer.Lib.BinaryHeap
import EcsAsioServer.Threading.MapThreadManager

/-!
# Map transfers in the task queue (`main_thread_manager.{hpp,cpp}`)

`handle_map_transfer` puts a move of a player into `task_queue_`, a `std::priority_queue`, and
`process_task_queue` runs what is there until the queue is empty. All transfers have the
priority 1, so the queue is a heap of tasks of which none is less than another.

- `processTaskQueue_maps`: the moves are run in the order in which they leave the heap
  (`executed`), each of them once (`executed_perm`).
- `executed_map`: this order does not depend on what the requests are. The heap takes the places
  of `n` requests in the order `places n`: 0, 2, 1, 3 if there are four.
- `transfers_in_order_iff`: the moves of each player are run as they were requested exactly if
  no player has two requests at places that the heap exchanges (`InTurn`).
-/

namespace EcsAsioServer.Threading

open BinaryHeap Protocol

variable {K : Type}

/-- `MainThreadTask` and `MapTask`, with a closure of any kind. -/
structure Task (τ : Type) where
  task : τ
  priority : Int32 := 0
deriving DecidableEq, Repr

/-- `operator<`: the task with the lower number is the greater one. -/
def Task.less {τ : Type} (a b : Task τ) : Bool := decide (a.priority > b.priority)

/-- `MainThreadTask`. -/
abbrev MainThreadTask := Task

/-- The three numbers that the closure of `handle_map_transfer` captures. -/
structure MapTransfer where
  channelId : Int32
  fromMap : Int32
  toMap : Int32
deriving DecidableEq, Repr

/-- The closure. -/
def MapTransfer.run (r : MapTransfer) (maps : MapThreadManager K) : MapThreadManager K :=
  maps.movePlayerToMap r.channelId r.fromMap r.toMap

/-- What `handle_map_transfer` puts into the queue. -/
def asTask {τ : Type} (r : τ) : MainThreadTask τ := ⟨r, 1⟩

/-- The task queue of `MainThreadManager`, and its map threads. -/
structure MainThread (K : Type) where
  taskQueue : List (MainThreadTask MapTransfer) := []
  maps : MapThreadManager K

namespace MainThread

/-- `add_task`. -/
def addTask (task : MainThreadTask MapTransfer) (m : MainThread K) : MainThread K :=
  { m with taskQueue := push Task.less task m.taskQueue }

/-- `handle_map_transfer`. -/
def handleMapTransfer (m : MainThread K) (r : MapTransfer) : MainThread K := m.addTask (asTask r)

/-- Rounds of the loop of `process_task_queue`. -/
def runTasks : Nat → MainThread K → MainThread K
  | 0, m => m
  | n + 1, m =>
    match pop Task.less m.taskQueue with
    | none => m
    | some (task, rest) => runTasks n { taskQueue := rest, maps := task.task.run m.maps }

/-- The loop ends with the queue, since a transfer adds no task. -/
def processTaskQueue (m : MainThread K) : MainThread K := runTasks m.taskQueue.length m

/-- The moves of the tasks, one after the other. -/
theorem runTasks_maps (n : Nat) (m : MainThread K) :
    (runTasks n m).maps
      = ((drain Task.less n m.taskQueue).map (·.task)).foldl
          (fun maps r => r.run maps) m.maps := by
  induction n generalizing m with
  | zero => rfl
  | succ n ih =>
    rw [runTasks, drain]
    cases pop Task.less m.taskQueue with
    | none => rfl
    | some p => exact ih _

/-- As many rounds as there are tasks leave none. -/
theorem taskQueue_processTaskQueue (m : MainThread K) : m.processTaskQueue.taskQueue = [] := by
  rw [processTaskQueue]
  induction hn : m.taskQueue.length generalizing m with
  | zero => exact List.length_eq_zero_iff.mp hn
  | succ n ih =>
    rw [runTasks]
    cases hpop : pop Task.less m.taskQueue with
    | none => exact eq_nil_of_pop _ hpop
    | some p =>
      refine ih _ ?_
      have hlen := (pop_perm _ hpop).length_eq
      rw [hn, List.length_cons] at hlen
      exact (Nat.succ.inj hlen).symm

/-! ## The order of the requests -/

section Order

variable {τ σ : Type}

/-- The queue after some requests, when it was empty. -/
def queued (l : List τ) : List (MainThreadTask τ) :=
  l.foldl (fun q r => push Task.less (asTask r) q) []

/-- The requests in the order in which they leave the queue. -/
def executed (l : List τ) : List τ := (drain Task.less l.length (queued l)).map (·.task)

theorem taskQueue_foldl (l : List MapTransfer) (m : MainThread K) :
    l.foldl handleMapTransfer m = { m with
      taskQueue := l.foldl (fun q r => push Task.less (asTask r) q) m.taskQueue } := by
  induction l generalizing m with
  | nil => rfl
  | cons r l ih => exact ih _

theorem queued_concat (l : List τ) (r : τ) :
    queued (l ++ [r]) = push Task.less (asTask r) (queued l) := by
  rw [queued, List.foldl_append]
  rfl

theorem queued_perm (l : List τ) : (queued l).Perm (l.map asTask) := by
  induction l using List.reverseRecOn with
  | nil => exact .nil
  | append_singleton l r ih =>
    rw [queued_concat, List.map_append]
    exact ((push_perm _ _ _).trans (ih.cons _)).trans (List.perm_append_singleton ..).symm

theorem length_queued (l : List τ) : (queued l).length = l.length := by
  rw [(queued_perm l).length_eq, List.length_map]

/-- Every request is run once. -/
theorem executed_perm (l : List τ) : (executed l).Perm l := by
  have hdrain := (drain_perm Task.less (queued l)).map (·.task)
  rw [length_queued] at hdrain
  have hqueued := (queued_perm l).map (·.task)
  rw [List.map_map] at hqueued
  exact hdrain.trans (hqueued.trans (List.Perm.of_eq (List.map_id l)))

/-- The task with another closure. -/
def retask (f : τ → σ) (t : Task τ) : Task σ := ⟨f t.task, t.priority⟩

theorem less_retask (f : τ → σ) (a b : Task τ) :
    Task.less (retask f a) (retask f b) = Task.less a b :=
  rfl

theorem queued_map (f : τ → σ) (l : List τ) : queued (l.map f) = (queued l).map (retask f) := by
  induction l using List.reverseRecOn with
  | nil => rfl
  | append_singleton l r ih =>
    rw [List.map_append, List.map_singleton, queued_concat, queued_concat, ih]
    exact push_map (less_retask f) (asTask r) (queued l)

/-- What the requests are has no effect on their order. -/
theorem executed_map (f : τ → σ) (l : List τ) : executed (l.map f) = (executed l).map f := by
  rw [executed, executed, List.length_map, queued_map,
    drain_map (less_retask f), List.map_map, List.map_map]
  rfl

/-- The places of `n` requests in the order in which they are run. -/
def places (n : Nat) : List Nat := executed (List.range n)

example : places 4 = [0, 2, 1, 3] := by decide

example : places 7 = [0, 2, 5, 6, 4, 1, 3] := by decide

theorem nodup_places (n : Nat) : (places n).Nodup :=
  (executed_perm _).nodup_iff.mpr List.nodup_range

/-- Requests with their places leave the queue in the order of the places. -/
theorem executed_zipIdx (l : List τ) :
    (executed l.zipIdx).map (·.2) = places l.length := by
  rw [← executed_map, List.zipIdx_map_snd, places, List.range_eq_range']

theorem executed_eq (l : List τ) : executed l = (executed l.zipIdx).map (·.1) := by
  rw [← executed_map, List.zipIdx_map_fst]

end Order

theorem processTaskQueue_maps (maps : MapThreadManager K) (l : List MapTransfer) :
    (l.foldl handleMapTransfer { maps }).processTaskQueue.maps
      = (executed l).foldl (fun maps r => r.run maps) maps := by
  have hlength := length_queued l
  rw [taskQueue_foldl, processTaskQueue, runTasks_maps, executed, ← hlength]
  rfl

/-- No player has two requests at places that the heap exchanges: of any two, the earlier one is
run first. -/
def InTurn (l : List MapTransfer) : Prop :=
  ∀ i j r r', i < j → l[i]? = some r → l[j]? = some r' → r.channelId = r'.channelId →
    (places l.length).idxOf i < (places l.length).idxOf j

/-- The requests of one player, with their places. -/
def placesOf (channelId : Int32) (l : List (MapTransfer × Nat)) : List (MapTransfer × Nat) :=
  l.filter (·.1.channelId == channelId)

/-- The requests leave the queue in the order of `places`. -/
theorem pairwise_executed (l : List MapTransfer) :
    (executed l.zipIdx).Pairwise fun x y =>
      (places l.length).idxOf x.2 < (places l.length).idxOf y.2 := by
  have hplaces : (places l.length).Pairwise fun i j =>
      (places l.length).idxOf i < (places l.length).idxOf j := by
    rw [List.pairwise_iff_getElem]
    intro i j hi hj hij
    rwa [(nodup_places _).idxOf_getElem, (nodup_places _).idxOf_getElem]
  nth_rewrite 3 [← executed_zipIdx] at hplaces
  rw [List.pairwise_map] at hplaces
  exact hplaces

theorem pairwise_zipIdx (l : List MapTransfer) : l.zipIdx.Pairwise fun x y => x.2 < y.2 := by
  have hrange : (l.zipIdx.map (·.2)).Pairwise (· < ·) := by
    rw [List.zipIdx_map_snd]
    exact List.pairwise_lt_range'
  exact List.pairwise_map.mp hrange

theorem placesOf_perm (channelId : Int32) (l : List MapTransfer) :
    (placesOf channelId (executed l.zipIdx)).Perm (placesOf channelId l.zipIdx) :=
  (executed_perm _).filter _

variable {l : List MapTransfer}

theorem mem_placesOf {channelId : Int32} {x : MapTransfer × Nat} :
    x ∈ placesOf channelId l.zipIdx ↔ l[x.2]? = some x.1 ∧ x.1.channelId = channelId := by
  rw [placesOf, List.mem_filter, List.mem_zipIdx_iff_getElem?, beq_iff_eq]

/-- In turn: both orders are the one of the places. -/
theorem InTurn.placesOf_eq (h : InTurn l) (channelId : Int32) :
    placesOf channelId (executed l.zipIdx) = placesOf channelId l.zipIdx := by
  have hperm := placesOf_perm channelId l
  have hasked : (placesOf channelId l.zipIdx).Pairwise fun x y => x.2 < y.2 :=
    (pairwise_zipIdx l).sublist List.filter_sublist
  have hrun : (placesOf channelId (executed l.zipIdx)).Pairwise fun x y => x.2 < y.2 := by
    refine ((pairwise_executed l).sublist List.filter_sublist).imp_of_mem ?_
    intro x y hx hy hlt
    obtain ⟨hgetx, hx⟩ := mem_placesOf.mp (hperm.subset hx)
    obtain ⟨hgety, hy⟩ := mem_placesOf.mp (hperm.subset hy)
    rcases Nat.lt_trichotomy x.2 y.2 with hless | heq | hgreater
    · exact hless
    · rw [heq] at hlt
      omega
    · have hturn := h y.2 x.2 y.1 x.1 hgreater hgety hgetx (hy.trans hx.symm)
      omega
  exact hperm.eq_of_pairwise (fun x y _ _ hxy hyx => by omega) hrun hasked

/-- If the two orders agree, they agree on any two requests. -/
theorem inTurn_of_placesOf
    (h : ∀ channelId, placesOf channelId (executed l.zipIdx) = placesOf channelId l.zipIdx) :
    InTurn l := by
  intro i j r r' hij hi hj hchannel
  have hsub : (placesOf r.channelId l.zipIdx).Sublist l.zipIdx := List.filter_sublist
  have hrun : (placesOf r.channelId (executed l.zipIdx)).Sublist (executed l.zipIdx) :=
    List.filter_sublist
  rw [h r.channelId] at hrun
  let agree (x y : MapTransfer × Nat) : Prop :=
    x.2 < y.2 ↔ (places l.length).idxOf x.2 < (places l.length).idxOf y.2
  have hagree : (placesOf r.channelId l.zipIdx).Pairwise fun x y => agree x y ∧ agree y x := by
    refine ((pairwise_zipIdx l).sublist hsub).imp₂ ?_ ((pairwise_executed l).sublist hrun)
    intro x y hxy hidx
    exact ⟨iff_of_true hxy hidx, iff_of_false (by omega) (by omega)⟩
  have : Std.Symm fun x y => agree x y ∧ agree y x := ⟨fun _ _ hxy => ⟨hxy.2, hxy.1⟩⟩
  have hall := hagree.forall_of_forall fun x _ =>
    ⟨iff_of_false (Nat.lt_irrefl _) (Nat.lt_irrefl _),
      iff_of_false (Nat.lt_irrefl _) (Nat.lt_irrefl _)⟩
  have hfirst : (r, i) ∈ placesOf r.channelId l.zipIdx := mem_placesOf.mpr ⟨hi, rfl⟩
  have hsecond : (r', j) ∈ placesOf r.channelId l.zipIdx := mem_placesOf.mpr ⟨hj, hchannel.symm⟩
  exact (hall hfirst hsecond).1.mp hij

/-- Up to three requests are in turn. -/
theorem inTurn_of_length_le (h : l.length ≤ 3) : InTurn l := by
  have hplaces : ∀ n ≤ 3, ∀ j < n, ∀ i < j, (places n).idxOf i < (places n).idxOf j := by decide
  intro i j r r' hij hi hj _
  have hlt : j < l.length := (List.getElem?_eq_some_iff.mp hj).1
  exact hplaces _ h j hlt i hij

/-! ## The map of a player -/

/-- The requests of one player. -/
def requestsOf (channelId : Int32) (l : List MapTransfer) : List MapTransfer :=
  l.filter (·.channelId == channelId)

theorem requestsOf_eq (channelId : Int32) (l : List (MapTransfer × Nat)) :
    requestsOf channelId (l.map (·.1)) = (placesOf channelId l).map (·.1) := by
  rw [requestsOf, placesOf, List.filter_map]
  rfl

theorem requestsOf_concat (channelId : Int32) (l : List MapTransfer) (r : MapTransfer) :
    requestsOf channelId (l ++ [r])
      = requestsOf channelId l ++ if r.channelId = channelId then [r] else [] := by
  rw [requestsOf, List.filter_append, ← requestsOf]
  by_cases h : r.channelId = channelId
  · simp [h]
  · simp [h]

theorem exists_foldl_run (l : List MapTransfer) (maps : MapThreadManager K) (mapId : Int32) :
    (l.foldl (fun maps r => r.run maps) maps).placement.Exists mapId ↔
      maps.placement.Exists mapId := by
  induction l generalizing maps with
  | nil => rfl
  | cons r l ih =>
    rw [List.foldl_cons, ih, MapTransfer.run, MapThreadManager.placement_move]
    exact Placement.exists_move

/-- Every player is on the map of their move that was run last. -/
theorem getPlayerMap_foldl {maps : MapThreadManager K}
    (hexists : ∀ r ∈ l, r.toMap ∈ maps.mapThreads) {r : MapTransfer}
    (hlast : (requestsOf r.channelId l).getLast? = some r) :
    (l.foldl (fun maps r => r.run maps) maps).getPlayerMap r.channelId = r.toMap := by
  have htable : ∀ m : MapThreadManager K, m.getPlayerMap r.channelId
      = (m.placement.table r.channelId).getD (-1) := fun _ => rfl
  rw [htable]
  induction l using List.reverseRecOn with
  | nil => cases hlast
  | append_singleton l q ih =>
    have hq : maps.placement.Exists q.toMap :=
      MapThreadManager.exists_placement.mpr (hexists q (by simp))
    rw [List.foldl_append, List.foldl_cons, List.foldl_nil, MapTransfer.run,
      MapThreadManager.placement_move,
      Placement.table_move ((exists_foldl_run l maps q.toMap).mpr hq)]
    rw [requestsOf_concat] at hlast
    by_cases hchannel : q.channelId = r.channelId
    · -- the last request of all is one of this player
      rw [if_pos hchannel, List.getLast?_concat] at hlast
      rw [hchannel, Function.update_self, Option.some.inj hlast]
      rfl
    · rw [if_neg hchannel, List.append_nil] at hlast
      rw [Function.update_of_ne (Ne.symm hchannel)]
      exact ih (fun p hp => hexists p (List.mem_append_left _ hp)) hlast

/-- **Transfers in the order of the requests.** The moves of each player are run in the order in
which they were requested exactly if no player has two requests at places that the heap
exchanges; up to three requests it exchanges none. Then every player ends on the map of their
last request. In any case all requests are run, each of them once, and a player is on the map
of their move that was run last. -/
theorem transfers_in_order_iff (maps : MapThreadManager K) (l : List MapTransfer) :
    ((∀ channelId, placesOf channelId (executed l.zipIdx) = placesOf channelId l.zipIdx) ↔
      InTurn l) ∧
    (InTurn l → ∀ channelId, requestsOf channelId (executed l) = requestsOf channelId l) ∧
    (l.length ≤ 3 → InTurn l) ∧
    (executed l).Perm l ∧
    (l.foldl handleMapTransfer { maps }).processTaskQueue.taskQueue = [] ∧
    (l.foldl handleMapTransfer { maps }).processTaskQueue.maps
      = (executed l).foldl (fun maps r => r.run maps) maps ∧
    ((∀ r ∈ l, r.toMap ∈ maps.mapThreads) → ∀ r,
      ((requestsOf r.channelId (executed l)).getLast? = some r ∨
        InTurn l ∧ (requestsOf r.channelId l).getLast? = some r) →
      (l.foldl handleMapTransfer { maps }).processTaskQueue.maps.getPlayerMap r.channelId
        = r.toMap) := by
  have hturn : InTurn l → ∀ channelId,
      requestsOf channelId (executed l) = requestsOf channelId l := by
    intro h channelId
    have hasked : requestsOf channelId l = (placesOf channelId l.zipIdx).map (·.1) := by
      rw [← requestsOf_eq, List.zipIdx_map_fst]
    rw [executed_eq, requestsOf_eq, h.placesOf_eq, hasked]
  refine ⟨⟨inTurn_of_placesOf, fun h => h.placesOf_eq⟩, hturn, inTurn_of_length_le,
    executed_perm l, taskQueue_processTaskQueue _, processTaskQueue_maps maps l, ?_⟩
  intro hexists r hlast
  have hrun : (requestsOf r.channelId (executed l)).getLast? = some r := by
    rcases hlast with hlast | ⟨h, hlast⟩
    · exact hlast
    · rw [hturn h]
      exact hlast
  rw [processTaskQueue_maps]
  exact getPlayerMap_foldl (fun q hq => hexists q ((executed_perm l).subset hq)) hrun

/-- Player 7 asks to go from map 1 to map 2 and from there to map 3, and player 8 asks before
and after them. Player 7 is taken to map 3 first and ends on map 2. -/
theorem transfers_swapped :
    let l : List MapTransfer := [⟨8, 1, 2⟩, ⟨7, 1, 2⟩, ⟨7, 2, 3⟩, ⟨8, 2, 3⟩]
    let maps : MapThreadManager ℚ :=
      [.create 1 (ascii "Town") 1000 1000 100, .create 2 (ascii "Desert") 1000 1000 100,
        .create 3 (ascii "Forest") 1000 1000 100, .add 1 7 70, .add 1 8 80].foldl
          MapThreadManager.apply {}
    ¬ InTurn l ∧ executed l = [⟨8, 1, 2⟩, ⟨7, 2, 3⟩, ⟨7, 1, 2⟩, ⟨8, 2, 3⟩] ∧
    (l.foldl handleMapTransfer { maps }).processTaskQueue.maps.getPlayerMap 7 = 2 := by
  intro l maps
  refine ⟨fun h => ?_, by decide +kernel, by decide +kernel⟩
  exact absurd (h 1 2 _ _ (by decide) rfl rfl rfl) (by decide)

end MainThread

end EcsAsioServer.Threading
