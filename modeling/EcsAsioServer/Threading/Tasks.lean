import EcsAsioServer.Lib.HeapOrder
import EcsAsioServer.Threading.Transfers

/-!
# Tasks by priority (`map_thread.{hpp,cpp}`)

`process_tasks` takes the top of a `std::priority_queue` and runs it without the lock, until the
queue is empty. Other threads, and the task itself, add tasks in the meantime. A lower number is
a higher priority.

Whatever is added when, a task that is started has the lowest number of all that wait, and every
task is started once (`tasks_by_priority`).
-/

namespace EcsAsioServer.Threading

open BinaryHeap

/-- `MapTask`. -/
abbrev MapTask := Task

namespace Task

variable {τ : Type}

/-- The number, the other way round. -/
def urgency (t : Task τ) : Int := -t.priority.toInt

theorem less_iff (a b : Task τ) : less a b = true ↔ urgency a < urgency b := by
  simp only [less, urgency, decide_eq_true_eq, gt_iff_lt, Int32.lt_iff_toInt_lt]
  omega

end Task

/-- The tasks of a map thread. `started` are the tasks that the thread has taken out, in order. -/
structure MapTasks (τ : Type) where
  taskQueue : List (MapTask τ) := []
  running : Option (MapTask τ) := none
  started : List (MapTask τ) := []

/-- What happens to the tasks of a map. -/
inductive TaskEvent (τ : Type) where
  /-- `add_task`, by any thread or by the task that runs. -/
  | add (t : MapTask τ)
  /-- The loop of `process_tasks` looks for a task. -/
  | take
  /-- The task that runs comes to its end. -/
  | finish

/-- The task that an event adds. -/
def TaskEvent.added {τ : Type} : TaskEvent τ → Option (MapTask τ)
  | add t => some t
  | take => none
  | finish => none

namespace MapTasks

variable {τ : Type}

/-- `add_task`. -/
def addTask (t : MapTask τ) (s : MapTasks τ) : MapTasks τ :=
  { s with taskQueue := push Task.less t s.taskQueue }

/-- One round of `process_tasks` up to the call of the task. -/
def take (s : MapTasks τ) : MapTasks τ :=
  match pop Task.less s.taskQueue with
  | none => s
  | some (t, rest) => { taskQueue := rest, running := some t, started := s.started ++ [t] }

/-- One event. -/
def step (s : MapTasks τ) : TaskEvent τ → MapTasks τ
  | .add t => s.addTask t
  -- the thread looks for the next task only after the last one
  | .take => if s.running.isNone then s.take else s
  | .finish => { s with running := none }

/-- The tasks after these events. -/
def after (es : List (TaskEvent τ)) : MapTasks τ := es.foldl step {}

/-- Nothing is lost, and the queue is in order. -/
structure Queued (added : List (MapTask τ)) (s : MapTasks τ) : Prop where
  perm : (s.started ++ s.taskQueue).Perm added
  ordered : Ordered Task.urgency s.taskQueue

theorem Queued.addTask {l : List (MapTask τ)} {s : MapTasks τ} (h : Queued l s)
    (t : MapTask τ) : Queued (l ++ [t]) (s.addTask t) where
  perm := calc
    (s.started ++ push Task.less t s.taskQueue).Perm (s.started ++ t :: s.taskQueue) :=
      (push_perm _ t s.taskQueue).append_left _
    _ |>.Perm (t :: (s.started ++ s.taskQueue)) := List.perm_middle
    _ |>.Perm (t :: l) := h.perm.cons t
    _ |>.Perm (l ++ [t]) := (List.perm_append_singleton t l).symm
  ordered := push_ordered Task.less_iff h.ordered

theorem Queued.take {l : List (MapTask τ)} {s : MapTasks τ} (h : Queued l s) :
    Queued l s.take := by
  unfold MapTasks.take
  cases hpop : pop Task.less s.taskQueue with
  | none => exact h
  | some r =>
    obtain ⟨t, rest⟩ := r
    have hperm := pop_perm Task.less hpop
    refine ⟨?_, pop_ordered Task.less_iff h.ordered hpop⟩
    rw [List.append_assoc, List.singleton_append]
    exact (hperm.symm.append_left _).trans h.perm

theorem queued_after (es : List (TaskEvent τ)) :
    Queued (es.filterMap TaskEvent.added) (after es) := by
  induction es using List.reverseRecOn with
  | nil => exact ⟨.nil, fun i x y _ hx => by cases hx⟩
  | append_singleton es e ih =>
    rw [after, List.foldl_append, ← after, List.filterMap_append]
    cases e with
    | add t => exact ih.addTask t
    | take =>
      have hnone : [TaskEvent.take].filterMap TaskEvent.added = ([] : List (MapTask τ)) := rfl
      rw [hnone, List.append_nil]
      simp only [List.foldl_cons, List.foldl_nil, step]
      split
      · exact ih.take
      · exact ih
    | finish =>
      have hnone : [TaskEvent.finish].filterMap TaskEvent.added = ([] : List (MapTask τ)) := rfl
      rw [hnone, List.append_nil]
      exact ⟨ih.perm, ih.ordered⟩

theorem after_snoc (es : List (TaskEvent τ)) (e : TaskEvent τ) :
    after (es ++ [e]) = (after es).step e := by
  rw [after, List.foldl_append, ← after, List.foldl_cons, List.foldl_nil]

/-- **The lowest number first**: let tasks with any priorities be added at any time, also while a
task runs. The tasks that were started and those that wait are the ones that were added. When
the thread is free and tasks wait, the next round starts one of them, and none of them has a
lower number. -/
theorem tasks_by_priority (es : List (TaskEvent τ)) :
    ((after es).started ++ (after es).taskQueue).Perm (es.filterMap TaskEvent.added) ∧
    ((after es).running = none → (after es).taskQueue ≠ [] →
      ∃ t, (after (es ++ [.take])).started = (after es).started ++ [t]
        ∧ (after es).taskQueue.Perm (t :: (after (es ++ [.take])).taskQueue)
        ∧ ∀ u ∈ (after es).taskQueue, t.priority ≤ u.priority) := by
  obtain ⟨hperm, hordered⟩ := queued_after es
  refine ⟨hperm, fun hfree hwait => ?_⟩
  cases hpop : pop Task.less (after es).taskQueue with
  | none => exact absurd (eq_nil_of_pop _ hpop) hwait
  | some r =>
    obtain ⟨t, rest⟩ := r
    have htake : after (es ++ [.take])
        = { taskQueue := rest, running := some t, started := (after es).started ++ [t] } := by
      rw [after_snoc]
      simp [step, hfree, take, hpop]
    rw [htake]
    refine ⟨t, rfl, pop_perm _ hpop, fun u hu => ?_⟩
    have hle := pop_greatest hordered hpop u hu
    rw [Int32.le_iff_toInt_le]
    unfold Task.urgency at hle
    omega

-- the second and the third task have the same number, and the last is added while a task runs
example : (after [.add ⟨"first", 5⟩, .add ⟨"second", 0⟩, .take, .add ⟨"third", 0⟩, .take, .finish,
    .add ⟨"fourth", -1⟩, .take, .finish, .take, .finish, .take]).started.map (·.task)
      = ["second", "fourth", "third", "first"] := by decide

end MapTasks

end EcsAsioServer.Threading
