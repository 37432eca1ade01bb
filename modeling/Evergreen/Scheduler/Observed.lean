import Evergreen.Scheduler.Firing

namespace Evergreen.Scheduler

/-! # What the accessors show of a run

`spawn_scheduler_loop` clones the map of runtimes and counts from new zeros, so
the loop writes to copies while `task_state`, `list_tasks` and `metrics` read
the shim's own fields, which only `update_task_state` changes.
-/

/-- A map of runtimes with three counters: the shim's fields, or the loop's copies. -/
structure Book where
  runtime : String → Option TaskRuntime
  tasksExecuted : Nat
  tasksFailed : Nat
  tasksRetried : Nat

structure TaskInfo where
  name : String
  schedule : String
  state : TaskState
  lastRun : Option Int
  lastSuccess : Option Int
  lastFailure : Option Int
  consecutiveFailures : Nat
  nextRun : Option Int
deriving DecidableEq, Repr

def Loop.book (loop : Loop) : Book where
  runtime := loop.runtime
  tasksExecuted := loop.tasksExecuted
  tasksFailed := loop.tasksFailed
  tasksRetried := loop.tasksRetried

namespace Book

def taskState (book : Book) (name : String) : Option TaskState :=
  (book.runtime name).map (·.state)

def listTasks (shim : SchedulerShim) (book : Book) : List TaskInfo :=
  shim.tasks.filterMap fun task => (book.runtime task.name).map fun runtime => {
    name := task.name
    schedule := task.schedule
    state := runtime.state
    lastRun := runtime.lastRun
    lastSuccess := runtime.lastSuccess
    lastFailure := runtime.lastFailure
    consecutiveFailures := runtime.consecutiveFailures
    nextRun := runtime.nextRun }

/-- Each value is then converted to an `f64`. -/
def metrics (shim : SchedulerShim) (book : Book) : List (String × Nat) :=
  [("scheduler_tasks_total", shim.tasks.length),
    ("scheduler_tasks_executed", book.tasksExecuted),
    ("scheduler_tasks_failed", book.tasksFailed),
    ("scheduler_tasks_retried", book.tasksRetried)]

def updateTaskState (shim : SchedulerShim) (book : Book) (name : String) (state : TaskState)
    (now : Int) : Book :=
  match book.runtime name with
  | none => book
  | some runtime =>
      let nextRun := (shim.schedules name).bind (·.upcoming now)
      let put runtime := Function.update book.runtime name (some runtime)
      match state with
      | .success =>
          { book with
            runtime := put { runtime with
              state
              lastSuccess := some now
              consecutiveFailures := 0
              nextRun }
            tasksExecuted := (book.tasksExecuted + 1) % 2 ^ 64 }
      | .failed =>
          { book with
            runtime := put { runtime with
              state
              lastFailure := some now
              consecutiveFailures := (runtime.consecutiveFailures + 1) % 2 ^ 32
              nextRun }
            tasksFailed := (book.tasksFailed + 1) % 2 ^ 64 }
      | .running =>
          { book with
            runtime := put { runtime with
              state
              lastRun := some now } }
      | .pending => { book with runtime := put { runtime with state } }

end Book

structure Started where
  fields : Book
  loop : Loop

/-- The loop's steps, and what the owner of the shim does meanwhile. -/
inductive Event where
  | loop (label : Label)
  | updateTaskState (name : String) (state : TaskState) (now : Int)
deriving DecidableEq, Repr

namespace SchedulerShim

/-- `start` of a new shim: the counters of its fields are zero. -/
def start (shim : SchedulerShim) (now : Int) : Option Started :=
  (shim.spawnSchedulerLoop now).map fun loop =>
    { fields := { runtime := shim.runtime, tasksExecuted := 0, tasksFailed := 0, tasksRetried := 0 }
      loop }

def started (shim : SchedulerShim) : Machine Started Event where
  step
    | state, .loop label => (shim.machine.step state.loop label).map fun loop => { state with loop }
    | state, .updateTaskState name taskState now =>
        some { state with fields := state.fields.updateTaskState shim name taskState now }

end SchedulerShim

/-- The accessors answer as they would from what the loop has recorded. -/
structure Started.Reflects (shim : SchedulerShim) (state : Started) : Prop where
  taskState : ∀ name, state.fields.taskState name = state.loop.book.taskState name
  listTasks : state.fields.listTasks shim = state.loop.book.listTasks shim
  metrics : state.fields.metrics shim = state.loop.book.metrics shim

/-- The loop does not come to execute a task, and the owner records nothing new. -/
def Uneventful (state : Started) : Event → Prop
  | .loop label => ∀ now, label ≠ .dispatch now
  | .updateTaskState name taskState _ => state.fields.taskState name = none ∨ taskState = .pending

variable {shim : SchedulerShim} {state next : Started} {event : Event} {events : List Event}
variable {loop acted : Loop} {label : Label} {book : Book} {name : String} {now : Int}

/-! ## Before the first dispatch -/

/-- No task is being executed, and a chosen one is among the valid ones. -/
def Phase.Awaits (shim : SchedulerShim) : Phase → Prop
  | .sleeping _ taskName _ | .due _ taskName =>
      ∃ task, shim.validTasks.find? (·.name = taskName) = some task
  | .running _ _ | .retrying _ _ _ => False
  | _ => True

theorem SchedulerShim.Upcoming.config {readings : List Int} {candidate : Int × String}
    (upcoming : shim.Upcoming readings candidate) :
    ∃ task, shim.validTasks.find? (·.name = candidate.2) = some task := by
  obtain ⟨schedule, inMap, _⟩ := upcoming
  obtain ⟨task, member, named, _⟩ := SchedulerShim.schedules_validTask inMap
  apply Option.isSome_iff_exists.mp
  rw [List.find?_isSome]
  exact ⟨task, member, decide_eq_true named⟩

theorem choose_awaits {readings : List Int} : (loop.choose shim readings now).phase.Awaits shim := by
  unfold Loop.choose
  cases found : shim.earliest readings with
  | none => trivial
  | some candidate =>
      have config := (SchedulerShim.earliest_upcoming candidate found).config
      dsimp only
      split <;> exact config

theorem Loop.Acts.awaits {phase : Phase} (acts : loop.Acts shim phase label acted)
    (current : loop.phase = phase) (awaits : phase.Awaits shim)
    (other : ∀ now, label ≠ .dispatch now) : acted.phase.Awaits shim := by
  cases acts with
  | shutdown =>
      rw [← current] at awaits
      exact awaits
  | choose => exact choose_awaits
  | idled => trivial
  | wake => exact awaits
  | dispatch => exact absurd rfl (other _)
  | handled => exact awaits.elim
  | retry => exact awaits.elim
  | leave => trivial

structure Unfired (shim : SchedulerShim) (state : Started) : Prop where
  same : state.fields = state.loop.book
  registered : ∀ task ∈ shim.tasks, (state.loop.runtime task.name).isSome
  pending : ∀ name runtime, state.loop.runtime name = some runtime → runtime.state = .pending
  awaits : state.loop.phase.Awaits shim

theorem Unfired.reflects (unfired : Unfired shim state) : state.Reflects shim where
  taskState name := by rw [unfired.same]
  listTasks := by rw [unfired.same]
  metrics := by rw [unfired.same]

theorem Unfired.loopStep (unfired : Unfired shim state) (other : ∀ now, label ≠ .dispatch now)
    (taken : shim.machine.step state.loop label = some loop) :
    Unfired shim { state with loop } := by
  obtain ⟨_, acted, acts, rfl⟩ := acts_of_step taken
  have awaits := acts.awaits rfl unfired.awaits other
  rcases acts.sameRecords with same | ⟨_, _, now, _, rfl, _⟩ | ⟨_, _, _, _, running, _⟩
  · obtain ⟨runtime, executed, failed, retried⟩ := same
    constructor
    · rw [unfired.same]
      simp only [Loop.book, Loop.tick, runtime, executed, failed, retried]
    · simpa only [Loop.tick, runtime] using unfired.registered
    · simpa only [Loop.tick, runtime] using unfired.pending
    · exact awaits
  · exact absurd rfl (other now)
  · have waiting := unfired.awaits
    rw [running] at waiting
    exact waiting.elim

theorem updateTaskState_unknown {taskState : TaskState} (unknown : book.taskState name = none) :
    book.updateTaskState shim name taskState now = book := by
  have missing := Option.map_eq_none_iff.mp unknown
  simp only [Book.updateTaskState, missing]

theorem updateTaskState_pending
    (pending : ∀ runtime, book.runtime name = some runtime → runtime.state = .pending) :
    book.updateTaskState shim name .pending now = book := by
  cases found : book.runtime name with
  | none => exact updateTaskState_unknown (by rw [Book.taskState, found]; rfl)
  | some runtime =>
      have same : { runtime with state := .pending } = runtime := by rw [← pending runtime found]
      simp only [Book.updateTaskState, found, same]
      rw [← found, Function.update_eq_self]

theorem Unfired.step (unfired : Unfired shim state) (uneventful : Uneventful state event)
    (taken : shim.started.step state event = some next) : Unfired shim next := by
  cases event with
  | loop label =>
      obtain ⟨loop, stepped, rfl⟩ := Option.map_eq_some_iff.mp taken
      exact unfired.loopStep uneventful stepped
  | updateTaskState name taskState now =>
      cases taken
      suffices kept : state.fields.updateTaskState shim name taskState now = state.fields by
        rw [kept]
        exact unfired
      rcases uneventful with unknown | rfl
      · exact updateTaskState_unknown unknown
      · apply updateTaskState_pending
        rw [unfired.same]
        exact unfired.pending name

/-! ## The first dispatch -/

theorem Unfired.pending_of_some (unfired : Unfired shim state) {taskState : TaskState}
    (found : state.loop.book.taskState name = some taskState) : taskState = .pending := by
  obtain ⟨runtime, held, rfl⟩ := Option.map_eq_some_iff.mp found
  exact unfired.pending name runtime held

theorem Unfired.known_of_config (unfired : Unfired shim state) {task : ScheduledTask}
    (config : shim.validTasks.find? (·.name = name) = some task) :
    state.loop.known name = true := by
  have named : task.name = name := by simpa using List.find?_some config
  have valid := List.mem_of_find?_eq_some config
  exact named ▸ unfired.registered task (List.mem_filter.mp valid).1

/-- A dispatched task is running, or has succeeded without an attempt. -/
theorem dispatch_taskState {fireTime : Int} {task : ScheduledTask}
    (config : shim.validTasks.find? (·.name = name) = some task) (known : loop.known name = true) :
    ∃ taskState, (loop.dispatch shim fireTime name now).book.taskState name = some taskState ∧
      taskState ≠ .pending := by
  let ran : TaskRuntime → TaskRuntime := fun runtime =>
    { runtime with state := .running, lastRun := some now }
  have still : (loop.setRuntime name ran name).isSome = true := setRuntime_isSome.trans known
  simp only [Loop.dispatch, config]
  split
  · obtain ⟨runtime, held⟩ := Option.isSome_iff_exists.mp known
    exact ⟨.running, by simp [Book.taskState, Loop.book, Loop.setRuntime, held], by decide⟩
  · exact ⟨.success, @finish_recorded _ { loop with runtime := loop.setRuntime name ran } _ true _
      still, by decide⟩

theorem updateTaskState_taskState {taskState : TaskState}
    (known : (book.taskState name).isSome = true) :
    (book.updateTaskState shim name taskState now).taskState name = some taskState := by
  rw [Book.taskState, Option.isSome_map] at known
  obtain ⟨runtime, found⟩ := Option.isSome_iff_exists.mp known
  cases taskState <;> simp [Book.updateTaskState, Book.taskState, found]

theorem Unfired.not_reflects (unfired : Unfired shim state) (eventful : ¬Uneventful state event)
    (taken : shim.started.step state event = some next) : ¬next.Reflects shim := by
  intro reflects
  cases event with
  | loop label =>
      obtain ⟨loop, stepped, rfl⟩ := Option.map_eq_some_iff.mp taken
      obtain ⟨now, rfl⟩ : ∃ now, label = .dispatch now := by
        by_contra none
        exact eventful fun now same => none ⟨now, same⟩
      obtain ⟨_, acted, acts, rfl⟩ := acts_of_step stepped
      have awaits := unfired.awaits
      generalize state.loop.phase = phase at acts awaits
      cases acts with
      | dispatch =>
          obtain ⟨task, config⟩ := awaits
          obtain ⟨taskState, recorded, executed⟩ :=
            dispatch_taskState config (unfired.known_of_config config)
          have shown := (reflects.taskState _).trans recorded
          rw [unfired.same] at shown
          exact executed (unfired.pending_of_some shown)
  | updateTaskState name taskState now =>
      cases taken
      obtain ⟨known, changed⟩ := not_or.mp eventful
      have shown := reflects.taskState name
      rw [updateTaskState_taskState (Option.isSome_iff_ne_none.mpr known)] at shown
      exact changed (unfired.pending_of_some shown.symm)

theorem unfired_start {fromStr : String → Option Schedule} {tasks : List (ScheduledTask × Int)}
    (built : shim = (SchedulerShim.new fromStr tasks).setHandler)
    (start : shim.start now = some state) : Unfired shim state := by
  subst built
  obtain ⟨loop, spawned, rfl⟩ := Option.map_eq_some_iff.mp start
  unfold SchedulerShim.spawnSchedulerLoop at spawned
  split at spawned
  · cases spawned
  · cases spawned
    exact ⟨rfl, registered_new, fun _ _ => pending_new, trivial⟩

/-- The accessors show what the loop has recorded for as long as it has
dispatched no task, and the owner has set the state of none. -/
theorem always_reflects_iff {fromStr : String → Option Schedule}
    {tasks : List (ScheduledTask × Int)}
    (built : shim = (SchedulerShim.new fromStr tasks).setHandler)
    (start : shim.start now = some state) :
    shim.started.Always (Started.Reflects shim) state events ↔
      shim.started.Along Uneventful state events :=
  Machine.always_iff_along (Unfired shim) (fun _ unfired => unfired.reflects)
    (fun _ _ _ unfired uneventful taken => unfired.step uneventful taken)
    (fun _ _ _ unfired eventful taken => unfired.not_reflects eventful taken)
    (unfired_start built start)

def observedShim : SchedulerShim :=
  (SchedulerShim.new (newYearShim []).fromStr
    [(⟨"backup", "0 0 0 1 1 * 2030", [], .default⟩, newYear - 10 * nanosPerSec)]).setHandler

/-- The task is due, and the owner of the shim has changed nothing. -/
def undispatchedRun : List Event :=
  [.loop (.choose [newYear - 10 * nanosPerSec] (newYear - 10 * nanosPerSec)),
    .updateTaskState "backup" .pending (newYear - 9 * nanosPerSec),
    .updateTaskState "report" .failed (newYear - 8 * nanosPerSec), .loop (.wake 0 newYear)]

theorem always_reflects_undispatched : ∃ state,
    observedShim.start (newYear - 10 * nanosPerSec) = some state ∧
      observedShim.started.Always (Started.Reflects observedShim) state undispatchedRun := by
  refine ⟨_, rfl, (always_reflects_iff rfl rfl).mpr ?_⟩
  apply Machine.Along.cons rfl nofun
  apply Machine.Along.cons rfl (.inr rfl)
  apply Machine.Along.cons rfl (.inl rfl)
  exact .cons rfl nofun trivial

/-- The loop has fired the task and recorded a success; the metrics stay zero. -/
theorem not_always_reflects :
    ¬∀ (fromStr : String → Option Schedule) (tasks : List (ScheduledTask × Int))
        (shim : SchedulerShim) (now : Int) (state : Started) (events : List Event),
      shim = (SchedulerShim.new fromStr tasks).setHandler → shim.start now = some state →
      shim.started.Always (Started.Reflects shim) state events := by
  intro claimed
  let runs := (observedShim.start (newYear - 10 * nanosPerSec)).bind
    (observedShim.started.run · ((newYearRun 1).map .loop))
  obtain ⟨final, ran⟩ : ∃ final, runs = some final := Option.isSome_iff_exists.mp (by decide)
  have executed : runs.map (fun state => (state.fields.tasksExecuted, state.loop.tasksExecuted)) =
      some (0, 1) := by decide
  rw [ran, Option.map_some, Option.some.injEq, Prod.mk.injEq] at executed
  obtain ⟨state, start, ran⟩ := Option.bind_eq_some_iff.mp ran
  have shown := ((claimed _ _ _ _ state _ rfl start).last ran).metrics
  simp [Book.metrics, Loop.book, executed] at shown

end Evergreen.Scheduler
