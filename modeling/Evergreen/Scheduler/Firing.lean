import Evergreen.Machine.Retry
import Evergreen.Scheduler.Coverage

namespace Evergreen.Scheduler

/-! # One firing of a task

From the dispatch of a task to its recorded result the loop calls the handler
until it succeeds, `max_retries + 1` times at most, a sum that the code takes in
a `u32`.
-/

def Label.result : Label → Option Bool
  | .handled succeeded _ => some succeeded
  | _ => none

def results (labels : List Label) : List Bool := labels.filterMap Label.result

def Label.isChoice : Label → Bool
  | .choose _ _ => true
  | _ => false

/-- The outcomes answer the calls from this one on. -/
def Follows (outcome : Nat → Bool) (first : Nat) (results : List Bool) : Prop :=
  ∀ index result, results[index]? = some result → result = outcome (first + index)

/-- Every task has an entry in the map of runtimes, as `new` makes it. -/
def SchedulerShim.Registered (shim : SchedulerShim) : Prop :=
  ∀ task ∈ shim.tasks, (shim.runtime task.name).isSome

/-- One entry of the map that `new` collects; each reads the clock anew. -/
def SchedulerShim.insertRuntime (schedules : String → Option Schedule)
    (runtime : String → Option TaskRuntime) (entry : ScheduledTask × Int) :
    String → Option TaskRuntime :=
  Function.update runtime entry.1.name (some {
    state := .pending
    lastRun := none
    lastSuccess := none
    lastFailure := none
    consecutiveFailures := 0
    nextRun := (schedules entry.1.name).bind (·.upcoming entry.2) })

/-- The shim of the enabled tasks, before a handler is set. -/
def SchedulerShim.new (fromStr : String → Option Schedule) (tasks : List (ScheduledTask × Int)) :
    SchedulerShim where
  fromStr := fromStr
  tasks := tasks.map Prod.fst
  runtime := tasks.foldl (insertRuntime (parseSchedules fromStr (tasks.map Prod.fst))) fun _ => none
  hasHandler := false

def SchedulerShim.setHandler (shim : SchedulerShim) : SchedulerShim :=
  { shim with hasHandler := true }

/-- The steps from a due task to its recorded result. -/
structure SchedulerShim.Fires (shim : SchedulerShim) (task : ScheduledTask) (before after : Loop)
    (labels : List Label) : Prop where
  due : ∃ fireTime, before.phase = .due fireTime task.name
  config : shim.validTasks.find? (·.name = task.name) = some task
  one : ∀ label ∈ labels, label.isChoice = false
  ran : shim.machine.run before labels = some after
  ended : after.phase = .choosing

/-- The calls that a firing is to make, and what it is to record. -/
structure RetriesAsConfigured (task : ScheduledTask) (outcome : Nat → Bool) (before after : Loop)
    (results : List Bool) : Prop where
  atLeastOnce : 1 ≤ results.length
  untilFirst : ∀ failures, (∀ number < failures, outcome number = false) →
    outcome failures = true → results.length = min (failures + 1) (task.retry.maxRetries + 1)
  exhausted : (∀ number, outcome number = false) → results.length = task.retry.maxRetries + 1
  retried : after.tasksRetried = (before.tasksRetried + (results.length - 1)) % 2 ^ 64
  recorded : (after.runtime task.name).map (·.state) =
    some (if results.getLast? = some true then .success else .failed)

variable {shim : SchedulerShim} {task : ScheduledTask} {loop next after before start : Loop}
variable {label : Label} {labels : List Label} {attempt : Nat} {outcome : Nat → Bool}

/-! ## The runtimes that a shim starts with -/

theorem insertRuntime_spec {schedules : String → Option Schedule} (tasks : List (ScheduledTask × Int)) :
    (∀ entry ∈ tasks, (tasks.foldl (SchedulerShim.insertRuntime schedules) (fun _ => none)
      entry.1.name).isSome) ∧
    ∀ name runtime, tasks.foldl (SchedulerShim.insertRuntime schedules) (fun _ => none) name =
      some runtime → runtime.state = .pending := by
  induction tasks using List.reverseRecOn with
  | nil => exact ⟨nofun, nofun⟩
  | append_singleton tasks entry ih =>
      rw [List.foldl_append, List.foldl_cons, List.foldl_nil, SchedulerShim.insertRuntime]
      constructor
      · intro other member
        rw [Function.update_apply]
        split
        · rfl
        · next apart =>
            have earlier := (List.mem_append.mp member).resolve_right fun last =>
              apart (congrArg (·.1.name) (List.mem_singleton.mp last))
            exact ih.1 other earlier
      · intro name runtime held
        rw [Function.update_apply] at held
        split at held
        · cases held
          rfl
        · exact ih.2 name runtime held

theorem registered_new {fromStr : String → Option Schedule} {tasks : List (ScheduledTask × Int)} :
    (SchedulerShim.new fromStr tasks).setHandler.Registered := by
  intro task member
  obtain ⟨entry, listed, rfl⟩ := List.mem_map.mp member
  exact (insertRuntime_spec tasks).1 entry listed

theorem pending_new {fromStr : String → Option Schedule} {tasks : List (ScheduledTask × Int)}
    {name : String} {runtime : TaskRuntime}
    (held : (SchedulerShim.new fromStr tasks).setHandler.runtime name = some runtime) :
    runtime.state = .pending := (insertRuntime_spec tasks).2 name runtime held

/-! ## The steps of a firing -/

/-- Only the shutdown signal is noticed outside the loop's own steps. -/
def Loop.Signalled (loop next : Loop) (label : Label) : Prop :=
  label.result = none ∧ ∃ raised clock, next = { loop with shutdownAt := raised, clock := clock }

theorem step_running (phase : loop.phase = .running task attempt)
    (taken : shim.machine.step loop label = some next) :
    loop.Signalled next label ∨ ∃ succeeded now, label = .handled succeeded now ∧
      next = (loop.handled shim task attempt succeeded now).tick now := by
  obtain ⟨_, acted, acts, rfl⟩ := acts_of_step taken
  rw [phase] at acts
  cases acts with
  | shutdown => exact .inl ⟨rfl, _, _, rfl⟩
  | handled => exact .inr ⟨_, _, rfl, rfl⟩
  | leave interruptible => cases interruptible

theorem step_retrying {since : Int} (phase : loop.phase = .retrying task attempt since)
    (taken : shim.machine.step loop label = some next) :
    loop.Signalled next label ∨
      (label.result = none ∧ ∃ clock, next = { loop with phase := .running task attempt, clock }) ∨
      next.phase = .stopped := by
  obtain ⟨_, acted, acts, rfl⟩ := acts_of_step taken
  rw [phase] at acts
  cases acts with
  | shutdown => exact .inl ⟨rfl, _, _, rfl⟩
  | retry => exact .inr (.inl ⟨rfl, _, rfl⟩)
  | leave => exact .inr (.inr rfl)

theorem step_choosing (phase : loop.phase = .choosing) (other : label.isChoice = false)
    (taken : shim.machine.step loop label = some next) : loop.Signalled next label := by
  obtain ⟨_, acted, acts, rfl⟩ := acts_of_step taken
  rw [phase] at acts
  cases acts with
  | shutdown => exact ⟨rfl, _, _, rfl⟩
  | choose => cases other
  | leave interruptible => cases interruptible

theorem step_stopped (phase : loop.phase = .stopped)
    (taken : shim.machine.step loop label = some next) : next.phase = .stopped := by
  obtain ⟨_, acted, acts, rfl⟩ := acts_of_step taken
  rw [phase] at acts
  cases acts with
  | shutdown => exact phase
  | leave interruptible => cases interruptible

/-! ## The result of a firing -/

theorem finish_phase {name : String} {succeeded : Bool} {now : Int} :
    (loop.finish shim name succeeded now).phase = .choosing := by
  cases succeeded <;> rfl

theorem finish_tasksRetried {name : String} {succeeded : Bool} {now : Int} :
    (loop.finish shim name succeeded now).tasksRetried = loop.tasksRetried := by
  cases succeeded <;> rfl

theorem finish_recorded {name : String} {succeeded : Bool} {now : Int}
    (known : loop.known name = true) :
    ((loop.finish shim name succeeded now).runtime name).map (·.state) =
      some (if succeeded then .success else .failed) := by
  obtain ⟨runtime, held⟩ := Option.isSome_iff_exists.mp known
  cases succeeded <;> simp [Loop.finish, Loop.setRuntime, held]

theorem results_silent (silent : label.result = none) :
    results (label :: labels) = results labels := List.filterMap_cons_none silent

theorem results_handled {succeeded : Bool} {now : Int} :
    results (.handled succeeded now :: labels) = succeeded :: results labels := rfl

/-- Until the next round only the shutdown signal can come. -/
theorem run_choosing (phase : loop.phase = .choosing)
    (one : ∀ label ∈ labels, label.isChoice = false)
    (ran : shim.machine.run loop labels = some after) :
    results labels = [] ∧ after.runtime = loop.runtime ∧ after.tasksRetried = loop.tasksRetried := by
  induction labels generalizing loop with
  | nil =>
      cases ran
      exact ⟨rfl, rfl, rfl⟩
  | cons label labels ih =>
      obtain ⟨next, taken, ran⟩ := Option.bind_eq_some_iff.mp ran
      obtain ⟨silent, raised, clock, rfl⟩ :=
        step_choosing phase (one label List.mem_cons_self) taken
      rw [results_silent silent]
      exact @ih { loop with shutdownAt := raised, clock } phase
        (fun later member => one later (List.mem_cons_of_mem _ member)) ran

theorem run_stopped (phase : loop.phase = .stopped)
    (ran : shim.machine.run loop labels = some after) : after.phase = .stopped := by
  induction labels generalizing loop with
  | nil =>
      cases ran
      exact phase
  | cons label labels ih =>
      obtain ⟨next, taken, ran⟩ := Option.bind_eq_some_iff.mp ran
      exact ih (step_stopped phase taken) ran

/-- The handler is being called, or the loop sleeps before calling it. -/
def Loop.At (loop : Loop) (task : ScheduledTask) (attempt : Nat) : Prop :=
  loop.phase = .running task attempt ∨ ∃ since, loop.phase = .retrying task attempt since

theorem Follows.tail {first : Nat} {result : Bool} {rest : List Bool}
    (follows : Follows outcome first (result :: rest)) : Follows outcome (first + 1) rest := by
  intro index later found
  have answered := follows (index + 1) later found
  rwa [Nat.add_comm index, ← Nat.add_assoc] at answered

/-- What is recorded at the end of a firing whose last calls gave these results. -/
structure Records (task : ScheduledTask) (outcome : Nat → Bool) (attempt retriedBefore : Nat)
    (after : Loop) (results : List Bool) : Prop where
  attempted : results = Retry.attempts outcome (task.retry.maxAttempts - attempt) attempt
  retried : after.tasksRetried = (retriedBefore + (results.length - 1)) % 2 ^ 64
  recorded : (after.runtime task.name).map (·.state) =
    some (if results.getLast? = some true then .success else .failed)

theorem Records.failed {retried : Nat} {rest : List Bool}
    (later : Records task outcome (attempt + 1) ((retried + 1) % 2 ^ 64) after rest)
    (more : attempt + 1 < task.retry.maxAttempts) (failed : outcome attempt = false) :
    Records task outcome attempt retried after (false :: rest) := by
  have called : rest ≠ [] := by
    rw [later.attempted]
    exact (Retry.settled_attempts (Nat.sub_pos_of_lt more)).attempted
  have positive : 0 < rest.length := List.length_pos_iff.mpr called
  constructor
  · rw [later.attempted,
      show task.retry.maxAttempts - attempt = task.retry.maxAttempts - (attempt + 1) + 1 by omega]
    simp [Retry.attempts, failed]
  · rw [later.retried, Nat.mod_add_mod, List.length_cons]
    congr 1
    omega
  · rw [later.recorded, List.getLast?_cons_of_ne_nil called]

theorem Records.asConfigured {results : List Bool}
    (records : Records task outcome 0 before.tasksRetried after results)
    (limit : task.retry.maxAttempts = task.retry.maxRetries + 1) :
    RetriesAsConfigured task outcome before after results := by
  have attempted := records.attempted
  rw [limit, Nat.sub_zero] at attempted
  constructor
  · rw [attempted]
    exact List.length_pos_iff.mpr (Retry.settled_attempts (Nat.succ_pos _)).attempted
  · intro failures failed succeeded
    rw [attempted]
    apply Retry.length_attempts_of_first
    · simpa only [Nat.zero_add] using failed
    · rwa [Nat.zero_add]
  · intro failed
    rw [attempted]
    exact Retry.length_attempts_of_none failed
  · exact records.retried
  · exact records.recorded

theorem records_handled {succeeded : Bool} {now : Int}
    (left : attempt < task.retry.maxAttempts) (known : loop.known task.name = true)
    (bounded : loop.tasksRetried < 2 ^ 64) (answered : succeeded = outcome attempt)
    (last : succeeded = false → ¬attempt + 1 < task.retry.maxAttempts)
    (one : ∀ label ∈ labels, label.isChoice = false)
    (ran : shim.machine.run ((loop.finish shim task.name succeeded now).tick now) labels =
      some after) :
    Records task outcome attempt loop.tasksRetried after (succeeded :: results labels) := by
  obtain ⟨silent, runtime, retried⟩ :=
    @run_choosing _ ((loop.finish shim task.name succeeded now).tick now) _ _ finish_phase one ran
  rw [silent]
  constructor
  · cases succeeded with
    | true =>
        obtain ⟨more, count⟩ := Nat.exists_eq_add_of_lt left
        rw [show task.retry.maxAttempts - attempt = more + 1 by omega, Retry.attempts,
          ← answered, if_pos rfl]
    | false =>
        have only := last rfl
        rw [show task.retry.maxAttempts - attempt = 0 + 1 by omega, Retry.attempts,
          ← answered, if_neg (by simp)]
        rfl
  · rw [retried]
    exact finish_tasksRetried.trans (Nat.mod_eq_of_lt bounded).symm
  · rw [runtime]
    exact (finish_recorded known).trans (by cases succeeded <;> rfl)

theorem run_records (position : loop.At task attempt) (left : attempt < task.retry.maxAttempts)
    (known : loop.known task.name = true) (bounded : loop.tasksRetried < 2 ^ 64)
    (one : ∀ label ∈ labels, label.isChoice = false)
    (ran : shim.machine.run loop labels = some after) (ended : after.phase = .choosing)
    (follows : Follows outcome attempt (results labels)) :
    Records task outcome attempt loop.tasksRetried after (results labels) := by
  induction labels generalizing loop attempt with
  | nil =>
      cases ran
      rcases position with running | ⟨since, retrying⟩
      · rw [running] at ended
        cases ended
      · rw [retrying] at ended
        cases ended
  | cons label labels ih =>
      obtain ⟨next, taken, ran⟩ := Option.bind_eq_some_iff.mp ran
      have rest : ∀ later ∈ labels, later.isChoice = false :=
        fun later member => one later (List.mem_cons_of_mem _ member)
      rcases position with running | ⟨since, retrying⟩
      · rcases step_running running taken with
          ⟨silent, raised, clock, rfl⟩ | ⟨succeeded, now, rfl, rfl⟩
        · rw [results_silent silent] at follows ⊢
          exact @ih { loop with shutdownAt := raised, clock } attempt (.inl running) left known
            bounded rest ran follows
        · rw [results_handled] at follows ⊢
          have answered : succeeded = outcome attempt := follows 0 succeeded rfl
          cases succeeded with
          | true => exact records_handled left known bounded answered nofun rest ran
          | false =>
              by_cases more : attempt + 1 < task.retry.maxAttempts
              · rw [Loop.handled, if_neg (by simp), if_pos more] at ran
                have counted : (loop.tasksRetried + 1) % 2 ^ 64 < 2 ^ 64 := Nat.mod_lt _ (by decide)
                have later := @ih ({ loop with
                  phase := .retrying task (attempt + 1) now
                  tasksRetried := (loop.tasksRetried + 1) % 2 ^ 64 }.tick now) (attempt + 1)
                  (.inr ⟨now, rfl⟩) more known counted rest ran follows.tail
                exact later.failed more answered.symm
              · rw [Loop.handled, if_neg (by simp), if_neg more] at ran
                exact records_handled left known bounded answered (fun _ => more) rest ran
      · rcases step_retrying retrying taken with
          ⟨silent, raised, clock, rfl⟩ | ⟨silent, clock, rfl⟩ | stopped
        · rw [results_silent silent] at follows ⊢
          exact @ih { loop with shutdownAt := raised, clock } attempt (.inr ⟨since, retrying⟩) left
            known bounded rest ran follows
        · rw [results_silent silent] at follows ⊢
          exact @ih { loop with phase := .running task attempt, clock } attempt (.inl rfl) left known
            bounded rest ran follows
        · rw [run_stopped stopped ran] at ended
          cases ended

/-! ## From the dispatch on -/

theorem step_due {fireTime : Int} {name : String} (phase : loop.phase = .due fireTime name)
    (taken : shim.machine.step loop label = some next) :
    loop.Signalled next label ∨ label.result = none ∧
      ∃ now, next = (loop.dispatch shim fireTime name now).tick now := by
  obtain ⟨_, acted, acts, rfl⟩ := acts_of_step taken
  rw [phase] at acts
  cases acts with
  | shutdown => exact .inl ⟨rfl, _, _, rfl⟩
  | dispatch => exact .inr ⟨rfl, _, rfl⟩
  | leave interruptible => cases interruptible

theorem setRuntime_isSome {name other : String} {change : TaskRuntime → TaskRuntime} :
    (loop.setRuntime name change other).isSome = (loop.runtime other).isSome := by
  rw [Loop.setRuntime, Function.update_apply]
  split
  · next same => rw [same, Option.isSome_map]
  · rfl

theorem run_due {fireTime : Int} (phase : loop.phase = .due fireTime task.name)
    (config : shim.validTasks.find? (·.name = task.name) = some task)
    (known : loop.known task.name = true) (bounded : loop.tasksRetried < 2 ^ 64)
    (one : ∀ label ∈ labels, label.isChoice = false)
    (ran : shim.machine.run loop labels = some after) (ended : after.phase = .choosing)
    (follows : Follows outcome 0 (results labels)) :
    if 0 < task.retry.maxAttempts then
      Records task outcome 0 loop.tasksRetried after (results labels)
    else results labels = [] := by
  induction labels generalizing loop with
  | nil =>
      cases ran
      rw [phase] at ended
      cases ended
  | cons label labels ih =>
      obtain ⟨next, taken, ran⟩ := Option.bind_eq_some_iff.mp ran
      have rest : ∀ later ∈ labels, later.isChoice = false :=
        fun later member => one later (List.mem_cons_of_mem _ member)
      rcases step_due phase taken with ⟨silent, raised, clock, rfl⟩ | ⟨silent, now, rfl⟩
      · rw [results_silent silent] at follows ⊢
        exact @ih { loop with shutdownAt := raised, clock } phase known bounded rest ran follows
      · rw [results_silent silent] at follows ⊢
        simp only [Loop.dispatch, config] at ran
        have still : (loop.setRuntime task.name (fun runtime =>
            { runtime with state := .running, lastRun := some now }) task.name).isSome = true :=
          setRuntime_isSome.trans known
        by_cases attempts : 0 < task.retry.maxAttempts
        · rw [if_pos attempts] at ran ⊢
          let started : Loop := { loop with
            phase := .running task 0
            clock := now
            last := some ⟨task.name, fireTime⟩
            firings := loop.firings ++ [⟨task.name, fireTime⟩]
            runtime := loop.setRuntime task.name fun runtime =>
              { runtime with state := .running, lastRun := some now } }
          exact @run_records _ _ started _ _ 0 _ (.inl rfl) attempts still bounded rest ran
            ended follows
        · rw [if_neg attempts] at ran ⊢
          exact (@run_choosing _ (Loop.tick _ now) _ _ finish_phase rest ran).1

/-! ## What holds in every state -/

structure Loop.SameRecords (loop next : Loop) : Prop where
  runtime : next.runtime = loop.runtime
  tasksExecuted : next.tasksExecuted = loop.tasksExecuted
  tasksFailed : next.tasksFailed = loop.tasksFailed
  tasksRetried : next.tasksRetried = loop.tasksRetried

theorem choose_sameRecords {readings : List Int} {now : Int} :
    loop.SameRecords (loop.choose shim readings now) := by
  unfold Loop.choose
  dsimp only
  split
  · exact ⟨rfl, rfl, rfl, rfl⟩
  · split <;> exact ⟨rfl, rfl, rfl, rfl⟩

theorem Loop.Acts.sameRecords {phase : Phase} (acts : loop.Acts shim phase label next) :
    loop.SameRecords next ∨
      (∃ fireTime name now, phase = .due fireTime name ∧ label = .dispatch now ∧
        next = loop.dispatch shim fireTime name now) ∨
      ∃ task attempt succeeded now, phase = .running task attempt ∧
        next = loop.handled shim task attempt succeeded now := by
  cases acts with
  | dispatch => exact .inr (.inl ⟨_, _, _, rfl, rfl, rfl⟩)
  | handled => exact .inr (.inr ⟨_, _, _, _, rfl, rfl⟩)
  | choose => exact .inl choose_sameRecords
  | _ => exact .inl ⟨rfl, rfl, rfl, rfl⟩

/-- The map of the loop has the entries of the shim's, and the counter is a `u64`. -/
structure Loop.Counted (shim : SchedulerShim) (loop : Loop) : Prop where
  known : ∀ name, (loop.runtime name).isSome = (shim.runtime name).isSome
  bounded : loop.tasksRetried < 2 ^ 64

theorem Loop.Counted.finish {name : String} {succeeded : Bool} {now : Int}
    (counted : loop.Counted shim) : (loop.finish shim name succeeded now).Counted shim := by
  constructor
  · intro other
    rw [← counted.known other]
    cases succeeded <;> exact setRuntime_isSome
  · rw [finish_tasksRetried]
    exact counted.bounded

theorem Loop.Counted.dispatch {fireTime : Int} {name : String} {now : Int}
    (counted : loop.Counted shim) : (loop.dispatch shim fireTime name now).Counted shim := by
  unfold Loop.dispatch
  cases shim.validTasks.find? (·.name = name) with
  | none => exact ⟨counted.known, counted.bounded⟩
  | some task =>
      have running : Loop.Counted shim { loop with
          runtime := loop.setRuntime name fun runtime =>
            { runtime with state := .running, lastRun := some now } } :=
        ⟨fun other => setRuntime_isSome.trans (counted.known other), counted.bounded⟩
      dsimp only
      split
      · exact ⟨running.known, running.bounded⟩
      · exact running.finish

theorem Loop.Counted.handled {succeeded : Bool} {now : Int} (counted : loop.Counted shim) :
    (loop.handled shim task attempt succeeded now).Counted shim := by
  unfold Loop.handled
  split
  · exact counted.finish
  · split
    · exact ⟨counted.known, Nat.mod_lt _ (by decide)⟩
    · exact counted.finish

theorem Loop.Counted.step (counted : loop.Counted shim)
    (taken : shim.machine.step loop label = some next) : next.Counted shim := by
  obtain ⟨_, acted, acts, rfl⟩ := acts_of_step taken
  suffices acted.Counted shim from ⟨this.known, this.bounded⟩
  rcases acts.sameRecords with same | ⟨_, _, _, _, _, rfl⟩ | ⟨_, _, _, _, _, rfl⟩
  · exact ⟨fun name => same.runtime ▸ counted.known name, same.tasksRetried ▸ counted.bounded⟩
  · exact counted.dispatch
  · exact counted.handled

theorem counted_spawned {now : Int} (spawned : shim.spawnSchedulerLoop now = some start) :
    start.Counted shim := by
  unfold SchedulerShim.spawnSchedulerLoop at spawned
  split at spawned
  · cases spawned
  · cases spawned
    exact ⟨fun name => rfl, Nat.two_pow_pos 64⟩

/-- In every complete firing of every run the handler is called until the first
success and `max_retries + 1` times at most, the retries are counted and the
last result recorded, exactly when `max_retries + 1` is a `u32`. -/
theorem fires_asConfigured_iff {now : Int} {earlier : List Label} (registered : shim.Registered)
    (spawned : shim.spawnSchedulerLoop now = some start)
    (reached : shim.machine.run start earlier = some before)
    (fires : shim.Fires task before after labels) (isU32 : task.retry.maxRetries < 2 ^ 32)
    (follows : Follows outcome 0 (results labels)) :
    RetriesAsConfigured task outcome before after (results labels) ↔
      task.retry.maxRetries + 1 < 2 ^ 32 := by
  have always : shim.machine.Always (Loop.Counted shim) start earlier :=
    Machine.always_of_step _ (fun _ _ _ counted taken => counted.step taken) (counted_spawned spawned)
  have counted := always.last reached
  have known : before.known task.name = true := by
    have valid := List.mem_of_find?_eq_some fires.config
    exact (counted.known task.name).trans (registered task (List.mem_filter.mp valid).1)
  obtain ⟨fireTime, due⟩ := fires.due
  have fired := run_due due fires.config known counted.bounded fires.one fires.ran fires.ended follows
  by_cases fits : task.retry.maxRetries + 1 < 2 ^ 32
  · have limit : task.retry.maxAttempts = task.retry.maxRetries + 1 := Nat.mod_eq_of_lt fits
    rw [limit, if_pos (Nat.succ_pos _)] at fired
    exact iff_of_true (fired.asConfigured limit) fits
  · have none : task.retry.maxAttempts = 0 := by
      rw [RetryConfig.maxAttempts, show task.retry.maxRetries + 1 = 2 ^ 32 by omega, Nat.mod_self]
    rw [none, if_neg (Nat.lt_irrefl 0)] at fired
    apply iff_of_false _ fits
    intro configured
    have called := configured.atLeastOnce
    rw [fired] at called
    cases called

def retriedTask (maxRetries : Nat) : ScheduledTask where
  name := "backup"
  schedule := "0 0 0 1 1 * 2030"
  retry := ⟨maxRetries, 1, 1⟩

def retriedShim (maxRetries : Nat) : SchedulerShim :=
  { newYearShim ["backup"] with tasks := [retriedTask maxRetries] }

/-- Up to the turn of the year, when the task is due. -/
def untilNewYear : List Label :=
  [.choose [newYear - 10 * nanosPerSec] (newYear - 10 * nanosPerSec), .wake 0 newYear]

def retriedOnce : List Label :=
  [.dispatch newYear, .handled false (newYear + nanosPerSec), .retry 0 (newYear + 2 * nanosPerSec),
    .handled true (newYear + 3 * nanosPerSec)]

theorem retriedShim_registered (maxRetries : Nat) : (retriedShim maxRetries).Registered := by
  intro task member
  obtain rfl := List.mem_singleton.mp member
  rfl

def dueLoop (maxRetries : Nat) : Loop where
  phase := .due newYear "backup"
  startedAt := newYear - 10 * nanosPerSec
  clock := newYear
  shutdownAt := none
  seen := [newYear - 10 * nanosPerSec]
  last := none
  firings := []
  runtime := (retriedShim maxRetries).runtime
  tasksExecuted := 0
  tasksFailed := 0
  tasksRetried := 0

theorem fires_asConfigured_retried : ∃ after,
    (retriedShim 1).Fires (retriedTask 1) (dueLoop 1) after retriedOnce ∧
      RetriesAsConfigured (retriedTask 1) (fun number => number = 1) (dueLoop 1) after
        [false, true] := by
  have ran : (retriedShim 1).machine.run (dueLoop 1) retriedOnce = some _ := rfl
  have fires : (retriedShim 1).Fires (retriedTask 1) (dueLoop 1) _ retriedOnce :=
    ⟨⟨newYear, rfl⟩, rfl, by decide, ran, rfl⟩
  refine ⟨_, fires, ?_⟩
  apply (@fires_asConfigured_iff _ (retriedTask 1) _ _ _ retriedOnce _ (newYear - 10 * nanosPerSec)
    untilNewYear (retriedShim_registered 1) rfl rfl fires (by decide) ?_).mpr (by decide)
  intro index result found
  match index with
  | 0 | 1 => exact (Option.some.inj found).symm
  | index + 2 => cases found

/-- With `u32::MAX` retries the sum wraps to 0: no call is made. -/
theorem not_fires_asConfigured :
    ¬∀ (shim : SchedulerShim) (task : ScheduledTask) (start before after : Loop)
        (earlier labels : List Label) (outcome : Nat → Bool) (now : Int),
      shim.Registered → shim.spawnSchedulerLoop now = some start →
      shim.machine.run start earlier = some before → shim.Fires task before after labels →
      task.retry.maxRetries < 2 ^ 32 → Follows outcome 0 (results labels) →
      RetriesAsConfigured task outcome before after (results labels) := by
  intro claimed
  have ran : (retriedShim (2 ^ 32 - 1)).machine.run (dueLoop (2 ^ 32 - 1)) [.dispatch newYear] =
      some _ := rfl
  have configured := claimed _ (retriedTask (2 ^ 32 - 1)) _ _ _ untilNewYear [.dispatch newYear]
    (fun _ => true) (newYear - 10 * nanosPerSec) (retriedShim_registered _) rfl rfl
    ⟨⟨newYear, rfl⟩, rfl, by decide, ran, rfl⟩ (by decide) (fun index result found => by cases found)
  exact absurd configured.atLeastOnce (by decide)

end Evergreen.Scheduler
