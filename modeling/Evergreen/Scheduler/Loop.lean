import Evergreen.Machine.Run
import Mathlib.Algebra.Order.Ring.Int
import Mathlib.Logic.Function.Basic
import Mathlib.Data.List.Induction

namespace Evergreen.Scheduler

/-! # The scheduler shim's loop

The task spawned by `spawn_scheduler_loop`, one step for every stretch between
two of its awaits.  Clock readings are nanoseconds; they never decrease, and a
sleep does not end early on that clock.
-/

/-- A parsed cron expression: a set of instants, and the first of them strictly
after a clock reading, as `upcoming(Utc).next()` gives it. -/
structure Schedule where
  occurs : Int → Prop
  upcoming : Int → Option Int
  upcoming_later : ∀ now time, upcoming now = some time → now < time
  upcoming_occurs : ∀ now time, upcoming now = some time → occurs time
  upcoming_least : ∀ now time, upcoming now = some time →
    ∀ other, now < other → occurs other → time ≤ other
  upcoming_none : ∀ now, upcoming now = none → ∀ other, now < other → ¬ occurs other

/-- The expression with a year field that names a single instant. -/
def Schedule.once (instant : Int) : Schedule where
  occurs time := time = instant
  upcoming now := if now < instant then some instant else none
  upcoming_later now time found := by
    split at found
    · cases found
      assumption
    · cases found
  upcoming_occurs now time found := by
    split at found
    · cases found
      rfl
    · cases found
  upcoming_least now time found other _ occurs := by
    split at found
    · cases found
      exact Int.le_of_eq occurs.symm
    · cases found
  upcoming_none now found other later occurs := by
    split at found
    · cases found
    · next reached => exact reached (occurs ▸ later)

structure RetryConfig where
  maxRetries : Nat
  baseDelaySecs : Nat
  maxDelaySecs : Nat
deriving DecidableEq, Repr

def RetryConfig.default : RetryConfig where
  maxRetries := 3
  baseDelaySecs := 5
  maxDelaySecs := 300

structure ScheduledTask where
  name : String
  schedule : String
  args : List String := []
  retry : RetryConfig := .default
deriving DecidableEq, Repr

inductive TaskState where
  | pending
  | running
  | success
  | failed
deriving DecidableEq, Repr

structure TaskRuntime where
  state : TaskState
  lastRun : Option Int
  lastSuccess : Option Int
  lastFailure : Option Int
  consecutiveFailures : Nat
  nextRun : Option Int
deriving DecidableEq, Repr

structure Firing where
  taskName : String
  time : Int
deriving DecidableEq, Repr

/-- What the loop takes from the shim.  `fromStr` is the cron crate's parser,
`tasks` the enabled task definitions. -/
structure SchedulerShim where
  fromStr : String → Option Schedule
  tasks : List ScheduledTask
  runtime : String → Option TaskRuntime
  hasHandler : Bool

namespace SchedulerShim

/-- Collected into a map by name: the last task of a name wins. -/
def parseSchedules (fromStr : String → Option Schedule) (tasks : List ScheduledTask) :
    String → Option Schedule :=
  tasks.foldl (fun schedules task =>
    match fromStr task.schedule with
    | some schedule => Function.update schedules task.name (some schedule)
    | none => schedules) fun _ => none

def schedules (shim : SchedulerShim) : String → Option Schedule :=
  parseSchedules shim.fromStr shim.tasks

def validTasks (shim : SchedulerShim) : List ScheduledTask :=
  shim.tasks.filter fun task => (shim.schedules task.name).isSome

/-- One turn of the search for the next task to fire; of several tasks due at
the same instant the first stays. -/
def consider (shim : SchedulerShim) (earliest : Option (Int × String))
    (entry : ScheduledTask × Int) : Option (Int × String) :=
  match (shim.schedules entry.1.name).bind (·.upcoming entry.2) with
  | none => earliest
  | some time =>
      match earliest with
      | some (earliestTime, taskName) =>
          if time < earliestTime then some (time, entry.1.name) else some (earliestTime, taskName)
      | none => some (time, entry.1.name)

/-- Each `upcoming(Utc)` reads the clock anew, so there is a reading per task. -/
def earliest (shim : SchedulerShim) (readings : List Int) : Option (Int × String) :=
  (shim.validTasks.zip readings).foldl shim.consider none

end SchedulerShim

def maxJitterSecs : Nat := 60

def nanosPerSec : Int := 1000000000

/-- `retry_delay` in seconds; `jitter` is the random share, at most half of the
capped delay. -/
def retryDelay (attempt : Nat) (config : RetryConfig) (jitter : Nat) : Nat :=
  let delaySecs := config.baseDelaySecs * min (2 ^ min attempt 31) (2 ^ 32 - 1) % 2 ^ 64
  let capped := min delaySecs config.maxDelaySecs
  (capped + min jitter (capped / 2)) % 2 ^ 64

def RetryConfig.maxAttempts (config : RetryConfig) : Nat := (config.maxRetries + 1) % 2 ^ 32

inductive Phase where
  | choosing
  | idle (since : Int)
  | sleeping (fireTime : Int) (taskName : String) (sleepSecs : Nat)
  | due (fireTime : Int) (taskName : String)
  | running (task : ScheduledTask) (attempt : Nat)
  | retrying (task : ScheduledTask) (attempt : Nat) (since : Int)
  | stopped
deriving DecidableEq, Repr

/-- The loop waits for the shutdown signal as well. -/
def Phase.interruptible : Phase → Bool
  | .idle _ | .sleeping _ _ _ | .retrying _ _ _ => true
  | _ => false

/-- The loop's variables, with what an observer writes down: the clock, the
shutdown signal, the readings of the last round (`seen`), the handler call
made since then (`last`) and all of them (`firings`). -/
structure Loop where
  phase : Phase
  startedAt : Int
  clock : Int
  shutdownAt : Option Int
  seen : List Int
  last : Option Firing
  firings : List Firing
  runtime : String → Option TaskRuntime
  tasksExecuted : Nat
  tasksFailed : Nat
  tasksRetried : Nat

/-- Everything the loop does not decide: the instants, the random jitters and
what the handler returns. -/
inductive Label where
  | shutdown (now : Int)
  | choose (readings : List Int) (now : Int)
  | idled (now : Int)
  | wake (jitter : Nat) (now : Int)
  | dispatch (now : Int)
  | handled (succeeded : Bool) (now : Int)
  | retry (jitter : Nat) (now : Int)
  | leave (now : Int)
deriving DecidableEq, Repr

def Label.now : Label → Int
  | .shutdown now | .choose _ now | .idled now | .wake _ now | .dispatch now
  | .handled _ now | .retry _ now | .leave now => now

/-- The round of clock readings a step makes: every occurrence up to them is
behind the loop from then on.  Leaving puts everything so far behind it. -/
def Label.readings (taskCount : Nat) : Label → Option (List Int)
  | .choose readings _ => some readings
  | .leave now => some (List.replicate taskCount now)
  | _ => none

namespace Loop

def setRuntime (loop : Loop) (name : String) (change : TaskRuntime → TaskRuntime) :
    String → Option TaskRuntime :=
  Function.update loop.runtime name ((loop.runtime name).map change)

/-- `rt.get_mut(&task_name)` finds an entry. -/
def known (loop : Loop) (name : String) : Bool := (loop.runtime name).isSome

def finish (shim : SchedulerShim) (loop : Loop) (name : String) (succeeded : Bool) (now : Int) :
    Loop :=
  let nextRun := (shim.schedules name).bind (·.upcoming now)
  if succeeded then
    { loop with
      phase := .choosing
      runtime := loop.setRuntime name fun runtime =>
        { runtime with
          state := .success
          lastSuccess := some now
          consecutiveFailures := 0
          nextRun := nextRun }
      tasksExecuted :=
        if loop.known name then (loop.tasksExecuted + 1) % 2 ^ 64 else loop.tasksExecuted }
  else
    { loop with
      phase := .choosing
      runtime := loop.setRuntime name fun runtime =>
        { runtime with
          state := .failed
          lastFailure := some now
          consecutiveFailures := (runtime.consecutiveFailures + 1) % 2 ^ 32
          nextRun := nextRun }
      tasksFailed :=
        if loop.known name then (loop.tasksFailed + 1) % 2 ^ 64 else loop.tasksFailed }

def round (loop : Loop) (readings : List Int) : Loop :=
  { loop with
    seen := readings
    last := none }

def choose (shim : SchedulerShim) (loop : Loop) (readings : List Int) (now : Int) : Loop :=
  let loop := loop.round readings
  match shim.earliest readings with
  | none => { loop with phase := .idle now }
  | some (fireTime, taskName) =>
      if now < fireTime then
        { loop with phase := .sleeping fireTime taskName ((fireTime - now) / nanosPerSec).toNat }
      else { loop with phase := .due fireTime taskName }

/-- From "Find task config" to the first handler call.  A loop of no attempts
calls no handler and leaves no error. -/
def dispatch (shim : SchedulerShim) (loop : Loop) (fireTime : Int) (taskName : String)
    (now : Int) : Loop :=
  match shim.validTasks.find? (·.name = taskName) with
  | none => { loop with phase := .choosing }
  | some task =>
      let loop := { loop with
        runtime := loop.setRuntime taskName fun runtime =>
          { runtime with
            state := .running
            lastRun := some now } }
      if 0 < task.retry.maxAttempts then
        { loop with
          phase := .running task 0
          last := some ⟨taskName, fireTime⟩
          firings := loop.firings ++ [⟨taskName, fireTime⟩] }
      else loop.finish shim taskName true now

def handled (shim : SchedulerShim) (loop : Loop) (task : ScheduledTask) (attempt : Nat)
    (succeeded : Bool) (now : Int) : Loop :=
  if succeeded then loop.finish shim task.name true now
  else if attempt + 1 < task.retry.maxAttempts then
    { loop with
      phase := .retrying task (attempt + 1) now
      tasksRetried := (loop.tasksRetried + 1) % 2 ^ 64 }
  else loop.finish shim task.name false now

/-- The step, but for the clock.  A `select!` with the shutdown signal raised
and the sleep over may take either branch. -/
def act (shim : SchedulerShim) (loop : Loop) : Label → Option Loop
  | .shutdown now =>
      if loop.shutdownAt = none then some { loop with shutdownAt := some now } else none
  | .choose readings now =>
      match loop.phase with
      | .choosing =>
          if readings.length = shim.validTasks.length ∧ readings.Pairwise (· ≤ ·) ∧
              ∀ reading ∈ readings, loop.clock ≤ reading ∧ reading ≤ now then
            some (loop.choose shim readings now)
          else none
      | _ => none
  | .idled now =>
      match loop.phase with
      | .idle since =>
          if since + 60 * nanosPerSec ≤ now then some { loop with phase := .choosing } else none
      | _ => none
  | .wake jitter now =>
      match loop.phase with
      | .sleeping fireTime taskName sleepSecs =>
          if jitter ≤ min maxJitterSecs (sleepSecs / 4) ∧ fireTime + jitter * nanosPerSec ≤ now then
            some { loop with phase := .due fireTime taskName }
          else none
      | _ => none
  | .dispatch now =>
      match loop.phase with
      | .due fireTime taskName => some (loop.dispatch shim fireTime taskName now)
      | _ => none
  | .handled succeeded now =>
      match loop.phase with
      | .running task attempt => some (loop.handled shim task attempt succeeded now)
      | _ => none
  | .retry jitter now =>
      match loop.phase with
      | .retrying task attempt since =>
          if since + retryDelay (attempt - 1) task.retry jitter * nanosPerSec ≤ now then
            some { loop with phase := .running task attempt }
          else none
      | _ => none
  | .leave now =>
      if loop.shutdownAt = none then none
      else match loop.phase with
        | .idle _ | .sleeping _ _ _ | .retrying _ _ _ =>
            some { loop.round (List.replicate shim.validTasks.length now) with phase := .stopped }
        | _ => none

def tick (loop : Loop) (now : Int) : Loop := { loop with clock := now }

end Loop

/-- What the phases allow, as a relation: `act` read backwards. -/
inductive Loop.Acts (shim : SchedulerShim) (loop : Loop) : Phase → Label → Loop → Prop where
  | shutdown {phase : Phase} {now : Int} (running : loop.shutdownAt = none) :
      Acts shim loop phase (.shutdown now) { loop with shutdownAt := some now }
  | choose {readings : List Int} {now : Int} (length : readings.length = shim.validTasks.length)
      (within : ∀ reading ∈ readings, loop.clock ≤ reading ∧ reading ≤ now) :
      Acts shim loop .choosing (.choose readings now) (loop.choose shim readings now)
  | idled {since now : Int} (slept : since + 60 * nanosPerSec ≤ now) :
      Acts shim loop (.idle since) (.idled now) { loop with phase := .choosing }
  | wake {fireTime now : Int} {taskName : String} {sleepSecs jitter : Nat}
      (slept : fireTime + jitter * nanosPerSec ≤ now) :
      Acts shim loop (.sleeping fireTime taskName sleepSecs) (.wake jitter now)
        { loop with phase := .due fireTime taskName }
  | dispatch {fireTime now : Int} {taskName : String} :
      Acts shim loop (.due fireTime taskName) (.dispatch now)
        (loop.dispatch shim fireTime taskName now)
  | handled {task : ScheduledTask} {attempt : Nat} {succeeded : Bool} {now : Int} :
      Acts shim loop (.running task attempt) (.handled succeeded now)
        (loop.handled shim task attempt succeeded now)
  | retry {task : ScheduledTask} {attempt jitter : Nat} {since now : Int}
      (slept : since + retryDelay (attempt - 1) task.retry jitter * nanosPerSec ≤ now) :
      Acts shim loop (.retrying task attempt since) (.retry jitter now)
        { loop with phase := .running task attempt }
  | leave {phase : Phase} {now : Int} (interruptible : phase.interruptible = true)
      (raised : loop.shutdownAt ≠ none) :
      Acts shim loop phase (.leave now)
        { loop.round (List.replicate shim.validTasks.length now) with phase := .stopped }

namespace SchedulerShim

/-- The scheduler loop as a machine; time does not run backwards. -/
def machine (shim : SchedulerShim) : Machine Loop Label where
  step loop label :=
    if loop.clock ≤ label.now then (loop.act shim label).map (·.tick label.now) else none

/-- `spawn_scheduler_loop`: without a handler or a valid task there is no loop. -/
def spawnSchedulerLoop (shim : SchedulerShim) (now : Int) : Option Loop :=
  if shim.hasHandler = false ∨ shim.validTasks = [] then none
  else some {
    phase := .choosing
    startedAt := now
    clock := now
    shutdownAt := none
    seen := List.replicate shim.validTasks.length now
    last := none
    firings := []
    runtime := shim.runtime
    tasksExecuted := 0
    tasksFailed := 0
    tasksRetried := 0 }

end SchedulerShim

/-! ## What a step can do -/

theorem acts_of_act {shim : SchedulerShim} {loop acted : Loop} {label : Label}
    (happened : loop.act shim label = some acted) : loop.Acts shim loop.phase label acted := by
  cases label with
  | shutdown now =>
      simp only [Loop.act, Option.ite_none_right_eq_some] at happened
      obtain ⟨running, ⟨⟩⟩ := happened
      exact .shutdown running
  | choose readings now =>
      simp only [Loop.act] at happened
      split at happened
      · next choosing =>
          simp only [Option.ite_none_right_eq_some] at happened
          obtain ⟨⟨length, _, within⟩, ⟨⟩⟩ := happened
          rw [choosing]
          exact .choose length within
      · cases happened
  | idled now =>
      simp only [Loop.act] at happened
      split at happened
      · next idle =>
          simp only [Option.ite_none_right_eq_some] at happened
          obtain ⟨slept, ⟨⟩⟩ := happened
          rw [idle]
          exact .idled slept
      · cases happened
  | wake jitter now =>
      simp only [Loop.act] at happened
      split at happened
      · next sleeping =>
          simp only [Option.ite_none_right_eq_some] at happened
          obtain ⟨⟨_, slept⟩, ⟨⟩⟩ := happened
          rw [sleeping]
          exact .wake slept
      · cases happened
  | dispatch now =>
      simp only [Loop.act] at happened
      split at happened
      · next due =>
          cases happened
          rw [due]
          exact .dispatch
      · cases happened
  | handled succeeded now =>
      simp only [Loop.act] at happened
      split at happened
      · next running =>
          cases happened
          rw [running]
          exact .handled
      · cases happened
  | retry jitter now =>
      simp only [Loop.act] at happened
      split at happened
      · next retrying =>
          simp only [Option.ite_none_right_eq_some] at happened
          obtain ⟨slept, ⟨⟩⟩ := happened
          rw [retrying]
          exact .retry slept
      · cases happened
  | leave now =>
      simp only [Loop.act, Option.ite_none_left_eq_some] at happened
      obtain ⟨raised, happened⟩ := happened
      split at happened
      case h_4 => cases happened
      all_goals
        next waiting =>
          cases happened
          exact .leave (by rw [waiting]; rfl) raised

theorem acts_of_step {shim : SchedulerShim} {loop next : Loop} {label : Label}
    (taken : shim.machine.step loop label = some next) :
    loop.clock ≤ label.now ∧
      ∃ acted, loop.Acts shim loop.phase label acted ∧ next = acted.tick label.now := by
  simp only [SchedulerShim.machine, Option.ite_none_right_eq_some, Option.map_eq_some_iff] at taken
  obtain ⟨later, acted, happened, rfl⟩ := taken
  exact ⟨later, acted, acts_of_act happened, rfl⟩

namespace SchedulerShim

/-! ## Where schedules and the earliest time come from -/

theorem parseSchedules_mem {fromStr : String → Option Schedule} {tasks : List ScheduledTask}
    {name : String} {schedule : Schedule} (found : parseSchedules fromStr tasks name = some schedule) :
    ∃ task ∈ tasks, task.name = name ∧ fromStr task.schedule = some schedule := by
  induction tasks using List.reverseRecOn with
  | nil => cases found
  | append_singleton tasks task ih =>
      simp only [parseSchedules, List.foldl_append, List.foldl_cons, List.foldl_nil] at found ih
      cases parsed : fromStr task.schedule with
      | none =>
          simp only [parsed] at found
          obtain ⟨earlier, member, facts⟩ := ih found
          exact ⟨earlier, List.mem_append_left _ member, facts⟩
      | some own =>
          simp only [parsed, Function.update_apply] at found
          split at found
          · next same => exact ⟨task, by simp, same.symm, parsed.trans found⟩
          · obtain ⟨earlier, member, facts⟩ := ih found
            exact ⟨earlier, List.mem_append_left _ member, facts⟩

theorem schedules_validTask {shim : SchedulerShim} {name : String} {schedule : Schedule}
    (found : shim.schedules name = some schedule) :
    ∃ task ∈ shim.validTasks, task.name = name ∧ shim.fromStr task.schedule = some schedule := by
  obtain ⟨task, member, rfl, parsed⟩ := parseSchedules_mem found
  exact ⟨task, List.mem_filter.mpr ⟨member, by simp [found]⟩, rfl, parsed⟩

/-- `candidate` is what a schedule of the map gives at one of the readings. -/
def Upcoming (shim : SchedulerShim) (readings : List Int) (candidate : Int × String) : Prop :=
  ∃ schedule, shim.schedules candidate.2 = some schedule ∧
    ∃ reading ∈ readings, schedule.upcoming reading = some candidate.1

theorem consider_upcoming {shim : SchedulerShim} {readings : List Int}
    {earliest : Option (Int × String)} {entry : ScheduledTask × Int} (read : entry.2 ∈ readings)
    (known : ∀ candidate, earliest = some candidate → shim.Upcoming readings candidate)
    (candidate : Int × String) (found : shim.consider earliest entry = some candidate) :
    shim.Upcoming readings candidate := by
  cases due : (shim.schedules entry.1.name).bind (·.upcoming entry.2) with
  | none => exact known candidate (by simpa only [consider, due] using found)
  | some time =>
      obtain ⟨schedule, inMap, upcoming⟩ := Option.bind_eq_some_iff.mp due
      have picked : shim.Upcoming readings (time, entry.1.name) :=
        ⟨schedule, inMap, entry.2, read, upcoming⟩
      cases earliest with
      | none =>
          simp only [consider, due, Option.some.injEq] at found
          exact found ▸ picked
      | some best =>
          simp only [consider, due] at found
          split at found
          · exact Option.some.inj found ▸ picked
          · exact known candidate found

theorem earliest_upcoming {shim : SchedulerShim} {readings : List Int} (candidate : Int × String)
    (found : shim.earliest readings = some candidate) : shim.Upcoming readings candidate := by
  refine List.foldlRecOn (motive := fun earliest => ∀ candidate, earliest = some candidate →
    shim.Upcoming readings candidate) _ _ (by simp) ?_ candidate found
  intro earliest known entry member
  exact consider_upcoming (List.of_mem_zip member).2 known

end SchedulerShim

end Evergreen.Scheduler
