import Evergreen.Queue.Tokens

namespace Evergreen.Queue

/-! # No job is duplicated

A worker ends the job it holds whether or not the job is still running: when a
caller has completed or failed the same id meanwhile, the worker counts it, puts
it back or buries it once more.  As long as no worker ends a job that has left
`running_jobs`, the copies of a job and the times it was settled add up to one.
-/

/-- How often the events complete or bury a job. -/
def settlements (jobId : String) (events : List Event) : Nat :=
  events.count (.completed jobId) + events.count (.buried jobId)

def completions (events : List Event) : Nat :=
  events.countP fun event => match event with
    | .completed _ => true
    | _ => false

def burials (events : List Event) : Nat :=
  events.countP fun event => match event with
    | .buried _ => true
    | _ => false

def QueueShim.dead (shim : QueueShim) (jobId : String) : Nat :=
  copies jobId (shim.inner.deadLetterQueue.map (·.job))

/-- No id stands twice in the three collections, and none is settled twice: the
two counters count the completed and the buried jobs. -/
structure NoDuplication (history : History) : Prop where
  once : ∀ jobId, copies jobId history.system.shim.inner.pending +
    copies jobId history.system.shim.inner.runningJobs + history.system.shim.dead jobId ≤ 1
  settledOnce : ∀ jobId, settlements jobId history.log ≤ 1
  processed : history.system.shim.jobsProcessed = completions history.log
  jobsDead : history.system.shim.jobsDead = burials history.log

/-- The job a worker in this phase ends with its next section. -/
def Phase.ending? : Phase → Option Job
  | .expired job => some job
  | .handled job _ => some job
  | .top => none
  | .polling => none
  | .taken _ => none
  | .handling _ => none
  | .stopped => none

/-- A worker ends a job only while it is still running. -/
def EndsRunning (history : History) : Label → Prop
  | .work index _ => ∀ worker, history.system.workers[index]? = some worker →
      ∀ job, worker.phase.ending? = some job →
        0 < copies job.id history.system.shim.inner.runningJobs
  | _ => True

def Caller.asleep (jobId : String) : Caller → Nat
  | .retrying job _ => copies jobId [job]
  | .idle => 0
  | .counting => 0

/-- The copies of a job that is neither completed nor buried. -/
def QueueShim.live (shim : QueueShim) (caller : Caller) (jobId : String) : Nat :=
  copies jobId shim.inner.pending + copies jobId shim.inner.runningJobs + caller.asleep jobId

/-- A section brings no copy in but by an enqueued event, pays for each
settlement with a copy, buries only what it logs, and keeps the counters. -/
structure Accounted (shim : QueueShim) (caller : Caller) (after : QueueShim) (later : Caller)
    (events : List Event) : Prop where
  live : ∀ jobId, after.live later jobId + settlements jobId events ≤
    shim.live caller jobId + events.count (.enqueued jobId)
  dead : ∀ jobId, after.dead jobId ≤ shim.dead jobId + settlements jobId events
  processed : after.jobsProcessed = shim.jobsProcessed + completions events
  jobsDead : after.jobsDead = shim.jobsDead + burials events

variable {shim after : QueueShim} {caller later : Caller} {events : List Event}
variable {history next : History} {label : Label} {jobId : String}

theorem Accounted.of_jobs (pending : after.inner.pending = shim.inner.pending)
    (running : after.inner.runningJobs = shim.inner.runningJobs)
    (letters : after.inner.deadLetterQueue = shim.inner.deadLetterQueue)
    (processed : after.jobsProcessed = shim.jobsProcessed)
    (jobsDead : after.jobsDead = shim.jobsDead)
    (asleep : ∀ jobId, later.asleep jobId ≤ caller.asleep jobId) :
    Accounted shim caller after later [] where
  live jobId := by
    have resting := asleep jobId
    simp [QueueShim.live, pending, running, settlements]
    omega
  dead jobId := by simp [QueueShim.dead, letters]
  processed := by simp [processed, completions]
  jobsDead := by simp [jobsDead, burials]

/-! ## Ending a running job -/

theorem accounted_complete {key : String} (running : 0 < copies key shim.inner.runningJobs) :
    Accounted shim caller (shim.removeRunning key).countProcessed caller [.completed key] where
  live jobId := by
    by_cases same : key = jobId
    · subst same
      simp [QueueShim.live, settlements, copies_eraseP]
      omega
    · simp [QueueShim.live, settlements, copies_eraseP, same]
  dead jobId := by
    simp [QueueShim.dead, QueueShim.countProcessed, QueueShim.removeRunning]
  processed := rfl
  jobsDead := rfl

/-- A job that leaves `running_jobs` for the dead letters. -/
theorem accounted_bury {jobId : String} {letter : ArchivedJob}
    (running : 0 < copies jobId shim.inner.runningJobs) (own : letter.job.id = jobId)
    (pending : after.inner.pending = shim.inner.pending)
    (removed : after.inner.runningJobs = shim.inner.runningJobs.eraseP (withId jobId))
    (letters : after.inner.deadLetterQueue = shim.inner.deadLetterQueue ++ [letter])
    (processed : after.jobsProcessed = shim.jobsProcessed)
    (jobsDead : after.jobsDead = shim.jobsDead + 1) :
    Accounted shim caller after caller [.buried jobId] where
  live other := by
    by_cases same : jobId = other
    · subst same
      simp [QueueShim.live, settlements, copies_eraseP, pending, removed]
      omega
    · simp [QueueShim.live, settlements, copies_eraseP, pending, removed, same]
  dead other := by
    by_cases same : jobId = other <;> simp [QueueShim.dead, settlements, letters, own, same]
  processed := by simpa [completions] using processed
  jobsDead := by simpa [burials] using jobsDead

theorem accounted_retry {jobId : String} {job : Job}
    (running : 0 < copies jobId shim.inner.runningJobs)
    (pending : after.inner.pending = shim.inner.pending ++ [job]) (own : job.id = jobId)
    (removed : after.inner.runningJobs = shim.inner.runningJobs.eraseP (withId jobId))
    (letters : after.inner.deadLetterQueue = shim.inner.deadLetterQueue)
    (processed : after.jobsProcessed = shim.jobsProcessed)
    (jobsDead : after.jobsDead = shim.jobsDead) :
    Accounted shim caller after caller [] where
  live other := by
    by_cases same : jobId = other
    · subst same
      simp [QueueShim.live, settlements, copies_eraseP, pending, removed, own]
      omega
    · simp [QueueShim.live, settlements, copies_eraseP, pending, removed, own, same]
  dead other := by simp [QueueShim.dead, letters]
  processed := by simp [processed, completions]
  jobsDead := by simp [jobsDead, burials]

/-- A running job that its failing caller keeps for the delay. -/
theorem accounted_suspend {jobId : String} {job : Job} {delaySecs : Nat}
    (running : 0 < copies jobId shim.inner.runningJobs) (own : job.id = jobId)
    (pending : after.inner.pending = shim.inner.pending)
    (removed : after.inner.runningJobs = shim.inner.runningJobs.eraseP (withId jobId))
    (letters : after.inner.deadLetterQueue = shim.inner.deadLetterQueue)
    (processed : after.jobsProcessed = shim.jobsProcessed)
    (jobsDead : after.jobsDead = shim.jobsDead) :
    Accounted shim .idle after (.retrying job delaySecs) [] where
  live other := by
    by_cases same : jobId = other
    · subst same
      simp [QueueShim.live, Caller.asleep, settlements, copies_eraseP, pending, removed, own]
      omega
    · simp [QueueShim.live, Caller.asleep, settlements, copies_eraseP, pending, removed, own, same]
  dead other := by simp [QueueShim.dead, letters]
  processed := by simp [processed, completions]
  jobsDead := by simp [jobsDead, burials]

/-! ## Taking a pending job -/

theorem accounted_take {job started : Job} {pending : List Job}
    (waiting : shim.inner.pending = job :: pending) (own : started.id = job.id) :
    Accounted shim caller ((shim.setPending pending).pushRunning started) caller [] where
  live jobId := by
    simp [QueueShim.live, settlements, waiting, own]
    omega
  dead jobId := by simp [QueueShim.dead, QueueShim.pushRunning, QueueShim.setPending]
  processed := rfl
  jobsDead := rfl

/-- The first pending job has waited too long. -/
theorem accounted_expire {job letter : Job} {pending : List Job} {reason : String}
    (waiting : shim.inner.pending = job :: pending) (own : letter.id = job.id) :
    Accounted shim caller (((shim.setPending pending).pushDead letter reason).countDead) caller
      [.buried job.id] where
  live jobId := by
    by_cases same : job.id = jobId <;>
      simp [QueueShim.live, settlements, waiting, same, Nat.add_right_comm]
  dead jobId := by
    by_cases same : job.id = jobId <;>
      simp [QueueShim.dead, QueueShim.countDead, QueueShim.pushDead, QueueShim.setPending,
        settlements, own, same]
  processed := rfl
  jobsDead := rfl

/-! ## The sections -/

theorem work_accounted {shutdown : Bool} {input : Input} {phase : Phase}
    (ends : ∀ job, phase.ending? = some job → 0 < copies job.id shim.inner.runningJobs) :
    Accounted shim caller (shim.work shutdown input phase).1 caller
      (shim.work shutdown input phase).2.2 := by
  have nothing : Accounted shim caller shim caller [] :=
    .of_jobs rfl rfl rfl rfl rfl fun _ => Nat.le_refl _
  cases phase with
  | top => exact nothing
  | polling =>
      simp only [QueueShim.work, QueueShim.poll]
      cases waiting : shim.inner.pending with
      | nil => exact nothing
      | cons job pending =>
          cases overdue : shim.overdue job input.checkedAt with
          | true =>
              simp only [overdue, if_true]
              exact accounted_expire waiting rfl
          | false =>
              simp only [overdue, Bool.false_eq_true, if_false]
              exact accounted_take waiting rfl
  | taken job =>
      simp only [QueueShim.work]
      cases overdue : shim.overdue job input.checkedAt with
      | true => exact nothing
      | false =>
          constructor
          · intro jobId
            simp [settlements]
          · intro jobId
            exact Nat.le_add_right _ _
          · rfl
          · rfl
  | expired job => exact accounted_bury (ends job rfl) rfl rfl rfl rfl rfl rfl
  | handling job => exact nothing
  | handled job result =>
      simp only [QueueShim.work, QueueShim.settle]
      cases result with
      | ok => exact accounted_complete (ends job rfl)
      | error message =>
          by_cases retried : (QueueShim.failedOnce job message).attempts ≤
              (shim.removeRunning job.id).maxRetries
          · simp only [retried, if_true]
            exact accounted_retry (ends job rfl) rfl rfl rfl rfl rfl rfl
          · simp only [retried, if_false]
            exact accounted_bury (ends job rfl) rfl rfl rfl rfl rfl rfl
  | stopped => exact nothing

theorem failJob_accounted {key error : String}
    (called : shim.call (.failJob key error) = some (after, later, events)) :
    Accounted shim .idle after later events := by
  cases found : shim.running key with
  | none =>
      simp only [QueueShim.call, QueueShim.failJob, found] at called
      cases called
      exact .of_jobs rfl rfl rfl rfl rfl fun _ => Nat.le_refl _
  | some job =>
      have running := running_copies found
      have own : job.id = key := running_id found
      by_cases retried : nextAttempt job.attempts ≤ job.maxRetries
      · simp only [QueueShim.call, QueueShim.failJob, found, QueueShim.failedOnce, retried,
          if_true] at called
        cases called
        exact accounted_suspend running own rfl rfl rfl rfl rfl
      · simp only [QueueShim.call, QueueShim.failJob, found, QueueShim.failedOnce, retried,
          if_false] at called
        cases called
        exact accounted_bury running own rfl rfl rfl rfl rfl

theorem call_accounted (called : shim.call label = some (after, later, events)) :
    Accounted shim .idle after later events := by
  cases label with
  | enqueue id name payload now =>
      cases called
      constructor
      · intro jobId
        by_cases same : id = jobId <;>
          simp [QueueShim.live, QueueShim.newJob, Caller.asleep, settlements, same,
            Nat.add_right_comm]
      · intro jobId
        exact Nat.le_add_right _ _
      · rfl
      · rfl
  | dequeue now =>
      cases called
      simp only [QueueShim.dequeue]
      split
      · cases waiting : shim.inner.pending with
        | nil => exact .of_jobs rfl rfl rfl rfl rfl fun _ => Nat.le_refl _
        | cons job pending => exact accounted_take waiting rfl
      · exact .of_jobs rfl rfl rfl rfl rfl fun _ => Nat.le_refl _
  | completeJob key =>
      cases found : shim.running key with
      | none =>
          simp only [QueueShim.call, QueueShim.completeJob, found] at called
          cases called
          exact .of_jobs rfl rfl rfl rfl rfl fun _ => Nat.le_refl _
      | some job =>
          simp only [QueueShim.call, QueueShim.completeJob, found] at called
          cases called
          exact accounted_complete (running_copies found)
  | failJob key error => exact failJob_accounted called
  | setHandler => cases called; exact .of_jobs rfl rfl rfl rfl rfl fun _ => Nat.le_refl _
  | drainDlq =>
      cases called
      constructor
      · intro jobId
        simp [QueueShim.live, QueueShim.drainDlq, settlements]
      · intro jobId
        exact Nat.zero_le _
      · rfl
      · rfl
  | enqueueCounted => cases called
  | failResumed => cases called
  | failDropped => cases called
  | start => cases called
  | stop => cases called
  | work worker input => cases called

theorem resume_accounted (resumed : caller.resume shim label = some after) :
    Accounted shim caller after .idle [] := by
  cases caller with
  | idle => simp [Caller.resume] at resumed
  | counting =>
      cases label <;> simp only [Caller.resume] at resumed <;> cases resumed
      exact .of_jobs rfl rfl rfl rfl rfl fun _ => Nat.le_refl _
  | retrying job delaySecs =>
      cases label <;> simp only [Caller.resume] at resumed <;> cases resumed
      · constructor
        · intro jobId
          simp [QueueShim.live, Caller.asleep, QueueShim.requeue, settlements]
          omega
        · intro jobId
          exact Nat.le_add_right _ _
        · rfl
        · rfl
      · exact .of_jobs rfl rfl rfl rfl rfl fun _ => Nat.zero_le _

/-! ## A step of the whole system -/

theorem callStep_accounted (taken : history.callStep label = some next) :
    ∃ events, next.log = history.log ++ events ∧
      Accounted history.system.shim history.system.caller next.system.shim next.system.caller
        events := by
  by_cases idle : history.system.caller = .idle
  · rcases callStep_idle idle taken with ⟨_, rfl⟩ | ⟨_, rfl⟩ | ⟨shim, caller, events, _, called, rfl⟩
    · exact ⟨[], (List.append_nil _).symm, .of_jobs rfl rfl rfl rfl rfl fun _ => Nat.le_refl _⟩
    · exact ⟨[], (List.append_nil _).symm, .of_jobs rfl rfl rfl rfl rfl fun _ => Nat.le_refl _⟩
    · exact ⟨events, rfl, idle ▸ call_accounted called⟩
  · obtain ⟨shim, resumed, rfl⟩ := callStep_suspended idle taken
    exact ⟨[], (List.append_nil _).symm, resume_accounted resumed⟩

theorem step_accounted (ends : EndsRunning history label)
    (taken : machine.step history label = some next) :
    ∃ events, next.log = history.log ++ events ∧
      Accounted history.system.shim history.system.caller next.system.shim next.system.caller
        events := by
  cases label with
  | work index input =>
      simp only [machine, History.workStep, Option.map_eq_some_iff] at taken
      obtain ⟨worker, found, rfl⟩ := taken
      exact ⟨_, rfl, work_accounted fun job ending => ends worker found job ending⟩
  | _ => exact callStep_accounted taken

theorem step_arrival (taken : machine.step history label = some next)
    (logged : next.log = history.log ++ events) (arrives : .enqueued jobId ∈ events) :
    .enqueued jobId ∉ history.log ∧ events = [.enqueued jobId] := by
  obtain ⟨moved, same, moves⟩ := step_moves taken jobId
  obtain rfl : events = moved := List.append_cancel_left (logged.symm.trans same)
  cases moves with
  | arrive fresh idle alone => exact ⟨fresh, alone⟩
  | moves quiet => exact absurd arrives quiet

/-! ## The runs of the queue -/

theorem settlements_append (events more : List Event) :
    settlements jobId (events ++ more) = settlements jobId events + settlements jobId more := by
  simp only [settlements, List.count_append]
  omega

/-- The copies of a job and the times it was settled are at most one together,
and none at all before the job was enqueued. -/
structure Ledger (history : History) : Prop where
  once : ∀ jobId, history.system.shim.live history.system.caller jobId +
    settlements jobId history.log ≤ 1
  fresh : ∀ jobId, .enqueued jobId ∉ history.log →
    history.system.shim.live history.system.caller jobId + settlements jobId history.log = 0
  dead : ∀ jobId, history.system.shim.dead jobId ≤ settlements jobId history.log
  processed : history.system.shim.jobsProcessed = completions history.log
  jobsDead : history.system.shim.jobsDead = burials history.log

theorem Ledger.noDuplication (ledger : Ledger history) : NoDuplication history where
  once jobId := by
    have once := ledger.once jobId
    have dead := ledger.dead jobId
    simp only [QueueShim.live] at once
    omega
  settledOnce jobId := by
    have once := ledger.once jobId
    omega
  processed := ledger.processed
  jobsDead := ledger.jobsDead

theorem Ledger.step (ledger : Ledger history) (ends : EndsRunning history label)
    (taken : machine.step history label = some next) : Ledger next := by
  obtain ⟨events, logged, accounted⟩ := step_accounted ends taken
  constructor
  · intro jobId
    have live := accounted.live jobId
    have once := ledger.once jobId
    rw [logged, settlements_append]
    by_cases arrives : .enqueued jobId ∈ events
    · obtain ⟨fresh, rfl⟩ := step_arrival taken logged arrives
      have none := ledger.fresh jobId fresh
      have one : [Event.enqueued jobId].count (.enqueued jobId) = 1 := List.count_singleton_self
      omega
    · have zero := List.count_eq_zero.mpr arrives
      omega
  · intro jobId unknown
    rw [logged] at unknown ⊢
    have live := accounted.live jobId
    have none := ledger.fresh jobId fun earlier => unknown (List.mem_append_left _ earlier)
    have zero := List.count_eq_zero.mpr fun now => unknown (List.mem_append_right _ now)
    rw [settlements_append]
    omega
  · intro jobId
    have buried := accounted.dead jobId
    have dead := ledger.dead jobId
    rw [logged, settlements_append]
    omega
  · rw [accounted.processed, ledger.processed, logged, completions, completions, completions,
      List.countP_append]
  · rw [accounted.jobsDead, ledger.jobsDead, logged, burials, burials, burials,
      List.countP_append]

theorem Ledger.new (maxWorkers maxRetries retryBaseSecs retryMaxSecs jobTimeoutSecs : Nat) :
    Ledger (.new (.new maxWorkers maxRetries retryBaseSecs retryMaxSecs jobTimeoutSecs)) where
  once _ := Nat.zero_le 1
  fresh _ _ := rfl
  dead _ := Nat.le_refl 0
  processed := rfl
  jobsDead := rfl

def succeeding : Input where
  checkedAt := 1
  now := 1
  result := .ok ()

/-- One worker takes the job and starts its handler. -/
def untilHandling : List Label :=
  [.setHandler, .enqueue "job" "mail" [] 0, .enqueueCounted, .start, .work 0 succeeding,
    .work 0 succeeding, .work 0 succeeding]

end Evergreen.Queue
