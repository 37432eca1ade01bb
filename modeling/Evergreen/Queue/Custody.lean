import Evergreen.Queue.Concurrency
import Evergreen.Queue.NoDuplication

namespace Evergreen.Queue

/-! # Jobs left to the workers

In a program that only enqueues, every running job is in the hands of exactly
one worker, and every job is at each moment in one place: `pending`, a worker's
hands, the processed jobs or the dead letters.
-/

/-- The labels of a program that leaves its jobs to the workers. -/
def WorkersOnly : Label → Prop
  | .setHandler => True
  | .enqueue _ _ _ _ => True
  | .enqueueCounted => True
  | .start => True
  | .stop => True
  | .work _ _ => True
  | .dequeue _ => False
  | .completeJob _ => False
  | .failJob _ _ => False
  | .failResumed => False
  | .failDropped => False
  | .drainDlq => False

instance : DecidablePred WorkersOnly
  | .setHandler | .enqueue _ _ _ _ | .enqueueCounted | .start | .stop | .work _ _ => .isTrue trivial
  | .dequeue _ | .completeJob _ | .failJob _ _ | .failResumed | .failDropped | .drainDlq =>
      .isFalse id

/-- What the caller has pushed and not counted yet. -/
def Caller.uncounted : Caller → Nat
  | .counting => 1
  | .idle => 0
  | .retrying _ _ => 0

/-- What a worker's section keeps, job by job and over all jobs. -/
structure Conserved (shim : QueueShim) (phase : Phase) (after : QueueShim × Phase × List Event) :
    Prop where
  placed : ∀ jobId, copies jobId after.1.inner.pending + after.2.1.copies jobId +
    settlements jobId after.2.2 = copies jobId shim.inner.pending + phase.copies jobId
  running : ∀ jobId, copies jobId after.1.inner.runningJobs + phase.copies jobId =
    copies jobId shim.inner.runningJobs + after.2.1.copies jobId
  dead : ∀ jobId, after.1.dead jobId = shim.dead jobId + after.2.2.count (.buried jobId)
  lengths : after.1.inner.pending.length + after.1.inner.runningJobs.length +
    completions after.2.2 + burials after.2.2 =
      shim.inner.pending.length + shim.inner.runningJobs.length

variable {shim after : QueueShim} {caller later : Caller} {events : List Event} {jobId : String}
variable {history next : History} {label : Label} {shutdown : Bool} {input : Input} {phase : Phase}

theorem length_removeRunning {key : String} (running : 0 < copies key shim.inner.runningJobs) :
    (shim.removeRunning key).inner.runningJobs.length + 1 = shim.inner.runningJobs.length := by
  obtain ⟨job, member, own⟩ := List.mem_map.mp (copies_pos_iff.mp running)
  have erased := List.length_eraseP_of_mem member (withId_iff.mpr own)
  have some := List.length_pos_of_mem member
  rw [QueueShim.runningJobs_removeRunning]
  omega

theorem copies_of_job {job : Job} (holds : phase.job? = some job) (jobId : String) :
    phase.copies jobId = if job.id = jobId then 1 else 0 := by
  simp [Phase.copies, holds]

/-! ## A worker's section -/

theorem Conserved.idle (quiet : phase.job? = none) (idle : Phase) (rest : idle.job? = none) :
    Conserved shim phase (shim, idle, []) := by
  constructor
  · simp [settlements, Phase.copies, quiet, rest]
  · simp [Phase.copies, quiet, rest]
  · simp
  · simp [completions, burials]

/-- The section that ends a job: it leaves `running_jobs` and the worker. -/
theorem Conserved.ends {job : Job} (holds : phase.job? = some job)
    (running : 0 < copies job.id shim.inner.runningJobs)
    (removed : after.inner.runningJobs = shim.inner.runningJobs.eraseP (withId job.id))
    (placed : ∀ jobId, copies jobId after.inner.pending + settlements jobId events =
      copies jobId shim.inner.pending + if job.id = jobId then 1 else 0)
    (dead : ∀ jobId, after.dead jobId = shim.dead jobId + events.count (.buried jobId))
    (lengths : after.inner.pending.length + completions events + burials events =
      shim.inner.pending.length + 1) :
    Conserved shim phase (after, .top, events) := by
  have empty : ∀ jobId, Phase.top.copies jobId = 0 := fun _ => rfl
  constructor
  · intro jobId
    rw [empty, copies_of_job holds]
    exact placed jobId
  · intro jobId
    rw [empty, copies_of_job holds, removed, copies_eraseP]
    by_cases same : job.id = jobId
    · subst same
      simp only [if_true]
      omega
    · simp [same]
  · exact dead
  · have shorter := length_removeRunning running
    rw [QueueShim.runningJobs_removeRunning] at shorter
    simp only [removed]
    omega

theorem poll_conserved : Conserved shim .polling (shim.poll input) := by
  cases waiting : shim.inner.pending with
  | nil =>
      simp only [QueueShim.poll, waiting]
      exact .idle rfl .top rfl
  | cons job pending =>
      cases overdue : shim.overdue job input.checkedAt with
      | true =>
          simp only [QueueShim.poll, waiting, overdue, if_true]
          constructor
          · intro jobId
            by_cases same : job.id = jobId <;>
              simp [Phase.copies, Phase.job?, settlements, waiting, same]
          · intro jobId
            simp [Phase.copies, Phase.job?]
          · intro jobId
            by_cases same : job.id = jobId <;>
              simp [QueueShim.dead, QueueShim.countDead, QueueShim.pushDead, QueueShim.setPending,
                timedOutInQueue, same]
          · simp [completions, burials, waiting]
            omega
      | false =>
          simp only [QueueShim.poll, waiting, overdue, Bool.false_eq_true, if_false]
          constructor
          · intro jobId
            simp [Phase.copies, Phase.job?, settlements, waiting]
          · intro jobId
            simp [Phase.copies, Phase.job?]
          · intro jobId
            simp [QueueShim.dead, QueueShim.pushRunning, QueueShim.setPending]
          · simp [completions, burials, waiting]
            omega

theorem settle_conserved {job : Job} {result : HandlerResult}
    (running : 0 < copies job.id shim.inner.runningJobs) :
    Conserved shim (.handled job result) (shim.settle job result) := by
  cases result with
  | ok =>
      refine .ends rfl running rfl (fun jobId => ?_) (fun jobId => ?_) ?_
      · by_cases same : job.id = jobId <;> simp [settlements, same]
      · simp [QueueShim.dead, QueueShim.countProcessed, QueueShim.removeRunning]
      · simp [completions, burials]
  | error message =>
      by_cases retried : (QueueShim.failedOnce job message).attempts ≤
          (shim.removeRunning job.id).maxRetries
      · simp only [QueueShim.settle, retried, if_true]
        refine .ends rfl running rfl (fun jobId => ?_) (fun jobId => ?_) ?_
        · simp [settlements, QueueShim.requeue, QueueShim.failedOnce]
        · simp [QueueShim.dead, QueueShim.requeue, QueueShim.countRetried, QueueShim.pushPending,
            QueueShim.removeRunning]
        · simp [completions, burials, QueueShim.requeue]
      · simp only [QueueShim.settle, retried, if_false]
        refine .ends rfl running rfl (fun jobId => ?_) (fun jobId => ?_) ?_
        · by_cases same : job.id = jobId <;> simp [settlements, QueueShim.failedOnce, same]
        · by_cases same : job.id = jobId <;>
            simp [QueueShim.dead, QueueShim.countDead, QueueShim.countFailed, QueueShim.pushDead,
              QueueShim.removeRunning, QueueShim.failedOnce, same]
        · simp [completions, burials]

theorem work_conserved
    (held : ∀ job, phase.job? = some job → 0 < copies job.id shim.inner.runningJobs) :
    Conserved shim phase (shim.work shutdown input phase) := by
  cases phase with
  | top => cases shutdown <;> exact .idle rfl _ rfl
  | polling => exact poll_conserved
  | taken job =>
      simp only [QueueShim.work]
      split
      · constructor <;> simp [settlements, completions, burials, Phase.copies, Phase.job?]
      · constructor <;> simp [settlements, completions, burials, Phase.copies, Phase.job?]
  | expired job =>
      refine .ends rfl (held job rfl) rfl (fun jobId => ?_) (fun jobId => ?_) ?_
      · by_cases same : job.id = jobId <;> simp [settlements, same]
      · by_cases same : job.id = jobId <;>
          simp [QueueShim.dead, QueueShim.countDead, QueueShim.pushDead, QueueShim.removeRunning,
            timedOutRunning, same]
      · simp [completions, burials]
  | handling job =>
      constructor <;> simp [settlements, completions, burials, Phase.copies, Phase.job?, QueueShim.work]
  | handled job result => exact settle_conserved (held job rfl)
  | stopped => exact .idle rfl _ rfl

theorem work_jobsEnqueued : (shim.work shutdown input phase).1.jobsEnqueued = shim.jobsEnqueued := by
  cases phase with
  | polling =>
      simp only [QueueShim.work, QueueShim.poll]
      split
      · rfl
      · split <;> rfl
  | taken job =>
      simp only [QueueShim.work]
      split <;> rfl
  | handled job result =>
      simp only [QueueShim.work, QueueShim.settle]
      split
      · rfl
      · split <;> rfl
  | _ => rfl

/-! ## A run of a program that leaves its jobs to the workers -/

/-- Every job that was enqueued is in one place, every running job in one
worker's hands, and the counters count what the log tells. -/
structure Custody (history : History) : Prop where
  awake : history.system.caller = .idle ∨ history.system.caller = .counting
  placed : ∀ jobId, copies jobId history.system.shim.inner.pending +
    heldCopies jobId history.system.workers + settlements jobId history.log =
      history.log.count (.enqueued jobId)
  once : ∀ jobId, history.log.count (.enqueued jobId) ≤ 1
  running : ∀ jobId, copies jobId history.system.shim.inner.runningJobs =
    heldCopies jobId history.system.workers
  dead : ∀ jobId, history.system.shim.dead jobId = history.log.count (.buried jobId)
  lengths : history.system.shim.inner.pending.length +
    history.system.shim.inner.runningJobs.length + completions history.log + burials history.log =
      history.system.shim.jobsEnqueued + history.system.caller.uncounted
  processed : history.system.shim.jobsProcessed = completions history.log
  jobsDead : history.system.shim.jobsDead = burials history.log

theorem Custody.new (maxWorkers maxRetries retryBaseSecs retryMaxSecs jobTimeoutSecs : Nat) :
    Custody (.new (.new maxWorkers maxRetries retryBaseSecs retryMaxSecs jobTimeoutSecs)) where
  awake := .inl rfl
  placed _ := rfl
  once _ := Nat.zero_le 1
  running _ := rfl
  dead _ := rfl
  lengths := rfl
  processed := rfl
  jobsDead := rfl

theorem heldCopies_pos {workers : List Worker} {index : Nat} {worker : Worker} {job : Job}
    (found : workers[index]? = some worker) (holds : worker.phase.job? = some job) :
    0 < heldCopies job.id workers := by
  obtain ⟨others, before, _⟩ := heldCopies_set found job.id
  rw [before, copies_of_job holds, if_pos rfl]
  omega

theorem Custody.held {index : Nat} {worker : Worker} (custody : Custody history)
    (found : history.system.workers[index]? = some worker) {job : Job}
    (holds : worker.phase.job? = some job) :
    0 < copies job.id history.system.shim.inner.runningJobs := by
  rw [custody.running]
  exact heldCopies_pos found holds

theorem Custody.endsRunning (custody : Custody history) : EndsRunning history label := by
  cases label with
  | work index input =>
      intro worker found job ending
      refine custody.held found ?_
      cases phase : worker.phase <;> simp_all [Phase.ending?, Phase.job?]
  | _ => trivial

theorem completions_append (more : List Event) :
    completions (events ++ more) = completions events + completions more := List.countP_append

theorem burials_append (more : List Event) :
    burials (events ++ more) = burials events + burials more := List.countP_append

theorem work_quiet : .enqueued jobId ∉ (shim.work shutdown input phase).2.2 := by
  have moves : WorkMoves jobId False False shim phase (shim.work shutdown input phase) :=
    work_moves shim jobId phase
  exact (moves 0).1

theorem step_work {index : Nat} (taken : machine.step history (.work index input) = some next) :
    ∃ worker shutdown after phase events, history.system.workers[index]? = some worker ∧
      history.system.shim.work shutdown input worker.phase = (after, phase, events) ∧
      next = ⟨{ history.system with
        shim := after
        workers := history.system.workers.set index { worker with phase := phase } },
        history.log ++ events⟩ := by
  simp only [machine, History.workStep, Option.map_eq_some_iff] at taken
  obtain ⟨worker, found, rfl⟩ := taken
  exact ⟨worker, _, _, _, _, found, rfl, rfl⟩

theorem Custody.workStep {index : Nat} (custody : Custody history)
    (taken : machine.step history (.work index input) = some next) : Custody next := by
  obtain ⟨worker, shutdown, after, phase, events, found, worked, rfl⟩ := step_work taken
  have conserved : Conserved history.system.shim worker.phase
      (history.system.shim.work shutdown input worker.phase) :=
    work_conserved fun job holds => custody.held found holds
  have ends : EndsRunning history (.work index input) := custody.endsRunning
  have accounted : Accounted history.system.shim history.system.caller
      (history.system.shim.work shutdown input worker.phase).1 history.system.caller
      (history.system.shim.work shutdown input worker.phase).2.2 :=
    work_accounted (ends worker found)
  have quiet : ∀ jobId, Event.enqueued jobId ∉
      (history.system.shim.work shutdown input worker.phase).2.2 := fun jobId => work_quiet
  have enqueued : (history.system.shim.work shutdown input worker.phase).1.jobsEnqueued = _ :=
    work_jobsEnqueued
  rw [worked] at conserved accounted quiet enqueued
  have unheard : ∀ jobId, events.count (.enqueued jobId) = 0 :=
    fun jobId => List.count_eq_zero.mpr (quiet jobId)
  have kept : after.jobsEnqueued = history.system.shim.jobsEnqueued := enqueued
  constructor
  · exact custody.awake
  · intro jobId
    obtain ⟨others, before, changed⟩ := heldCopies_set found jobId
    have placed := custody.placed jobId
    have moved := conserved.placed jobId
    simp only [changed, settlements_append, List.count_append, unheard] at moved ⊢
    omega
  · intro jobId
    rw [List.count_append, unheard]
    exact custody.once jobId
  · intro jobId
    obtain ⟨others, before, changed⟩ := heldCopies_set found jobId
    have running := custody.running jobId
    have moved := conserved.running jobId
    simp only [changed] at moved ⊢
    omega
  · intro jobId
    rw [conserved.dead, custody.dead, List.count_append]
  · have lengths := custody.lengths
    have moved := conserved.lengths
    simp only [completions_append, burials_append, kept] at moved ⊢
    omega
  · rw [accounted.processed, custody.processed, completions_append]
  · rw [accounted.jobsDead, custody.jobsDead, burials_append]

theorem Custody.enqueue {id name : String} {payload : List UInt8} {now : Int}
    (custody : Custody history) (idle : history.system.caller = .idle)
    (fresh : .enqueued id ∉ history.log) :
    Custody ⟨{ history.system with
      shim := history.system.shim.pushPending (history.system.shim.newJob id name payload now)
      caller := .counting }, history.log ++ [.enqueued id]⟩ := by
  have unheard : history.log.count (.enqueued id) = 0 := List.count_eq_zero.mpr fresh
  constructor
  · exact .inr rfl
  · intro jobId
    have placed := custody.placed jobId
    by_cases same : id = jobId
    · subst same
      simp [settlements, QueueShim.newJob] at placed ⊢
      omega
    · simp [settlements, QueueShim.newJob, same] at placed ⊢
      omega
  · intro jobId
    have once := custody.once jobId
    by_cases same : id = jobId
    · subst same
      simp [unheard]
    · simp [same, once]
  · exact custody.running
  · intro jobId
    have dead := custody.dead jobId
    simpa [QueueShim.dead, QueueShim.pushPending] using dead
  · have lengths := custody.lengths
    rw [idle] at lengths
    simp [completions, burials, Caller.uncounted, QueueShim.pushPending] at lengths ⊢
    omega
  · rw [completions_append]
    exact custody.processed
  · rw [burials_append]
    exact custody.jobsDead

theorem Custody.callStep (custody : Custody history) (left : WorkersOnly label)
    (taken : history.callStep label = some next) : Custody next := by
  by_cases idle : history.system.caller = .idle
  · rcases callStep_idle idle taken with ⟨_, rfl⟩ | ⟨_, rfl⟩ | ⟨shim, caller, events, fresh, called, rfl⟩
    · constructor
      · exact custody.awake
      · intro jobId
        rw [heldCopies_start]
        exact custody.placed jobId
      · exact custody.once
      · intro jobId
        rw [heldCopies_start]
        exact custody.running jobId
      · exact custody.dead
      · exact custody.lengths
      · exact custody.processed
      · exact custody.jobsDead
    · exact ⟨custody.awake, custody.placed, custody.once, custody.running, custody.dead,
        custody.lengths, custody.processed, custody.jobsDead⟩
    · cases label <;> first | exact left.elim | cases called
      · rw [List.append_nil]
        exact ⟨.inl rfl, custody.placed, custody.once, custody.running, custody.dead,
          idle ▸ custody.lengths, custody.processed, custody.jobsDead⟩
      · exact custody.enqueue idle fresh
  · obtain ⟨shim, resumed, rfl⟩ := callStep_suspended idle taken
    have counting := custody.awake.resolve_left idle
    rw [counting] at resumed
    cases label <;> simp only [Caller.resume] at resumed <;> cases resumed
    refine ⟨.inl rfl, custody.placed, custody.once, custody.running, custody.dead, ?_,
      custody.processed, custody.jobsDead⟩
    have lengths := custody.lengths
    rw [counting] at lengths
    exact lengths

theorem Custody.step (custody : Custody history) (left : WorkersOnly label)
    (taken : machine.step history label = some next) : Custody next := by
  cases label with
  | work index input => exact custody.workStep taken
  | _ => exact custody.callStep left taken

end Evergreen.Queue
