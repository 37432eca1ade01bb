import Evergreen.Queue.Custody

namespace Evergreen.Queue

/-! # How often a job is tried

`attempts` of a job that waits, or is about to be tried, is the number of times
its handler was started; the worker that has it tried is one ahead.
-/

def starts (jobId : String) (log : List Event) : Nat := log.count (.started jobId)

/-- The job has been started as often as it failed, and may be tried again. -/
def Due (maxRetries : Nat) (log : List Event) (job : Job) : Prop :=
  starts job.id log = job.attempts ∧ job.attempts ≤ maxRetries

def Phase.Tracks (maxRetries : Nat) (log : List Event) : Phase → Prop
  | .taken job => Due maxRetries log job
  | .expired job => Due maxRetries log job
  | .handling job => starts job.id log = job.attempts + 1 ∧ job.attempts ≤ maxRetries
  | .handled job _ => starts job.id log = job.attempts + 1 ∧ job.attempts ≤ maxRetries
  | .top => True
  | .polling => True
  | .stopped => True

/-- A dead letter comes from the execution timeout, or from a job whose handler
was started, and failed, once more than it may be retried. -/
def ArchivedJob.Justified (maxRetries : Nat) (log : List Event) (letter : ArchivedJob) : Prop :=
  letter.reason = "Execution timed out" ∨
    letter.job.attempts = maxRetries + 1 ∧ starts letter.job.id log = maxRetries + 1

structure Tracked (history : History) : Prop where
  small : history.system.shim.maxRetries < 2 ^ 32 - 1
  unstarted : ∀ jobId, .enqueued jobId ∉ history.log → starts jobId history.log = 0
  waiting : ∀ job ∈ history.system.shim.inner.pending,
    Due history.system.shim.maxRetries history.log job ∧ job.startedAt = none
  held : ∀ (index : Nat) worker, history.system.workers[index]? = some worker →
    worker.phase.Tracks history.system.shim.maxRetries history.log
  bounded : ∀ jobId, starts jobId history.log ≤ history.system.shim.maxRetries + 1
  letters : ∀ letter ∈ history.system.shim.inner.deadLetterQueue,
    letter.Justified history.system.shim.maxRetries history.log

variable {shim after : QueueShim} {caller : Caller} {events log : List Event} {jobId : String}
variable {history next : History} {label : Label} {shutdown : Bool} {input : Input}
variable {phase : Phase} {job : Job} {index maxRetries : Nat} {worker : Worker}

theorem starts_append (more : List Event) :
    starts jobId (log ++ more) = starts jobId log + starts jobId more := List.count_append

/-- Only the starts of the job in its hands matter to a worker. -/
theorem tracks_congr {later : List Event} (same : ∀ held, phase.job? = some held →
    starts held.id later = starts held.id log) :
    phase.Tracks maxRetries later ↔ phase.Tracks maxRetries log := by
  cases phase with
  | taken job => simp only [Phase.Tracks, Due, same job rfl]
  | expired job => simp only [Phase.Tracks, Due, same job rfl]
  | handling job => simp only [Phase.Tracks, same job rfl]
  | handled job result => simp only [Phase.Tracks, same job rfl]
  | _ => exact Iff.rfl

theorem Custody.alone (custody : Custody history)
    (found : history.system.workers[index]? = some worker) (holds : worker.phase.job? = some job) :
    job.id ∉ history.system.shim.inner.pending.map Job.id ∧
      settlements job.id history.log = 0 ∧ .enqueued job.id ∈ history.log ∧
      ∀ other another, history.system.workers[other]? = some another →
        ∀ held, another.phase.job? = some held → held.id = job.id → other = index := by
  have placed := custody.placed job.id
  have once := custody.once job.id
  have positive := heldCopies_pos found holds
  obtain ⟨others, before, changed⟩ := heldCopies_set found job.id
  rw [copies_of_job holds, if_pos rfl] at before
  refine ⟨fun member => ?_, by omega, ?_, ?_⟩
  · have waiting := copies_pos_iff.mpr member
    omega
  · exact List.count_pos_iff.mp (by omega)
  · intro other another present held carries same
    by_contra apart
    have kept : (history.system.workers.set index ⟨0, .top⟩)[other]? = some another := by
      rw [List.getElem?_set_ne (Ne.symm apart), present]
    have more := heldCopies_pos kept carries
    rw [same, changed] at more
    have rest : (Worker.mk 0 .top).phase.copies job.id = 0 := rfl
    omega

theorem getElem?_set_cases {workers : List Worker} {changed another : Worker} {other : Nat}
    (present : (workers.set index changed)[other]? = some another) :
    another = changed ∨ other ≠ index ∧ workers[other]? = some another := by
  by_cases same : index = other
  · subst same
    rw [List.getElem?_set_self'] at present
    cases held : workers[index]? with
    | none => simp [held] at present
    | some worker => exact .inl (by simpa [held] using present.symm)
  · rw [List.getElem?_set_ne same] at present
    exact .inr ⟨Ne.symm same, present⟩

/-- A section that starts no handler has to account for the pending jobs, the
jobs in hands and the dead letters. -/
theorem Tracked.silent (tracked : Tracked history) {system : System}
    (limits : SameLimits history.system.shim system.shim)
    (silent : ∀ jobId, starts jobId events = 0)
    (waiting : ∀ job ∈ system.shim.inner.pending,
      Due history.system.shim.maxRetries history.log job ∧ job.startedAt = none)
    (held : ∀ (index : Nat) worker, system.workers[index]? = some worker →
      worker.phase.Tracks history.system.shim.maxRetries history.log)
    (letters : ∀ letter ∈ system.shim.inner.deadLetterQueue,
      letter.Justified history.system.shim.maxRetries history.log) :
    Tracked ⟨system, history.log ++ events⟩ := by
  have same : ∀ jobId, starts jobId (history.log ++ events) = starts jobId history.log := by
    intro jobId
    rw [starts_append, silent, Nat.add_zero]
  constructor
  · exact limits.maxRetries ▸ tracked.small
  · intro jobId unknown
    rw [same]
    exact tracked.unstarted jobId fun earlier => unknown (List.mem_append_left _ earlier)
  · intro job member
    simp only [Due, limits.maxRetries, same]
    exact waiting job member
  · intro index worker present
    simp only [limits.maxRetries, tracks_congr fun held _ => same held.id]
    exact held index worker present
  · intro jobId
    rw [same, limits.maxRetries]
    exact tracked.bounded jobId
  · intro letter member
    simp only [ArchivedJob.Justified, limits.maxRetries, same]
    exact letters letter member

theorem Tracked.quiet (tracked : Tracked history)
    (limits : SameLimits history.system.shim after)
    (silent : ∀ jobId, starts jobId events = 0)
    (waiting : ∀ job ∈ after.inner.pending,
      Due history.system.shim.maxRetries history.log job ∧ job.startedAt = none)
    (tracks : phase.Tracks history.system.shim.maxRetries history.log)
    (letters : ∀ letter ∈ after.inner.deadLetterQueue,
      letter.Justified history.system.shim.maxRetries history.log) :
    Tracked ⟨{ history.system with
      shim := after
      workers := history.system.workers.set index { worker with phase := phase } },
      history.log ++ events⟩ := by
  refine tracked.silent limits silent waiting (fun other another present => ?_) letters
  cases getElem?_set_cases present with
  | inl changed => exact changed ▸ tracks
  | inr kept => exact tracked.held other another kept.2

theorem Tracked.start (tracked : Tracked history) (custody : Custody history)
    (found : history.system.workers[index]? = some worker) (taken : worker.phase = .taken job) :
    Tracked ⟨{ history.system with
      workers := history.system.workers.set index { worker with phase := .handling job } },
      history.log ++ [.started job.id]⟩ := by
  have due : Due history.system.shim.maxRetries history.log job := by
    have tracks := tracked.held index worker found
    rwa [taken] at tracks
  obtain ⟨unqueued, unsettled, known, alone⟩ := custody.alone found
    (show worker.phase.job? = some job by rw [taken]; rfl)
  have same : ∀ jobId, jobId ≠ job.id →
      starts jobId (history.log ++ [.started job.id]) = starts jobId history.log := by
    intro jobId other
    simp [starts, Ne.symm other]
  have more : starts job.id (history.log ++ [.started job.id]) = job.attempts + 1 := by
    rw [starts_append, due.1]
    simp [starts]
  constructor
  · exact tracked.small
  · intro jobId unknown
    have earlier : .enqueued jobId ∉ history.log :=
      fun member => unknown (List.mem_append_left _ member)
    rw [same jobId fun equal => earlier (equal ▸ known)]
    exact tracked.unstarted jobId earlier
  · intro waiting member
    have other : waiting.id ≠ job.id :=
      fun equal => unqueued (equal ▸ List.mem_map_of_mem member)
    simp only [Due, same _ other]
    exact tracked.waiting waiting member
  · intro other another present
    cases getElem?_set_cases present with
    | inl changed =>
        rw [changed]
        exact ⟨more, due.2⟩
    | inr kept =>
        refine (tracks_congr fun held holds => same held.id fun equal => ?_).mpr
          (tracked.held other another kept.2)
        exact kept.1 (alone other another kept.2 held holds equal)
  · intro jobId
    by_cases own : jobId = job.id
    · rw [own, more]
      exact Nat.succ_le_succ due.2
    · rw [same jobId own]
      exact tracked.bounded jobId
  · intro letter member
    have other : letter.job.id ≠ job.id := by
      intro equal
      have dead := custody.dead job.id
      have buried : 0 < history.system.shim.dead job.id :=
        copies_pos_iff.mpr (List.mem_map.mpr ⟨letter.job, List.mem_map_of_mem member, equal⟩)
      simp only [settlements] at unsettled
      omega
    simp only [ArchivedJob.Justified, same _ other]
    exact tracked.letters letter member

theorem nextAttempt_of_le (small : maxRetries < 2 ^ 32 - 1) {attempts : Nat}
    (due : attempts ≤ maxRetries) : nextAttempt attempts = attempts + 1 := by
  unfold nextAttempt
  omega

theorem starts_idle {events : List Event} (idle : ∀ jobId, .started jobId ∉ events) :
    ∀ jobId, starts jobId events = 0 := fun jobId => List.count_eq_zero.mpr (idle jobId)

theorem of_mem_concat {Value : Type} {property : Value → Prop} {values : List Value}
    {pushed value : Value} (all : ∀ other ∈ values, property other)
    (member : value ∈ values ++ [pushed]) (last : property pushed) : property value := by
  rcases List.mem_append.mp member with before | now
  · exact all value before
  · exact List.mem_singleton.mp now ▸ last

theorem Tracked.workStep (tracked : Tracked history) (custody : Custody history)
    (taken : machine.step history (.work index input) = some next) : Tracked next := by
  obtain ⟨worker, shutdown, after, phase, events, found, worked, rfl⟩ := step_work taken
  have limits : SameLimits history.system.shim
      (history.system.shim.work shutdown input worker.phase).1 := work_limits
  have tracks := tracked.held index worker found
  rw [worked] at limits
  cases current : worker.phase with
  | top =>
      rw [current] at worked
      cases worked
      refine tracked.quiet limits (fun _ => rfl) tracked.waiting ?_ tracked.letters
      cases shutdown <;> trivial
  | polling =>
      rw [current] at worked
      simp only [QueueShim.work, QueueShim.poll] at worked
      cases pending : history.system.shim.inner.pending with
      | nil =>
          simp only [pending] at worked
          cases worked
          exact tracked.quiet limits (fun _ => rfl) tracked.waiting trivial tracked.letters
      | cons job rest =>
          have members := tracked.waiting
          rw [pending] at members
          obtain ⟨due, unstarted⟩ := members job List.mem_cons_self
          have prompt : history.system.shim.overdue job input.checkedAt = false := by
            simp [QueueShim.overdue, unstarted]
          simp only [pending, prompt, Bool.false_eq_true, if_false] at worked
          cases worked
          exact tracked.quiet limits (fun _ => rfl)
            (fun job member => members job (List.mem_cons_of_mem _ member)) due tracked.letters
  | taken job =>
      rw [current] at worked tracks
      simp only [QueueShim.work] at worked
      split at worked
      · cases worked
        exact tracked.quiet limits (fun _ => rfl) tracked.waiting tracks tracked.letters
      · cases worked
        exact tracked.start custody found current
  | expired job =>
      rw [current] at worked
      cases worked
      refine tracked.quiet limits (starts_idle (by simp)) tracked.waiting trivial ?_
      exact fun letter member => of_mem_concat tracked.letters member (.inl rfl)
  | handling job =>
      rw [current] at worked tracks
      cases worked
      exact tracked.quiet limits (fun _ => rfl) tracked.waiting tracks tracked.letters
  | handled job result =>
      rw [current] at worked tracks
      obtain ⟨started, due⟩ := tracks
      have failed : nextAttempt job.attempts = job.attempts + 1 :=
        nextAttempt_of_le tracked.small due
      cases result with
      | ok =>
          cases worked
          exact tracked.quiet limits (starts_idle (by simp)) tracked.waiting trivial tracked.letters
      | error message =>
          simp only [QueueShim.work, QueueShim.settle] at worked
          by_cases retried : (QueueShim.failedOnce job message).attempts ≤
              (history.system.shim.removeRunning job.id).maxRetries
          · rw [if_pos retried] at worked
            cases worked
            refine tracked.quiet limits (fun _ => rfl) ?_ trivial tracked.letters
            exact fun waiting member => @of_mem_concat _ (fun job =>
              Due history.system.shim.maxRetries history.log job ∧ job.startedAt = none) _ _ _
                tracked.waiting member ⟨⟨started.trans failed.symm, retried⟩, rfl⟩
          · rw [if_neg retried] at worked
            cases worked
            have spent : ¬ nextAttempt job.attempts ≤ history.system.shim.maxRetries := retried
            have exhausted : job.attempts + 1 = history.system.shim.maxRetries + 1 := by omega
            refine tracked.quiet limits (starts_idle (by simp)) tracked.waiting trivial ?_
            exact fun letter member => of_mem_concat tracked.letters member
              (.inr ⟨failed.trans exhausted, started.trans exhausted⟩)
  | stopped =>
      rw [current] at worked
      cases worked
      exact tracked.quiet limits (fun _ => rfl) tracked.waiting trivial tracked.letters

theorem Tracked.callStep (tracked : Tracked history) (custody : Custody history)
    (left : WorkersOnly label) (taken : history.callStep label = some next) : Tracked next := by
  by_cases idle : history.system.caller = .idle
  · rcases callStep_idle idle taken with ⟨_, rfl⟩ | ⟨_, rfl⟩ | ⟨shim, caller, events, fresh, called, rfl⟩
    · refine ⟨tracked.small, tracked.unstarted, tracked.waiting, fun index worker present => ?_,
        tracked.bounded, tracked.letters⟩
      simp only [System.start] at present
      split at present
      · rw [List.getElem?_append] at present
        split at present
        · exact tracked.held index worker present
        · rw [List.eq_of_mem_replicate (List.mem_of_getElem? present)]
          trivial
      · exact tracked.held index worker present
    · exact ⟨tracked.small, tracked.unstarted, tracked.waiting, tracked.held, tracked.bounded,
        tracked.letters⟩
    · cases label <;> first | exact left.elim | cases called
      · rw [List.append_nil]
        exact ⟨tracked.small, tracked.unstarted, tracked.waiting, tracked.held, tracked.bounded,
          tracked.letters⟩
      · refine tracked.silent ⟨rfl, rfl⟩ (fun _ => rfl) (fun job member => ?_) tracked.held
          tracked.letters
        exact @of_mem_concat _ (fun job =>
          Due history.system.shim.maxRetries history.log job ∧ job.startedAt = none) _ _ _
            tracked.waiting member ⟨⟨tracked.unstarted _ fresh, Nat.zero_le _⟩, rfl⟩
  · obtain ⟨shim, resumed, rfl⟩ := callStep_suspended idle taken
    have counting := custody.awake.resolve_left idle
    rw [counting] at resumed
    cases label <;> simp only [Caller.resume] at resumed <;> cases resumed
    exact ⟨tracked.small, tracked.unstarted, tracked.waiting, tracked.held, tracked.bounded,
      tracked.letters⟩

theorem Tracked.step (tracked : Tracked history) (custody : Custody history)
    (left : WorkersOnly label) (taken : machine.step history label = some next) : Tracked next := by
  cases label with
  | work index input => exact tracked.workStep custody taken
  | _ => exact tracked.callStep custody left taken

/-! ## The runs -/

/-- What holds between any two lock sections: every enqueued job is in exactly
one of `pending`, `running_jobs`, the processed jobs and the dead letters, no
job is tried more than `max_retries + 1` times, the dead letters are justified,
and the counters balance up to a job that `enqueue` has pushed and not counted. -/
structure WorkersAccount (history : History) : Prop where
  placed : ∀ jobId, .enqueued jobId ∈ history.log →
    copies jobId history.system.shim.inner.pending +
      copies jobId history.system.shim.inner.runningJobs +
      history.log.count (.completed jobId) + history.system.shim.dead jobId = 1
  tried : ∀ jobId, starts jobId history.log ≤ history.system.shim.maxRetries + 1
  justified : ∀ letter ∈ history.system.shim.inner.deadLetterQueue,
    letter.Justified history.system.shim.maxRetries history.log
  processed : history.system.shim.jobsProcessed = completions history.log
  balance : history.system.shim.jobsEnqueued + history.system.caller.uncounted =
    history.system.shim.inner.pending.length + history.system.shim.inner.runningJobs.length +
      history.system.shim.jobsProcessed + history.system.shim.jobsDead

theorem Custody.workersAccount (custody : Custody history) (tracked : Tracked history) :
    WorkersAccount history where
  placed jobId known := by
    have placed := custody.placed jobId
    have once := custody.once jobId
    have enqueued := List.count_pos_iff.mpr known
    have running := custody.running jobId
    have dead := custody.dead jobId
    simp only [settlements] at placed
    omega
  tried := tracked.bounded
  justified := tracked.letters
  processed := custody.processed
  balance := by
    rw [custody.processed, custody.jobsDead]
    exact custody.lengths.symm

theorem Tracked.new {maxWorkers maxRetries retryBaseSecs retryMaxSecs jobTimeoutSecs : Nat}
    (small : maxRetries < 2 ^ 32 - 1) :
    Tracked (.new (.new maxWorkers maxRetries retryBaseSecs retryMaxSecs jobTimeoutSecs)) where
  small := small
  unstarted _ _ := rfl
  waiting _ member := by cases member
  held index worker present := by cases present
  bounded _ := Nat.zero_le _
  letters _ member := by cases member

/-- The worker stalls for 301 seconds between taking the job and the check of
its timeout: the job dies untried. -/
def stalled : List Label :=
  [.setHandler, .enqueue "job" "mail" [] 0, .enqueueCounted, .start, .work 0 ⟨0, 0, .ok ()⟩,
    .work 0 ⟨0, 0, .ok ()⟩, .work 0 ⟨301 * 10 ^ 9, 301 * 10 ^ 9, .ok ()⟩,
    .work 0 ⟨301 * 10 ^ 9, 301 * 10 ^ 9, .ok ()⟩]

end Evergreen.Queue
