import Evergreen.Queue.Workers

namespace Evergreen.Queue

/-! # The copies of one job

What a step does to the copies of a single job id: how many stand in `pending`,
how many in `running_jobs` and how many workers hold one.  Every result about
the queue's accounting goes through `step_move`.
-/

def copies (jobId : String) (jobs : List Job) : Nat := jobs.countP (withId jobId)

@[simp] theorem copies_nil (jobId : String) : copies jobId [] = 0 := rfl

@[simp] theorem copies_cons (jobId : String) (job : Job) (jobs : List Job) :
    copies jobId (job :: jobs) = copies jobId jobs + if job.id = jobId then 1 else 0 := by
  simp [copies, List.countP_cons]

@[simp] theorem copies_append (jobId : String) (jobs more : List Job) :
    copies jobId (jobs ++ more) = copies jobId jobs + copies jobId more :=
  List.countP_append

theorem copies_pos_iff {jobId : String} {jobs : List Job} :
    0 < copies jobId jobs ↔ jobId ∈ jobs.map Job.id := by
  simp [copies, List.countP_pos_iff]

theorem copies_eraseP (jobId key : String) (jobs : List Job) :
    copies jobId (jobs.eraseP (withId key)) =
      copies jobId jobs - if key = jobId then 1 else 0 := by
  induction jobs with
  | nil => simp
  | cons job jobs ih =>
      by_cases found : withId key job = true
      · have same : job.id = key := withId_iff.mp found
        rw [List.eraseP_cons_of_pos found, copies_cons, same, Nat.add_sub_cancel]
      · have other : job.id ≠ key := fun same => found (withId_iff.mpr same)
        rw [List.eraseP_cons_of_neg found, copies_cons, copies_cons, ih]
        by_cases wanted : key = jobId
        · have missed : job.id ≠ jobId := wanted ▸ other
          simp [wanted, missed]
        · simp [wanted]

def Phase.copies (jobId : String) (phase : Phase) : Nat := Queue.copies jobId phase.job?.toList

def heldCopies (jobId : String) (workers : List Worker) : Nat :=
  (workers.map fun worker => worker.phase.copies jobId).sum

theorem heldCopies_set {workers : List Worker} {index : Nat} {worker : Worker}
    (found : workers[index]? = some worker) (jobId : String) :
    ∃ others, heldCopies jobId workers = others + worker.phase.copies jobId ∧
      ∀ changed : Worker,
        heldCopies jobId (workers.set index changed) = others + changed.phase.copies jobId := by
  induction workers generalizing index with
  | nil => simp at found
  | cons first workers ih =>
      cases index with
      | zero =>
          obtain rfl : first = worker := by simpa using found
          refine ⟨heldCopies jobId workers, ?_, fun changed => ?_⟩
          · exact Nat.add_comm _ _
          · exact Nat.add_comm _ _
      | succ index =>
          obtain ⟨others, before, after⟩ := ih (by simpa using found)
          refine ⟨first.phase.copies jobId + others, ?_, fun changed => ?_⟩
          · rw [Nat.add_assoc, ← before]
            rfl
          · rw [Nat.add_assoc, ← after changed]
            rfl

structure Tokens where
  pending : Nat
  running : Nat
  held : Nat

def QueueShim.tokens (shim : QueueShim) (jobId : String) (held : Nat) : Tokens where
  pending := copies jobId shim.inner.pending
  running := copies jobId shim.inner.runningJobs
  held := held

def System.tokens (system : System) (jobId : String) : Tokens :=
  system.shim.tokens jobId (heldCopies jobId system.workers)

/-- What a step can do to the copies of a job: nothing, settle it, hand it out,
put it back, or drop the running copy for the time a caller sleeps. -/
inductive Move (settles suspends resumes : Prop) (before after : Tokens) : Prop where
  | stay (same : after = before)
  | settle (settled : settles) (pending : after.pending ≤ before.pending)
      (running : after.running ≤ before.running) (held : after.held ≤ before.held)
  | take (pending : before.pending = after.pending + 1) (running : after.running = before.running + 1)
      (held : before.held ≤ after.held ∧ after.held ≤ before.held + 1)
  | requeue (pending : after.pending = before.pending + 1)
      (running : after.running = before.running - 1) (held : before.held = after.held + 1)
  | suspend (suspended : suspends) (pending : after.pending = before.pending)
      (running : after.running = before.running - 1) (held : after.held = before.held)
  | resume (resumed : resumes) (pending : after.pending = before.pending + 1)
      (running : after.running = before.running) (held : after.held = before.held)

def Settles (jobId : String) (events : List Event) : Prop :=
  .completed jobId ∈ events ∨ .buried jobId ∈ events

variable {shim : QueueShim} {job : Job} {jobId : String} {suspends resumes : Prop} {held : Nat}

/-! ## A worker's section -/

section Worker

variable {shutdown : Bool} {input : Input} {phase : Phase}

def WorkMoves (jobId : String) (suspends resumes : Prop) (shim : QueueShim) (phase : Phase)
    (after : QueueShim × Phase × List Event) : Prop :=
  ∀ others : Nat, .enqueued jobId ∉ after.2.2 ∧
    Move (Settles jobId after.2.2) suspends resumes
      (shim.tokens jobId (others + phase.copies jobId))
      (after.1.tokens jobId (others + after.2.1.copies jobId))

theorem poll_moves : WorkMoves jobId suspends resumes shim .polling (shim.poll input) := by
  intro others
  cases waiting : shim.inner.pending with
  | nil =>
      simp only [QueueShim.poll, waiting]
      exact ⟨List.not_mem_nil, .stay rfl⟩
  | cons job pending =>
      have popped : copies jobId shim.inner.pending =
          copies jobId pending + if job.id = jobId then 1 else 0 := by
        rw [waiting, copies_cons]
      by_cases same : job.id = jobId
      · cases overdue : shim.overdue job input.checkedAt with
        | true =>
            simp only [QueueShim.poll, waiting, overdue, if_true]
            refine ⟨by simp, .settle (.inr (by simp [same])) ?_ ?_ ?_⟩
            · simp [QueueShim.tokens, popped]
            · simp [QueueShim.tokens]
            · simp [QueueShim.tokens, Phase.copies, Phase.job?]
        | false =>
            simp only [QueueShim.poll, waiting, overdue]
            refine ⟨by simp, .take ?_ ?_ ?_⟩
            · simp [QueueShim.tokens, popped, same]
            · simp [QueueShim.tokens, same]
            · simp [QueueShim.tokens, Phase.copies, Phase.job?, same]
      · simp only [QueueShim.poll, waiting]
        split
        · refine ⟨by simp, .stay ?_⟩
          simp [QueueShim.tokens, Phase.copies, Phase.job?, popped, same]
        · refine ⟨by simp, .stay ?_⟩
          simp [QueueShim.tokens, Phase.copies, Phase.job?, popped, same]

theorem settle_moves (job : Job) (result : HandlerResult) :
    WorkMoves jobId suspends resumes shim (.handled job result) (shim.settle job result) := by
  intro others
  by_cases same : job.id = jobId
  · cases result with
    | ok =>
        refine ⟨by simp [QueueShim.settle], .settle (.inl (by simp [QueueShim.settle, same])) ?_ ?_ ?_⟩
        · simp [QueueShim.tokens, QueueShim.settle]
        · simp [QueueShim.tokens, QueueShim.settle, copies_eraseP]
        · simp [QueueShim.tokens, QueueShim.settle, Phase.copies, Phase.job?]
    | error message =>
        simp only [QueueShim.settle]
        split
        · refine ⟨by simp, .requeue ?_ ?_ ?_⟩
          · simp [QueueShim.tokens, QueueShim.requeue, QueueShim.failedOnce, same]
          · simp [QueueShim.tokens, QueueShim.requeue, copies_eraseP, same]
          · simp [QueueShim.tokens, Phase.copies, Phase.job?, same]
        · refine ⟨by simp, .settle (.inr (by simp [QueueShim.failedOnce, same])) ?_ ?_ ?_⟩
          · simp [QueueShim.tokens]
          · simp [QueueShim.tokens, copies_eraseP]
          · simp [QueueShim.tokens, Phase.copies, Phase.job?]
  · cases result with
    | ok =>
        refine ⟨by simp [QueueShim.settle], .stay ?_⟩
        simp [QueueShim.tokens, QueueShim.settle, copies_eraseP, Phase.copies, Phase.job?, same]
    | error message =>
        simp only [QueueShim.settle]
        split
        · refine ⟨by simp, .stay ?_⟩
          simp [QueueShim.tokens, QueueShim.requeue, QueueShim.failedOnce, copies_eraseP,
            Phase.copies, Phase.job?, same]
        · refine ⟨by simp, .stay ?_⟩
          simp [QueueShim.tokens, copies_eraseP, Phase.copies, Phase.job?, same]

theorem work_moves (shim : QueueShim) (jobId : String) (phase : Phase) :
    WorkMoves jobId suspends resumes shim phase (shim.work shutdown input phase) := by
  intro others
  cases phase with
  | top => cases shutdown <;> exact ⟨List.not_mem_nil, .stay rfl⟩
  | polling => exact poll_moves others
  | taken job =>
      simp only [QueueShim.work]
      split
      · exact ⟨List.not_mem_nil, .stay rfl⟩
      · exact ⟨by simp, .stay rfl⟩
  | expired job =>
      refine ⟨by simp [QueueShim.work], ?_⟩
      by_cases same : job.id = jobId
      · refine .settle (.inr (by simp [QueueShim.work, same])) ?_ ?_ ?_
        · simp [QueueShim.work, QueueShim.tokens]
        · simp [QueueShim.work, QueueShim.tokens, copies_eraseP]
        · simp [QueueShim.work, QueueShim.tokens, Phase.copies, Phase.job?]
      · apply Move.stay
        simp [QueueShim.work, QueueShim.tokens, copies_eraseP, Phase.copies, Phase.job?, same]
  | handling job => exact ⟨List.not_mem_nil, .stay rfl⟩
  | handled job result => exact settle_moves job result others
  | stopped => exact ⟨List.not_mem_nil, .stay rfl⟩

end Worker

/-! ## A caller's section -/

/-- Failing the job now would send it to sleep rather than to the dead letters. -/
def QueueShim.retries (shim : QueueShim) (jobId : String) : Bool :=
  match shim.running jobId with
  | some job => nextAttempt job.attempts ≤ job.maxRetries
  | none => false

/-- The label is a `fail_job` that suspends the job. -/
def Suspends (shim : QueueShim) (jobId : String) : Label → Prop
  | .failJob key _ => key = jobId ∧ shim.retries key = true
  | _ => False

theorem running_id {key : String} (found : shim.running key = some job) : job.id = key :=
  withId_iff.mp (List.find?_some found)

theorem running_copies {key : String} (found : shim.running key = some job) :
    0 < copies key shim.inner.runningJobs :=
  copies_pos_iff.mpr (List.mem_map.mpr ⟨job, List.mem_of_find?_eq_some found, running_id found⟩)

section Call

variable {after : QueueShim} {caller : Caller} {events : List Event} {label : Label}

/-- A fresh job arrives, or the copies move without one. -/
inductive CallMoves (jobId : String) (shim : QueueShim) (label : Label) (after : QueueShim)
    (events : List Event) (held : Nat) : Prop where
  | arrive (name : String) (payload : List UInt8) (now : Int)
      (enqueue : label = .enqueue jobId name payload now) (logged : events = [.enqueued jobId])
      (pending : (after.tokens jobId held).pending = (shim.tokens jobId held).pending + 1)
      (running : (after.tokens jobId held).running = (shim.tokens jobId held).running)
  | moves (quiet : .enqueued jobId ∉ events)
      (move : Move (Settles jobId events) (Suspends shim jobId label) False
        (shim.tokens jobId held) (after.tokens jobId held))

theorem dequeue_moves {now : Int} :
    Move (Settles jobId []) (Suspends shim jobId (.dequeue now)) False
      (shim.tokens jobId held) ((shim.dequeue now).1.tokens jobId held) := by
  simp only [QueueShim.dequeue]
  split
  · cases waiting : shim.inner.pending with
    | nil => exact .stay rfl
    | cons job pending =>
        by_cases same : job.id = jobId
        · apply Move.take
          · simp [QueueShim.tokens, waiting, same]
          · simp [QueueShim.tokens, same]
          · simp [QueueShim.tokens]
        · apply Move.stay
          simp [QueueShim.tokens, waiting, same]
  · exact .stay rfl

theorem failJob_moves {key error : String} (called : shim.call (.failJob key error) =
    some (after, caller, events)) :
    CallMoves jobId shim (.failJob key error) after events held := by
  cases found : shim.running key with
  | none =>
      simp only [QueueShim.call, QueueShim.failJob, found] at called
      cases called
      exact .moves List.not_mem_nil (.stay rfl)
  | some job =>
      by_cases retried : nextAttempt job.attempts ≤ job.maxRetries
      · simp only [QueueShim.call, QueueShim.failJob, found, QueueShim.failedOnce, retried,
          if_true] at called
        cases called
        refine .moves List.not_mem_nil ?_
        by_cases same : key = jobId
        · refine .suspend ⟨same, ?_⟩ rfl ?_ rfl
          · simp [QueueShim.retries, found, retried]
          · simp [QueueShim.tokens, copies_eraseP, same]
        · exact .stay (by simp [QueueShim.tokens, copies_eraseP, same])
      · simp only [QueueShim.call, QueueShim.failJob, found, QueueShim.failedOnce, retried,
          if_false] at called
        cases called
        refine .moves (by simp) ?_
        by_cases same : key = jobId
        · refine .settle (.inr (by simp [same])) (Nat.le_refl _) ?_ (Nat.le_refl _)
          simp [QueueShim.tokens, copies_eraseP]
        · exact .stay (by simp [QueueShim.tokens, copies_eraseP, same])

theorem completeJob_moves {key : String} (called : shim.call (.completeJob key) =
    some (after, caller, events)) :
    CallMoves jobId shim (.completeJob key) after events held := by
  cases found : shim.running key with
  | none =>
      simp only [QueueShim.call, QueueShim.completeJob, found] at called
      cases called
      exact .moves List.not_mem_nil (.stay rfl)
  | some job =>
      simp only [QueueShim.call, QueueShim.completeJob, found] at called
      cases called
      refine .moves (by simp) ?_
      by_cases same : key = jobId
      · refine .settle (.inl (by simp [same])) (Nat.le_refl _) ?_ (Nat.le_refl _)
        simp [QueueShim.tokens, copies_eraseP]
      · exact .stay (by simp [QueueShim.tokens, copies_eraseP, same])

theorem call_moves (called : shim.call label = some (after, caller, events)) :
    CallMoves jobId shim label after events held := by
  cases label with
  | enqueue id name payload now =>
      cases called
      by_cases same : id = jobId
      · subst same
        refine .arrive name payload now rfl rfl ?_ rfl
        simp [QueueShim.tokens, QueueShim.newJob]
      · refine .moves (by simpa using Ne.symm same) (.stay ?_)
        simp [QueueShim.tokens, QueueShim.newJob, same]
  | dequeue now =>
      cases called
      exact .moves List.not_mem_nil dequeue_moves
  | completeJob key => exact completeJob_moves called
  | failJob key error => exact failJob_moves called
  | setHandler => cases called; exact .moves List.not_mem_nil (.stay rfl)
  | drainDlq => cases called; exact .moves List.not_mem_nil (.stay rfl)
  | enqueueCounted => cases called
  | failResumed => cases called
  | failDropped => cases called
  | start => cases called
  | stop => cases called
  | work worker input => cases called

/-- A call puts its caller to sleep only by suspending a running job. -/
theorem call_retrying {delaySecs : Nat}
    (called : shim.call label = some (after, .retrying job delaySecs, events)) :
    Suspends shim job.id label ∧ 0 < copies job.id shim.inner.runningJobs ∧ events = [] := by
  cases label with
  | failJob key error =>
      cases found : shim.running key with
      | none =>
          simp only [QueueShim.call, QueueShim.failJob, found] at called
          cases called
      | some suspended =>
          by_cases retried : nextAttempt suspended.attempts ≤ suspended.maxRetries
          · simp only [QueueShim.call, QueueShim.failJob, found, QueueShim.failedOnce, retried,
              if_true] at called
            cases called
            have same : suspended.id = key := running_id found
            exact ⟨⟨same.symm, by simp [QueueShim.retries, found, retried]⟩,
              same ▸ running_copies found, rfl⟩
          · simp only [QueueShim.call, QueueShim.failJob, found, QueueShim.failedOnce, retried,
              if_false] at called
            cases called
  | completeJob key =>
      simp only [QueueShim.call] at called
      split at called <;> cases called
  | _ => cases called

end Call

/-! ## A step of the whole system -/

section Step

variable {history next : History} {label : Label}

/-- The caller sleeps in `fail_job` with the job in its hands. -/
def Sleeping (history : History) (jobId : String) : Prop :=
  ∃ job delaySecs, history.system.caller = .retrying job delaySecs ∧ job.id = jobId

inductive StepMoves (jobId : String) (history : History) (label : Label) (next : History)
    (events : List Event) : Prop where
  | arrive (fresh : .enqueued jobId ∉ history.log) (idle : history.system.caller = .idle)
      (logged : events = [.enqueued jobId])
      (pending : (next.system.tokens jobId).pending = (history.system.tokens jobId).pending + 1)
      (running : (next.system.tokens jobId).running = (history.system.tokens jobId).running)
      (held : (next.system.tokens jobId).held = (history.system.tokens jobId).held)
  | moves (quiet : .enqueued jobId ∉ events)
      (move : Move (Settles jobId events) (Suspends history.system.shim jobId label)
        (Sleeping history jobId) (history.system.tokens jobId) (next.system.tokens jobId))

theorem Move.imp {settles suspends resumes suspends' resumes' : Prop} {before after : Tokens}
    (suspending : suspends → suspends') (resuming : resumes → resumes')
    (move : Move settles suspends resumes before after) :
    Move settles suspends' resumes' before after := by
  cases move with
  | stay same => exact .stay same
  | settle settled pending running held => exact .settle settled pending running held
  | take pending running held => exact .take pending running held
  | requeue pending running held => exact .requeue pending running held
  | suspend suspended pending running held =>
      exact .suspend (suspending suspended) pending running held
  | resume resumed pending running held => exact .resume (resuming resumed) pending running held

theorem workStep_moves {index : Nat} {input : Input}
    (taken : history.workStep index input = some next) (jobId : String) :
    ∃ events, next.log = history.log ++ events ∧ next.system.caller = history.system.caller ∧
      StepMoves jobId history (.work index input) next events := by
  simp only [History.workStep, Option.map_eq_some_iff] at taken
  obtain ⟨worker, found, rfl⟩ := taken
  obtain ⟨others, before, after⟩ := heldCopies_set found jobId
  obtain ⟨quiet, move⟩ := work_moves history.system.shim jobId worker.phase others
  refine ⟨_, rfl, rfl, .moves quiet ?_⟩
  rw [System.tokens, System.tokens, before, after]
  exact move

theorem heldCopies_start (system : System) (jobId : String) :
    heldCopies jobId system.start.workers = heldCopies jobId system.workers := by
  simp only [System.start]
  split
  · simp [heldCopies, Phase.copies, Phase.job?]
  · rfl

theorem callStep_idle (idle : history.system.caller = .idle)
    (taken : history.callStep label = some next) :
    (label = .start ∧ next = { history with system := history.system.start }) ∨
      (label = .stop ∧ next = { history with system := history.system.stop }) ∨
      ∃ shim caller events, Fresh history label ∧
        history.system.shim.call label = some (shim, caller, events) ∧
        next = ⟨{ history.system with shim := shim, caller := caller }, history.log ++ events⟩ := by
  simp only [History.callStep, idle] at taken
  split at taken
  · cases taken
    exact .inl ⟨rfl, rfl⟩
  · cases taken
    exact .inr (.inl ⟨rfl, rfl⟩)
  · split at taken
    · rename_i fresh
      obtain ⟨⟨shim, caller, events⟩, called, rfl⟩ := Option.map_eq_some_iff.mp taken
      exact .inr (.inr ⟨shim, caller, events, fresh, called, rfl⟩)
    · cases taken
  · next busy _ _ => exact (busy rfl).elim

theorem callStep_suspended (suspended : history.system.caller ≠ .idle)
    (taken : history.callStep label = some next) :
    ∃ shim, history.system.caller.resume history.system.shim label = some shim ∧
      next = ⟨{ history.system with shim := shim, caller := .idle }, history.log⟩ := by
  simp only [History.callStep] at taken
  split at taken
  · exact absurd ‹_› suspended
  · exact absurd ‹_› suspended
  · exact absurd ‹_› suspended
  · obtain ⟨shim, resumed, rfl⟩ := Option.map_eq_some_iff.mp taken
    exact ⟨shim, resumed, rfl⟩

theorem resume_moves {caller : Caller} {after : QueueShim} {settles : Prop}
    (resumed : caller.resume shim label = some after) (jobId : String) (held : Nat) :
    Move settles suspends (∃ job delaySecs, caller = .retrying job delaySecs ∧ job.id = jobId)
      (shim.tokens jobId held) (after.tokens jobId held) := by
  cases caller with
  | idle => simp [Caller.resume] at resumed
  | counting =>
      cases label <;> simp only [Caller.resume] at resumed <;> cases resumed
      exact .stay rfl
  | retrying job delaySecs =>
      cases label <;> simp only [Caller.resume] at resumed <;> cases resumed
      · by_cases same : job.id = jobId
        · refine .resume ⟨job, delaySecs, rfl, same⟩ ?_ rfl rfl
          simp [QueueShim.tokens, QueueShim.requeue, same]
        · exact .stay (by simp [QueueShim.tokens, QueueShim.requeue, same])
      · exact .stay rfl

theorem callStep_moves (taken : history.callStep label = some next) (jobId : String) :
    ∃ events, next.log = history.log ++ events ∧ StepMoves jobId history label next events := by
  by_cases idle : history.system.caller = .idle
  · rcases callStep_idle idle taken with ⟨rfl, rfl⟩ | ⟨rfl, rfl⟩ | ⟨shim, caller, events, fresh, called, rfl⟩
    · refine ⟨[], (List.append_nil _).symm, .moves List.not_mem_nil (.stay ?_)⟩
      simp only [System.tokens, heldCopies_start]
      rfl
    · exact ⟨[], (List.append_nil _).symm, .moves List.not_mem_nil (.stay rfl)⟩
    · refine ⟨events, rfl, ?_⟩
      have moves : CallMoves jobId history.system.shim label shim events
          (heldCopies jobId history.system.workers) := call_moves called
      cases moves with
      | arrive name payload now enqueue logged pending running =>
          subst enqueue
          exact .arrive fresh idle logged pending running rfl
      | moves quiet move => exact .moves quiet (move.imp id False.elim)
  · obtain ⟨shim, resumed, rfl⟩ := callStep_suspended idle taken
    exact ⟨[], (List.append_nil _).symm,
      .moves List.not_mem_nil (resume_moves resumed jobId _)⟩

/-- Every step of the system appends its events to the log and, for each job,
either brings the job in or moves its copies in one of six ways. -/
theorem step_moves (taken : machine.step history label = some next) (jobId : String) :
    ∃ events, next.log = history.log ++ events ∧ StepMoves jobId history label next events := by
  cases label with
  | work index input =>
      obtain ⟨events, logged, _, moves⟩ := workStep_moves taken jobId
      exact ⟨events, logged, moves⟩
  | _ => exact callStep_moves taken jobId

/-- A step that leaves the caller asleep found it asleep, or put it to sleep
with a running job. -/
theorem step_retrying {job : Job} {delaySecs : Nat} (taken : machine.step history label = some next)
    (asleep : next.system.caller = .retrying job delaySecs) :
    history.system.caller = .retrying job delaySecs ∨
      (Suspends history.system.shim job.id label ∧
        0 < copies job.id history.system.shim.inner.runningJobs ∧ next.log = history.log) := by
  cases label with
  | work index input =>
      obtain ⟨events, _, caller, _⟩ := workStep_moves taken job.id
      exact .inl (caller.symm.trans asleep)
  | _ =>
      by_cases idle : history.system.caller = .idle
      · rcases callStep_idle idle taken with ⟨_, rfl⟩ | ⟨_, rfl⟩ | ⟨shim, caller, events, _, called, rfl⟩
        · exact .inl asleep
        · exact .inl asleep
        · subst asleep
          obtain ⟨suspends, running, rfl⟩ := call_retrying called
          exact .inr ⟨suspends, running, List.append_nil _⟩
      · obtain ⟨shim, _, rfl⟩ := callStep_suspended idle taken
        cases asleep

end Step

end Evergreen.Queue
