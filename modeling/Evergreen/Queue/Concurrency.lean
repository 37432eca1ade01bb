import Evergreen.Queue.Tokens

namespace Evergreen.Queue

/-! # How many jobs run at once

`dequeue` hands a job out only below `max_workers`; the dequeue section of a
worker does not look at the limit.  Every other section leaves `running_jobs`
alone or shortens it.
-/

/-- The limits are set when the shim is made and never written. -/
structure SameLimits (shim after : QueueShim) : Prop where
  maxWorkers : after.maxWorkers = shim.maxWorkers
  maxRetries : after.maxRetries = shim.maxRetries

/-- The dequeue section of a worker takes the first pending job. -/
def QueueShim.TakesJob (shim : QueueShim) (input : Input) (phase : Phase) : Prop :=
  phase = .polling ∧ ∃ job pending, shim.inner.pending = job :: pending ∧
    shim.overdue job input.checkedAt = false

/-- A worker takes a job only while there is room for it. -/
def RoomForWorker (history : History) : Label → Prop
  | .work index input => ∀ worker, history.system.workers[index]? = some worker →
      history.system.shim.TakesJob input worker.phase →
      history.system.shim.inner.runningJobs.length < history.system.shim.maxWorkers
  | _ => True

def WithinLimit (history : History) : Prop :=
  history.system.shim.inner.runningJobs.length ≤ history.system.shim.maxWorkers

variable {shim after : QueueShim} {caller later : Caller} {events : List Event}
variable {history next : History} {label : Label} {shutdown : Bool} {input : Input} {phase : Phase}

theorem length_eraseP_le (jobId : String) (jobs : List Job) :
    (jobs.eraseP (withId jobId)).length ≤ jobs.length := List.length_eraseP_le

/-! ## A worker's section -/

theorem settle_limits (job : Job) (result : HandlerResult) :
    SameLimits shim (shim.settle job result).1 ∧
      (shim.settle job result).1.inner.runningJobs.length ≤ shim.inner.runningJobs.length := by
  have shorter := length_eraseP_le job.id shim.inner.runningJobs
  cases result with
  | ok => exact ⟨⟨rfl, rfl⟩, shorter⟩
  | error message =>
      simp only [QueueShim.settle]
      split
      · exact ⟨⟨rfl, rfl⟩, shorter⟩
      · exact ⟨⟨rfl, rfl⟩, shorter⟩

theorem work_limits : SameLimits shim (shim.work shutdown input phase).1 := by
  cases phase with
  | polling =>
      simp only [QueueShim.work, QueueShim.poll]
      split
      · exact ⟨rfl, rfl⟩
      · split <;> exact ⟨rfl, rfl⟩
  | taken job =>
      simp only [QueueShim.work]
      split <;> exact ⟨rfl, rfl⟩
  | handled job result => exact (settle_limits job result).1
  | _ => exact ⟨rfl, rfl⟩

theorem work_takes (takes : shim.TakesJob input phase) :
    (shim.work shutdown input phase).1.inner.runningJobs.length =
      shim.inner.runningJobs.length + 1 := by
  obtain ⟨rfl, job, pending, waiting, prompt⟩ := takes
  simp [QueueShim.work, QueueShim.poll, waiting, prompt]

theorem work_keeps (keeps : ¬ shim.TakesJob input phase) :
    (shim.work shutdown input phase).1.inner.runningJobs.length ≤ shim.inner.runningJobs.length := by
  cases phase with
  | polling =>
      simp only [QueueShim.work, QueueShim.poll]
      cases waiting : shim.inner.pending with
      | nil => exact Nat.le_refl _
      | cons job pending =>
          cases overdue : shim.overdue job input.checkedAt with
          | true => simp [overdue]
          | false => exact absurd ⟨rfl, job, pending, waiting, overdue⟩ keeps
  | taken job =>
      simp only [QueueShim.work]
      split <;> exact Nat.le_refl _
  | expired job => exact length_eraseP_le job.id shim.inner.runningJobs
  | handled job result => exact (settle_limits job result).2
  | _ => exact Nat.le_refl _

/-! ## A caller's section -/

theorem dequeue_limits {now : Int} (within : shim.inner.runningJobs.length ≤ shim.maxWorkers) :
    SameLimits shim (shim.dequeue now).1 ∧
      (shim.dequeue now).1.inner.runningJobs.length ≤ shim.maxWorkers := by
  simp only [QueueShim.dequeue]
  split
  · rename_i room
    cases waiting : shim.inner.pending with
    | nil => exact ⟨⟨rfl, rfl⟩, within⟩
    | cons job pending =>
        refine ⟨⟨rfl, rfl⟩, ?_⟩
        rw [QueueShim.runningJobs_pushRunning, List.length_append]
        exact room
  · exact ⟨⟨rfl, rfl⟩, within⟩

theorem failJob_limits (jobId error : String) :
    SameLimits shim (shim.failJob jobId error).1 ∧
      (shim.failJob jobId error).1.inner.runningJobs.length ≤ shim.inner.runningJobs.length := by
  have shorter := length_eraseP_le jobId shim.inner.runningJobs
  simp only [QueueShim.failJob]
  split
  · split <;> exact ⟨⟨rfl, rfl⟩, shorter⟩
  · exact ⟨⟨rfl, rfl⟩, Nat.le_refl _⟩

theorem completeJob_limits (jobId : String) :
    SameLimits shim (shim.completeJob jobId).1 ∧
      (shim.completeJob jobId).1.inner.runningJobs.length ≤ shim.inner.runningJobs.length := by
  simp only [QueueShim.completeJob]
  split
  · exact ⟨⟨rfl, rfl⟩, length_eraseP_le jobId shim.inner.runningJobs⟩
  · exact ⟨⟨rfl, rfl⟩, Nat.le_refl _⟩

theorem call_limits (called : shim.call label = some (after, later, events))
    (within : shim.inner.runningJobs.length ≤ shim.maxWorkers) :
    SameLimits shim after ∧ after.inner.runningJobs.length ≤ shim.maxWorkers := by
  cases label with
  | dequeue now => cases called; exact dequeue_limits within
  | completeJob jobId =>
      obtain ⟨limits, shorter⟩ := @completeJob_limits shim jobId
      simp only [QueueShim.call] at called
      split at called <;> rename_i completed <;> rw [completed] at limits shorter <;>
        cases called <;> exact ⟨limits, shorter.trans within⟩
  | failJob jobId error =>
      obtain ⟨limits, shorter⟩ := @failJob_limits shim jobId error
      simp only [QueueShim.call] at called
      split at called <;> rename_i failed <;> rw [failed] at limits shorter <;>
        cases called <;> exact ⟨limits, shorter.trans within⟩
  | enqueue id name payload now => cases called; exact ⟨⟨rfl, rfl⟩, within⟩
  | setHandler => cases called; exact ⟨⟨rfl, rfl⟩, within⟩
  | drainDlq => cases called; exact ⟨⟨rfl, rfl⟩, within⟩
  | _ => cases called

theorem resume_limits (resumed : caller.resume shim label = some after) :
    SameLimits shim after ∧ after.inner.runningJobs = shim.inner.runningJobs := by
  cases caller with
  | idle => simp [Caller.resume] at resumed
  | counting =>
      cases label <;> simp only [Caller.resume] at resumed <;> cases resumed
      exact ⟨⟨rfl, rfl⟩, rfl⟩
  | retrying job delaySecs =>
      cases label <;> simp only [Caller.resume] at resumed <;> cases resumed
      · exact ⟨⟨rfl, rfl⟩, rfl⟩
      · exact ⟨⟨rfl, rfl⟩, rfl⟩

/-! ## A step of the whole system -/

theorem callStep_limits (taken : history.callStep label = some next)
    (within : WithinLimit history) :
    SameLimits history.system.shim next.system.shim ∧ WithinLimit next := by
  by_cases idle : history.system.caller = .idle
  · rcases callStep_idle idle taken with ⟨_, rfl⟩ | ⟨_, rfl⟩ | ⟨shim, caller, events, _, called, rfl⟩
    · exact ⟨⟨rfl, rfl⟩, within⟩
    · exact ⟨⟨rfl, rfl⟩, within⟩
    · obtain ⟨limits, bounded⟩ := call_limits called within
      exact ⟨limits, bounded.trans_eq limits.maxWorkers.symm⟩
  · obtain ⟨shim, resumed, rfl⟩ := callStep_suspended idle taken
    obtain ⟨limits, same⟩ := resume_limits resumed
    refine ⟨limits, ?_⟩
    unfold WithinLimit at within ⊢
    rw [same, limits.maxWorkers]
    exact within

theorem WithinLimit.step (within : WithinLimit history) (room : RoomForWorker history label)
    (taken : machine.step history label = some next) : WithinLimit next := by
  cases label with
  | work index input =>
      simp only [machine, History.workStep, Option.map_eq_some_iff] at taken
      obtain ⟨worker, found, rfl⟩ := taken
      unfold WithinLimit at within ⊢
      rw [work_limits.maxWorkers]
      by_cases takes : history.system.shim.TakesJob input worker.phase
      · rw [work_takes takes]
        exact room worker found takes
      · exact (work_keeps takes).trans within
  | _ => exact (callStep_limits taken within).2

theorem step_exceeds (crowded : ¬ RoomForWorker history label)
    (taken : machine.step history label = some next) : ¬ WithinLimit next := by
  cases label with
  | work index input =>
      simp only [RoomForWorker, not_forall, Nat.not_lt] at crowded
      obtain ⟨worker, found, takes, full⟩ := crowded
      simp only [machine, History.workStep, found, Option.map_some, Option.some.injEq] at taken
      subst taken
      unfold WithinLimit
      rw [work_limits.maxWorkers, work_takes takes]
      omega
  | _ => exact absurd trivial crowded

/-- `running_jobs` stays within `max_workers` exactly in the runs in which every
worker that takes a job finds room for it. -/
theorem always_withinLimit_iff
    (maxWorkers maxRetries retryBaseSecs retryMaxSecs jobTimeoutSecs : Nat) (labels : List Label) :
    machine.Always WithinLimit
        (.new (.new maxWorkers maxRetries retryBaseSecs retryMaxSecs jobTimeoutSecs)) labels ↔
      machine.Along RoomForWorker
        (.new (.new maxWorkers maxRetries retryBaseSecs retryMaxSecs jobTimeoutSecs)) labels :=
  Machine.always_iff_along WithinLimit (fun _ within => within)
    (fun _ _ _ within room taken => within.step room taken)
    (fun _ _ _ _ crowded taken => step_exceeds crowded taken) (Nat.zero_le _)

/-- One worker, one job run by the caller through `dequeue`, one by the worker. -/
theorem not_always_withinLimit : ¬ machine.Always WithinLimit (.new (.new 1 3 5 300 300))
    [.setHandler, .enqueue "first" "mail" [] 0, .enqueueCounted, .enqueue "second" "mail" [] 0,
      .enqueueCounted, .start, .dequeue 0, .work 0 ⟨1, 1, .ok ()⟩, .work 0 ⟨1, 1, .ok ()⟩] := by
  intro always
  exact absurd (always.last rfl) (by unfold WithinLimit; decide)

end Evergreen.Queue
