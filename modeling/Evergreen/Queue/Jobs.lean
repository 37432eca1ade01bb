import Evergreen.Machine.Run
import Mathlib.Algebra.Order.Ring.Nat
import Mathlib.Data.List.Basic

namespace Evergreen.Queue

/-! # The in-memory job queue

`QueueShim` and its public calls.  Every definition is what a call does under
one acquisition of the inner lock; `fail_job` has two such sections with a
sleep between them, in which the job is in no collection.

Timestamps are nanoseconds: the only strings ever parsed back are those that
`to_rfc3339` printed.
-/

inductive JobStatus where
  | pending
  | running
  | completed
  | failed
  | retrying
  | dead
deriving DecidableEq, Repr

structure Job where
  id : String
  name : String
  payload : List UInt8
  status : JobStatus
  attempts : Nat
  maxRetries : Nat
  createdAt : Int
  startedAt : Option Int
  lastError : Option String
deriving DecidableEq, Repr

structure ArchivedJob where
  job : Job
  reason : String
deriving DecidableEq, Repr

structure QueueInner where
  pending : List Job
  runningJobs : List Job
  deadLetterQueue : List ArchivedJob
  active : Bool
deriving DecidableEq, Repr

/-- `shutdownTx` names the shutdown channel of the last `start`, if any. -/
structure QueueShim where
  maxWorkers : Nat
  maxRetries : Nat
  retryBaseSecs : Nat
  retryMaxSecs : Nat
  jobTimeoutSecs : Nat
  jobsEnqueued : Nat
  jobsProcessed : Nat
  jobsFailed : Nat
  jobsRetried : Nat
  jobsDead : Nat
  shutdownTx : Option Nat
  inner : QueueInner
  hasHandler : Bool
deriving DecidableEq, Repr

/-- `attempts += 1` on a `u32`, as the release profile computes it. -/
def nextAttempt (attempts : Nat) : Nat := (attempts + 1) % 2 ^ 32

/-- `position` by id and `remove`, as one lookup and one erasure. -/
def withId (jobId : String) (job : Job) : Bool := job.id == jobId

@[simp] theorem withId_iff {jobId : String} {job : Job} : withId jobId job = true ↔ job.id = jobId :=
  beq_iff_eq

namespace QueueShim

def new (maxWorkers maxRetries retryBaseSecs retryMaxSecs jobTimeoutSecs : Nat) : QueueShim where
  maxWorkers := maxWorkers
  maxRetries := maxRetries
  retryBaseSecs := retryBaseSecs
  retryMaxSecs := retryMaxSecs
  jobTimeoutSecs := jobTimeoutSecs
  jobsEnqueued := 0
  jobsProcessed := 0
  jobsFailed := 0
  jobsRetried := 0
  jobsDead := 0
  shutdownTx := none
  inner := { pending := [], runningJobs := [], deadLetterQueue := [], active := false }
  hasHandler := false

def running (shim : QueueShim) (jobId : String) : Option Job :=
  shim.inner.runningJobs.find? (withId jobId)

def pushPending (shim : QueueShim) (job : Job) : QueueShim :=
  { shim with inner := { shim.inner with pending := shim.inner.pending ++ [job] } }

def pushRunning (shim : QueueShim) (job : Job) : QueueShim :=
  { shim with inner := { shim.inner with runningJobs := shim.inner.runningJobs ++ [job] } }

def pushDead (shim : QueueShim) (job : Job) (reason : String) : QueueShim :=
  { shim with inner :=
      { shim.inner with deadLetterQueue := shim.inner.deadLetterQueue ++ [⟨job, reason⟩] } }

def removeRunning (shim : QueueShim) (jobId : String) : QueueShim :=
  { shim with inner :=
      { shim.inner with runningJobs := shim.inner.runningJobs.eraseP (withId jobId) } }

def setPending (shim : QueueShim) (pending : List Job) : QueueShim :=
  { shim with inner := { shim.inner with pending := pending } }

/-- `max_retries` is copied into the job; the id is a fresh UUID. -/
def newJob (shim : QueueShim) (id name : String) (payload : List UInt8) (now : Int) : Job where
  id := id
  name := name
  payload := payload
  status := .pending
  attempts := 0
  maxRetries := shim.maxRetries
  createdAt := now
  startedAt := none
  lastError := none

/-- The counter moves after the lock of `enqueue` has been released. -/
def countEnqueued (shim : QueueShim) : QueueShim :=
  { shim with jobsEnqueued := shim.jobsEnqueued + 1 }

def countProcessed (shim : QueueShim) : QueueShim :=
  { shim with jobsProcessed := shim.jobsProcessed + 1 }

def countRetried (shim : QueueShim) : QueueShim :=
  { shim with jobsRetried := shim.jobsRetried + 1 }

def countDead (shim : QueueShim) : QueueShim :=
  { shim with jobsDead := shim.jobsDead + 1 }

def countFailed (shim : QueueShim) : QueueShim :=
  { shim with jobsFailed := shim.jobsFailed + 1 }

def dequeue (shim : QueueShim) (now : Int) : QueueShim × Option Job :=
  if shim.inner.runningJobs.length < shim.maxWorkers then
    match shim.inner.pending with
    | job :: pending =>
        let started := { job with status := .running, startedAt := some now }
        ((shim.setPending pending).pushRunning started, some started)
    | [] => (shim, none)
  else (shim, none)

def notRunning (jobId : String) : String := s!"Job {jobId} not found in running state"

def completeJob (shim : QueueShim) (jobId : String) : QueueShim × Except String Unit :=
  match shim.running jobId with
  | some _ => ((shim.removeRunning jobId).countProcessed, .ok ())
  | none => (shim, .error (notRunning jobId))

/-- Seconds, with the `u64` product wrapping as in the release profile. -/
def retryDelay (shim : QueueShim) (attempt : Nat) : Nat :=
  let delaySecs := shim.retryBaseSecs * min (2 ^ min attempt 31) (2 ^ 32 - 1) % 2 ^ 64
  min delaySecs shim.retryMaxSecs

inductive Failing where
  | notFound (error : String)
  | dead
  | sleeping (job : Job) (delaySecs : Nat)
deriving DecidableEq, Repr

def failedOnce (job : Job) (error : String) : Job :=
  { job with attempts := nextAttempt job.attempts, lastError := some error }

/-- `fail_job` up to the point where it returns or starts to sleep.  The
retried job has then left `running_jobs` and entered nothing. -/
def failJob (shim : QueueShim) (jobId error : String) : QueueShim × Failing :=
  match shim.running jobId with
  | some found =>
      let job := failedOnce found error
      let shim := shim.removeRunning jobId
      if job.attempts ≤ job.maxRetries then
        (shim.countRetried, .sleeping { job with status := .retrying }
          (shim.retryDelay ((job.attempts + (2 ^ 32 - 1)) % 2 ^ 32)))
      else
        let maxRetries := shim.maxRetries
        (((shim.pushDead { job with status := .dead }
            s!"Exceeded {maxRetries} retries: {error}").countFailed).countDead, .dead)
  | none => (shim, .notFound (notRunning jobId))

def requeue (shim : QueueShim) (job : Job) : QueueShim :=
  shim.pushPending { job with status := .pending, startedAt := none }

def queueDepth (shim : QueueShim) : Nat :=
  shim.inner.pending.length + shim.inner.runningJobs.length

def drainDlq (shim : QueueShim) : QueueShim × List ArchivedJob :=
  ({ shim with inner := { shim.inner with deadLetterQueue := [] } }, shim.inner.deadLetterQueue)

/-! ## What the updates leave in the two live collections -/

section Collections

variable (shim : QueueShim) (job : Job) (jobId reason : String) (jobs : List Job)

@[simp] theorem pending_pushPending :
    (shim.pushPending job).inner.pending = shim.inner.pending ++ [job] := rfl

@[simp] theorem runningJobs_pushPending :
    (shim.pushPending job).inner.runningJobs = shim.inner.runningJobs := rfl

@[simp] theorem pending_pushRunning :
    (shim.pushRunning job).inner.pending = shim.inner.pending := rfl

@[simp] theorem runningJobs_pushRunning :
    (shim.pushRunning job).inner.runningJobs = shim.inner.runningJobs ++ [job] := rfl

@[simp] theorem pending_pushDead :
    (shim.pushDead job reason).inner.pending = shim.inner.pending := rfl

@[simp] theorem runningJobs_pushDead :
    (shim.pushDead job reason).inner.runningJobs = shim.inner.runningJobs := rfl

@[simp] theorem pending_removeRunning :
    (shim.removeRunning jobId).inner.pending = shim.inner.pending := rfl

@[simp] theorem runningJobs_removeRunning :
    (shim.removeRunning jobId).inner.runningJobs = shim.inner.runningJobs.eraseP (withId jobId) := rfl

@[simp] theorem pending_setPending :
    (shim.setPending jobs).inner.pending = jobs := rfl

@[simp] theorem runningJobs_setPending :
    (shim.setPending jobs).inner.runningJobs = shim.inner.runningJobs := rfl

@[simp] theorem inner_countEnqueued : shim.countEnqueued.inner = shim.inner := rfl

@[simp] theorem inner_countProcessed : shim.countProcessed.inner = shim.inner := rfl

@[simp] theorem inner_countRetried : shim.countRetried.inner = shim.inner := rfl

@[simp] theorem inner_countDead : shim.countDead.inner = shim.inner := rfl

@[simp] theorem inner_countFailed : shim.countFailed.inner = shim.inner := rfl

end Collections

end QueueShim

end Evergreen.Queue
