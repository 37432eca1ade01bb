import Evergreen.Machine.Duration
import Evergreen.Queue.Jobs

namespace Evergreen.Queue

/-! # Workers and callers around one queue

The tasks of `spawn_workers` and the caller that owns the shim, interleaved at
the points where they take the lock or wait.  The caller's methods borrow the
shim exclusively, so while one of them is suspended no other is called; the
workers go on.  A worker whose handler panics is one that steps no more.
-/

abbrev HandlerResult := Except String Unit

/-- Where a worker's loop stands: every phase but the first two and the last
holds the job that the worker took. -/
inductive Phase where
  | top
  | polling
  | taken (job : Job)
  | expired (job : Job)
  | handling (job : Job)
  | handled (job : Job) (result : HandlerResult)
  | stopped
deriving DecidableEq

def Phase.job? : Phase → Option Job
  | .taken job => some job
  | .expired job => some job
  | .handling job => some job
  | .handled job _ => some job
  | .top => none
  | .polling => none
  | .stopped => none

structure Worker where
  channel : Nat
  phase : Phase
deriving DecidableEq

inductive Event where
  | enqueued (jobId : String)
  | started (jobId : String)
  | completed (jobId : String)
  | buried (jobId : String)
deriving DecidableEq, Repr

/-- The caller of the public methods: between two calls, about to count the
job it pushed, or asleep in `fail_job`. -/
inductive Caller where
  | idle
  | counting
  | retrying (job : Job) (delaySecs : Nat)
deriving DecidableEq, Repr

/-- `channels` are the values sent on the shutdown channels of the `start`s. -/
structure System where
  shim : QueueShim
  channels : List Bool
  workers : List Worker
  caller : Caller
deriving DecidableEq

def System.new (shim : QueueShim) : System where
  shim := shim
  channels := []
  workers := []
  caller := .idle

def QueueShim.timedOut (shim : QueueShim) (now started : Int) : Bool :=
  shim.jobTimeoutSecs < secondsAsU64 (now - started)

structure Input where
  checkedAt : Int
  now : Int
  result : HandlerResult

def timedOutInQueue (job : Job) : Job :=
  { job with status := .dead, lastError := some "Job timed out in queue" }

def timedOutRunning (job : Job) : Job :=
  { job with status := .dead, lastError := some "Job execution timed out" }

def QueueShim.overdue (shim : QueueShim) (job : Job) (now : Int) : Bool :=
  match job.startedAt with
  | some started => shim.timedOut now started
  | none => false

/-- The worker's dequeue section.  It does not look at `max_workers`. -/
def QueueShim.poll (shim : QueueShim) (input : Input) : QueueShim × Phase × List Event :=
  match shim.inner.pending with
  | [] => (shim, .top, [])
  | job :: pending =>
      if shim.overdue job input.checkedAt then
        (((shim.setPending pending).pushDead (timedOutInQueue job)
          "Timed out waiting for processing").countDead, .top, [.buried job.id])
      else
        let started := { job with status := .running, startedAt := some input.now }
        ((shim.setPending pending).pushRunning started, .taken started, [])

def QueueShim.settle (shim : QueueShim) (job : Job) (result : HandlerResult) :
    QueueShim × Phase × List Event :=
  let shim := shim.removeRunning job.id
  match result with
  | .ok () => (shim.countProcessed, .top, [.completed job.id])
  | .error message =>
      let job := QueueShim.failedOnce job message
      if job.attempts ≤ shim.maxRetries then
        (shim.countRetried.requeue job, .top, [])
      else
        (((shim.pushDead { job with status := .dead } s!"Exceeded retries: {message}").countFailed
          ).countDead, .top, [.buried job.id])

/-- One step of a worker, given the value its shutdown channel holds. -/
def QueueShim.work (shim : QueueShim) (shutdown : Bool) (input : Input) :
    Phase → QueueShim × Phase × List Event
  | .top => (shim, if shutdown then .stopped else .polling, [])
  | .polling => shim.poll input
  | .taken job =>
      if shim.overdue job input.checkedAt then (shim, .expired job, [])
      else (shim, .handling job, [.started job.id])
  | .expired job =>
      (((shim.removeRunning job.id).pushDead (timedOutRunning job) "Execution timed out").countDead,
        .top, [.buried job.id])
  | .handling job => (shim, .handled job input.result, [])
  | .handled job result => shim.settle job result
  | .stopped => (shim, .stopped, [])

/-- `start` opens a channel and, when a handler is set, spawns the workers. -/
def System.start (system : System) : System :=
  let shim := system.shim
  { system with
    shim := { shim with
      shutdownTx := some system.channels.length
      inner := { shim.inner with active := true } }
    channels := system.channels ++ [false]
    workers := if shim.hasHandler then
        system.workers ++ List.replicate shim.maxWorkers ⟨system.channels.length, .top⟩
      else system.workers }

def System.stop (system : System) : System :=
  let shim := system.shim
  { system with
    shim := { shim with
      shutdownTx := none
      inner := { shim.inner with active := false } }
    channels := match shim.shutdownTx with
      | some channel => system.channels.set channel true
      | none => system.channels }

structure History where
  system : System
  log : List Event

def History.new (shim : QueueShim) : History := ⟨.new shim, []⟩

inductive Label where
  | setHandler
  | enqueue (id name : String) (payload : List UInt8) (now : Int)
  | enqueueCounted
  | dequeue (now : Int)
  | completeJob (jobId : String)
  | failJob (jobId error : String)
  | failResumed
  | failDropped
  | drainDlq
  | start
  | stop
  | work (worker : Nat) (input : Input)

/-- A public method called on an idle shim: its first section, what the caller
does next, and what happened. -/
def QueueShim.call (shim : QueueShim) : Label → Option (QueueShim × Caller × List Event)
  | .setHandler => some ({ shim with hasHandler := true }, .idle, [])
  | .enqueue id name payload now =>
      some (shim.pushPending (shim.newJob id name payload now), .counting, [.enqueued id])
  | .dequeue now => some ((shim.dequeue now).1, .idle, [])
  | .completeJob jobId =>
      match shim.completeJob jobId with
      | (shim, .ok ()) => some (shim, .idle, [.completed jobId])
      | (shim, .error _) => some (shim, .idle, [])
  | .failJob jobId error =>
      match shim.failJob jobId error with
      | (shim, .notFound _) => some (shim, .idle, [])
      | (shim, .dead) => some (shim, .idle, [.buried jobId])
      | (shim, .sleeping job delaySecs) => some (shim, .retrying job delaySecs, [])
  | .drainDlq => some (shim.drainDlq.1, .idle, [])
  | _ => none

def Caller.resume (shim : QueueShim) : Caller → Label → Option QueueShim
  | .counting, .enqueueCounted => some shim.countEnqueued
  | .retrying job _, .failResumed => some (shim.requeue job)
  | .retrying _ _, .failDropped => some shim
  | _, _ => none

/-- UUIDs are fresh: an id is handed out once. -/
def Fresh (history : History) : Label → Prop
  | .enqueue id _ _ _ => .enqueued id ∉ history.log
  | _ => True

instance (history : History) (label : Label) : Decidable (Fresh history label) := by
  cases label <;> unfold Fresh <;> infer_instance

def History.callStep (history : History) (label : Label) : Option History :=
  let system := history.system
  match system.caller, label with
  | .idle, .start => some { history with system := system.start }
  | .idle, .stop => some { history with system := system.stop }
  | .idle, label =>
      if Fresh history label then
        (system.shim.call label).map fun (shim, caller, events) =>
          { system := { system with shim := shim, caller := caller }, log := history.log ++ events }
      else none
  | caller, label =>
      (caller.resume system.shim label).map fun shim =>
        { history with system := { system with shim := shim, caller := .idle } }

def History.workStep (history : History) (index : Nat) (input : Input) : Option History :=
  let system := history.system
  system.workers[index]?.map fun worker =>
    let (shim, phase, events) :=
      system.shim.work (system.channels.getD worker.channel false) input worker.phase
    { system := { system with
        shim := shim
        workers := system.workers.set index { worker with phase := phase } }
      log := history.log ++ events }

/-- Any interleaving of the caller's and the workers' sections. -/
def machine : Machine History Label where
  step
    | history, .work index input => history.workStep index input
    | history, label => history.callStep label

end Evergreen.Queue
