import Evergreen.Machine.Run
import Evergreen.Process.Kernel

namespace Evergreen.Process

/-! # The managed child process

`ChildProcess` with the reaper tasks it leaves behind and the shutdown handlers
that its `stop` runs.  `stop` waits at many points, so it is cut into one step
for every probe and every signal; the kernel and the reapers act in between.
-/

inductive ProcessState where
  | stopped
  | starting
  | running
  | stopping
  | failed
deriving DecidableEq, Repr

inductive DatabaseType where
  | postgres
  | redis
  | generic
deriving DecidableEq, Repr

/-- `child` is the handle of the process with that serial number. -/
structure ChildProcess where
  startupGraceSecs : Nat
  pid : Option Nat
  child : Option Nat
  state : ProcessState
  dbType : DatabaseType
  exitCode : Option Int
  pidfd : Option Nat
deriving DecidableEq, Repr

def ChildProcess.withDbType (startupGraceSecs : Nat) (dbType : DatabaseType) : ChildProcess where
  startupGraceSecs := startupGraceSecs
  pid := none
  child := none
  state := .stopped
  dbType := dbType
  exitCode := none
  pidfd := none

/-- `ChildProcess::new`, which is what `run_shim` uses. -/
def ChildProcess.new (startupGraceSecs : Nat) : ChildProcess :=
  .withDbType startupGraceSecs .generic

inductive StopPhase where
  | sigterm
  | settling
  | checkpoint
  | polling
  | verdict
  | forcing
  | forced
  | returned (cleanExit : Bool)
  | killing
  | finishing
deriving DecidableEq, Repr

structure Stopping where
  pid : Nat
  signalsSent : Nat
  phase : StopPhase
deriving DecidableEq, Repr

/-- A signal that was delivered, with the process that got it and the child that
was meant. -/
structure Sent where
  signal : Signal
  target : Nat
  child : Option Nat
deriving DecidableEq, Repr

/-- `spawned` is the process of the last successful `start`; `endedByItself` its
status, if it died without having been signalled by the shim. -/
structure System where
  kernel : Kernel
  child : ChildProcess
  reapers : Nat
  stopping : Option Stopping
  spawned : Option Nat
  endedByItself : Option WaitStatus
  sent : List Sent

def System.new (child : ChildProcess) (kernel : Kernel) : System where
  kernel := kernel
  child := child
  reapers := 0
  stopping := none
  spawned := none
  endedByItself := none
  sent := []

/-- What the kernel and the reaper tasks do on their own. -/
inductive Environment where
  | spawnOther (pid : Nat) (waitable : Bool)
  | adopt (pid : Nat)
  | exit (pid : Nat) (status : WaitStatus)
  | reap (pid : Nat)
  | reapElsewhere (pid : Nat)
deriving DecidableEq, Repr

namespace System

def noteExit (system : System) (pid : Nat) (status : WaitStatus) : Option WaitStatus :=
  match system.kernel.table pid with
  | some process =>
      if some process.serial = system.spawned ∧ process.signalled = false then some status
      else system.endedByItself
  | none => system.endedByItself

def environment (system : System) : Environment → Option System
  | .spawnOther pid waitable =>
      (system.kernel.spawn pid waitable).map fun (kernel, _) => { system with kernel := kernel }
  | .adopt pid => (system.kernel.adopt pid).map fun kernel => { system with kernel := kernel }
  | .exit pid status => (system.kernel.exit pid status).map fun kernel =>
      { system with kernel := kernel, endedByItself := system.noteExit pid status }
  | .reap pid =>
      if 0 < system.reapers then
        (system.kernel.reap pid true).map fun kernel => { system with kernel := kernel }
      else none
  | .reapElsewhere pid =>
      (system.kernel.reap pid false).map fun kernel => { system with kernel := kernel }

/-- The fields `start` sets once the process exists, and the reaper it spawns. -/
def adoptChild (system : System) (kernel : Kernel) (pid serial : Nat) : System :=
  { system with
    kernel := kernel
    child := { system.child with pid := some pid, child := some serial, state := .running }
    reapers := system.reapers + 1
    spawned := some serial
    endedByItself := none }

def openPidfd (system : System) (pid : Nat) : Option Nat → Option System
  | none => some system
  | some fd => (system.kernel.pidfdOpen pid fd).map fun kernel =>
      { system with kernel := kernel, child := { system.child with pidfd := some fd } }

/-- `start`: the spawn may fail, the PID may be invalid, and the pidfd may be
unavailable.  The result is the state and what the call returns. -/
def start (system : System) (pidfd : Option Nat) :
    Except String Nat → Option (System × Except String Unit)
  | .error error => some (system, .error error)
  | .ok pid =>
      (system.kernel.spawn pid true).bind fun (kernel, serial) =>
        if pid = 0 then
          some ({ system with kernel := kernel }, .error "child process has no valid PID")
        else
          ((system.adoptChild kernel pid serial).openPidfd pid pidfd).map fun system =>
            (system, .ok ())

/-- Delivers a signal to whatever process has the PID now. -/
def kill (system : System) (signal : Signal) (pid : Nat) : System :=
  match system.kernel.table pid with
  | some process =>
      { system with
        kernel := system.kernel.markSignalled pid
        sent := system.sent ++ [⟨signal, process.serial, system.spawned⟩] }
  | none => system

/-- `stop` up to its first wait; without a PID it returns at once. -/
def beginStop (system : System) : System :=
  match system.child.pid with
  | some pid =>
      { system with
        child := { system.child with state := .stopping }
        stopping := some ⟨pid, 0, .sigterm⟩ }
  | none => system

/-- The end of `stop`: the handle is dropped, the PID and the pidfd are cleared. -/
def finishStop (system : System) : System :=
  let kernel := match system.child.pidfd with
    | some fd => system.kernel.close fd
    | none => system.kernel
  { system with
    kernel := kernel
    child := { system.child with child := none, pid := none, pidfd := none, state := .stopped }
    stopping := none }

def moveTo (system : System) (stopping : Stopping) (phase : StopPhase) : System :=
  { system with stopping := some { stopping with phase := phase } }

def countSignal (stopping : Stopping) : Stopping :=
  { stopping with signalsSent := stopping.signalsSent + 1 }

/-- What a probe or a signal of `stop` meets: a permission error, or the end of
the time limit of the wait it is in. -/
structure Answer where
  denied : Bool
  timeout : Bool
deriving DecidableEq, Repr

/-- The wait after SIGTERM: PostgreSQL and Redis sleep first, the generic
handler polls. -/
def afterSigterm : DatabaseType → StopPhase
  | .postgres => .settling
  | .redis => .settling
  | .generic => .polling

def stopStep (system : System) (stopping : Stopping) (answer : Answer) : System :=
  let pid := stopping.pid
  let alive := system.kernel.reaches pid answer.denied
  match stopping.phase with
  | .sigterm =>
      if alive then
        (system.kill .sigterm pid).moveTo (countSignal stopping) (afterSigterm system.child.dbType)
      else system.moveTo stopping (.returned false)
  | .settling =>
      system.moveTo stopping
        (if alive then
          if system.child.dbType = .postgres then .checkpoint else .polling
        else .returned true)
  | .checkpoint => system.moveTo stopping (if alive then .polling else .verdict)
  | .polling => system.moveTo stopping (if alive && !answer.timeout then .polling else .verdict)
  | .verdict =>
      if system.child.dbType = .generic then
        system.moveTo stopping (if alive then .forcing else .returned true)
      else system.moveTo stopping (.returned !alive)
  | .forcing =>
      if alive then (system.kill .sigkill pid).moveTo (countSignal stopping) .forced
      else system.moveTo stopping .forced
  | .forced => system.moveTo stopping (.returned false)
  | .returned cleanExit =>
      system.moveTo stopping
        (if !cleanExit && system.kernel.running pid then .killing else .finishing)
  | .killing =>
      if alive then (system.kill .sigkill pid).moveTo stopping .finishing
      else system.moveTo stopping .finishing
  | .finishing => system.finishStop

def isRunning (system : System) : Bool :=
  match system.child.pid with
  | some pid => system.kernel.running pid
  | none => false

/-! ## What the steps leave alone -/

variable {system after : System}

/-- The kernel and the reapers leave the child's fields, its `stop` and the open
descriptors as they are. -/
theorem environment_leaves {event : Environment} (taken : system.environment event = some after) :
    after.child = system.child ∧ after.stopping = system.stopping ∧
      after.kernel.pidfds = system.kernel.pidfds := by
  cases event with
  | spawnOther pid waitable =>
      obtain ⟨⟨kernel, serial⟩, spawned, rfl⟩ := Option.map_eq_some_iff.mp taken
      simp only [Kernel.spawn] at spawned
      split at spawned <;> cases spawned
      exact ⟨rfl, rfl, rfl⟩
  | adopt pid =>
      obtain ⟨kernel, adopted, rfl⟩ := Option.map_eq_some_iff.mp taken
      obtain ⟨process, _, rfl⟩ := Option.map_eq_some_iff.mp adopted
      exact ⟨rfl, rfl, rfl⟩
  | exit pid status =>
      obtain ⟨kernel, exited, rfl⟩ := Option.map_eq_some_iff.mp taken
      simp only [Kernel.exit] at exited
      split at exited
      · split at exited <;> cases exited
        exact ⟨rfl, rfl, rfl⟩
      · cases exited
  | reap pid =>
      simp only [environment] at taken
      split at taken
      · obtain ⟨kernel, reaped, rfl⟩ := Option.map_eq_some_iff.mp taken
        exact ⟨rfl, rfl, Kernel.pidfds_reap reaped⟩
      · cases taken
  | reapElsewhere pid =>
      obtain ⟨kernel, reaped, rfl⟩ := Option.map_eq_some_iff.mp taken
      exact ⟨rfl, rfl, Kernel.pidfds_reap reaped⟩

theorem kill_leaves (signal : Signal) (pid : Nat) : (system.kill signal pid).child = system.child ∧
    (system.kill signal pid).kernel.pidfds = system.kernel.pidfds := by
  simp only [kill]
  split
  · exact ⟨rfl, Kernel.pidfds_markSignalled⟩
  · exact ⟨rfl, rfl⟩

/-- The start of `stop` changes the state of the child alone, and does nothing
without a PID. -/
theorem beginStop_leaves (system : System) :
    system.beginStop.child = { system.child with state := system.beginStop.child.state } ∧
      system.beginStop.kernel = system.kernel ∧
        (system.beginStop.stopping = none → system.child.pid = none) := by
  simp only [beginStop]
  split
  case h_1 => exact ⟨rfl, rfl, nofun⟩
  case h_2 unstarted => exact ⟨rfl, rfl, fun _ => unstarted⟩

/-- A step of `stop` is its end, or leaves the child and the descriptors alone. -/
theorem stopStep_cases (system : System) (stopping : Stopping) (answer : Answer) :
    system.stopStep stopping answer = system.finishStop ∨
      (system.stopStep stopping answer).child = system.child ∧
        (system.stopStep stopping answer).kernel.pidfds = system.kernel.pidfds ∧
        (system.stopStep stopping answer).stopping ≠ none := by
  simp only [stopStep]
  split
  case h_1 =>
      split
      · exact .inr ⟨(kill_leaves _ _).1, (kill_leaves _ _).2, Option.some_ne_none _⟩
      · exact .inr ⟨rfl, rfl, Option.some_ne_none _⟩
  case h_5 => split <;> exact .inr ⟨rfl, rfl, Option.some_ne_none _⟩
  case h_6 =>
      split
      · exact .inr ⟨(kill_leaves _ _).1, (kill_leaves _ _).2, Option.some_ne_none _⟩
      · exact .inr ⟨rfl, rfl, Option.some_ne_none _⟩
  case h_9 =>
      split
      · exact .inr ⟨(kill_leaves _ _).1, (kill_leaves _ _).2, Option.some_ne_none _⟩
      · exact .inr ⟨rfl, rfl, Option.some_ne_none _⟩
  case h_10 => exact .inl rfl
  all_goals exact .inr ⟨rfl, rfl, Option.some_ne_none _⟩

/-- A start that returns has spawned a process, of which it keeps the PID, the
handle and the pidfd, or has failed and left the child alone. -/
theorem start_cases {pidfd : Option Nat} {spawned : Except String Nat} {result : Except String Unit}
    (started : system.start pidfd spawned = some (after, result)) :
    (∃ error, result = .error error ∧ (∀ pid, spawned = .ok pid → pid = 0) ∧
      after.child = system.child ∧ after.kernel.pidfds = system.kernel.pidfds) ∨
    ∃ pid serial, spawned = .ok pid ∧ pid ≠ 0 ∧ result = .ok () ∧
      after.child = { system.child with
        pid := some pid, child := some serial, state := .running
        pidfd := pidfd.or system.child.pidfd } ∧
      after.kernel.running pid = true ∧
      ∀ fd, pidfd = some fd → after.kernel.pidfds fd = some ⟨pid, serial⟩ := by
  cases spawned with
  | error error =>
      cases started
      exact .inl ⟨error, rfl, nofun, rfl, rfl⟩
  | ok pid =>
      obtain ⟨⟨kernel, serial⟩, spawned, started⟩ := Option.bind_eq_some_iff.mp started
      simp only [Kernel.spawn] at spawned
      split at spawned <;> cases spawned
      dsimp only at started
      split at started
      case isTrue invalid =>
          cases started
          refine .inl ⟨_, rfl, ?_, rfl, rfl⟩
          rintro _ ⟨⟩
          exact invalid
      case isFalse valid =>
          obtain ⟨opened, openedPidfd, done⟩ := Option.map_eq_some_iff.mp started
          cases done
          cases pidfd with
          | none =>
              cases openedPidfd
              exact .inr ⟨pid, _, rfl, valid, rfl, rfl, by simp [Kernel.running, adoptChild], nofun⟩
          | some fd =>
              obtain ⟨withPidfd, pidfdOpened, rfl⟩ := Option.map_eq_some_iff.mp openedPidfd
              simp only [Kernel.pidfdOpen, adoptChild, Kernel.put, Function.update_self] at pidfdOpened
              split at pidfdOpened
              case h_1 process found unused =>
                  cases pidfdOpened
                  obtain rfl := Option.some.inj found
                  refine .inr ⟨pid, _, rfl, valid, rfl, rfl, by simp [Kernel.running], ?_⟩
                  rintro _ ⟨⟩
                  exact Function.update_self ..
              case h_2 => cases pidfdOpened

end System

/-- One step of the kernel, of a reaper, or of the owner of the child. -/
inductive Label where
  | environment (event : Environment)
  | start (pidfd : Option Nat) (spawned : Except String Nat)
  | stop
  | stopStep (answer : System.Answer)
  | signal (signal : Signal) (denied : Bool)

/-- The owner borrows the child mutably, so nothing else is called on it while a
`stop` is under way. -/
def System.step (system : System) : Label → Option System
  | .environment event => system.environment event
  | .start pidfd spawned =>
      match system.stopping with
      | none => (system.start pidfd spawned).map Prod.fst
      | some _ => none
  | .stop =>
      match system.stopping with
      | none => some system.beginStop
      | some _ => none
  | .stopStep answer => system.stopping.map fun stopping => system.stopStep stopping answer
  | .signal signal denied =>
      match system.stopping, system.child.pid with
      | none, some pid =>
          some (if system.kernel.reaches pid denied then system.kill signal pid else system)
      | none, none => some system
      | some _, _ => none

def machine : Machine System Label where
  step := System.step

end Evergreen.Process
