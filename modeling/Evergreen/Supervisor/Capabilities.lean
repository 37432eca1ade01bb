import Mathlib.Data.List.Basic

namespace Evergreen.Supervisor

/-! # The capabilities of a shim process

The start and the end of `run_shim`: the loop that initialises and starts the
capabilities, the start of the child, and the unwinding after the monitor loop.
A run is determined by the outcomes of the calls it makes; the trace records
every call with its outcome.
-/

def criticalCapabilities : List String := ["health", "migration"]

/-- A capability and what its methods return in this run. -/
structure Capability where
  name : String
  init : Except String Unit
  start : Except String Unit
  stop : Except String Unit

def Capability.critical (capability : Capability) : Bool :=
  criticalCapabilities.contains capability.name

inductive Call where
  | init (index : Nat) (result : Except String Unit)
  | start (index : Nat) (result : Except String Unit)
  | stop (index : Nat) (result : Except String Unit)
  | childStart (result : Except String Unit)
  | childStop (result : Except String Unit)

structure CapabilityOutcome where
  name : String
  started : Bool
  error : Option String
deriving DecidableEq, Repr

structure Startup where
  calls : List Call
  outcomes : List CapabilityOutcome
  successful : List Nat

def Startup.empty : Startup := ⟨[], [], []⟩

namespace Startup

def fail (startup : Startup) (calls : List Call) (name error : String) : Startup :=
  { startup with
    calls := startup.calls ++ calls
    outcomes := startup.outcomes ++ [⟨name, false, some error⟩] }

def succeed (startup : Startup) (calls : List Call) (index : Nat) (name : String) : Startup where
  calls := startup.calls ++ calls
  outcomes := startup.outcomes ++ [⟨name, true, none⟩]
  successful := startup.successful ++ [index]

/-- One iteration; an error is the early return of a critical capability. -/
def startOne (startup : Startup) (index : Nat) (capability : Capability) :
    Startup × Except String Unit :=
  let name := capability.name
  match capability.init with
  | .error error =>
      (startup.fail [.init index capability.init] name s!"init failed: {error}",
        if capability.critical then
          .error s!"Critical capability '{name}' failed to initialize: {error}"
        else .ok ())
  | .ok () =>
      match capability.start with
      | .error error =>
          (startup.fail [.init index capability.init, .start index capability.start] name
              s!"start failed: {error}",
            if capability.critical then
              .error s!"Critical capability '{name}' failed to start: {error}"
            else .ok ())
      | .ok () =>
          (startup.succeed [.init index capability.init, .start index capability.start] index name,
            .ok ())

def startAll : Startup → Nat → List Capability → Startup × Except String Unit
  | startup, _, [] => (startup, .ok ())
  | startup, index, capability :: rest =>
      match startup.startOne index capability with
      | (startup, .error error) => (startup, .error error)
      | (startup, .ok ()) => startup.startAll (index + 1) rest

end Startup

/-- `capabilities[index].stop()`; an index out of range would panic. -/
def stopResult (capabilities : List Capability) (index : Nat) : Except String Unit :=
  match capabilities[index]? with
  | some capability => capability.stop
  | none => .error "index out of bounds"

/-- The unwinding loop, whose `?` leaves at the first error. -/
def stopAll (capabilities : List Capability) : List Nat → List Call × Except String Unit
  | [] => ([], .ok ())
  | index :: rest =>
      match stopResult capabilities index with
      | .error error => ([.stop index (.error error)], .error error)
      | .ok () =>
          let (calls, result) := stopAll capabilities rest
          (.stop index (.ok ()) :: calls, result)

/-- How `run_shim` ends: with an error, with an explicit exit code, or normally. -/
inductive Exit where
  | error (message : String)
  | code (value : Int)
  | ok
deriving DecidableEq, Repr

def Exit.status : Exit → Int
  | .error _ => 1
  | .code value => value
  | .ok => 0

/-- What happens around the monitor loop: the outcomes of the calls on the
child, those of its grace restart if there is one, and the exit code that is
captured after the loop. -/
structure ChildRun where
  start : Except String Unit
  restart : Option (Except String Unit × Except String Unit)
  exitCode : Option Int
  stop : Except String Unit

def ChildRun.restartCalls (child : ChildRun) : List Call :=
  match child.restart with
  | some (stop, start) => [.childStop stop, .childStart start]
  | none => []

/-- After the capabilities have stopped: a captured exit code is propagated. -/
def exitAfter (childExitCode : Option Int) : Except String Unit → Exit
  | .error error => .error error
  | .ok () =>
      match childExitCode with
      | some code => .code code
      | none => .ok

def runShim (capabilities : List Capability) (child : ChildRun) : List Call × Exit :=
  match Startup.empty.startAll 0 capabilities with
  | (startup, .error error) => (startup.calls, .error error)
  | (startup, .ok ()) =>
      let calls := startup.calls ++ [.childStart child.start]
      match child.start with
      | .error error => (calls, .error error)
      | .ok () =>
          let calls := calls ++ child.restartCalls ++ [.childStop child.stop]
          match child.stop with
          | .error error => (calls, .error error)
          | .ok () =>
              let (stops, result) := stopAll capabilities startup.successful.reverse
              (calls ++ stops, exitAfter child.exitCode result)

end Evergreen.Supervisor
