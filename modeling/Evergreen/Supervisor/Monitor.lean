import Evergreen.Process.Child
import Evergreen.Supervisor.Capabilities

namespace Evergreen.Supervisor

open Evergreen.Process (Environment System WaitStatus)

/-! # The monitor loop

`run_shim` from the start of the child to the exit of the shim, one step for
every point at which the reapers and the kernel can come in between.  The
capabilities' calls are those of `Startup.startAll` and `stopAll`.
-/

inductive Stage where
  | starting
  | checking
  | probing
  | selecting
  | graceStop
  | graceStart
  | left
  | stopping
  | unwinding
  | done (exit : Exit)
deriving DecidableEq, Repr

/-- `pidfd` is the local copy taken before the loop. -/
structure Shim where
  process : System
  capabilities : List Capability
  successful : List Nat
  stage : Stage
  pidfd : Option Nat
  graceRetried : Bool
  childDied : Bool
  childExitCode : Option Int

/-- `run_shim` up to the start of the child. -/
def Shim.boot (capabilities : List Capability) (startupGraceSecs : Nat)
    (kernel : Process.Kernel) : Shim :=
  let (startup, result) := Startup.empty.startAll 0 capabilities
  { process := .new (.new startupGraceSecs) kernel
    capabilities := capabilities
    successful := startup.successful
    stage := match result with
      | .ok () => .starting
      | .error error => .done (.error error)
    pidfd := none
    graceRetried := false
    childDied := false
    childExitCode := none }

/-- What ends a `select!`: a signal to the shim, the pidfd, or neither. -/
inductive Selected where
  | signal
  | readable (elapsed : Nat)
  | timeout
deriving DecidableEq, Repr

inductive Step where
  | environment (event : Environment)
  | start (pidfd : Option Nat) (spawned : Except String Nat)
  | check (shutdown : Bool)
  | probe (elapsed : Nat)
  | select (selected : Selected)
  | stop (answer : System.Answer)
  | stopped
  | capture
  | unwind

namespace Shim

/-- The child is gone: one restart within the startup grace, else the end. -/
def childExited (shim : Shim) (elapsed : Nat) : Shim :=
  if elapsed < shim.process.child.startupGraceSecs ∧ shim.graceRetried = false then
    { shim with graceRetried := true, process := shim.process.beginStop, stage := .graceStop }
  else { shim with childDied := true, stage := .left }

def started (shim : Shim) (process : System) : Except String Unit → Option Shim
  | .ok () =>
      match shim.stage with
      | .starting => some
          { shim with process := process, pidfd := process.child.pidfd, stage := .checking }
      | .graceStart => some { shim with process := process, stage := .checking }
      | _ => none
  | .error error =>
      match shim.stage with
      | .starting => some { shim with process := process, stage := .done (.error error) }
      | .graceStart => some { shim with process := process, childDied := true, stage := .left }
      | _ => none

def select (shim : Shim) : Selected → Option Shim
  | .signal => some { shim with stage := .left }
  | .timeout => some { shim with stage := .checking }
  | .readable elapsed =>
      match shim.pidfd with
      | some fd =>
          if shim.process.kernel.readable fd then some (shim.childExited elapsed) else none
      | none => none

/-- After the loop: the exit code is captured before `stop` clears the rest. -/
def capture (shim : Shim) : Shim :=
  { shim with
    childExitCode := if shim.childDied then shim.process.child.exitCode else none
    process := shim.process.beginStop
    stage := .stopping }

def unwind (shim : Shim) : Shim :=
  let (_, result) := stopAll shim.capabilities shim.successful.reverse
  { shim with stage := .done (exitAfter shim.childExitCode result) }

/-- Nothing happens any more once the shim has exited. -/
def step (shim : Shim) (step : Step) : Option Shim :=
  match shim.stage, step with
  | .done _, _ => none
  | _, .environment event =>
      (shim.process.environment event).map fun process => { shim with process := process }
  | _, .start pidfd spawned =>
      (shim.process.start pidfd spawned).bind fun (process, result) => shim.started process result
  | .checking, .check shutdown =>
      some { shim with stage := if shutdown then .left else .probing }
  | .probing, .probe elapsed =>
      some (if shim.process.isRunning then { shim with stage := .selecting }
        else shim.childExited elapsed)
  | .selecting, .select selected => shim.select selected
  | .graceStop, .stop answer => shim.process.stopping.map fun stopping =>
      { shim with process := shim.process.stopStep stopping answer }
  | .stopping, .stop answer => shim.process.stopping.map fun stopping =>
      { shim with process := shim.process.stopStep stopping answer }
  | .graceStop, .stopped =>
      if shim.process.stopping = none then some { shim with stage := .graceStart } else none
  | .stopping, .stopped =>
      if shim.process.stopping = none then some { shim with stage := .unwinding } else none
  | .left, .capture => some shim.capture
  | .unwinding, .unwind => some shim.unwind
  | _, _ => none

end Shim

def machine : Machine Shim Step where
  step := Shim.step

/-! ## What a step may do -/

/-- The stages of an iteration of the loop. -/
def Stage.looping : Stage → Bool
  | .checking | .probing | .selecting => true
  | _ => false

/-- The steps of the shim, by the part of `run_shim` they belong to. -/
inductive Moves (shim : Shim) : Step → Shim → Prop where
  | environment {event process} (running : ∀ exit, shim.stage ≠ .done exit)
      (taken : shim.process.environment event = some process) :
      Moves shim (.environment event) { shim with process := process }
  | started {pidfd spawned process} (stage : shim.stage = .starting)
      (began : shim.process.start pidfd spawned = some (process, .ok ())) :
      Moves shim (.start pidfd spawned)
        { shim with process := process, pidfd := process.child.pidfd, stage := .checking }
  | failed {pidfd spawned process error} (stage : shim.stage = .starting)
      (began : shim.process.start pidfd spawned = some (process, .error error)) :
      Moves shim (.start pidfd spawned)
        { shim with process := process, stage := .done (.error error) }
  | turns {step} {stage : Stage} (loop : shim.stage.looping = true)
      (target : stage.looping = true ∨ stage = .left) : Moves shim step { shim with stage := stage }
  | exited {step elapsed} (loop : shim.stage.looping = true)
      (observed : step = .probe elapsed ∧ shim.process.isRunning = false ∨
        step = .select (.readable elapsed)) : Moves shim step (shim.childExited elapsed)
  | stops {answer stopping} (stage : shim.stage = .graceStop ∨ shim.stage = .stopping)
      (running : shim.process.stopping = some stopping) :
      Moves shim (.stop answer) { shim with process := shim.process.stopStep stopping answer }
  | stopped (stage : shim.stage = .graceStop) (ended : shim.process.stopping = none) :
      Moves shim .stopped { shim with stage := .graceStart }
  | restarted {pidfd spawned process} (stage : shim.stage = .graceStart)
      (began : shim.process.start pidfd spawned = some (process, .ok ())) :
      Moves shim (.start pidfd spawned) { shim with process := process, stage := .checking }
  | lost {pidfd spawned process error} (stage : shim.stage = .graceStart)
      (began : shim.process.start pidfd spawned = some (process, .error error)) :
      Moves shim (.start pidfd spawned)
        { shim with process := process, childDied := true, stage := .left }
  | captured (stage : shim.stage = .left) : Moves shim .capture shim.capture
  | finished (stage : shim.stage = .stopping) (ended : shim.process.stopping = none) :
      Moves shim .stopped { shim with stage := .unwinding }
  | unwound (stage : shim.stage = .unwinding) : Moves shim .unwind shim.unwind

variable {shim next : Shim} {label : Step}

theorem Moves.of_started {pidfd : Option Nat} {spawned : Except String Nat} {process : System}
    {result : Except String Unit} (began : shim.process.start pidfd spawned = some (process, result))
    (taken : shim.started process result = some next) : Moves shim (.start pidfd spawned) next := by
  cases result with
  | ok =>
      simp only [Shim.started] at taken
      split at taken <;> cases taken
      case h_1 stage => exact .started stage began
      case h_2 stage => exact .restarted stage began
  | error error =>
      simp only [Shim.started] at taken
      split at taken <;> cases taken
      case h_1 stage => exact .failed stage began
      case h_2 stage => exact .lost stage began

theorem Moves.of_select {selected : Selected} (stage : shim.stage = .selecting)
    (taken : shim.select selected = some next) : Moves shim (.select selected) next := by
  have loop : shim.stage.looping = true := by rw [stage]; rfl
  cases selected with
  | signal =>
      cases taken
      exact .turns loop (.inr rfl)
  | timeout =>
      cases taken
      exact .turns loop (.inl rfl)
  | readable elapsed =>
      simp only [Shim.select] at taken
      split at taken
      · split at taken <;> cases taken
        exact .exited loop (.inr rfl)
      · cases taken

theorem moves_of_step (taken : shim.step label = some next) : Moves shim label next := by
  simp only [Shim.step] at taken
  split at taken
  case h_1 => cases taken
  case h_2 running =>
      obtain ⟨process, moved, rfl⟩ := Option.map_eq_some_iff.mp taken
      exact .environment running moved
  case h_3 =>
      obtain ⟨⟨process, result⟩, began, started⟩ := Option.bind_eq_some_iff.mp taken
      exact .of_started began started
  case h_4 shutdown stage =>
      cases taken
      refine .turns (by rw [stage]; rfl) ?_
      cases shutdown with
      | true => exact .inr rfl
      | false => exact .inl rfl
  case h_5 elapsed stage =>
      split at taken <;> cases taken
      case isTrue running => exact .turns (by rw [stage]; rfl) (.inl rfl)
      case isFalse gone =>
          exact .exited (by rw [stage]; rfl) (.inl ⟨rfl, eq_false_of_ne_true gone⟩)
  case h_6 stage => exact .of_select stage taken
  case h_7 stage =>
      obtain ⟨stopping, running, rfl⟩ := Option.map_eq_some_iff.mp taken
      exact .stops (.inl stage) running
  case h_8 stage =>
      obtain ⟨stopping, running, rfl⟩ := Option.map_eq_some_iff.mp taken
      exact .stops (.inr stage) running
  case h_9 stage =>
      split at taken <;> cases taken
      case isTrue ended => exact .stopped stage ended
  case h_10 stage =>
      split at taken <;> cases taken
      case isTrue ended => exact .finished stage ended
  case h_11 stage =>
      cases taken
      exact .captured stage
  case h_12 stage =>
      cases taken
      exact .unwound stage
  case h_13 => cases taken

theorem looping_apart {stage : Stage} (target : stage.looping = true ∨ stage = .left) :
    stage ≠ .starting ∧ stage ≠ .graceStop ∧ stage ≠ .graceStart := by
  rcases target with loop | rfl
  · refine ⟨?_, ?_, ?_⟩ <;>
      · rintro rfl
        cases loop
  · exact ⟨nofun, nofun, nofun⟩

end Evergreen.Supervisor
