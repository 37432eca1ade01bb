import Evergreen.Supervisor.Monitor

namespace Evergreen.Supervisor

open Evergreen.Process (Environment System WaitStatus)

/-! # The exit status of the shim

Nothing ever writes `ChildProcess::exit_code`: the reaper that learns the status
only logs it.  So the code captured after the loop is `None`, the shim exits
with 0, and that is the child's status only when the child exited with 0.
-/

/-- A shim that exits without an error after its child died by itself exits with
the child's status. -/
def Propagates (shim : Shim) : Prop :=
  ∀ exit status, shim.stage = .done exit → (∀ error, exit ≠ .error error) →
    shim.process.endedByItself = some status → exit.status = status.code

/-- When the shim is about to exit without an error, a child that died by itself
had exited with 0. -/
def EndedCleanly (shim : Shim) (step : Step) : Prop :=
  step = .unwind → shim.stage = .unwinding →
    (stopAll shim.capabilities shim.successful.reverse).2.isOk = true →
      ∀ status, shim.process.endedByItself = some status → status = .exited 0

structure Unrecorded (shim : Shim) : Prop where
  child : shim.process.child.exitCode = none
  captured : shim.childExitCode = none
  propagates : Propagates shim

variable {shim next : Shim} {system after : System}

/-! ## The child's exit code is never written -/

theorem exitCode_environment {event : Environment} (taken : system.environment event = some after) :
    after.child.exitCode = system.child.exitCode :=
  congrArg _ (System.environment_leaves taken).1

theorem exitCode_start {pidfd : Option Nat} {spawned : Except String Nat} {result : Except String Unit}
    (started : system.start pidfd spawned = some (after, result)) :
    after.child.exitCode = system.child.exitCode := by
  rcases System.start_cases started with ⟨_, _, _, child, _⟩ | ⟨_, _, _, _, _, child, _⟩ <;> rw [child]

theorem exitCode_beginStop : system.beginStop.child.exitCode = system.child.exitCode := by
  rw [system.beginStop_leaves.1]

theorem exitCode_stopStep (stopping : Process.Stopping) (answer : System.Answer) :
    (system.stopStep stopping answer).child.exitCode = system.child.exitCode := by
  rcases system.stopStep_cases stopping answer with finished | ⟨child, _⟩
  · rw [finished]
    rfl
  · rw [child]

/-! ## Steps of the shim -/

theorem propagates_of_running (running : ∀ exit, shim.stage ≠ .done exit) : Propagates shim :=
  fun exit _ done => absurd done (running exit)

theorem Unrecorded.childExited (unrecorded : Unrecorded shim) (elapsed : Nat) :
    Unrecorded (shim.childExited elapsed) := by
  simp only [Shim.childExited]
  split
  · exact ⟨exitCode_beginStop.trans unrecorded.child, unrecorded.captured,
      propagates_of_running (by simp)⟩
  · exact ⟨unrecorded.child, unrecorded.captured, propagates_of_running (by simp)⟩

theorem Unrecorded.capture (unrecorded : Unrecorded shim) : Unrecorded shim.capture where
  child := exitCode_beginStop.trans unrecorded.child
  captured := by
    simp only [Shim.capture, unrecorded.child]
    split <;> rfl
  propagates := propagates_of_running (by simp [Shim.capture])

theorem exitAfter_none (result : Except String Unit) :
    exitAfter none result = .ok ∧ result.isOk = true ∨ ∃ error, exitAfter none result = .error error := by
  cases result with
  | ok => exact .inl ⟨rfl, rfl⟩
  | error error => exact .inr ⟨error, rfl⟩

theorem Unrecorded.unwind (unrecorded : Unrecorded shim)
    (clean : (stopAll shim.capabilities shim.successful.reverse).2.isOk = true →
      ∀ status, shim.process.endedByItself = some status → status = .exited 0) :
    Unrecorded shim.unwind where
  child := unrecorded.child
  captured := unrecorded.captured
  propagates exit status done failed ended := by
    cases done
    rw [unrecorded.captured] at failed ⊢
    rcases exitAfter_none (stopAll shim.capabilities shim.successful.reverse).2 with
      ⟨normal, stops⟩ | ⟨error, fails⟩
    · rw [normal, clean stops status ended]
      rfl
    · exact absurd fails (failed error)

theorem WaitStatus.code_eq_zero {status : WaitStatus} : status.code = 0 ↔ status = .exited 0 := by
  cases status with
  | exited value => simp [WaitStatus.code]
  | signaled signal =>
      simp only [WaitStatus.code, reduceCtorEq, iff_false]
      omega

theorem Unrecorded.step {label : Step} (unrecorded : Unrecorded shim) (clean : EndedCleanly shim label)
    (taken : machine.step shim label = some next) : Unrecorded next := by
  have child := unrecorded.child
  have captured := unrecorded.captured
  have begins : ∀ {pidfd spawned process result},
      shim.process.start pidfd spawned = some (process, result) → process.child.exitCode = none :=
    fun began => (exitCode_start began).trans child
  have moves : Moves shim label next := moves_of_step taken
  cases moves with
  | environment running ran =>
      exact ⟨(exitCode_environment ran).trans child, captured, propagates_of_running running⟩
  | started _ began => exact ⟨begins began, captured, propagates_of_running nofun⟩
  | failed _ began =>
      refine ⟨begins began, captured, fun exit status done failed => ?_⟩
      cases done
      exact absurd rfl (failed _)
  | turns _ target =>
      refine ⟨child, captured, propagates_of_running ?_⟩
      rintro exit rfl
      rcases target with loops | left
      · cases loops
      · cases left
  | exited => exact unrecorded.childExited _
  | stops stage =>
      refine ⟨(exitCode_stopStep _ _).trans child, captured, propagates_of_running ?_⟩
      rcases stage with stage | stage <;> rw [stage] <;> exact nofun
  | stopped => exact ⟨child, captured, propagates_of_running nofun⟩
  | restarted _ began => exact ⟨begins began, captured, propagates_of_running nofun⟩
  | lost _ began => exact ⟨begins began, captured, propagates_of_running nofun⟩
  | captured => exact unrecorded.capture
  | finished => exact ⟨child, captured, propagates_of_running nofun⟩
  | unwound stage => exact unrecorded.unwind (clean rfl stage)

/-! ## Whole runs -/

theorem Unrecorded.boot (capabilities : List Capability) (startupGraceSecs : Nat)
    (kernel : Process.Kernel) : Unrecorded (.boot capabilities startupGraceSecs kernel) where
  child := rfl
  captured := rfl
  propagates exit status _ _ ended := by cases ended

theorem Unrecorded.unwind_loses {label : Step} (unrecorded : Unrecorded shim)
    (unclean : ¬ EndedCleanly shim label) (taken : machine.step shim label = some next) :
    ¬ Propagates next := by
  simp only [EndedCleanly, Classical.not_imp, not_forall] at unclean
  obtain ⟨rfl, stage, stops, status, ended, different⟩ := unclean
  have moves : Moves shim .unwind next := moves_of_step taken
  have unwound : next = shim.unwind := by
    cases moves with
    | unwound => rfl
    | turns loop | exited loop =>
        rw [stage] at loop
        cases loop
  subst unwound
  intro propagates
  have normal : exitAfter shim.childExitCode
      (stopAll shim.capabilities shim.successful.reverse).2 = .ok := by
    rw [unrecorded.captured]
    rcases exitAfter_none (stopAll shim.capabilities shim.successful.reverse).2 with
      ⟨normal, _⟩ | ⟨error, fails⟩
    · exact normal
    · cases result : (stopAll shim.capabilities shim.successful.reverse).2 with
      | ok => rfl
      | error error =>
          rw [result] at stops
          cases stops
  have code : Exit.status .ok = status.code := by
    apply propagates .ok status
    · simp only [Shim.unwind, normal]
    · exact nofun
    · exact ended
  exact different (WaitStatus.code_eq_zero.mp code.symm)

/-- The child's status is propagated throughout a run if and only if every shim
that exits without an error after its child died by itself had a child that
exited with 0. -/
theorem always_propagates_iff (capabilities : List Capability) (startupGraceSecs : Nat)
    (kernel : Process.Kernel) (steps : List Step) :
    machine.Always Propagates (.boot capabilities startupGraceSecs kernel) steps ↔
      machine.Along EndedCleanly (.boot capabilities startupGraceSecs kernel) steps :=
  Machine.always_iff_along Unrecorded
    (fun _ unrecorded => unrecorded.propagates)
    (fun _ _ _ unrecorded clean taken => unrecorded.step clean taken)
    (fun _ _ _ unrecorded unclean taken => unrecorded.unwind_loses unclean taken)
    (.boot capabilities startupGraceSecs kernel)

/-- The child exits with 1 ten seconds after its start, and the shim with 0. -/
theorem not_always_propagates :
    ¬ machine.Always Propagates (.boot [] 5 .empty)
      [.start none (.ok 7), .environment (.exit 7 (.exited 1)), .check false, .probe 10, .capture,
        .stop ⟨false, false⟩, .environment (.reap 7), .stop ⟨false, false⟩, .stop ⟨false, false⟩,
        .stop ⟨false, false⟩, .stop ⟨false, false⟩, .stopped, .unwind] := by
  intro always
  have propagates := always.last rfl
  have code := propagates .ok (.exited 1) rfl nofun rfl
  cases code

end Evergreen.Supervisor
