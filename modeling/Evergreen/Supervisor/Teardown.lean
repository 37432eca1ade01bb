import Evergreen.Supervisor.Capabilities
import Mathlib.Data.List.Nodup

namespace Evergreen.Supervisor

/-! # Teardown

Which runs of `run_shim` stop what they started.  The early returns before the
unwinding loop, and the `?` inside it, leave started capabilities running.
-/

def started : List Call → List Nat :=
  List.filterMap fun
    | .start index (.ok ()) => some index
    | _ => none

def stopped : List Call → List Nat :=
  List.filterMap fun
    | .stop index _ => some index
    | _ => none

/-- Every started capability was stopped exactly once, in reverse order, and
nothing else was. -/
def TornDown (calls : List Call) : Prop :=
  stopped calls = (started calls).reverse ∧ (stopped calls).Nodup

instance (calls : List Call) : Decidable (TornDown calls) :=
  inferInstanceAs (Decidable (_ ∧ _))

def Capability.starts (capability : Capability) : Bool :=
  capability.init.isOk && capability.start.isOk

/-- A critical capability that does not come up ends the run. -/
def Capability.fatal (capability : Capability) : Bool :=
  capability.critical && !capability.starts

/-- The capabilities that come up before the first fatal one, by index. -/
def running : Nat → List Capability → List Nat
  | _, [] => []
  | index, capability :: rest =>
      if capability.fatal then []
      else if capability.starts then index :: running (index + 1) rest
      else running (index + 1) rest

/-- The runs that reach the end of the unwinding loop, or have nothing to stop. -/
def Unwinds (capabilities : List Capability) (child : ChildRun) : Prop :=
  running 0 capabilities = [] ∨
    (∀ capability ∈ capabilities, capability.fatal = false) ∧ child.start.isOk = true ∧
      child.stop.isOk = true ∧
      ∀ index ∈ (running 0 capabilities).tail, (stopResult capabilities index).isOk = true

@[simp] theorem started_append (calls more : List Call) :
    started (calls ++ more) = started calls ++ started more := List.filterMap_append

@[simp] theorem stopped_append (calls more : List Call) :
    stopped (calls ++ more) = stopped calls ++ stopped more := List.filterMap_append

@[simp] theorem started_childStart (result : Except String Unit) (calls : List Call) :
    started (.childStart result :: calls) = started calls := rfl

@[simp] theorem stopped_childStart (result : Except String Unit) (calls : List Call) :
    stopped (.childStart result :: calls) = stopped calls := rfl

@[simp] theorem started_childStop (result : Except String Unit) (calls : List Call) :
    started (.childStop result :: calls) = started calls := rfl

@[simp] theorem stopped_childStop (result : Except String Unit) (calls : List Call) :
    stopped (.childStop result :: calls) = stopped calls := rfl

@[simp] theorem started_nil : started [] = [] := rfl

@[simp] theorem stopped_nil : stopped [] = [] := rfl

variable {capabilities : List Capability} {capability : Capability} {child : ChildRun}
variable {startup : Startup} {index : Nat}

/-! ## The start-up loop -/

/-- What a run of the loop adds, and whether it ends in an early return. -/
structure StartsUp (startup : Startup) (added : List Nat) (fatal : Bool)
    (after : Startup × Except String Unit) : Prop where
  successful : after.1.successful = startup.successful ++ added
  started : started after.1.calls = started startup.calls ++ added
  stopped : stopped after.1.calls = stopped startup.calls
  ended : after.2.isOk = !fatal

theorem startOne_startsUp : StartsUp startup (if capability.starts then [index] else [])
    capability.fatal (startup.startOne index capability) := by
  cases init : capability.init with
  | error error =>
      have fails : capability.starts = false := by simp [Capability.starts, init, Except.isOk, Except.toBool]
      constructor
      · simp [Startup.startOne, init, Startup.fail, fails]
      · simp [Startup.startOne, init, Startup.fail, fails, Supervisor.started]
      · simp [Startup.startOne, init, Startup.fail, Supervisor.stopped]
      · cases critical : capability.critical <;>
          simp [Startup.startOne, init, Capability.fatal, fails, critical, Except.isOk, Except.toBool]
  | ok =>
      cases start : capability.start with
      | error error =>
          have fails : capability.starts = false := by
            simp [Capability.starts, start, Except.isOk, Except.toBool]
          constructor
          · simp [Startup.startOne, init, start, Startup.fail, fails]
          · simp [Startup.startOne, init, start, Startup.fail, fails, Supervisor.started]
          · simp [Startup.startOne, init, start, Startup.fail, Supervisor.stopped]
          · cases critical : capability.critical <;>
              simp [Startup.startOne, init, start, Capability.fatal, fails, critical, Except.isOk,
                Except.toBool]
      | ok =>
          have starts : capability.starts = true := by
            simp [Capability.starts, init, start, Except.isOk, Except.toBool]
          constructor
          · simp [Startup.startOne, init, start, Startup.succeed, starts]
          · simp [Startup.startOne, init, start, Startup.succeed, starts, Supervisor.started]
          · simp [Startup.startOne, init, start, Startup.succeed, Supervisor.stopped]
          · simp [Startup.startOne, init, start, Capability.fatal, starts, Except.isOk, Except.toBool]

theorem startAll_startsUp : StartsUp startup (running index capabilities)
    (capabilities.any Capability.fatal) (startup.startAll index capabilities) := by
  induction capabilities generalizing startup index with
  | nil =>
      exact ⟨(List.append_nil _).symm, (List.append_nil _).symm, rfl, rfl⟩
  | cons capability rest ih =>
      have one : StartsUp startup (if capability.starts then [index] else []) capability.fatal
          (startup.startOne index capability) := startOne_startsUp
      obtain ⟨next, result, ran⟩ : ∃ next result, startup.startOne index capability = (next, result) :=
        ⟨_, _, rfl⟩
      rw [ran] at one
      cases result with
      | error error =>
          have fatal : capability.fatal = true := by
            simpa [Except.isOk, Except.toBool] using one.ended
          have down : capability.starts = false := by
            rw [Capability.fatal, Bool.and_eq_true, Bool.not_eq_true'] at fatal
            exact fatal.2
          simp only [Startup.startAll, ran, running, fatal, if_true, List.any_cons, Bool.true_or]
          simpa [down, fatal] using one
      | ok =>
          have survives : capability.fatal = false := by
            simpa [Except.isOk, Except.toBool] using one.ended
          have remaining : StartsUp next (running (index + 1) rest) (rest.any Capability.fatal)
              (next.startAll (index + 1) rest) := ih
          have added : running index (capability :: rest) =
              (if capability.starts then [index] else []) ++ running (index + 1) rest := by
            cases starts : capability.starts <;> simp [running, survives, starts]
          simp only [Startup.startAll, ran, List.any_cons, survives, Bool.false_or, added]
          constructor
          · rw [remaining.successful, one.successful, List.append_assoc]
          · rw [remaining.started, one.started, List.append_assoc]
          · rw [remaining.stopped, one.stopped]
          · exact remaining.ended

/-! ## The unwinding loop -/

theorem started_stopAll (indices : List Nat) : started (stopAll capabilities indices).1 = [] := by
  induction indices with
  | nil => rfl
  | cons index rest ih =>
      cases result : stopResult capabilities index with
      | error error =>
          simp only [stopAll, result]
          rfl
      | ok =>
          simp only [stopAll, result]
          exact ih

theorem stopped_stopAll_cons_ok {rest : List Nat} (stops : stopResult capabilities index = .ok ()) :
    stopped (stopAll capabilities (index :: rest)).1 =
      index :: stopped (stopAll capabilities rest).1 := by
  simp only [stopAll, stops]
  rfl

theorem stopped_stopAll_cons_error {rest : List Nat} {error : String}
    (stops : stopResult capabilities index = .error error) :
    stopped (stopAll capabilities (index :: rest)).1 = [index] := by
  simp only [stopAll, stops]
  rfl

/-- The loop calls every `stop` if and only if no `stop` but the last one fails. -/
theorem stopped_stopAll_iff (indices : List Nat) :
    stopped (stopAll capabilities indices).1 = indices ↔
      ∀ index ∈ indices.dropLast, (stopResult capabilities index).isOk = true := by
  induction indices with
  | nil => exact ⟨fun _ _ member => absurd member List.not_mem_nil, fun _ => rfl⟩
  | cons index rest ih =>
      cases rest with
      | nil =>
          refine ⟨fun _ _ member => absurd member List.not_mem_nil, fun _ => ?_⟩
          cases result : stopResult capabilities index with
          | error error => exact stopped_stopAll_cons_error result
          | ok => exact stopped_stopAll_cons_ok result
      | cons second rest =>
          rw [List.dropLast_cons_cons, List.forall_mem_cons]
          cases result : stopResult capabilities index with
          | error error =>
              rw [stopped_stopAll_cons_error result]
              constructor
              · intro complete
                cases complete
              · intro stops
                cases stops.1
          | ok =>
              rw [stopped_stopAll_cons_ok result, List.cons.injEq, ih]
              exact ⟨fun complete => ⟨rfl, complete.2⟩, fun stops => ⟨rfl, stops.2⟩⟩

/-! ## The whole run -/

theorem running_lower {other : Nat} (member : other ∈ running index capabilities) : index ≤ other := by
  induction capabilities generalizing index with
  | nil => cases member
  | cons capability rest ih =>
      simp only [running] at member
      split at member
      · cases member
      · split at member
        · rcases List.mem_cons.mp member with rfl | later
          · exact Nat.le_refl _
          · exact Nat.le_of_succ_le (ih later)
        · exact Nat.le_of_succ_le (ih member)

theorem running_nodup : (running index capabilities).Nodup := by
  induction capabilities generalizing index with
  | nil => exact List.nodup_nil
  | cons capability rest ih =>
      simp only [running]
      split
      · exact List.nodup_nil
      · split
        · refine List.nodup_cons.mpr ⟨fun again => ?_, ih⟩
          exact absurd (running_lower again) (Nat.not_succ_le_self index)
        · exact ih

/-- A run that ends before the unwinding loop is torn down only when it had
started nothing. -/
theorem tornDown_early {calls : List Call} (begun : started calls = running 0 capabilities)
    (none : stopped calls = []) : TornDown calls ↔ running 0 capabilities = [] := by
  rw [TornDown, begun, none]
  constructor
  · intro torn
    exact List.reverse_eq_nil_iff.mp torn.1.symm
  · intro nothing
    rw [nothing]
    exact ⟨rfl, List.nodup_nil⟩

theorem isOk_of_ok {result : Except String Unit} (done : result = .ok ()) : result.isOk = true := by
  rw [done]
  rfl

theorem not_isOk_of_error {result : Except String Unit} {error : String} (fails : result = .error error) :
    ¬ result.isOk = true := by
  rw [fails]
  exact Bool.false_ne_true

/-- A run that leaves early leaves `Unwinds` only its first alternative. -/
theorem unwinds_early (cut : ¬ ((∀ capability ∈ capabilities, capability.fatal = false) ∧
      child.start.isOk = true ∧ child.stop.isOk = true)) :
    Unwinds capabilities child ↔ running 0 capabilities = [] := by
  refine ⟨fun unwinds => ?_, .inl⟩
  rcases unwinds with nothing | ⟨survive, start, stop, _⟩
  · exact nothing
  · exact absurd ⟨survive, start, stop⟩ cut

/-- With the child started and stopped, all that is left is what the unwinding loop does. -/
theorem unwinds_stopAll (survive : ∀ capability ∈ capabilities, capability.fatal = false)
    (start : child.start = .ok ()) (stop : child.stop = .ok ()) :
    stopped (stopAll capabilities (running 0 capabilities).reverse).1 =
      (running 0 capabilities).reverse ↔ Unwinds capabilities child := by
  rw [stopped_stopAll_iff, List.dropLast_reverse]
  constructor
  · intro stops
    exact .inr ⟨survive, isOk_of_ok start, isOk_of_ok stop, fun index member =>
      stops index (List.mem_reverse.mpr member)⟩
  · intro unwinds index member
    rcases unwinds with nothing | ⟨_, _, _, stops⟩
    · rw [nothing] at member
      cases member
    · exact stops index (List.mem_reverse.mp member)

theorem runShim_fatal {startup : Startup} {error : String}
    (ran : Startup.empty.startAll 0 capabilities = (startup, .error error)) :
    TornDown (runShim capabilities child).1 ↔ Unwinds capabilities child := by
  have begins : StartsUp .empty (running 0 capabilities) (capabilities.any Capability.fatal)
      (Startup.empty.startAll 0 capabilities) := startAll_startsUp
  rw [ran] at begins
  have fatal : capabilities.any Capability.fatal = true := by
    simpa [Except.isOk, Except.toBool] using begins.ended
  obtain ⟨capability, member, fails⟩ := List.any_eq_true.mp fatal
  have cut : ¬ ((∀ capability ∈ capabilities, capability.fatal = false) ∧
      child.start.isOk = true ∧ child.stop.isOk = true) := by
    intro survives
    rw [survives.1 capability member] at fails
    cases fails
  have started : started startup.calls = running 0 capabilities := begins.started
  have stopped : stopped startup.calls = [] := begins.stopped
  rw [unwinds_early cut]
  apply tornDown_early
  · simpa only [runShim, ran] using started
  · simpa only [runShim, ran] using stopped

theorem runShim_begun {startup : Startup}
    (ran : Startup.empty.startAll 0 capabilities = (startup, .ok ())) :
    TornDown (runShim capabilities child).1 ↔ Unwinds capabilities child := by
  have begins : StartsUp .empty (running 0 capabilities) (capabilities.any Capability.fatal)
      (Startup.empty.startAll 0 capabilities) := startAll_startsUp
  rw [ran] at begins
  have survive : ∀ capability ∈ capabilities, capability.fatal = false := by
    have none : capabilities.any Capability.fatal = false := by
      simpa [Except.isOk, Except.toBool] using begins.ended
    simpa using none
  have started : started startup.calls = running 0 capabilities := begins.started
  have stopped : stopped startup.calls = [] := begins.stopped
  have successful : startup.successful = running 0 capabilities := begins.successful
  have restarts : Supervisor.started child.restartCalls = [] ∧ Supervisor.stopped child.restartCalls = [] := by
    unfold ChildRun.restartCalls
    split <;> exact ⟨rfl, rfl⟩
  cases start : child.start with
  | error error =>
      rw [unwinds_early fun all => not_isOk_of_error start all.2.1]
      apply tornDown_early
      · simpa [runShim, ran, start] using started
      · simpa [runShim, ran, start] using stopped
  | ok =>
      cases stop : child.stop with
      | error error =>
          rw [unwinds_early fun all => not_isOk_of_error stop all.2.2]
          apply tornDown_early
          · simpa [runShim, ran, start, stop, restarts.1] using started
          · simpa [runShim, ran, start, stop, restarts.2] using stopped
      | ok =>
          have begun : Supervisor.started (runShim capabilities child).1 = running 0 capabilities := by
            simpa [runShim, ran, start, stop, restarts.1, started_stopAll] using started
          have unwound : Supervisor.stopped (runShim capabilities child).1 =
              Supervisor.stopped (stopAll capabilities (running 0 capabilities).reverse).1 := by
            simp [runShim, ran, start, stop, stopped, restarts.2, successful]
          have distinct : (running 0 capabilities).reverse.Nodup :=
            List.nodup_reverse.mpr running_nodup
          rw [TornDown, begun, unwound, ← unwinds_stopAll survive start stop]
          constructor
          · intro torn
            exact torn.1
          · intro complete
            rw [complete]
            exact ⟨rfl, distinct⟩

/-- Every started capability is stopped exactly once and in reverse order if and
only if nothing was started, or no critical capability failed, the child was
started and stopped, and no `stop` but that of the capability started first
failed. -/
theorem runShim_tornDown_iff (capabilities : List Capability) (child : ChildRun) :
    TornDown (runShim capabilities child).1 ↔ Unwinds capabilities child := by
  cases ran : Startup.empty.startAll 0 capabilities with
  | mk startup result =>
      cases result with
      | error error => exact runShim_fatal ran
      | ok => exact runShim_begun ran

/-- One capability is up when the child's command turns out not to exist. -/
theorem runShim_not_tornDown : ¬ TornDown (runShim [⟨"cache", .ok (), .ok (), .ok ()⟩]
    ⟨.error "No such file or directory", none, none, .ok ()⟩).1 := by
  decide

end Evergreen.Supervisor
