import Evergreen.Failover.Promotions

namespace Evergreen.Failover

/-! # What the state says about the counter and the primary

Every branch of the loop restores the relation between the state, the counter
of failures and the current primary.  The one way out of it is the counter's
own end: the 2^32nd failed check in a row counts as none.
-/

namespace FailoverShim

variable (shim : FailoverShim)

/-- The joint invariant of the shared state between two checks. -/
structure Joint (monitor : Monitor) : Prop where
  steady : monitor.shared.state = .healthy ∨ monitor.shared.state = .recovered →
    monitor.shared.consecutiveFailures = 0
  suspect : monitor.shared.state = .suspect →
    1 ≤ monitor.shared.consecutiveFailures ∧
      monitor.shared.consecutiveFailures < shim.failureThreshold
  failingOver : monitor.shared.state = .failingOver →
    shim.failureThreshold ≤ monitor.shared.consecutiveFailures
  failedOver : monitor.shared.state = .failedOver →
    monitor.shared.consecutiveFailures = 0 ∧ monitor.shared.currentPrimary = shim.replica
  recovered : monitor.shared.state = .recovered → monitor.shared.currentPrimary = shim.primary
  configured : monitor.shared.currentPrimary = shim.primary ∨
    monitor.shared.currentPrimary = shim.replica

/-- No check fails while the counter of failures is at `u32::MAX`. -/
def CountsOn (monitor : Monitor) (input : TickInput) : Prop :=
  shim.checkFailed input = true → monitor.shared.consecutiveFailures ≠ 2 ^ 32 - 1

/-- The joint invariant, with the counter a `u32`. -/
structure Sound (monitor : Monitor) : Prop where
  joint : shim.Joint monitor
  bounded : monitor.shared.consecutiveFailures < 2 ^ 32

end FailoverShim

open FailoverShim

variable {shim : FailoverShim} {monitor next : Monitor} {input : TickInput}

theorem FailoverShim.Joint.initial : shim.Joint shim.initial where
  steady _ := rfl
  suspect state := by cases state
  failingOver state := by cases state
  failedOver state := by cases state
  recovered state := by cases state
  configured := .inl rfl

theorem FailoverShim.Joint.passed (joint : shim.Joint monitor)
    (passed : Passed shim monitor next input) : shim.Joint next := by
  have zero := passed.consecutiveFailures
  rcases passed.outcome with ⟨address, state⟩ | ⟨address, state | ⟨state, notSuspect, notFailing⟩⟩
  · exact {
      steady := fun _ => zero
      suspect := fun suspect => by simp [state] at suspect
      failingOver := fun failing => by simp [state] at failing
      failedOver := fun failed => by simp [state] at failed
      recovered := fun _ => address
      configured := .inl address }
  · exact {
      steady := fun _ => zero
      suspect := fun suspect => by simp [state] at suspect
      failingOver := fun failing => by simp [state] at failing
      failedOver := fun failed => by simp [state] at failed
      recovered := fun recovered => by simp [state] at recovered
      configured := address ▸ joint.configured }
  · exact {
      steady := fun _ => zero
      suspect := fun suspect => absurd (state.symm.trans suspect) notSuspect
      failingOver := fun failing => absurd (state.symm.trans failing) notFailing
      failedOver := fun failed =>
        ⟨zero, address.trans (joint.failedOver (state.symm.trans failed)).2⟩
      recovered := fun recovered => address.trans (joint.recovered (state.symm.trans recovered))
      configured := address ▸ joint.configured }

theorem FailoverShim.Joint.counts {cur : String} {attempt : PromotionAttempt}
    (joint : shim.Joint monitor)
    (below : ¬ shim.failureThreshold ≤ incrementU32 monitor.shared.consecutiveFailures)
    (positive : 1 ≤ incrementU32 monitor.shared.consecutiveFailures) :
    shim.Joint (shim.recordFailedCheck monitor cur attempt).1 := by
  rw [recordFailedCheck_counts below]
  constructor
  · simp
  · intro _
    exact ⟨positive, Nat.lt_of_not_le below⟩
  · simp
  · simp
  · simp
  · exact joint.configured

theorem FailoverShim.Joint.calls {cur : String} {attempt : PromotionAttempt}
    (joint : shim.Joint monitor)
    (due : shim.failureThreshold ≤ incrementU32 monitor.shared.consecutiveFailures) :
    shim.Joint (shim.recordFailedCheck monitor cur attempt).1 := by
  rw [recordFailedCheck_calls due]
  cases promoted : attempt.result with
  | true =>
      have state : (shim.triggerFailover { monitor.shared with
          consecutiveFailures := incrementU32 monitor.shared.consecutiveFailures }
          cur shim.replica attempt).1.state = .failedOver := by
        simp [triggerFailover, promoted, SharedState.state, SharedState.setState]
      constructor <;> simp [state]
      · simp [triggerFailover, promoted]
      · simp [triggerFailover, promoted]
  | false =>
      have state : (shim.triggerFailover { monitor.shared with
          consecutiveFailures := incrementU32 monitor.shared.consecutiveFailures }
          cur shim.replica attempt).1.state = .failingOver := by
        simp [triggerFailover, promoted]
      constructor <;> simp [state]
      · simpa [triggerFailover, promoted] using due
      · simpa [triggerFailover, promoted] using joint.configured

theorem recordFailedCheck_failures (cur : String) (attempt : PromotionAttempt) :
    (shim.recordFailedCheck monitor cur attempt).1.shared.consecutiveFailures = 0 ∨
      (shim.recordFailedCheck monitor cur attempt).1.shared.consecutiveFailures =
        incrementU32 monitor.shared.consecutiveFailures := by
  by_cases due : shim.failureThreshold ≤ incrementU32 monitor.shared.consecutiveFailures
  · rw [recordFailedCheck_calls due]
    cases promoted : attempt.result with
    | true => exact .inl (by simp [triggerFailover, promoted])
    | false => exact .inr (by simp [triggerFailover, promoted])
  · rw [recordFailedCheck_counts due]
    exact .inr rfl

theorem FailoverShim.Sound.tick (sound : shim.Sound monitor)
    (counts : shim.CountsOn monitor input) : shim.Sound (shim.tick monitor input).1 := by
  obtain ⟨joint, bounded⟩ := sound
  cases failed : shim.checkFailed input with
  | false =>
      have passed : Passed shim monitor (shim.tick monitor input).1 input := tick_passed failed
      refine ⟨joint.passed passed, ?_⟩
      rw [passed.consecutiveFailures]
      decide
  | true =>
      have short := counts failed
      have increment : incrementU32 monitor.shared.consecutiveFailures =
          monitor.shared.consecutiveFailures + 1 := Nat.mod_eq_of_lt (by omega)
      rw [tick_failed failed]
      constructor
      · by_cases due : shim.failureThreshold ≤ incrementU32 monitor.shared.consecutiveFailures
        · exact joint.calls due
        · exact joint.counts due (by omega)
      · have failures : (shim.recordFailedCheck monitor monitor.shared.currentPrimary
              input.attempt).1.shared.consecutiveFailures = 0 ∨ _ :=
          recordFailedCheck_failures monitor.shared.currentPrimary input.attempt
        omega

/-- At the end of the counter a failed check leaves `Suspect` with no failure. -/
theorem not_joint_of_wrap (positive : 1 ≤ shim.failureThreshold)
    (wraps : ¬ shim.CountsOn monitor input) : ¬ shim.Joint (shim.tick monitor input).1 := by
  obtain ⟨failed, full⟩ := Classical.not_imp.mp wraps
  have wrapped : incrementU32 monitor.shared.consecutiveFailures = 0 := by
    rw [not_not.mp full]
    decide
  have below : ¬ shim.failureThreshold ≤ incrementU32 monitor.shared.consecutiveFailures := by
    omega
  intro joint
  rw [tick_failed failed, recordFailedCheck_counts below] at joint
  have counted := (joint.suspect (by simp)).1
  rw [SharedState.setState_consecutiveFailures] at counted
  dsimp only at counted
  omega

/-- The joint invariant holds throughout a run if and only if no check fails
while the counter of failures is at its end. -/
theorem always_joint_iff (shim : FailoverShim) (positive : 1 ≤ shim.failureThreshold)
    (inputs : List TickInput) :
    shim.machine.Always shim.Joint shim.initial inputs ↔
      shim.machine.Along shim.CountsOn shim.initial inputs := by
  have start : shim.Sound shim.initial := ⟨.initial, Nat.two_pow_pos 32⟩
  apply Machine.always_ofFunction_iff_along shim.Sound (fun monitor sound => sound.joint) ?_ ?_ start
  · intro monitor input sound counts
    exact sound.tick counts
  · intro monitor input _ wraps
    exact not_joint_of_wrap positive wraps

def refusedInput : TickInput := { silentInput with attempt := .promoteCmd false }

theorem always_joint_refused :
    (pairedShim .tcp).machine.Always (pairedShim .tcp).Joint (pairedShim .tcp).initial
      [refusedInput, silentInput] := by
  apply (always_joint_iff (pairedShim .tcp) (by decide) _).mpr
  refine .cons rfl (fun _ => by decide) ?_
  exact .cons rfl (fun _ => by decide) trivial

/-! ## Four billion failed checks -/

def refusedChecks (checks : Nat) : Monitor :=
  (List.replicate checks refusedInput).foldl
    (fun monitor input => ((pairedShim .tcp).tick monitor input).1) (pairedShim .tcp).initial

theorem refusedChecks_succ (checks : Nat) : refusedChecks (checks + 1) =
    ((pairedShim .tcp).recordFailedCheck (refusedChecks checks)
      (refusedChecks checks).shared.currentPrimary (.promoteCmd false)).1 := by
  rw [refusedChecks, List.replicate_succ', List.foldl_append]
  rfl

theorem refusedChecks_failures (checks : Nat) :
    (refusedChecks checks).shared.consecutiveFailures = checks % 2 ^ 32 := by
  induction checks with
  | zero => rfl
  | succ checks ih =>
      have counted : incrementU32 (refusedChecks checks).shared.consecutiveFailures =
          (checks + 1) % 2 ^ 32 := by
        rw [ih, incrementU32]
        omega
      rw [refusedChecks_succ]
      by_cases due : (pairedShim .tcp).failureThreshold ≤
          incrementU32 (refusedChecks checks).shared.consecutiveFailures
      · rw [recordFailedCheck_calls due]
        exact counted
      · rw [recordFailedCheck_counts due]
        exact counted

theorem refusedChecks_suspect {checks : Nat} (wraps : (checks + 1) % 2 ^ 32 = 0) :
    (refusedChecks (checks + 1)).shared.state = .suspect := by
  have counted : incrementU32 (refusedChecks checks).shared.consecutiveFailures = 0 := by
    rw [refusedChecks_failures, incrementU32]
    omega
  have below : ¬ (pairedShim .tcp).failureThreshold ≤
      incrementU32 (refusedChecks checks).shared.consecutiveFailures := by
    rw [counted]
    decide
  rw [refusedChecks_succ, recordFailedCheck_counts below]
  rfl

/-- After 2^32 failed checks whose promotions are refused, the state is
`Suspect` and the counter is zero. -/
theorem not_always_joint :
    ¬ (pairedShim .tcp).machine.Always (pairedShim .tcp).Joint (pairedShim .tcp).initial
      (List.replicate (2 ^ 32) refusedInput) := by
  intro always
  have joint : (pairedShim .tcp).Joint (refusedChecks (2 ^ 32)) :=
    always.last (Machine.run_ofFunction _ _ _)
  have suspect : (refusedChecks (2 ^ 32 - 1 + 1)).shared.state = .suspect :=
    refusedChecks_suspect (by decide)
  have counted := (joint.suspect suspect).1
  rw [refusedChecks_failures] at counted
  omega

end Evergreen.Failover
