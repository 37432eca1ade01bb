import Evergreen.Failover.Shim

namespace Evergreen.Failover

/-! # Automatic failback of the TCP connector

Failback is counted only in the exact state `FailedOver`.  A check that fails
while the replica serves, without ending in another successful promotion,
leaves that state for good; every other run keeps the way back open.
-/

/-- Ten or more healthy checks, the original primary answering from the tenth on. -/
structure RecoveryChecks (inputs : List TickInput) : Prop where
  enough : 10 ≤ inputs.length
  healthy : ∀ input ∈ inputs, input.healthy = true
  reachable : ∀ input ∈ inputs.drop 9, input.originalReachable = true

namespace FailoverShim

variable (shim : FailoverShim)

def ticks (monitor : Monitor) (inputs : List TickInput) : Monitor :=
  inputs.foldl (fun monitor input => (shim.tick monitor input).1) monitor

/-- Away from the original primary the shim is not `Healthy`, and recovery
checks bring the original primary back. -/
def AbleToFailBack (monitor : Monitor) : Prop :=
  monitor.shared.currentPrimary ≠ shim.primary →
    monitor.shared.state ≠ .healthy ∧
      ∀ inputs, RecoveryChecks inputs →
        (shim.ticks monitor inputs).shared.currentPrimary = shim.primary

/-- While another address serves, a failed check must reach the threshold and
its promotion succeed, and the `u32` count of healthy checks must stay ten
short of wrapping. -/
def KeepsFailback (monitor : Monitor) (input : TickInput) : Prop :=
  monitor.shared.currentPrimary ≠ shim.primary →
    if input.healthy then
      (10 ≤ incrementU32 monitor.consecutivePrimaryHealthy ∧ input.originalReachable = true) ∨
        incrementU32 monitor.consecutivePrimaryHealthy + 10 < 2 ^ 32
    else
      shim.failureThreshold ≤ incrementU32 monitor.shared.consecutiveFailures ∧
        input.attempt.result = true

instance (monitor : Monitor) (input : TickInput) : Decidable (shim.KeepsFailback monitor input) :=
  inferInstanceAs (Decidable (_ → _))

/-- Either the original primary serves, or the replica does in a state that
still counts towards failback. -/
def Serving (monitor : Monitor) : Prop :=
  monitor.shared.currentPrimary = shim.primary ∨
    monitor.shared.currentPrimary = shim.replica ∧ monitor.shared.state = .failedOver ∧
      monitor.consecutivePrimaryHealthy + 10 < 2 ^ 32

end FailoverShim

open FailoverShim

variable {shim : FailoverShim} {monitor : Monitor} {input : TickInput} {inputs : List TickInput}

theorem incrementU32_of_lt {counter : Nat} (bound : counter + 1 < 2 ^ 32) :
    incrementU32 counter = counter + 1 := Nat.mod_eq_of_lt bound

theorem tick_tcp_healthy (tcp : shim.connector = .tcp) (healthy : input.healthy = true) :
    shim.tick monitor input =
      shim.handleHealthyCheck monitor monitor.shared.currentPrimary input.originalReachable := by
  simp only [tick, tcp, handleCheckResult, healthy, if_true]

theorem tick_tcp_failed (tcp : shim.connector = .tcp) (failed : input.healthy = false) :
    shim.tick monitor input =
      shim.recordFailedCheck monitor monitor.shared.currentPrimary input.attempt := by
  simp only [tick, tcp, handleCheckResult, failed, Bool.false_eq_true, if_false]

/-! ## One failed check -/

theorem recordFailedCheck_below (cur : String) (attempt : PromotionAttempt)
    (below : incrementU32 monitor.shared.consecutiveFailures < shim.failureThreshold) :
    (shim.recordFailedCheck monitor cur attempt).1.shared.state = .suspect ∧
      (shim.recordFailedCheck monitor cur attempt).1.shared.currentPrimary =
        monitor.shared.currentPrimary := by
  simp [recordFailedCheck, Nat.not_le.mpr below]

theorem recordFailedCheck_refused (cur : String) {attempt : PromotionAttempt}
    (reached : shim.failureThreshold ≤ incrementU32 monitor.shared.consecutiveFailures)
    (refused : attempt.result = false) :
    (shim.recordFailedCheck monitor cur attempt).1.shared.state = .failingOver ∧
      (shim.recordFailedCheck monitor cur attempt).1.shared.currentPrimary =
        monitor.shared.currentPrimary := by
  simp [recordFailedCheck, triggerFailover, reached, refused]

theorem recordFailedCheck_promoted (cur : String) {attempt : PromotionAttempt}
    (reached : shim.failureThreshold ≤ incrementU32 monitor.shared.consecutiveFailures)
    (promoted : attempt.result = true) :
    (shim.recordFailedCheck monitor cur attempt).1.shared.state = .failedOver ∧
      (shim.recordFailedCheck monitor cur attempt).1.shared.currentPrimary = shim.replica ∧
      (shim.recordFailedCheck monitor cur attempt).1.consecutivePrimaryHealthy = 0 := by
  simp [recordFailedCheck, triggerFailover, reached, promoted, SharedState.state, SharedState.setState]

theorem recordFailedCheck_serving (cur : String) (attempt : PromotionAttempt)
    (atPrimary : monitor.shared.currentPrimary = shim.primary) :
    shim.Serving (shim.recordFailedCheck monitor cur attempt).1 := by
  by_cases reached : shim.failureThreshold ≤ incrementU32 monitor.shared.consecutiveFailures
  · cases promoted : attempt.result with
    | false =>
        left
        rw [(recordFailedCheck_refused cur reached promoted).2, atPrimary]
    | true =>
        obtain ⟨state, address, counter⟩ := recordFailedCheck_promoted cur reached promoted
        exact .inr ⟨address, state, by rw [counter]; decide⟩
  · left
    rw [(recordFailedCheck_below cur attempt (Nat.lt_of_not_le reached)).2, atPrimary]

/-! ## One healthy check -/

theorem handleHealthyCheck_atPrimary {reachable : Bool}
    (atPrimary : monitor.shared.currentPrimary = shim.primary) :
    (shim.handleHealthyCheck monitor monitor.shared.currentPrimary reachable).1.shared.currentPrimary =
      shim.primary := by
  simp only [handleHealthyCheck, atPrimary, ne_eq, not_true_eq_false, and_false, if_false]
  split <;> rfl

theorem handleHealthyCheck_failsBack {reachable : Bool}
    (state : monitor.shared.state = .failedOver)
    (away : monitor.shared.currentPrimary ≠ shim.primary)
    (due : 10 ≤ incrementU32 monitor.consecutivePrimaryHealthy ∧ reachable = true) :
    (shim.handleHealthyCheck monitor monitor.shared.currentPrimary reachable).1.shared.currentPrimary =
      shim.primary := by
  have counting : ({ monitor.shared with consecutiveFailures := 0 } : SharedState).state = .failedOver :=
    state
  simp [handleHealthyCheck, counting, away, due]

theorem handleHealthyCheck_counts {reachable : Bool}
    (state : monitor.shared.state = .failedOver)
    (away : monitor.shared.currentPrimary ≠ shim.primary)
    (early : ¬ (10 ≤ incrementU32 monitor.consecutivePrimaryHealthy ∧ reachable = true)) :
    (shim.handleHealthyCheck monitor monitor.shared.currentPrimary reachable).1 =
      { monitor with
        shared := { monitor.shared with consecutiveFailures := 0 }
        consecutivePrimaryHealthy := incrementU32 monitor.consecutivePrimaryHealthy } := by
  have counting : ({ monitor.shared with consecutiveFailures := 0 } : SharedState).state = .failedOver :=
    state
  simp only [handleHealthyCheck, counting, ne_eq, away, not_false_eq_true, and_self, if_true,
    ge_iff_le, if_neg early]

theorem handleHealthyCheck_stuck (shim : FailoverShim) (cur : String) (reachable : Bool)
    (state : monitor.shared.state ≠ .failedOver) :
    (shim.handleHealthyCheck monitor cur reachable).1.shared.currentPrimary =
        monitor.shared.currentPrimary ∧
      (shim.handleHealthyCheck monitor cur reachable).1.shared.state ≠ .failedOver := by
  have notCounting : ({ monitor.shared with consecutiveFailures := 0 } : SharedState).state ≠ .failedOver :=
    state
  simp only [handleHealthyCheck, notCounting, false_and, if_false]
  split
  · simp
  · exact ⟨rfl, state⟩

/-! ## Runs of healthy checks -/

theorem ticks_cons : shim.ticks monitor (input :: inputs) =
    shim.ticks (shim.tick monitor input).1 inputs := rfl

theorem ticks_atPrimary (tcp : shim.connector = .tcp)
    (healthy : ∀ input ∈ inputs, input.healthy = true)
    (atPrimary : monitor.shared.currentPrimary = shim.primary) :
    (shim.ticks monitor inputs).shared.currentPrimary = shim.primary := by
  induction inputs generalizing monitor with
  | nil => exact atPrimary
  | cons input inputs ih =>
      rw [ticks_cons]
      refine ih (fun later member => healthy later (by simp [member])) ?_
      rw [tick_tcp_healthy tcp (healthy input (by simp))]
      exact handleHealthyCheck_atPrimary atPrimary

theorem ticks_stuck (tcp : shim.connector = .tcp)
    (healthy : ∀ input ∈ inputs, input.healthy = true)
    (state : monitor.shared.state ≠ .failedOver) :
    (shim.ticks monitor inputs).shared.currentPrimary = monitor.shared.currentPrimary := by
  induction inputs generalizing monitor with
  | nil => rfl
  | cons input inputs ih =>
      have stuck := handleHealthyCheck_stuck shim monitor.shared.currentPrimary
        input.originalReachable state
      rw [ticks_cons, tick_tcp_healthy tcp (healthy input (by simp))]
      exact (ih (fun later member => healthy later (by simp [member])) stuck.2).trans stuck.1

/-- From `FailedOver` the original primary is back once it answers `delay`
checks from now, if by then at least ten checks have been counted. -/
theorem ticks_failsBack (delay : Nat) (tcp : shim.connector = .tcp)
    (healthy : ∀ input ∈ inputs, input.healthy = true)
    (reachable : ∀ input ∈ inputs.drop delay, input.originalReachable = true)
    (state : monitor.shared.state = .failedOver)
    (away : monitor.shared.currentPrimary ≠ shim.primary)
    (counted : 10 ≤ monitor.consecutivePrimaryHealthy + delay + 1)
    (bound : monitor.consecutivePrimaryHealthy + delay + 1 < 2 ^ 32)
    (enough : delay < inputs.length) :
    (shim.ticks monitor inputs).shared.currentPrimary = shim.primary := by
  induction inputs generalizing monitor delay with
  | nil => simp at enough
  | cons input inputs ih =>
      have later : ∀ next ∈ inputs, next.healthy = true :=
        fun next member => healthy next (by simp [member])
      have increment : incrementU32 monitor.consecutivePrimaryHealthy =
          monitor.consecutivePrimaryHealthy + 1 := incrementU32_of_lt (by omega)
      rw [ticks_cons, tick_tcp_healthy tcp (healthy input (by simp))]
      by_cases due : 10 ≤ incrementU32 monitor.consecutivePrimaryHealthy ∧
          input.originalReachable = true
      · exact ticks_atPrimary tcp later (handleHealthyCheck_failsBack state away due)
      · rw [handleHealthyCheck_counts state away due, increment]
        cases delay with
        | zero => exact absurd ⟨by omega, reachable input (by simp)⟩ due
        | succ delay =>
            exact ih delay later (by simpa using reachable) state away (by dsimp only; omega)
              (by dsimp only; omega) (by simpa using enough)

theorem ticks_unreachable (tcp : shim.connector = .tcp)
    (healthy : ∀ input ∈ inputs, input.healthy = true ∧ input.originalReachable = false)
    (state : monitor.shared.state = .failedOver)
    (away : monitor.shared.currentPrimary ≠ shim.primary)
    (bound : monitor.consecutivePrimaryHealthy + inputs.length < 2 ^ 32) :
    (shim.ticks monitor inputs).shared.currentPrimary = monitor.shared.currentPrimary ∧
      (shim.ticks monitor inputs).shared.state = .failedOver ∧
      (shim.ticks monitor inputs).consecutivePrimaryHealthy =
        monitor.consecutivePrimaryHealthy + inputs.length := by
  induction inputs generalizing monitor with
  | nil => exact ⟨rfl, state, rfl⟩
  | cons input inputs ih =>
      obtain ⟨answered, silent⟩ := healthy input (by simp)
      simp only [List.length_cons] at bound
      rw [ticks_cons, tick_tcp_healthy tcp answered,
        handleHealthyCheck_counts state away (by simp [silent]), incrementU32_of_lt (by omega)]
      let counted := { monitor with
        shared := { monitor.shared with consecutiveFailures := 0 }
        consecutivePrimaryHealthy := monitor.consecutivePrimaryHealthy + 1 }
      have counting : counted.shared.state = .failedOver := state
      have room : counted.consecutivePrimaryHealthy + inputs.length < 2 ^ 32 := by
        dsimp only [counted]
        omega
      obtain ⟨address, kept, counter⟩ :=
        ih (fun later member => healthy later (by simp [member])) counting away room
      refine ⟨address, kept, counter.trans ?_⟩
      dsimp only [counted, List.length_cons]
      omega

/-! ## The exact condition -/

theorem FailoverShim.Serving.ableToFailBack (tcp : shim.connector = .tcp) (serving : shim.Serving monitor) :
    shim.AbleToFailBack monitor := by
  intro away
  rcases serving with atPrimary | ⟨_, state, bound⟩
  · exact absurd atPrimary away
  · refine ⟨by rw [state]; decide, fun inputs checks => ?_⟩
    exact ticks_failsBack 9 tcp checks.healthy checks.reachable state away (by omega)
      (by omega) (by have := checks.enough; omega)

theorem FailoverShim.Serving.tick (tcp : shim.connector = .tcp) (distinct : shim.primary ≠ shim.replica)
    (serving : shim.Serving monitor) (keeps : shim.KeepsFailback monitor input) :
    shim.Serving (shim.tick monitor input).1 := by
  cases healthy : input.healthy with
  | false =>
      rw [tick_tcp_failed tcp healthy]
      rcases serving with atPrimary | ⟨atReplica, _, _⟩
      · exact recordFailedCheck_serving _ _ atPrimary
      · have kept := keeps (by rw [atReplica]; exact distinct.symm)
        simp only [healthy, Bool.false_eq_true, if_false] at kept
        obtain ⟨state, address, counter⟩ :=
          recordFailedCheck_promoted monitor.shared.currentPrimary kept.1 kept.2
        exact .inr ⟨address, state, by rw [counter]; decide⟩
  | true =>
      rw [tick_tcp_healthy tcp healthy]
      rcases serving with atPrimary | ⟨atReplica, state, bound⟩
      · exact .inl (handleHealthyCheck_atPrimary atPrimary)
      · have away : monitor.shared.currentPrimary ≠ shim.primary := by
          rw [atReplica]
          exact distinct.symm
        by_cases due : 10 ≤ incrementU32 monitor.consecutivePrimaryHealthy ∧
            input.originalReachable = true
        · exact .inl (handleHealthyCheck_failsBack state away due)
        · have kept := keeps away
          simp only [healthy, if_true, due, false_or] at kept
          rw [handleHealthyCheck_counts state away due]
          exact .inr ⟨atReplica, state, kept⟩

def recoveryInput (originalReachable : Bool) : TickInput where
  healthy := true
  originalReachable := originalReachable
  patroni := .unreachable
  sentinel := .unreachable
  attempt := .patronictl true

theorem not_ableToFailBack_of_left (tcp : shim.connector = .tcp)
    (away : monitor.shared.currentPrimary ≠ shim.primary)
    (state : monitor.shared.state ≠ .failedOver) : ¬ shim.AbleToFailBack monitor := by
  intro able
  have checks : RecoveryChecks (List.replicate 10 (recoveryInput true)) :=
    ⟨by simp, by simp [recoveryInput], by simp [recoveryInput]⟩
  have back := (able away).2 _ checks
  rw [ticks_stuck tcp checks.healthy state] at back
  exact away back

theorem not_ableToFailBack_of_wrap (tcp : shim.connector = .tcp)
    (away : monitor.shared.currentPrimary ≠ shim.primary)
    (state : monitor.shared.state = .failedOver)
    (counter : monitor.consecutivePrimaryHealthy + 10 = 2 ^ 32) : ¬ shim.AbleToFailBack monitor := by
  intro able
  have checks : RecoveryChecks (List.replicate 9 (recoveryInput false) ++ [recoveryInput true]) :=
    ⟨by simp, by simp [recoveryInput], by simp [recoveryInput]⟩
  have back := (able away).2 _ checks
  have silent : ∀ input ∈ List.replicate 9 (recoveryInput false),
      input.healthy = true ∧ input.originalReachable = false := by
    simp [recoveryInput]
  obtain ⟨address, kept, counted⟩ := ticks_unreachable tcp silent state away (by simp; omega)
  have split : shim.ticks monitor (List.replicate 9 (recoveryInput false) ++ [recoveryInput true]) =
      (shim.tick (shim.ticks monitor (List.replicate 9 (recoveryInput false)))
        (recoveryInput true)).1 := by
    simp only [ticks, List.foldl_append, List.foldl_cons, List.foldl_nil]
  have wrapped : incrementU32 (shim.ticks monitor
      (List.replicate 9 (recoveryInput false))).consecutivePrimaryHealthy = 0 := by
    simp only [counted, incrementU32, List.length_replicate]
    omega
  rw [split, tick_tcp_healthy tcp rfl,
    handleHealthyCheck_counts kept (by rwa [address]) (by rw [wrapped]; omega)] at back
  exact away (address.symm.trans back)

theorem FailoverShim.Serving.not_ableToFailBack (tcp : shim.connector = .tcp)
    (serving : shim.Serving monitor) (breaks : ¬ shim.KeepsFailback monitor input) :
    ¬ shim.AbleToFailBack (shim.tick monitor input).1 := by
  simp only [KeepsFailback, Classical.not_imp] at breaks
  obtain ⟨away, breaks⟩ := breaks
  obtain ⟨_, state, bound⟩ := serving.resolve_left away
  cases healthy : input.healthy with
  | false =>
      simp only [healthy, Bool.false_eq_true, if_false, not_and] at breaks
      rw [tick_tcp_failed tcp healthy]
      by_cases reached : shim.failureThreshold ≤ incrementU32 monitor.shared.consecutiveFailures
      · have refused := recordFailedCheck_refused monitor.shared.currentPrimary reached
          (Bool.eq_false_iff.mpr (breaks reached))
        exact not_ableToFailBack_of_left tcp (by rwa [refused.2]) (by rw [refused.1]; decide)
      · have below := recordFailedCheck_below monitor.shared.currentPrimary input.attempt
          (Nat.lt_of_not_le reached)
        exact not_ableToFailBack_of_left tcp (by rwa [below.2]) (by rw [below.1]; decide)
  | true =>
      simp only [healthy, if_true, not_or] at breaks
      have increment : incrementU32 monitor.consecutivePrimaryHealthy =
          monitor.consecutivePrimaryHealthy + 1 := incrementU32_of_lt (by omega)
      rw [tick_tcp_healthy tcp healthy, handleHealthyCheck_counts state away breaks.1]
      exact not_ableToFailBack_of_wrap tcp away state (by dsimp only; omega)

/-- Over every run of the TCP connector the shim stays able to fail back
exactly as long as no failed check of the promoted replica ends short of
another successful promotion. -/
theorem always_ableToFailBack_iff (shim : FailoverShim) (tcp : shim.connector = .tcp)
    (distinct : shim.primary ≠ shim.replica) (inputs : List TickInput) :
    shim.machine.Always shim.AbleToFailBack shim.initial inputs ↔
      shim.machine.Along shim.KeepsFailback shim.initial inputs := by
  refine Machine.always_ofFunction_iff_along shim.Serving
    (fun monitor serving => serving.ableToFailBack tcp) ?_ ?_ (.inl rfl)
  · intro monitor input serving keeps
    exact serving.tick tcp distinct keeps
  · intro monitor input serving breaks
    exact serving.not_ableToFailBack tcp breaks

def tcpShim (failureThreshold : Nat) : FailoverShim where
  primary := "10.0.0.1:5432"
  replica := "10.0.0.2:5432"
  failureThreshold := failureThreshold
  webhook := none
  connector := .tcp
  dbHost := "127.0.0.1"
  lagThresholdSecs := 30
  hasBus := true

def failedInput : TickInput :=
  { recoveryInput false with healthy := false }

/-- With a threshold of one the replica may fail again and be promoted again. -/
theorem always_ableToFailBack_promotedTwice :
    (tcpShim 1).machine.Always (tcpShim 1).AbleToFailBack (tcpShim 1).initial
      [failedInput, recoveryInput false, failedInput, recoveryInput true] :=
  (always_ableToFailBack_iff (tcpShim 1) rfl (by decide) _).mpr (by decide)

/-- One failed check of the promoted replica, then a healthy one: the shim is
`Healthy` on the replica and has forgotten the failback. -/
theorem not_always_ableToFailBack :
    (tcpShim 3).connector = .tcp ∧ (tcpShim 3).primary ≠ (tcpShim 3).replica ∧
      ¬ (tcpShim 3).machine.Always (tcpShim 3).AbleToFailBack (tcpShim 3).initial
        [failedInput, failedInput, failedInput, failedInput, recoveryInput true] := by
  refine ⟨rfl, by decide, fun always => ?_⟩
  have able := always.last (Machine.run_ofFunction _ _ _)
  exact (able (by decide)).1 (by decide)

end Evergreen.Failover
