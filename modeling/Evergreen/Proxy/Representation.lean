import Evergreen.Proxy.Circuit

namespace Evergreen.Proxy

/-! # What the circuit fields say together

Every entry point keeps the failures of a closed circuit below the threshold,
`open_since` in step with the state, and the in-flight flag to half-open
circuits, but for `record_failure_static`: it counts and never opens.
-/

namespace ProxyState

structure Represented (state : ProxyState) : Prop where
  failures : state.circuitState = .closed → state.circuitFailures < max 1 state.circuitThreshold
  openSince : state.openSince = none ↔ state.circuitState = .closed
  inflight : state.halfOpenInflight = true → state.circuitState = .halfOpen

end ProxyState

/-- `record_failure_static` does not count the failure that is to open the circuit. -/
def SparesThreshold (observed : Observed) (timed : TimedCall) : Prop :=
  timed.call = .recordFailureStatic → observed.proxy.circuitState = .closed →
    observed.proxy.circuitFailures + 1 < max 1 observed.proxy.circuitThreshold

/-- The threshold is a `u32`. -/
structure WellKept (observed : Observed) : Prop where
  represented : observed.proxy.Represented
  threshold : observed.proxy.circuitThreshold < 2 ^ 32

variable {state after : ProxyState} {observed : Observed} {timed : TimedCall} {now : Nat}

open ProxyState

/-! ## The parts of a call -/

theorem ProxyState.Represented.of_fields (represented : state.Represented)
    (threshold : after.circuitThreshold = state.circuitThreshold)
    (circuit : after.circuitState = state.circuitState)
    (failures : after.circuitFailures = state.circuitFailures)
    (openSince : after.openSince = state.openSince)
    (inflight : after.halfOpenInflight = state.halfOpenInflight) : after.Represented where
  failures := by
    rw [circuit, failures, threshold]
    exact represented.failures
  openSince := by
    rw [openSince, circuit]
    exact represented.openSince
  inflight := by
    rw [inflight, circuit]
    exact represented.inflight

theorem ProxyState.Represented.new (circuitThreshold circuitResetSecs : Nat)
    (gracefulDegradationEnabled : Bool) :
    (ProxyState.new circuitThreshold circuitResetSecs gracefulDegradationEnabled).Represented where
  failures _ := Nat.lt_of_lt_of_le Nat.one_pos (Nat.le_max_left 1 circuitThreshold)
  openSince := ⟨fun _ => rfl, fun _ => rfl⟩
  inflight raised := nomatch raised

theorem ProxyState.Represented.toHalfOpen (represented : state.Represented)
    (circuit : state.circuitState ≠ .closed) (inflight : Bool) :
    ({ state with circuitState := .halfOpen, halfOpenInflight := inflight }).Represented where
  failures closed := nomatch closed
  openSince := ⟨fun none => absurd (represented.openSince.mp none) circuit, fun closed => nomatch closed⟩
  inflight _ := rfl

theorem ProxyState.Represented.enterHalfOpen (represented : state.Represented) (now : Nat)
    (inflight : Bool) : (state.enterHalfOpen now inflight).Represented := by
  by_cases due : state.circuitState = .open ∧ state.resetElapsed now = true
  · rw [state.enterHalfOpen_of_elapsed now due.1 due.2]
    exact represented.toHalfOpen (by simp [due.1]) inflight
  · rw [state.enterHalfOpen_of_not now due]
    exact represented

theorem ProxyState.Represented.raise (represented : state.Represented)
    (halfOpen : state.circuitState = .halfOpen) :
    ({ state with halfOpenInflight := true }).Represented where
  failures := represented.failures
  openSince := represented.openSince
  inflight _ := halfOpen

theorem ProxyState.Represented.checkCircuit (represented : state.Represented) (now : Nat) :
    (state.checkCircuit now).1.Represented := by
  unfold ProxyState.checkCircuit
  split
  · rename_i circuit
    split
    · exact represented.toHalfOpen (by simp [circuit]) true
    · exact represented
  · split
    · rename_i halfOpen
      split
      · exact represented
      · exact represented.raise halfOpen
    · exact represented

theorem ProxyState.Represented.admitRequest (represented : state.Represented) :
    state.admitRequest.1.Represented := by
  unfold ProxyState.admitRequest
  split
  · exact represented.of_fields rfl rfl rfl rfl rfl
  · exact represented.of_fields rfl rfl rfl rfl rfl
  · rename_i halfOpen _
    exact (represented.raise halfOpen).of_fields rfl rfl rfl rfl rfl
  · exact represented.of_fields rfl rfl rfl rfl rfl

theorem ProxyState.Represented.handleRequest (represented : state.Represented) (now : Nat) :
    (state.handleRequest now).1.Represented := by
  have counted : state.countRequest.Represented := represented.of_fields rfl rfl rfl rfl rfl
  exact (counted.enterHalfOpen now true).admitRequest

theorem ProxyState.Represented.admitDegraded (represented : state.Represented) :
    state.admitDegraded.1.Represented := by
  unfold ProxyState.admitDegraded
  split
  · exact represented.of_fields rfl rfl rfl rfl rfl
  · rename_i halfOpen
    split
    · exact represented.of_fields rfl rfl rfl rfl rfl
    · exact (represented.raise halfOpen).of_fields rfl rfl rfl rfl rfl
  · exact represented.of_fields rfl rfl rfl rfl rfl

theorem ProxyState.Represented.handleRequestWithDegradation (represented : state.Represented)
    (now : Nat) (requestKey : String) :
    (state.handleRequestWithDegradation now requestKey).1.Represented := by
  have counted : state.countRequest.Represented := represented.of_fields rfl rfl rfl rfl rfl
  rcases degraded_cases state now requestKey with ⟨_, data, served⟩ | ⟨circuit, _, moved⟩ | decided
  · rw [served]
    exact counted.of_fields rfl rfl rfl rfl rfl
  · rw [moved]
    exact (counted.toHalfOpen (by simp [circuit]) false).admitDegraded
  · rw [decided]
    exact counted.admitDegraded

theorem ProxyState.Represented.recordSuccess (represented : state.Represented) :
    state.recordSuccess.Represented := by
  have cleared : 0 < max 1 state.circuitThreshold :=
    Nat.lt_of_lt_of_le Nat.one_pos (Nat.le_max_left 1 _)
  by_cases halfOpen : state.circuitState = .halfOpen
  · simp only [ProxyState.recordSuccess, halfOpen, if_true]
    exact ⟨fun _ => cleared, ⟨fun _ => rfl, fun _ => rfl⟩, fun raised => Bool.noConfusion raised⟩
  · simp only [ProxyState.recordSuccess, halfOpen, if_false]
    exact ⟨fun _ => cleared, represented.openSince,
      fun raised => absurd (represented.inflight raised) halfOpen⟩

/-- A failure that leaves the circuit closed is below the threshold, and the
counter of a closed circuit is too low to wrap around. -/
theorem ProxyState.Represented.recordFailure (represented : state.Represented) (now : Nat) :
    (state.recordFailure now).Represented := by
  by_cases halfOpen : state.circuitState = .halfOpen
  · simp only [ProxyState.recordFailure, halfOpen, if_true]
    exact ⟨fun closed => CircuitState.noConfusion closed, by simp,
      fun raised => Bool.noConfusion raised⟩
  · have idle : state.halfOpenInflight ≠ true := fun raised => halfOpen (represented.inflight raised)
    simp only [ProxyState.recordFailure, halfOpen, if_false]
    split
    · exact ⟨fun closed => CircuitState.noConfusion closed, by simp,
        fun raised => absurd raised idle⟩
    · rename_i below
      refine ⟨fun _ => ?_, represented.openSince, fun raised => absurd raised idle⟩
      exact Nat.lt_of_lt_of_le (Nat.lt_of_not_le below) (Nat.le_max_right 1 _)

theorem ProxyState.Represented.recordFailureStatic (represented : state.Represented)
    (threshold : state.circuitThreshold < 2 ^ 32)
    (spares : state.circuitState = .closed →
      state.circuitFailures + 1 < max 1 state.circuitThreshold) :
    state.recordFailureStatic.Represented where
  failures closed := by
    have short := spares closed
    have counted : (state.circuitFailures + 1) % 2 ^ 32 = state.circuitFailures + 1 :=
      Nat.mod_eq_of_lt (by omega)
    simp only [ProxyState.recordFailureStatic, counted]
    exact short
  openSince := represented.openSince
  inflight := represented.inflight

/-! ## A call -/

theorem WellKept.observe (kept : WellKept observed) (spares : SparesThreshold observed timed) :
    WellKept (observed.observe timed) := by
  obtain ⟨represented, threshold⟩ := kept
  obtain ⟨now, call⟩ := timed
  constructor
  · cases call with
    | checkCircuit => exact represented.checkCircuit now
    | handleRequest => exact represented.handleRequest now
    | handleRequestWithDegradation requestKey =>
        exact represented.handleRequestWithDegradation now requestKey
    | recordSuccess => exact represented.recordSuccess
    | recordFailure => exact represented.recordFailure now
    | recordFailureStatic => exact represented.recordFailureStatic threshold (spares rfl)
    | cacheResponse requestKey response => exact represented.of_fields rfl rfl rfl rfl rfl
  · have settings := settings_perform observed.proxy now call
    rw [show (observed.observe ⟨now, call⟩).proxy.circuitThreshold = observed.proxy.circuitThreshold from
      congrArg Prod.fst settings]
    exact threshold

/-- The failure that reaches the threshold is counted and the circuit stays closed. -/
theorem WellKept.not_represented (kept : WellKept observed)
    (crosses : ¬ SparesThreshold observed timed) : ¬ (observed.observe timed).proxy.Represented := by
  obtain ⟨now, call⟩ := timed
  simp only [SparesThreshold, Classical.not_imp, Nat.not_lt] at crosses
  obtain ⟨rfl, closed, reached⟩ := crosses
  have below := kept.represented.failures closed
  have threshold := kept.threshold
  have counted : (observed.proxy.circuitFailures + 1) % 2 ^ 32 =
      observed.proxy.circuitFailures + 1 := Nat.mod_eq_of_lt (by omega)
  intro represented
  have short : (observed.proxy.circuitFailures + 1) % 2 ^ 32 <
      max 1 observed.proxy.circuitThreshold := represented.failures closed
  omega

/-- The circuit fields agree throughout a run if and only if the failure that is
to open the circuit is never counted by `record_failure_static`. -/
theorem always_represented_iff (circuitThreshold circuitResetSecs : Nat)
    (gracefulDegradationEnabled : Bool) (u32 : circuitThreshold < 2 ^ 32) (calls : List TimedCall) :
    machine.Always (fun observed => observed.proxy.Represented)
        ⟨.new circuitThreshold circuitResetSecs gracefulDegradationEnabled, 0⟩ calls ↔
      machine.Along SparesThreshold
        ⟨.new circuitThreshold circuitResetSecs gracefulDegradationEnabled, 0⟩ calls := by
  have start : WellKept
      ⟨.new circuitThreshold circuitResetSecs gracefulDegradationEnabled, 0⟩ := ⟨.new _ _ _, u32⟩
  apply Machine.always_ofFunction_iff_along WellKept (fun observed kept => kept.represented) ?_ ?_
    start
  · intro observed timed kept spares
    exact kept.observe spares
  · intro observed timed kept crosses
    exact kept.not_represented crosses

/-- Two failures, the second of which opens the circuit. -/
theorem always_represented_opened :
    machine.Always (fun observed => observed.proxy.Represented) ⟨.new 2 30 false, 0⟩
      [⟨0, .recordFailureStatic⟩, ⟨1, .recordFailure⟩] := by
  apply (always_represented_iff 2 30 false (by decide) _).mpr
  refine .cons rfl (fun _ _ => by decide) ?_
  exact .cons rfl (fun static => nomatch static) trivial

/-- With a threshold of one, a backend that cannot be reached is counted and
the circuit stays closed. -/
theorem not_always_represented :
    ¬ machine.Always (fun observed => observed.proxy.Represented) ⟨.new 1 30 false, 0⟩
      [⟨0, .recordFailureStatic⟩] := by
  intro always
  have represented := always.last rfl
  exact absurd (represented.failures rfl) (by decide)

end Evergreen.Proxy
