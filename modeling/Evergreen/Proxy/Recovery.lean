import Evergreen.Proxy.Circuit

namespace Evergreen.Proxy

/-! # Stale answers and the recovery

An open circuit answers from the cache before it looks at the clock, so a
request whose key is cached is never the probe.  Two runs of the proxy that
differ in what they cached part exactly where that decides.
-/

namespace ProxyState

variable (state : ProxyState) (now : Nat) (requestKey : String)

/-- The call is admitted as the probe of an open circuit. -/
def Recovers : Prop :=
  state.circuitState = .open ∧
    (state.handleRequestWithDegradation now requestKey).1.circuitState = .halfOpen ∧
    (state.handleRequestWithDegradation now requestKey).2 = .allowed

/-- The call is answered from the cache and leaves the circuit open. -/
def ServesStale (data : List UInt8) : Prop :=
  (state.handleRequestWithDegradation now requestKey).1.circuitState = .open ∧
    (state.handleRequestWithDegradation now requestKey).2 = .servedFromCache data

/-- The circuit without the cache and the counters of requests. -/
def circuit : ProxyState :=
  { state with
    connectionsActive := 0
    connectionsTotal := 0
    requestsTotal := 0
    requestsCircuitBroken := 0
    staleCache := fun _ => none
    staleResponsesTotal := 0 }

end ProxyState

/-- Two runs under the same calls. -/
structure Pair where
  first : ProxyState
  second : ProxyState

inductive PairLabel where
  | both (timed : TimedCall)
  | cacheFirst (requestKey : String) (response : List UInt8)
  | cacheSecond (requestKey : String) (response : List UInt8)
deriving DecidableEq, Repr

def Pair.advance (pair : Pair) : PairLabel → Pair
  | .both timed =>
      ⟨(pair.first.perform timed.now timed.call).1, (pair.second.perform timed.now timed.call).1⟩
  | .cacheFirst requestKey response => { pair with first := pair.first.cacheResponse requestKey response }
  | .cacheSecond requestKey response =>
      { pair with second := pair.second.cacheResponse requestKey response }

def pairs : Machine Pair PairLabel := .ofFunction Pair.advance

def Pair.SameCircuit (pair : Pair) : Prop := pair.first.circuitState = pair.second.circuitState

/-- A degraded request that could be the probe finds its key in both caches or in neither. -/
def Pair.AgreesWhenDue (pair : Pair) : PairLabel → Prop
  | .both ⟨now, .handleRequestWithDegradation requestKey⟩ =>
      pair.first.circuitState = .open → pair.first.resetElapsed now = true →
        (pair.first.stale requestKey = none ↔ pair.second.stale requestKey = none)
  | _ => True

def Pair.Alike (pair : Pair) : Prop := pair.first.circuit = pair.second.circuit

variable {state : ProxyState} {pair : Pair} {now : Nat} {requestKey : String} {data : List UInt8}

/-! ## One degraded request -/

theorem degraded_uncached_due (circuit : state.circuitState = .open)
    (elapsed : state.resetElapsed now = true) (uncached : state.stale requestKey = none) :
    (state.handleRequestWithDegradation now requestKey).1.circuitState = .halfOpen ∧
      (state.handleRequestWithDegradation now requestKey).2 = .allowed := by
  rw [degraded_uncached circuit uncached,
    state.countRequest.enterHalfOpen_of_elapsed now circuit elapsed]
  exact ⟨rfl, rfl⟩

theorem degraded_early (circuit : state.circuitState = .open)
    (early : state.resetElapsed now ≠ true) :
    (state.handleRequestWithDegradation now requestKey).1.circuit = state.circuit := by
  cases cached : state.stale requestKey with
  | some data =>
      rw [degraded_stale circuit cached]
      rfl
  | none =>
      rw [degraded_uncached circuit cached,
        state.countRequest.enterHalfOpen_of_not now fun due => early due.2]
      simp [ProxyState.admitDegraded, circuit]
      rfl

theorem admitDegraded_not_served (state : ProxyState) (data : List UInt8) :
    state.admitDegraded.2 ≠ .servedFromCache data := by
  unfold ProxyState.admitDegraded
  split
  · simp
  · split <;> simp
  · simp

theorem recovers_iff (state : ProxyState) (now : Nat) (requestKey : String) :
    state.Recovers now requestKey ↔ state.circuitState = .open ∧ state.resetElapsed now = true ∧
      state.stale requestKey = none := by
  constructor
  · rintro ⟨circuit, moved, _⟩
    cases cached : state.stale requestKey with
    | some data =>
        rw [degraded_stale circuit cached] at moved
        exact CircuitState.noConfusion (circuit.symm.trans moved)
    | none =>
        refine ⟨circuit, ?_, rfl⟩
        by_contra early
        have kept := congrArg ProxyState.circuitState (@degraded_early state now requestKey circuit early)
        exact CircuitState.noConfusion (circuit.symm.trans (kept.symm.trans moved))
  · rintro ⟨circuit, elapsed, uncached⟩
    exact ⟨circuit, degraded_uncached_due circuit elapsed uncached⟩

theorem servesStale_iff (state : ProxyState) (now : Nat) (requestKey : String)
    (data : List UInt8) :
    state.ServesStale now requestKey data ↔
      state.circuitState = .open ∧ state.stale requestKey = some data := by
  constructor
  · rintro ⟨_, served⟩
    by_cases circuit : state.circuitState = .open
    · refine ⟨circuit, ?_⟩
      cases cached : state.stale requestKey with
      | some found =>
          rw [degraded_stale circuit cached] at served
          cases served
          rfl
      | none =>
          rw [degraded_uncached circuit cached] at served
          exact absurd served (admitDegraded_not_served _ data)
    · rw [degraded_not_open circuit] at served
      exact absurd served (admitDegraded_not_served _ data)
  · rintro ⟨circuit, cached⟩
    rw [ProxyState.ServesStale, degraded_stale circuit cached]
    exact ⟨circuit, rfl⟩

/-! ## The circuit of a call -/

@[simp] theorem circuitState_circuit (state : ProxyState) :
    state.circuit.circuitState = state.circuitState := rfl

@[simp] theorem halfOpenInflight_circuit (state : ProxyState) :
    state.circuit.halfOpenInflight = state.halfOpenInflight := rfl

@[simp] theorem resetElapsed_circuit (state : ProxyState) (now : Nat) :
    state.circuit.resetElapsed now = state.resetElapsed now := rfl

theorem circuitState_of_circuit {first second : ProxyState}
    (alike : first.circuit = second.circuit) : first.circuitState = second.circuitState := by
  rw [← circuitState_circuit first, alike, circuitState_circuit]

theorem resetElapsed_of_circuit {first second : ProxyState}
    (alike : first.circuit = second.circuit) (now : Nat) :
    first.resetElapsed now = second.resetElapsed now := by
  rw [← resetElapsed_circuit first, alike, resetElapsed_circuit]

theorem circuit_admitDegraded (state : ProxyState) :
    state.admitDegraded.1.circuit = state.circuit.admitDegraded.1.circuit := by
  obtain ⟨_, _, circuitState, _, _, halfOpenInflight, _, _, _, _, _, _, _⟩ := state
  cases circuitState <;> cases halfOpenInflight <;> rfl

theorem circuit_admitRequest (state : ProxyState) :
    state.admitRequest.1.circuit = state.circuit.admitRequest.1.circuit := by
  obtain ⟨_, _, circuitState, _, _, halfOpenInflight, _, _, _, _, _, _, _⟩ := state
  cases circuitState <;> cases halfOpenInflight <;> rfl

theorem circuit_enterHalfOpen (state : ProxyState) (now : Nat) (inflight : Bool) :
    (state.enterHalfOpen now inflight).circuit = state.circuit.enterHalfOpen now inflight := by
  by_cases due : state.circuitState = .open ∧ state.resetElapsed now = true
  · rw [state.enterHalfOpen_of_elapsed now due.1 due.2,
      state.circuit.enterHalfOpen_of_elapsed now due.1 due.2]
    rfl
  · rw [state.enterHalfOpen_of_not now due, state.circuit.enterHalfOpen_of_not now due]

theorem circuit_checkCircuit (state : ProxyState) (now : Nat) :
    (state.checkCircuit now).1.circuit = (state.circuit.checkCircuit now).1.circuit := by
  unfold ProxyState.checkCircuit
  rcases circuit : state.circuitState with _ | _ | _
  · simp [circuit, ProxyState.circuit]
  · cases elapsed : state.resetElapsed now <;> simp [circuit, elapsed] <;> rfl
  · cases inflight : state.halfOpenInflight <;> simp [circuit, inflight] <;> rfl

theorem circuit_recordSuccess (state : ProxyState) :
    state.recordSuccess.circuit = state.circuit.recordSuccess.circuit := by
  unfold ProxyState.recordSuccess
  by_cases circuit : state.circuitState = .halfOpen <;> simp [circuit] <;> rfl

theorem circuit_recordFailure (state : ProxyState) (now : Nat) :
    (state.recordFailure now).circuit = (state.circuit.recordFailure now).circuit := by
  have threshold : state.circuit.circuitThreshold = state.circuitThreshold := rfl
  have failures : state.circuit.circuitFailures = state.circuitFailures := rfl
  unfold ProxyState.recordFailure
  by_cases circuit : state.circuitState = .halfOpen
  · simp [circuit]
    rfl
  · simp only [circuitState_circuit, circuit, threshold, failures, if_false]
    split <;> rfl

theorem circuit_handleRequest (state : ProxyState) (now : Nat) :
    (state.handleRequest now).1.circuit = (state.circuit.handleRequest now).1.circuit := by
  have entered : (state.countRequest.enterHalfOpen now true).circuit =
      (state.circuit.countRequest.enterHalfOpen now true).circuit := by
    rw [circuit_enterHalfOpen, circuit_enterHalfOpen]
    rfl
  unfold ProxyState.handleRequest
  rw [circuit_admitRequest, entered, ← circuit_admitRequest]

theorem circuit_uncached (state : ProxyState) (now : Nat) :
    (state.countRequest.enterHalfOpen now false).admitDegraded.1.circuit =
      (state.circuit.enterHalfOpen now false).admitDegraded.1.circuit := by
  have entered : (state.countRequest.enterHalfOpen now false).circuit =
      (state.circuit.enterHalfOpen now false).circuit := by
    rw [circuit_enterHalfOpen, circuit_enterHalfOpen]
    rfl
  rw [circuit_admitDegraded, entered, ← circuit_admitDegraded]

theorem circuit_degraded_not_open {first second : ProxyState} (alike : first.circuit = second.circuit)
    (circuit : first.circuitState ≠ .open) :
    (first.handleRequestWithDegradation now requestKey).1.circuit =
      (second.handleRequestWithDegradation now requestKey).1.circuit := by
  have same := circuitState_of_circuit alike
  have counted : first.countRequest.circuit = second.countRequest.circuit := alike
  rw [degraded_not_open circuit, degraded_not_open (same ▸ circuit), circuit_admitDegraded, counted,
    ← circuit_admitDegraded]

theorem circuit_perform (state : ProxyState) (now : Nat) (call : Call)
    (unread : ∀ requestKey, call ≠ .handleRequestWithDegradation requestKey) :
    (state.perform now call).1.circuit = (state.circuit.perform now call).1.circuit := by
  cases call with
  | checkCircuit => exact circuit_checkCircuit state now
  | handleRequest => exact circuit_handleRequest state now
  | handleRequestWithDegradation requestKey => exact absurd rfl (unread requestKey)
  | recordSuccess => exact circuit_recordSuccess state
  | recordFailure => exact circuit_recordFailure state now
  | recordFailureStatic => rfl
  | cacheResponse requestKey response => rfl

/-! ## Two runs -/

theorem Pair.Alike.sameCircuit (alike : pair.Alike) : pair.SameCircuit :=
  circuitState_of_circuit alike

theorem Pair.Alike.degraded (alike : pair.Alike)
    (agree : pair.AgreesWhenDue (.both ⟨now, .handleRequestWithDegradation requestKey⟩)) :
    (pair.advance (.both ⟨now, .handleRequestWithDegradation requestKey⟩)).Alike := by
  have same : pair.first.circuitState = pair.second.circuitState := alike.sameCircuit
  have elapsed := resetElapsed_of_circuit alike now
  change (pair.first.handleRequestWithDegradation now requestKey).1.circuit =
    (pair.second.handleRequestWithDegradation now requestKey).1.circuit
  by_cases circuit : pair.first.circuitState = .open
  · by_cases due : pair.first.resetElapsed now = true
    · have found := agree circuit due
      cases first : pair.first.stale requestKey with
      | none =>
          rw [degraded_uncached circuit first,
            degraded_uncached (same ▸ circuit) (found.mp first), circuit_uncached, alike,
            ← circuit_uncached]
      | some data =>
          obtain ⟨other, second⟩ : ∃ other, pair.second.stale requestKey = some other := by
            refine Option.ne_none_iff_exists'.mp fun missing => ?_
            simp [first] at found
            exact found missing
          rw [degraded_stale circuit first, degraded_stale (same ▸ circuit) second]
          exact alike
    · rw [degraded_early circuit due, degraded_early (same ▸ circuit) (elapsed ▸ due)]
      exact alike
  · exact circuit_degraded_not_open alike circuit

theorem Pair.Alike.advance (alike : pair.Alike) (label : PairLabel)
    (agree : pair.AgreesWhenDue label) : (pair.advance label).Alike := by
  cases label with
  | cacheFirst requestKey response => exact alike
  | cacheSecond requestKey response => exact alike
  | both timed =>
      obtain ⟨now, call⟩ := timed
      by_cases degraded : ∃ requestKey, call = .handleRequestWithDegradation requestKey
      · obtain ⟨requestKey, rfl⟩ := degraded
        exact alike.degraded agree
      · have unread := not_exists.mp degraded
        change (pair.first.perform now call).1.circuit = (pair.second.perform now call).1.circuit
        rw [circuit_perform _ now call unread, alike, ← circuit_perform _ now call unread]

/-- One of the two finds an answer, the other becomes the probe. -/
theorem circuits_part {first second : ProxyState} (circuit : first.circuitState = .open)
    (other : second.circuitState = .open) (elapsed : second.resetElapsed now = true)
    (cached : first.stale requestKey = some data) (uncached : second.stale requestKey = none) :
    (first.handleRequestWithDegradation now requestKey).1.circuitState = .open ∧
      (second.handleRequestWithDegradation now requestKey).1.circuitState = .halfOpen :=
  ⟨((servesStale_iff first now requestKey data).mpr ⟨circuit, cached⟩).1,
    (degraded_uncached_due other elapsed uncached).1⟩

theorem Pair.Alike.parts (alike : pair.Alike) (label : PairLabel)
    (disagree : ¬ pair.AgreesWhenDue label) : ¬ (pair.advance label).SameCircuit := by
  intro same
  apply disagree
  cases label with
  | cacheFirst requestKey response => trivial
  | cacheSecond requestKey response => trivial
  | both timed =>
      obtain ⟨now, call⟩ := timed
      cases call with
      | handleRequestWithDegradation requestKey =>
          intro circuit elapsed
          have other : pair.second.circuitState = .open := alike.sameCircuit ▸ circuit
          have due : pair.second.resetElapsed now = true := resetElapsed_of_circuit alike now ▸ elapsed
          cases first : pair.first.stale requestKey with
          | none =>
              cases second : pair.second.stale requestKey with
              | none => exact Iff.rfl
              | some data =>
                  obtain ⟨stays, moves⟩ := circuits_part other circuit elapsed second first
                  exact CircuitState.noConfusion (moves.symm.trans (same.trans stays))
          | some data =>
              cases second : pair.second.stale requestKey with
              | none =>
                  obtain ⟨stays, moves⟩ := circuits_part circuit other due first second
                  exact CircuitState.noConfusion (stays.symm.trans (same.trans moves))
              | some answer => simp
      | _ => trivial

/-- A due request recovers an open circuit unless its key is cached, and two
runs that differ in cached entries keep the same circuit states exactly as
long as no due request tells their caches apart. -/
theorem recovery_unless_stale :
    (∀ state now requestKey, ProxyState.Recovers state now requestKey ↔
      state.circuitState = .open ∧ state.resetElapsed now = true ∧ state.stale requestKey = none) ∧
    (∀ state now requestKey data, ProxyState.ServesStale state now requestKey data ↔
      state.circuitState = .open ∧ state.stale requestKey = some data) ∧
    (∀ threshold resetSecs degradation labels,
      pairs.Always Pair.SameCircuit
        ⟨.new threshold resetSecs degradation, .new threshold resetSecs degradation⟩ labels ↔
      pairs.Along Pair.AgreesWhenDue
        ⟨.new threshold resetSecs degradation, .new threshold resetSecs degradation⟩ labels) := by
  refine ⟨recovers_iff, servesStale_iff, fun threshold resetSecs degradation labels => ?_⟩
  exact Machine.always_ofFunction_iff_along Pair.Alike (fun _ alike => alike.sameCircuit)
    (fun _ label alike agree => alike.advance label agree)
    (fun _ label alike disagree => alike.parts label disagree) rfl

/-- An open circuit whose reset time has come answers a cached key and stays
open, while the same run without the entry becomes half-open. -/
theorem not_recovers_when_cached :
    (¬ ∀ before final now requestKey, machine.run ⟨.new 1 30 true, 0⟩ before = some final →
        final.proxy.circuitState = .open → final.proxy.resetElapsed now = true →
        final.proxy.Recovers now requestKey) ∧
    (¬ ∀ labels, pairs.Always Pair.SameCircuit ⟨.new 1 30 true, .new 1 30 true⟩ labels) := by
  constructor
  · intro recovers
    have ran := Machine.run_ofFunction Observed.observe ⟨.new 1 30 true, 0⟩
      [⟨0, .cacheResponse "user" [1]⟩, ⟨0, .recordFailure⟩]
    have recovered := recovers _ _ (30 * 10 ^ 9) "user" ran (by decide) (by decide)
    rw [recovers_iff] at recovered
    exact absurd recovered.2.2 (by decide)
  · intro same
    have parted := same [.cacheFirst "user" [1], .both ⟨0, .recordFailure⟩,
      .both ⟨30 * 10 ^ 9, .handleRequestWithDegradation "user"⟩]
    have final : CircuitState.open = CircuitState.halfOpen :=
      (((parted.2 _ rfl).2 _ rfl).2 _ rfl).head
    exact absurd final (by decide)

end Evergreen.Proxy
