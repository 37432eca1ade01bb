import Evergreen.Machine.Run
import Mathlib.Algebra.Order.Ring.Nat

namespace Evergreen.Proxy

/-! # The proxy shim's circuit breaker

The entry points of `ProxyShim` that read or write the circuit fields of
`ProxyState`.  Each takes the state's write lock for its whole body, so one
call is one step.  Instants are nanoseconds on the monotonic clock.
-/

inductive CircuitState where
  | closed
  | open
  | halfOpen
deriving DecidableEq, Repr

inductive HandleRequestResult where
  | allowed
  | rejected
  | servedFromCache (data : List UInt8)
deriving DecidableEq, Repr

/-- The fields of `ProxyState` that these entry points use.  `staleCache` is
the `HashMap` from request keys to responses. -/
structure ProxyState where
  circuitThreshold : Nat
  circuitResetSecs : Nat
  circuitState : CircuitState
  circuitFailures : Nat
  openSince : Option Nat
  halfOpenInflight : Bool
  connectionsActive : Nat
  connectionsTotal : Nat
  requestsTotal : Nat
  requestsCircuitBroken : Nat
  gracefulDegradationEnabled : Bool
  staleCache : String → Option (List UInt8)
  staleResponsesTotal : Nat

/-- The circuit `ProxyShim::new` starts with, under any configuration. -/
def ProxyState.new (circuitThreshold circuitResetSecs : Nat) (gracefulDegradationEnabled : Bool) :
    ProxyState where
  circuitThreshold := circuitThreshold
  circuitResetSecs := circuitResetSecs
  circuitState := .closed
  circuitFailures := 0
  openSince := none
  halfOpenInflight := false
  connectionsActive := 0
  connectionsTotal := 0
  requestsTotal := 0
  requestsCircuitBroken := 0
  gracefulDegradationEnabled := gracefulDegradationEnabled
  staleCache := fun _ => none
  staleResponsesTotal := 0

namespace ProxyState

variable (state : ProxyState) (now : Nat)

/-- `opened_at.elapsed() >= Duration::from_secs(circuit_reset_secs)` for the
recorded opening, if there is one. -/
def resetElapsed : Bool :=
  state.openSince.any fun openedAt => state.circuitResetSecs * 10 ^ 9 ≤ now - openedAt

def checkCircuit : ProxyState × Bool :=
  if state.circuitState = .open then
    if state.resetElapsed now then
      ({ state with circuitState := .halfOpen, halfOpenInflight := true }, true)
    else
      (state, false)
  else if state.circuitState = .halfOpen then
    if state.halfOpenInflight then (state, false)
    else ({ state with halfOpenInflight := true }, true)
  else
    (state, true)

def recordSuccess : ProxyState :=
  let state := { state with circuitFailures := 0 }
  if state.circuitState = .halfOpen then
    { state with circuitState := .closed, openSince := none, halfOpenInflight := false }
  else
    state

/-- The failure counter is a `u32` without overflow checks in release builds. -/
def recordFailure : ProxyState :=
  let state := { state with circuitFailures := (state.circuitFailures + 1) % 2 ^ 32 }
  if state.circuitState = .halfOpen then
    { state with circuitState := .open, openSince := some now, halfOpenInflight := false }
  else if state.circuitFailures ≥ state.circuitThreshold then
    { state with circuitState := .open, openSince := some now }
  else
    state

def recordFailureStatic : ProxyState :=
  { state with circuitFailures := (state.circuitFailures + 1) % 2 ^ 32 }

def countRequest : ProxyState :=
  { state with requestsTotal := state.requestsTotal + 1 }

/-- The transition both request functions make before they decide, each with
its own value of the in-flight flag. -/
def enterHalfOpen (inflight : Bool) : ProxyState :=
  if state.circuitState = .open ∧ state.resetElapsed now then
    { state with circuitState := .halfOpen, halfOpenInflight := inflight }
  else
    state

def connect : ProxyState :=
  { state with
    connectionsTotal := state.connectionsTotal + 1
    connectionsActive := state.connectionsActive - 1 + 1 }

def reject : ProxyState :=
  { state with requestsCircuitBroken := state.requestsCircuitBroken + 1 }

/-- The second half of `handle_request`, past the transition. -/
def admitRequest : ProxyState × Bool :=
  match state.circuitState, state.halfOpenInflight with
  | .open, _ => (state.reject, false)
  | .halfOpen, true => (state.reject, false)
  | .halfOpen, false => ({ state with halfOpenInflight := true }.connect, true)
  | .closed, _ => (state.connect, true)

def handleRequest : ProxyState × Bool :=
  (state.countRequest.enterHalfOpen now true).admitRequest

/-- The second half of `handle_request_with_degradation`, past the cache and
the transition. -/
def admitDegraded : ProxyState × HandleRequestResult :=
  match state.circuitState with
  | .open => (state.reject, .rejected)
  | .halfOpen =>
      if state.halfOpenInflight then (state.reject, .rejected)
      else ({ state with halfOpenInflight := true }.connect, .allowed)
  | .closed => (state.connect, .allowed)

def handleRequestWithDegradation (requestKey : String) : ProxyState × HandleRequestResult :=
  let state := state.countRequest
  if state.circuitState = .open then
    match if state.gracefulDegradationEnabled then state.staleCache requestKey else none with
    | some data =>
        ({ state with staleResponsesTotal := state.staleResponsesTotal + 1 }, .servedFromCache data)
    | none => (state.enterHalfOpen now false).admitDegraded
  else
    state.admitDegraded

def cacheResponse (requestKey : String) (response : List UInt8) : ProxyState :=
  { state with
    staleCache := fun key => if key = requestKey then some response else state.staleCache key }

@[simp] theorem circuitState_countRequest : state.countRequest.circuitState = state.circuitState := rfl

@[simp] theorem halfOpenInflight_countRequest :
    state.countRequest.halfOpenInflight = state.halfOpenInflight := rfl

@[simp] theorem resetElapsed_countRequest :
    state.countRequest.resetElapsed now = state.resetElapsed now := rfl

@[simp] theorem circuitState_connect : state.connect.circuitState = state.circuitState := rfl

@[simp] theorem halfOpenInflight_connect :
    state.connect.halfOpenInflight = state.halfOpenInflight := rfl

@[simp] theorem circuitState_reject : state.reject.circuitState = state.circuitState := rfl

@[simp] theorem halfOpenInflight_reject :
    state.reject.halfOpenInflight = state.halfOpenInflight := rfl

theorem enterHalfOpen_of_elapsed {inflight : Bool} (circuit : state.circuitState = .open)
    (elapsed : state.resetElapsed now = true) :
    state.enterHalfOpen now inflight =
      { state with circuitState := .halfOpen, halfOpenInflight := inflight } :=
  if_pos ⟨circuit, elapsed⟩

theorem enterHalfOpen_of_not {inflight : Bool}
    (stays : ¬ (state.circuitState = .open ∧ state.resetElapsed now = true)) :
    state.enterHalfOpen now inflight = state :=
  if_neg stays

/-- What the degraded path finds in the cache. -/
def stale (requestKey : String) : Option (List UInt8) :=
  if state.gracefulDegradationEnabled then state.staleCache requestKey else none

end ProxyState

variable {state : ProxyState} {now : Nat} {requestKey : String} {data : List UInt8}

theorem degraded_stale (circuit : state.circuitState = .open)
    (cached : state.stale requestKey = some data) :
    state.handleRequestWithDegradation now requestKey =
      ({ state.countRequest with staleResponsesTotal := state.staleResponsesTotal + 1 },
        .servedFromCache data) := by
  unfold ProxyState.stale at cached
  simp [ProxyState.handleRequestWithDegradation, ProxyState.countRequest, circuit, cached]

theorem degraded_uncached (circuit : state.circuitState = .open)
    (uncached : state.stale requestKey = none) :
    state.handleRequestWithDegradation now requestKey =
      (state.countRequest.enterHalfOpen now false).admitDegraded := by
  unfold ProxyState.stale at uncached
  simp [ProxyState.handleRequestWithDegradation, ProxyState.countRequest, circuit, uncached]

theorem degraded_not_open (circuit : state.circuitState ≠ .open) :
    state.handleRequestWithDegradation now requestKey = state.countRequest.admitDegraded := by
  simp [ProxyState.handleRequestWithDegradation, circuit]

/-- A degraded request is served from the cache, makes the transition, or is
decided as the circuit stands. -/
theorem degraded_cases (state : ProxyState) (now : Nat) (requestKey : String) :
    (state.circuitState = .open ∧ ∃ data, state.handleRequestWithDegradation now requestKey =
        ({ state.countRequest with staleResponsesTotal := state.staleResponsesTotal + 1 },
          .servedFromCache data)) ∨
      (state.circuitState = .open ∧ state.resetElapsed now = true ∧
        state.handleRequestWithDegradation now requestKey =
          ({ state.countRequest with circuitState := .halfOpen, halfOpenInflight := false } :
            ProxyState).admitDegraded) ∨
      state.handleRequestWithDegradation now requestKey = state.countRequest.admitDegraded := by
  by_cases circuit : state.circuitState = .open
  · cases cached : state.stale requestKey with
    | some data => exact .inl ⟨circuit, data, degraded_stale circuit cached⟩
    | none =>
        rw [degraded_uncached circuit cached]
        by_cases elapsed : state.resetElapsed now = true
        · rw [state.countRequest.enterHalfOpen_of_elapsed now circuit elapsed]
          exact .inr (.inl ⟨circuit, elapsed, rfl⟩)
        · rw [state.countRequest.enterHalfOpen_of_not now fun due => elapsed due.2]
          exact .inr (.inr rfl)
  · exact .inr (.inr (degraded_not_open circuit))

inductive Call where
  | checkCircuit
  | handleRequest
  | handleRequestWithDegradation (requestKey : String)
  | recordSuccess
  | recordFailure
  | recordFailureStatic
  | cacheResponse (requestKey : String) (response : List UInt8)
deriving DecidableEq, Repr

inductive Reply where
  | decided (allowed : Bool)
  | handled (result : HandleRequestResult)
  | none
deriving DecidableEq, Repr

def Reply.admits : Reply → Bool
  | .decided allowed => allowed
  | .handled result => result = .allowed
  | .none => false

def ProxyState.perform (state : ProxyState) (now : Nat) : Call → ProxyState × Reply
  | .checkCircuit => ((state.checkCircuit now).1, .decided (state.checkCircuit now).2)
  | .handleRequest => ((state.handleRequest now).1, .decided (state.handleRequest now).2)
  | .handleRequestWithDegradation requestKey =>
      ((state.handleRequestWithDegradation now requestKey).1,
        .handled (state.handleRequestWithDegradation now requestKey).2)
  | .recordSuccess => (state.recordSuccess, .none)
  | .recordFailure => (state.recordFailure now, .none)
  | .recordFailureStatic => (state.recordFailureStatic, .none)
  | .cacheResponse requestKey response => (state.cacheResponse requestKey response, .none)

/-! ## What no call changes -/

/-- The fields that only `new` sets. -/
def ProxyState.settings (state : ProxyState) : Nat × Nat × Bool :=
  (state.circuitThreshold, state.circuitResetSecs, state.gracefulDegradationEnabled)

theorem settings_enterHalfOpen (state : ProxyState) (now : Nat) (inflight : Bool) :
    (state.enterHalfOpen now inflight).settings = state.settings := by
  unfold ProxyState.enterHalfOpen
  split <;> rfl

theorem settings_admitDegraded (state : ProxyState) :
    state.admitDegraded.1.settings = state.settings := by
  unfold ProxyState.admitDegraded
  split
  · rfl
  · split <;> rfl
  · rfl

theorem settings_perform (state : ProxyState) (now : Nat) (call : Call) :
    (state.perform now call).1.settings = state.settings := by
  cases call with
  | checkCircuit =>
      simp only [ProxyState.perform, ProxyState.checkCircuit]
      split
      · split <;> rfl
      · split
        · split <;> rfl
        · rfl
  | handleRequest =>
      simp only [ProxyState.perform, ProxyState.handleRequest, ProxyState.admitRequest]
      split <;> exact settings_enterHalfOpen state.countRequest now true
  | handleRequestWithDegradation requestKey =>
      simp only [ProxyState.perform]
      rcases degraded_cases state now requestKey with ⟨_, data, served⟩ | ⟨_, _, moved⟩ | decided
      · rw [served]
        rfl
      · rw [moved, settings_admitDegraded]
        rfl
      · rw [decided, settings_admitDegraded]
        rfl
  | recordSuccess =>
      simp only [ProxyState.perform, ProxyState.recordSuccess]
      split <;> rfl
  | recordFailure =>
      simp only [ProxyState.perform, ProxyState.recordFailure]
      split
      · rfl
      · split <;> rfl
  | recordFailureStatic => rfl
  | cacheResponse requestKey response => rfl

/-- A label is a call together with its reading of the clock. -/
structure TimedCall where
  now : Nat
  call : Call
deriving DecidableEq, Repr

/-- The proxy under an observer who counts the admissions of the current
half-open episode that no `record_*` call has answered yet. -/
structure Observed where
  proxy : ProxyState
  unanswered : Nat

/-- `record_success` and `record_failure` answer the admissions before them. -/
def Call.answers : Call → Bool
  | .recordSuccess | .recordFailure => true
  | _ => false

def Observed.observe (observed : Observed) (timed : TimedCall) : Observed :=
  let (proxy, reply) := observed.proxy.perform timed.now timed.call
  let entered := observed.proxy.circuitState ≠ .halfOpen ∧ proxy.circuitState = .halfOpen
  let carried := if entered ∨ timed.call.answers then 0 else observed.unanswered
  { proxy, unanswered := if reply.admits then carried + 1 else carried }

def machine : Machine Observed TimedCall :=
  .ofFunction Observed.observe

end Evergreen.Proxy
