import Evergreen.Proxy.Circuit

namespace Evergreen.Proxy

/-! # What becomes of a request

Every request that comes in is admitted, turned away or answered from the
cache, and counted as that.  Being turned away is not always for want of a
cached response: a half-open circuit does not look into the cache.
-/

/-! ## The counters -/

/-- The requests by what became of them. -/
def ProxyState.answered (state : ProxyState) : Nat :=
  state.connectionsTotal + state.requestsCircuitBroken + state.staleResponsesTotal

def Accounted (observed : Observed) : Prop :=
  observed.proxy.requestsTotal = observed.proxy.connectionsTotal +
    observed.proxy.requestsCircuitBroken + observed.proxy.staleResponsesTotal

def Call.requests : Call → Nat
  | .handleRequest => 1
  | .handleRequestWithDegradation _ => 1
  | _ => 0

variable {state : ProxyState} {observed : Observed} {timed : TimedCall} {now : Nat}
variable {requestKey : String}

/-- The second half of a request answers it once and does not count it again. -/
structure Answers (before after : ProxyState) : Prop where
  requestsTotal : after.requestsTotal = before.requestsTotal
  answered : after.answered = before.answered + 1

theorem answers_reject (state : ProxyState) : Answers state state.reject := by
  refine ⟨rfl, ?_⟩
  simp only [ProxyState.answered, ProxyState.reject]
  omega

theorem answers_connect (state : ProxyState) : Answers state state.connect := by
  refine ⟨rfl, ?_⟩
  simp only [ProxyState.answered, ProxyState.connect]
  omega

theorem answers_probe (state : ProxyState) :
    Answers state { state with halfOpenInflight := true }.connect :=
  ⟨rfl, (answers_connect { state with halfOpenInflight := true }).answered⟩

theorem answers_admitRequest (state : ProxyState) : Answers state state.admitRequest.1 := by
  unfold ProxyState.admitRequest
  split
  · exact answers_reject state
  · exact answers_reject state
  · exact answers_probe state
  · exact answers_connect state

theorem answers_admitDegraded (state : ProxyState) : Answers state state.admitDegraded.1 := by
  unfold ProxyState.admitDegraded
  split
  · exact answers_reject state
  · split
    · exact answers_reject state
    · exact answers_probe state
  · exact answers_connect state

/-- One call counts as many requests as it answers. -/
structure Counts (before after : ProxyState) (requests : Nat) : Prop where
  requestsTotal : after.requestsTotal = before.requestsTotal + requests
  answered : after.answered = before.answered + requests

theorem Answers.counts {between after : ProxyState} (answers : Answers between after)
    (counted : between.requestsTotal = state.requestsTotal + 1)
    (answered : between.answered = state.answered) : Counts state after 1 :=
  ⟨answers.requestsTotal.trans counted, by rw [answers.answered, answered]⟩

theorem counts_handleRequest (state : ProxyState) (now : Nat) :
    Counts state (state.handleRequest now).1 1 := by
  have answers := answers_admitRequest (state.countRequest.enterHalfOpen now true)
  refine answers.counts ?_ ?_
  · unfold ProxyState.enterHalfOpen
    split <;> rfl
  · unfold ProxyState.enterHalfOpen
    split <;> rfl

theorem counts_handleRequestWithDegradation (state : ProxyState) (now : Nat) (requestKey : String) :
    Counts state (state.handleRequestWithDegradation now requestKey).1 1 := by
  rcases degraded_cases state now requestKey with ⟨_, data, served⟩ | ⟨_, _, moved⟩ | decided
  · rw [served]
    exact ⟨rfl, rfl⟩
  · rw [moved]
    exact (answers_admitDegraded _).counts rfl rfl
  · rw [decided]
    exact (answers_admitDegraded _).counts rfl rfl

theorem counts_perform (state : ProxyState) (now : Nat) (call : Call) :
    Counts state (state.perform now call).1 call.requests := by
  cases call with
  | checkCircuit =>
      simp only [ProxyState.perform, ProxyState.checkCircuit]
      split
      · split <;> exact ⟨rfl, rfl⟩
      · split
        · split <;> exact ⟨rfl, rfl⟩
        · exact ⟨rfl, rfl⟩
  | handleRequest => exact counts_handleRequest state now
  | handleRequestWithDegradation requestKey =>
      exact counts_handleRequestWithDegradation state now requestKey
  | recordSuccess =>
      simp only [ProxyState.perform, ProxyState.recordSuccess]
      split <;> exact ⟨rfl, rfl⟩
  | recordFailure =>
      simp only [ProxyState.perform, ProxyState.recordFailure]
      split
      · exact ⟨rfl, rfl⟩
      · split <;> exact ⟨rfl, rfl⟩
  | recordFailureStatic => exact ⟨rfl, rfl⟩
  | cacheResponse requestKey response => exact ⟨rfl, rfl⟩

theorem Accounted.observe (accounted : Accounted observed) : Accounted (observed.observe timed) := by
  have counts := counts_perform observed.proxy timed.now timed.call
  have before : observed.proxy.requestsTotal = observed.proxy.answered := accounted
  have after : (observed.proxy.perform timed.now timed.call).1.requestsTotal =
      (observed.proxy.perform timed.now timed.call).1.answered := by
    rw [counts.requestsTotal, counts.answered, before]
  exact after

/-- The call rejects a request only if there is no cached response for it. -/
def RejectsOnlyUncached (observed : Observed) (timed : TimedCall) : Prop :=
  ∀ requestKey, timed.call = .handleRequestWithDegradation requestKey →
    (observed.proxy.handleRequestWithDegradation timed.now requestKey).2 = .rejected →
      observed.proxy.staleCache requestKey = none

/-- A request that meets a probe in flight has no cached response. -/
def SparesProbe (observed : Observed) (timed : TimedCall) : Prop :=
  ∀ requestKey, timed.call = .handleRequestWithDegradation requestKey →
    observed.proxy.circuitState = .halfOpen → observed.proxy.halfOpenInflight = true →
      observed.proxy.staleCache requestKey = none

def Degrades (observed : Observed) : Prop :=
  observed.proxy.gracefulDegradationEnabled = true

theorem Degrades.observe (degrades : Degrades observed) : Degrades (observed.observe timed) := by
  have settings := settings_perform observed.proxy timed.now timed.call
  have kept : (observed.observe timed).proxy.gracefulDegradationEnabled =
      observed.proxy.gracefulDegradationEnabled := congrArg (·.2.2) settings
  exact kept.trans degrades

/-- An open circuit rejects a request only after it has found nothing in the
cache, a half-open one whenever its probe is in flight. -/
theorem degraded_rejected_iff (degrades : state.gracefulDegradationEnabled = true) :
    (state.handleRequestWithDegradation now requestKey).2 = .rejected ↔
      (state.circuitState = .open ∧ state.staleCache requestKey = none ∧
          state.resetElapsed now = false) ∨
        (state.circuitState = .halfOpen ∧ state.halfOpenInflight = true) := by
  cases circuit : state.circuitState with
  | closed => simp [degraded_not_open, circuit, ProxyState.admitDegraded]
  | halfOpen =>
      cases raised : state.halfOpenInflight <;>
        simp [degraded_not_open, circuit, raised, ProxyState.admitDegraded]
  | «open» =>
      have found : state.stale requestKey = state.staleCache requestKey := by
        simp [ProxyState.stale, degrades]
      cases cached : state.staleCache requestKey with
      | some data =>
          rw [degraded_stale circuit (found.trans cached)]
          simp
      | none =>
          rw [degraded_uncached circuit (found.trans cached)]
          by_cases elapsed : state.resetElapsed now = true
          · rw [state.countRequest.enterHalfOpen_of_elapsed now circuit elapsed]
            simp [ProxyState.admitDegraded, elapsed]
          · rw [state.countRequest.enterHalfOpen_of_not now fun due => elapsed due.2]
            simp [ProxyState.admitDegraded, circuit, elapsed]

theorem Degrades.rejectsOnlyUncached_iff (degrades : Degrades observed) :
    RejectsOnlyUncached observed timed ↔ SparesProbe observed timed := by
  constructor
  · intro rejects requestKey asked halfOpen raised
    exact rejects requestKey asked ((degraded_rejected_iff degrades).mpr (.inr ⟨halfOpen, raised⟩))
  · intro spares requestKey asked rejected
    rcases (degraded_rejected_iff degrades).mp rejected with ⟨_, uncached, _⟩ | ⟨halfOpen, raised⟩
    · exact uncached
    · exact spares requestKey asked halfOpen raised

/-- With graceful degradation, the calls of a run reject only what is not cached
exactly when none of them comes upon a probe in flight with its key cached. -/
theorem always_rejectsOnlyUncached_iff (circuitThreshold circuitResetSecs : Nat)
    (calls : List TimedCall) :
    machine.Along RejectsOnlyUncached ⟨.new circuitThreshold circuitResetSecs true, 0⟩ calls ↔
      machine.Along SparesProbe ⟨.new circuitThreshold circuitResetSecs true, 0⟩ calls :=
  Machine.along_ofFunction_iff_along Degrades (fun _ _ degrades => degrades.rejectsOnlyUncached_iff)
    (fun _ _ degrades _ => degrades.observe) rfl

/-- A cached request is rejected while another one probes the backend. -/
theorem probe_rejects_cached :
    ¬ machine.Along RejectsOnlyUncached ⟨.new 1 0 true, 0⟩
      [⟨0, .cacheResponse "user" [1]⟩, ⟨0, .recordFailure⟩,
        ⟨1, .handleRequestWithDegradation "other"⟩, ⟨2, .handleRequestWithDegradation "user"⟩] := by
  intro along
  have last := ((((along _ rfl).2 _ rfl).2 _ rfl).2 _ rfl).1
  exact absurd (last "user" rfl (by decide)) (by decide)

end Evergreen.Proxy
