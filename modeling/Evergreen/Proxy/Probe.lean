import Evergreen.Proxy.Circuit

namespace Evergreen.Proxy

/-! # The half-open probe

`half_open_inflight` stands for a probe that somebody was admitted to make.
Five of the six entry points keep it that way; `handle_request` sets the flag
on the request that opens the episode and then rejects that very request.
-/

/-- The in-flight flag is backed by an unanswered admission of this episode;
without one, a half-open circuit admits whoever asks next. -/
structure ProbeTracked (observed : Observed) : Prop where
  backed : observed.proxy.halfOpenInflight = true → 0 < observed.unanswered
  admitting : observed.proxy.circuitState = .halfOpen → observed.unanswered = 0 →
    ∀ now requestKey,
      (observed.proxy.checkCircuit now).2 = true ∧
        (observed.proxy.handleRequest now).2 = true ∧
        (observed.proxy.handleRequestWithDegradation now requestKey).2 = .allowed

/-- `handle_request` is not the call that moves an open circuit to half-open. -/
def SparesTransition (observed : Observed) (timed : TimedCall) : Prop :=
  ¬ (timed.call = .handleRequest ∧ observed.proxy.circuitState = .open ∧
    observed.proxy.resetElapsed timed.now = true)

instance (observed : Observed) (timed : TimedCall) : Decidable (SparesTransition observed timed) :=
  inferInstanceAs (Decidable (¬ _))

def FlagBacked (observed : Observed) : Prop :=
  observed.proxy.halfOpenInflight = true →
    observed.proxy.circuitState = .halfOpen ∧ 0 < observed.unanswered

variable {state : ProxyState} {observed : Observed} {timed : TimedCall} {now : Nat}
variable {requestKey : String}

/-! ## What a half-open circuit answers -/

theorem checkCircuit_halfOpen (halfOpen : state.circuitState = .halfOpen)
    (idle : state.halfOpenInflight = false) : (state.checkCircuit now).2 = true := by
  simp [ProxyState.checkCircuit, halfOpen, idle]

theorem handleRequest_halfOpen (halfOpen : state.circuitState = .halfOpen)
    (idle : state.halfOpenInflight = false) : (state.handleRequest now).2 = true := by
  rw [ProxyState.handleRequest, state.countRequest.enterHalfOpen_of_not now (by simp [halfOpen])]
  simp [ProxyState.admitRequest, halfOpen, idle]

theorem handleRequestWithDegradation_halfOpen (halfOpen : state.circuitState = .halfOpen)
    (idle : state.halfOpenInflight = false) :
    (state.handleRequestWithDegradation now requestKey).2 = .allowed := by
  simp [ProxyState.handleRequestWithDegradation, ProxyState.admitDegraded, halfOpen, idle]

theorem FlagBacked.probeTracked (backed : FlagBacked observed) : ProbeTracked observed where
  backed raised := (backed raised).2
  admitting halfOpen quiet now requestKey := by
    have idle : observed.proxy.halfOpenInflight = false := by
      cases raised : observed.proxy.halfOpenInflight with
      | false => rfl
      | true => exact absurd quiet (Nat.ne_of_gt (backed raised).2)
    exact ⟨checkCircuit_halfOpen halfOpen idle, handleRequest_halfOpen halfOpen idle,
      handleRequestWithDegradation_halfOpen halfOpen idle⟩

/-! ## One call -/

/-- What the flag and the circuit look like after an admission function: the
call was admitted into a half-open circuit, or a half-open circuit turned it
away, or the flag is where it was and no episode began. -/
def Admission (before after : ProxyState) (admitted : Bool) : Prop :=
  after.circuitState = .halfOpen ∧ admitted = true ∨
    before.circuitState = after.circuitState ∧ before.halfOpenInflight = after.halfOpenInflight

theorem checkCircuit_admission :
    Admission state (state.checkCircuit now).1 (state.checkCircuit now).2 := by
  cases circuit : state.circuitState with
  | closed => simp [ProxyState.checkCircuit, Admission, circuit]
  | «open» =>
      cases elapsed : state.resetElapsed now <;>
        simp [ProxyState.checkCircuit, Admission, circuit, elapsed]
  | halfOpen =>
      cases raised : state.halfOpenInflight <;>
        simp [ProxyState.checkCircuit, Admission, circuit, raised]

theorem admitRequest_admission (state : ProxyState) :
    Admission state state.admitRequest.1 state.admitRequest.2 := by
  cases circuit : state.circuitState with
  | closed => simp [ProxyState.admitRequest, Admission, circuit]
  | «open» => simp [ProxyState.admitRequest, Admission, circuit]
  | halfOpen =>
      cases raised : state.halfOpenInflight <;>
        simp [ProxyState.admitRequest, Admission, circuit, raised]

theorem handleRequest_admission
    (spares : ¬ (state.circuitState = .open ∧ state.resetElapsed now = true)) :
    Admission state (state.handleRequest now).1 (state.handleRequest now).2 := by
  rw [ProxyState.handleRequest, state.countRequest.enterHalfOpen_of_not now spares]
  exact admitRequest_admission state.countRequest

theorem admitDegraded_admission (state : ProxyState) :
    Admission state state.admitDegraded.1 (state.admitDegraded.2 = .allowed) := by
  cases circuit : state.circuitState with
  | closed => simp [ProxyState.admitDegraded, Admission, circuit]
  | «open» => simp [ProxyState.admitDegraded, Admission, circuit]
  | halfOpen =>
      cases raised : state.halfOpenInflight <;>
        simp [ProxyState.admitDegraded, Admission, circuit, raised]

/-- The transition made by `handle_request_with_degradation` lowers the flag
first, so the request that opens the episode is its probe. -/
theorem handleRequestWithDegradation_admission :
    Admission state (state.handleRequestWithDegradation now requestKey).1
      ((state.handleRequestWithDegradation now requestKey).2 = .allowed) := by
  rcases degraded_cases state now requestKey with ⟨_, data, served⟩ | ⟨_, _, moved⟩ | decided
  · rw [served]
    exact .inr ⟨rfl, rfl⟩
  · rw [moved]
    exact .inl ⟨rfl, rfl⟩
  · rw [decided]
    exact admitDegraded_admission state.countRequest

theorem FlagBacked.observe_admission (backed : FlagBacked observed)
    (admission : Admission observed.proxy (observed.proxy.perform timed.now timed.call).1
      (observed.proxy.perform timed.now timed.call).2.admits)
    (asks : timed.call.answers = false) : FlagBacked (observed.observe timed) := by
  intro raised
  rcases admission with ⟨halfOpen, admitted⟩ | ⟨circuit, flag⟩
  · refine ⟨halfOpen, ?_⟩
    simp only [Observed.observe, admitted, if_true]
    exact Nat.succ_pos _
  · obtain ⟨halfOpen, unanswered⟩ := backed (flag.trans raised)
    refine ⟨circuit.symm.trans halfOpen, ?_⟩
    simp only [Observed.observe, halfOpen, asks, ne_eq, not_true_eq_false, false_and,
      Bool.false_eq_true, or_self, if_false]
    split <;> omega

theorem recordSuccess_lowers (backed : FlagBacked observed) :
    observed.proxy.recordSuccess.halfOpenInflight = false := by
  by_cases halfOpen : observed.proxy.circuitState = .halfOpen
  · simp [ProxyState.recordSuccess, halfOpen]
  · simpa [ProxyState.recordSuccess, halfOpen] using
      Bool.eq_false_iff.mpr fun raised => halfOpen (backed raised).1

theorem recordFailure_lowers (backed : FlagBacked observed) :
    (observed.proxy.recordFailure now).halfOpenInflight = false := by
  by_cases halfOpen : observed.proxy.circuitState = .halfOpen
  · simp [ProxyState.recordFailure, halfOpen]
  · have idle : observed.proxy.halfOpenInflight = false :=
      Bool.eq_false_iff.mpr fun raised => halfOpen (backed raised).1
    simp only [ProxyState.recordFailure, halfOpen, if_false]
    split <;> exact idle

theorem FlagBacked.observe (backed : FlagBacked observed) (spares : SparesTransition observed timed) :
    FlagBacked (observed.observe timed) := by
  obtain ⟨now, call⟩ := timed
  cases call with
  | checkCircuit => exact backed.observe_admission checkCircuit_admission rfl
  | handleRequest =>
      refine backed.observe_admission (handleRequest_admission ?_) rfl
      exact fun transition => spares ⟨rfl, transition⟩
  | handleRequestWithDegradation requestKey =>
      exact backed.observe_admission handleRequestWithDegradation_admission rfl
  | recordSuccess =>
      intro raised
      exact absurd (recordSuccess_lowers backed) (Bool.eq_false_iff.not.mpr (not_not.mpr raised))
  | recordFailure =>
      intro raised
      exact absurd (recordFailure_lowers backed) (Bool.eq_false_iff.not.mpr (not_not.mpr raised))
  | recordFailureStatic => exact backed.observe_admission (.inr ⟨rfl, rfl⟩) rfl
  | cacheResponse requestKey response => exact backed.observe_admission (.inr ⟨rfl, rfl⟩) rfl

/-- The transition made by `handle_request` raises the flag and rejects the
request that made it. -/
theorem handleRequest_transition (now : Nat) (circuit : state.circuitState = .open)
    (elapsed : state.resetElapsed now = true) :
    (state.handleRequest now).1.halfOpenInflight = true ∧
      (state.handleRequest now).1.circuitState = .halfOpen ∧ (state.handleRequest now).2 = false := by
  rw [ProxyState.handleRequest, state.countRequest.enterHalfOpen_of_elapsed now circuit elapsed]
  exact ⟨rfl, rfl, rfl⟩

theorem observe_transition_unbacked (breaks : ¬ SparesTransition observed timed) :
    ¬ ProbeTracked (observed.observe timed) := by
  obtain ⟨now, call⟩ := timed
  obtain ⟨rfl, circuit, elapsed⟩ := Classical.not_not.mp breaks
  obtain ⟨raised, halfOpen, rejected⟩ := handleRequest_transition now circuit elapsed
  intro tracked
  have backed : 0 < (observed.observe ⟨now, .handleRequest⟩).unanswered := tracked.backed raised
  simp [Observed.observe, ProxyState.perform, Reply.admits, circuit, halfOpen, rejected] at backed

/-- The in-flight flag stays backed by a real probe throughout a run exactly as
long as no `handle_request` call makes the transition to half-open. -/
theorem always_probeTracked_iff (circuitThreshold circuitResetSecs : Nat)
    (gracefulDegradationEnabled : Bool) (calls : List TimedCall) :
    machine.Always ProbeTracked
        ⟨.new circuitThreshold circuitResetSecs gracefulDegradationEnabled, 0⟩ calls ↔
      machine.Along SparesTransition
        ⟨.new circuitThreshold circuitResetSecs gracefulDegradationEnabled, 0⟩ calls := by
  refine Machine.always_ofFunction_iff_along FlagBacked
    (fun observed backed => backed.probeTracked) ?_ ?_ (fun raised => by cases raised)
  · intro observed timed backed spares
    exact backed.observe spares
  · intro observed timed _ breaks
    exact observe_transition_unbacked breaks

/-- One failure opens the circuit and, with no cool-down left, the next
`handle_request` raises the flag and rejects itself. -/
theorem not_always_probeTracked :
    ¬ machine.Always ProbeTracked ⟨.new 1 0 false, 0⟩
      [⟨0, .recordFailure⟩, ⟨1, .handleRequest⟩] := by
  intro always
  have tracked := always.last (Machine.run_ofFunction _ _ _)
  exact absurd (tracked.backed rfl) (by decide)

end Evergreen.Proxy
