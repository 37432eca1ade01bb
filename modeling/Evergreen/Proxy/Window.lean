import Evergreen.Proxy.Circuit

namespace Evergreen.Proxy

/-! # How long an open circuit stays open

Requests that were admitted before the circuit opened may still fail after it
has.  `record_failure` takes such a failure for another opening.
-/

/-- The proxy with the time of its last transition to open. -/
structure Windowed where
  proxy : ProxyState
  openedAt : Option Nat

def Windowed.observe (windowed : Windowed) (timed : TimedCall) : Windowed :=
  let proxy := (windowed.proxy.perform timed.now timed.call).1
  let opened := windowed.proxy.circuitState ≠ .open ∧ proxy.circuitState = .open
  { proxy, openedAt := if opened then some timed.now else windowed.openedAt }

def windows : Machine Windowed TimedCall := .ofFunction Windowed.observe

def Call.asks : Call → Bool
  | .checkCircuit | .handleRequest | .handleRequestWithDegradation _ => true
  | _ => false

/-- `circuit_reset_secs` have passed since the circuit opened. -/
def Windowed.Due (windowed : Windowed) (now : Nat) : Prop :=
  ∃ openedAt, windowed.openedAt = some openedAt ∧
    windowed.proxy.circuitResetSecs * 10 ^ 9 ≤ now - openedAt

/-- After the call an open circuit goes by the time at which it opened, and a
call that asks an open circuit when its time is over is admitted. -/
structure KeepsWindow (windowed : Windowed) (timed : TimedCall) : Prop where
  since : (windowed.observe timed).proxy.circuitState = .open →
    (windowed.observe timed).proxy.openSince = (windowed.observe timed).openedAt
  probe : windowed.proxy.circuitState = .open → timed.call.asks = true → windowed.Due timed.now →
    (windowed.proxy.perform timed.now timed.call).2.admits = true

/-- A failure that reaches the threshold of an open circuit is no later than the
opening. -/
def SparesWindow (windowed : Windowed) (timed : TimedCall) : Prop :=
  timed.call = .recordFailure → windowed.proxy.circuitState = .open →
    windowed.proxy.circuitThreshold ≤ (windowed.proxy.circuitFailures + 1) % 2 ^ 32 →
      windowed.proxy.openSince = some timed.now

/-- The call that asks when the time is over is one that is admitted then: not
`handle_request`, nor a request whose response is cached. -/
def AsksForProbe (windowed : Windowed) (timed : TimedCall) : Prop :=
  windowed.proxy.circuitState = .open → windowed.proxy.resetElapsed timed.now = true →
    timed.call ≠ .handleRequest ∧
      ∀ requestKey, timed.call = .handleRequestWithDegradation requestKey →
        windowed.proxy.stale requestKey = none

/-- An open circuit has an opening time, the one it opened at. -/
def Dated (windowed : Windowed) : Prop :=
  windowed.proxy.circuitState = .open →
    ∃ openedAt, windowed.proxy.openSince = some openedAt ∧ windowed.openedAt = some openedAt

variable {state : ProxyState} {windowed : Windowed} {timed : TimedCall} {now : Nat}
variable {call : Call}

/-! ## One call -/

theorem circuitState_admitRequest_open (opened : state.admitRequest.1.circuitState = .open) :
    state.admitRequest.1.openSince = state.openSince ∧ state.circuitState = .open := by
  cases circuit : state.circuitState with
  | closed => simp [ProxyState.admitRequest, circuit] at opened
  | «open» => simp [ProxyState.admitRequest, circuit, ProxyState.reject]
  | halfOpen =>
      cases raised : state.halfOpenInflight <;>
        simp [ProxyState.admitRequest, circuit, raised] at opened

theorem circuitState_admitDegraded_open (opened : state.admitDegraded.1.circuitState = .open) :
    state.admitDegraded.1.openSince = state.openSince ∧ state.circuitState = .open := by
  cases circuit : state.circuitState with
  | closed => simp [ProxyState.admitDegraded, circuit] at opened
  | «open» => simp [ProxyState.admitDegraded, circuit, ProxyState.reject]
  | halfOpen =>
      cases raised : state.halfOpenInflight <;>
        simp [ProxyState.admitDegraded, circuit, raised] at opened

/-- Only `record_failure` opens the circuit or moves the time of an open one. -/
theorem perform_open (state : ProxyState) (now : Nat) (call : Call)
    (other : call ≠ .recordFailure) (opened : (state.perform now call).1.circuitState = .open) :
    (state.perform now call).1.openSince = state.openSince ∧ state.circuitState = .open := by
  cases call with
  | checkCircuit =>
      cases circuit : state.circuitState <;> cases elapsed : state.resetElapsed now <;>
        cases raised : state.halfOpenInflight <;>
        simp [ProxyState.perform, ProxyState.checkCircuit, circuit, elapsed, raised] at opened ⊢
  | handleRequest =>
      obtain ⟨since, stays⟩ := circuitState_admitRequest_open opened
      by_cases due : state.circuitState = .open ∧ state.resetElapsed now = true
      · rw [state.countRequest.enterHalfOpen_of_elapsed now due.1 due.2] at stays
        cases stays
      · have rests : state.countRequest.enterHalfOpen now true = state.countRequest :=
          state.countRequest.enterHalfOpen_of_not now due
        refine ⟨?_, (congrArg ProxyState.circuitState rests).symm.trans stays⟩
        exact since.trans (congrArg ProxyState.openSince rests :)
  | handleRequestWithDegradation requestKey =>
      simp only [ProxyState.perform] at opened ⊢
      rcases degraded_cases state now requestKey with ⟨circuit, data, served⟩ | ⟨_, _, moved⟩ | decided
      · rw [served]
        exact ⟨rfl, circuit⟩
      · rw [moved] at opened
        cases (circuitState_admitDegraded_open opened).2
      · rw [decided] at opened ⊢
        exact circuitState_admitDegraded_open opened
  | recordSuccess =>
      by_cases halfOpen : state.circuitState = .halfOpen
      · simp [ProxyState.perform, ProxyState.recordSuccess, halfOpen] at opened
      · simp [ProxyState.perform, ProxyState.recordSuccess, halfOpen] at opened ⊢
        exact opened
  | recordFailure => exact absurd rfl other
  | recordFailureStatic => exact ⟨rfl, opened⟩
  | cacheResponse requestKey response => exact ⟨rfl, opened⟩

theorem recordFailure_cases (state : ProxyState) (now : Nat) :
    ((state.recordFailure now).circuitState = .open ∧
        (state.recordFailure now).openSince = some now ∧
        (state.circuitState = .halfOpen ∨
          state.circuitThreshold ≤ (state.circuitFailures + 1) % 2 ^ 32)) ∨
      ((state.recordFailure now).circuitState = state.circuitState ∧
        (state.recordFailure now).openSince = state.openSince ∧ state.circuitState ≠ .halfOpen ∧
          ¬ state.circuitThreshold ≤ (state.circuitFailures + 1) % 2 ^ 32) := by
  unfold ProxyState.recordFailure
  by_cases halfOpen : state.circuitState = .halfOpen
  · simp only [halfOpen, if_true]
    exact .inl ⟨trivial, trivial, .inl trivial⟩
  · by_cases reached : state.circuitThreshold ≤ (state.circuitFailures + 1) % 2 ^ 32
    · simp only [halfOpen, if_false, ge_iff_le, reached, if_true]
      exact .inl ⟨trivial, trivial, .inr trivial⟩
    · simp only [halfOpen, if_false, ge_iff_le, reached]
      exact .inr ⟨trivial, trivial, halfOpen, not_false⟩

/-- An open circuit whose time is over admits the call exactly when it is one
that asks for the probe. -/
theorem perform_due (circuit : state.circuitState = .open) (elapsed : state.resetElapsed now = true)
    (asks : call.asks = true) :
    (state.perform now call).2.admits = true ↔ call ≠ .handleRequest ∧
      ∀ requestKey, call = .handleRequestWithDegradation requestKey →
        state.stale requestKey = none := by
  cases call with
  | checkCircuit =>
      simp [ProxyState.perform, ProxyState.checkCircuit, circuit, elapsed, Reply.admits]
  | handleRequest =>
      simp [ProxyState.perform, ProxyState.handleRequest, ProxyState.admitRequest, Reply.admits,
        state.countRequest.enterHalfOpen_of_elapsed now circuit elapsed]
  | handleRequestWithDegradation requestKey =>
      cases cached : state.stale requestKey with
      | some data =>
          simp [ProxyState.perform, degraded_stale circuit cached, Reply.admits, cached]
      | none =>
          simp [ProxyState.perform, degraded_uncached circuit cached, Reply.admits, cached,
            state.countRequest.enterHalfOpen_of_elapsed now circuit elapsed,
            ProxyState.admitDegraded]
  | _ => cases asks

/-! ## The window -/

theorem resetElapsed_iff {openedAt : Nat} (since : state.openSince = some openedAt) :
    state.resetElapsed now = true ↔ state.circuitResetSecs * 10 ^ 9 ≤ now - openedAt := by
  unfold ProxyState.resetElapsed
  rw [since, Option.any_some, decide_eq_true_iff]

theorem Dated.due_iff (dated : Dated windowed) (circuit : windowed.proxy.circuitState = .open) :
    windowed.Due now ↔ windowed.proxy.resetElapsed now = true := by
  obtain ⟨openedAt, since, opened⟩ := dated circuit
  rw [resetElapsed_iff since]
  constructor
  · rintro ⟨other, same, due⟩
    cases opened.symm.trans same
    exact due
  · intro due
    exact ⟨openedAt, opened, due⟩

/-- A call that leaves the circuit open without opening it keeps the time of the
opening. -/
theorem openedAt_observe (circuit : windowed.proxy.circuitState = .open) :
    (windowed.observe timed).openedAt = windowed.openedAt := by
  simp [Windowed.observe, circuit]

theorem openedAt_observe_opens (circuit : windowed.proxy.circuitState ≠ .open)
    (opened : (windowed.observe timed).proxy.circuitState = .open) :
    (windowed.observe timed).openedAt = some timed.now := by
  have both : windowed.proxy.circuitState ≠ .open ∧
      (windowed.proxy.perform timed.now timed.call).1.circuitState = .open := ⟨circuit, opened⟩
  simp only [Windowed.observe, both, ne_eq, not_false_eq_true, and_self, if_true]

/-- The state after the call is dated exactly when no late failure has moved the
time of the open circuit. -/
theorem Dated.since_iff (dated : Dated windowed) :
    ((windowed.observe timed).proxy.circuitState = .open →
      (windowed.observe timed).proxy.openSince = (windowed.observe timed).openedAt) ↔
        SparesWindow windowed timed := by
  obtain ⟨now, call⟩ := timed
  by_cases failure : call = .recordFailure
  · subst failure
    by_cases circuit : windowed.proxy.circuitState = .open
    · obtain ⟨openedAt, since, opened⟩ := dated circuit
      rw [openedAt_observe circuit, opened]
      rcases recordFailure_cases windowed.proxy now with
        ⟨stays, moved, reached⟩ | ⟨_, kept, _, below⟩
      · constructor
        · intro keeps _ _ _
          rw [since, ← keeps stays]
          exact moved
        · intro spares _
          have late := spares rfl circuit (reached.resolve_left (by simp [circuit]))
          exact moved.trans (late.symm.trans since)
      · exact ⟨fun _ _ _ reached => absurd reached below, fun _ _ => kept.trans since⟩
    · refine ⟨fun _ _ still => absurd still circuit, fun _ opened => ?_⟩
      rw [openedAt_observe_opens circuit opened]
      rcases recordFailure_cases windowed.proxy now with ⟨_, moved, _⟩ | ⟨stays, _⟩
      · exact moved
      · exact absurd (stays.symm.trans opened) circuit
  · refine ⟨fun _ recorded => absurd recorded failure, fun _ opened => ?_⟩
    obtain ⟨kept, circuit⟩ := perform_open windowed.proxy now call failure opened
    obtain ⟨openedAt, since, dates⟩ := dated circuit
    rw [openedAt_observe circuit, dates]
    exact kept.trans since

theorem Dated.keepsWindow_iff (dated : Dated windowed) :
    KeepsWindow windowed timed ↔ SparesWindow windowed timed ∧ AsksForProbe windowed timed := by
  constructor
  · rintro ⟨since, probe⟩
    refine ⟨dated.since_iff.mp since, fun circuit elapsed => ?_⟩
    by_cases asks : timed.call.asks = true
    · exact (perform_due circuit elapsed asks).mp
        (probe circuit asks ((dated.due_iff circuit).mpr elapsed))
    · constructor
      · intro same
        exact asks (by rw [same]; rfl)
      · intro requestKey same
        exact absurd (by rw [same]; rfl) asks
  · rintro ⟨spares, asksForProbe⟩
    refine ⟨dated.since_iff.mpr spares, fun circuit asks due => ?_⟩
    have elapsed := (dated.due_iff circuit).mp due
    exact (perform_due circuit elapsed asks).mpr (asksForProbe circuit elapsed)

theorem Dated.observe (dated : Dated windowed) (spares : SparesWindow windowed timed) :
    Dated (windowed.observe timed) := by
  intro opened
  have since := dated.since_iff.mpr spares opened
  by_cases circuit : windowed.proxy.circuitState = .open
  · obtain ⟨openedAt, _, dates⟩ := dated circuit
    exact ⟨openedAt, since.trans ((openedAt_observe circuit).trans dates),
      (openedAt_observe circuit).trans dates⟩
  · have dates := openedAt_observe_opens circuit opened
    exact ⟨timed.now, since.trans dates, dates⟩

/-- A run keeps to the window of each opening exactly when no late failure
reaches the threshold of an open circuit, and whoever asks first after the
window is neither `handle_request` nor answered from the cache. -/
theorem always_keepsWindow_iff (circuitThreshold circuitResetSecs : Nat)
    (gracefulDegradationEnabled : Bool) (calls : List TimedCall) :
    windows.Along KeepsWindow
        ⟨.new circuitThreshold circuitResetSecs gracefulDegradationEnabled, none⟩ calls ↔
      windows.Along (fun windowed timed => SparesWindow windowed timed ∧ AsksForProbe windowed timed)
        ⟨.new circuitThreshold circuitResetSecs gracefulDegradationEnabled, none⟩ calls := by
  apply Machine.along_ofFunction_iff_along Dated ?_ ?_ (fun opened => by cases opened)
  · intro windowed timed dated
    exact dated.keepsWindow_iff
  · intro windowed timed dated guarded
    exact dated.observe guarded.1

/-- A failure ten seconds after the opening puts the probe off by as much. -/
theorem late_failure_moves_window :
    ¬ windows.Along KeepsWindow ⟨.new 1 30 false, none⟩
      [⟨0, .recordFailure⟩, ⟨10 * 10 ^ 9, .recordFailure⟩, ⟨30 * 10 ^ 9, .checkCircuit⟩] := by
  intro along
  have late := ((along _ rfl).2 _ rfl).1
  exact absurd (late.since rfl) (by decide)

end Evergreen.Proxy
