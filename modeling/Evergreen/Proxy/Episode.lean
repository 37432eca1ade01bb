import Evergreen.Proxy.Circuit

namespace Evergreen.Proxy

/-! # One probe for each half-open episode

Whichever function moves the circuit to half-open raises the in-flight flag
before it returns, and nothing lowers the flag without leaving half-open.  So
the flag bounds the admissions of the episode.
-/

/-- The proxy with the admissions since it last became half-open, the call that
made it so included. -/
structure Episode where
  proxy : ProxyState
  admitted : Nat

def Episode.observe (episode : Episode) (timed : TimedCall) : Episode :=
  let (proxy, reply) := episode.proxy.perform timed.now timed.call
  let entered := episode.proxy.circuitState ≠ .halfOpen ∧ proxy.circuitState = .halfOpen
  let carried := if entered then 0 else episode.admitted
  { proxy, admitted := if reply.admits then carried + 1 else carried }

def episodes : Machine Episode TimedCall := .ofFunction Episode.observe

def SingleProbe (episode : Episode) : Prop :=
  episode.proxy.circuitState = .halfOpen → episode.admitted ≤ 1

/-- An open circuit admits nobody before the reset time has passed. -/
def NoneEarly (episode : Episode) (timed : TimedCall) : Prop :=
  (episode.proxy.perform timed.now timed.call).2.admits = true →
    episode.proxy.circuitState = .open → episode.proxy.resetElapsed timed.now = true

/-- The admissions of a half-open circuit are covered by its flag. -/
def Covered (episode : Episode) : Prop :=
  episode.proxy.circuitState = .halfOpen → episode.admitted ≤ episode.proxy.halfOpenInflight.toNat

/-- One call covers its own admission on top of what the flag covered before. -/
def Covers (before after : ProxyState) (admitted : Bool) : Prop :=
  after.circuitState = .halfOpen →
    (if before.circuitState = .halfOpen then before.halfOpenInflight.toNat else 0) +
      admitted.toNat ≤ after.halfOpenInflight.toNat

variable {state : ProxyState} {episode : Episode} {timed : TimedCall}

theorem Covered.singleProbe (covered : Covered episode) : SingleProbe episode := by
  intro halfOpen
  have flag := Bool.toNat_le episode.proxy.halfOpenInflight
  have admitted := covered halfOpen
  omega

/-! ## One call -/

theorem covers_of_same {after : ProxyState} (circuit : after.circuitState = state.circuitState)
    (inflight : after.halfOpenInflight = state.halfOpenInflight) : Covers state after false := by
  intro halfOpen
  rw [if_pos (circuit.symm.trans halfOpen), inflight]
  exact Nat.le_refl _

theorem checkCircuit_covers (now : Nat) :
    Covers state (state.checkCircuit now).1 (state.checkCircuit now).2 := by
  unfold Covers
  cases circuit : state.circuitState with
  | closed => simp [ProxyState.checkCircuit, circuit]
  | «open» =>
      cases elapsed : state.resetElapsed now <;>
        simp [ProxyState.checkCircuit, circuit, elapsed]
  | halfOpen =>
      cases raised : state.halfOpenInflight <;>
        simp [ProxyState.checkCircuit, circuit, raised]

theorem admitRequest_covers (state : ProxyState) :
    Covers state state.admitRequest.1 state.admitRequest.2 := by
  unfold Covers
  cases circuit : state.circuitState with
  | closed => simp [ProxyState.admitRequest, circuit]
  | «open» => simp [ProxyState.admitRequest, circuit]
  | halfOpen =>
      cases raised : state.halfOpenInflight <;>
        simp [ProxyState.admitRequest, circuit, raised]

theorem admitDegraded_covers (state : ProxyState) :
    Covers state state.admitDegraded.1 (state.admitDegraded.2 = .allowed) := by
  unfold Covers
  cases circuit : state.circuitState with
  | closed => simp [ProxyState.admitDegraded, circuit]
  | «open» => simp [ProxyState.admitDegraded, circuit]
  | halfOpen =>
      cases raised : state.halfOpenInflight <;>
        simp [ProxyState.admitDegraded, circuit, raised]

/-- `handle_request` raises the flag with the transition and rejects its own request. -/
theorem handleRequest_covers (now : Nat) :
    Covers state (state.handleRequest now).1 (state.handleRequest now).2 := by
  by_cases due : state.circuitState = .open ∧ state.resetElapsed now = true
  · rw [ProxyState.handleRequest, state.countRequest.enterHalfOpen_of_elapsed now due.1 due.2]
    simp [Covers, ProxyState.admitRequest, due.1]
  · rw [ProxyState.handleRequest, state.countRequest.enterHalfOpen_of_not now due]
    exact admitRequest_covers state.countRequest

/-- The other transition lowers the flag and raises it again for its own request. -/
theorem handleRequestWithDegradation_covers (now : Nat) (requestKey : String) :
    Covers state (state.handleRequestWithDegradation now requestKey).1
      ((state.handleRequestWithDegradation now requestKey).2 = .allowed) := by
  rcases degraded_cases state now requestKey with ⟨circuit, data, served⟩ | ⟨circuit, _, moved⟩ | decided
  · rw [served]
    intro halfOpen
    exact absurd (circuit.symm.trans halfOpen) (by decide)
  · rw [moved]
    simp [Covers, ProxyState.admitDegraded, circuit]
  · rw [decided]
    exact admitDegraded_covers state.countRequest

theorem recordSuccess_leaves : state.recordSuccess.circuitState ≠ .halfOpen := by
  by_cases halfOpen : state.circuitState = .halfOpen
  · simp [ProxyState.recordSuccess, halfOpen]
  · simp [ProxyState.recordSuccess, halfOpen]

theorem recordFailure_leaves (now : Nat) : (state.recordFailure now).circuitState ≠ .halfOpen := by
  by_cases halfOpen : state.circuitState = .halfOpen
  · simp [ProxyState.recordFailure, halfOpen]
  · simp only [ProxyState.recordFailure, halfOpen, if_false]
    split
    · intro impossible
      cases impossible
    · exact halfOpen

theorem perform_covers (state : ProxyState) (now : Nat) (call : Call) :
    Covers state (state.perform now call).1 (state.perform now call).2.admits := by
  cases call with
  | checkCircuit => exact checkCircuit_covers now
  | handleRequest => exact handleRequest_covers now
  | handleRequestWithDegradation requestKey =>
      exact handleRequestWithDegradation_covers now requestKey
  | recordSuccess => exact fun halfOpen => absurd halfOpen recordSuccess_leaves
  | recordFailure => exact fun halfOpen => absurd halfOpen (recordFailure_leaves now)
  | recordFailureStatic => exact covers_of_same rfl rfl
  | cacheResponse requestKey response => exact covers_of_same rfl rfl

theorem Covered.observe (covered : Covered episode) : Covered (episode.observe timed) := by
  intro halfOpen
  have covers := perform_covers episode.proxy timed.now timed.call halfOpen
  have after : (episode.proxy.perform timed.now timed.call).1.circuitState = .halfOpen := halfOpen
  have admission : (episode.observe timed).admitted =
      (if episode.proxy.circuitState = .halfOpen then episode.admitted else 0) +
        (episode.proxy.perform timed.now timed.call).2.admits.toNat := by
    simp only [Episode.observe, after, and_true, ite_not]
    cases (episode.proxy.perform timed.now timed.call).2.admits <;> simp
  rw [admission]
  refine Nat.le_trans ?_ covers
  by_cases before : episode.proxy.circuitState = .halfOpen
  · simp only [if_pos before]
    exact Nat.add_le_add_right (covered before) _
  · simp only [if_neg before]
    exact Nat.le_refl _

theorem noneEarly (episode : Episode) (timed : TimedCall) : NoneEarly episode timed := by
  obtain ⟨now, call⟩ := timed
  intro admitted circuit
  by_contra early
  have rests : episode.proxy.countRequest.enterHalfOpen now true = episode.proxy.countRequest :=
    episode.proxy.countRequest.enterHalfOpen_of_not now fun due => early due.2
  cases call with
  | checkCircuit =>
      simp [ProxyState.perform, Reply.admits, ProxyState.checkCircuit, circuit, early] at admitted
  | handleRequest =>
      simp [ProxyState.perform, Reply.admits, ProxyState.handleRequest, rests,
        ProxyState.admitRequest, circuit] at admitted
  | handleRequestWithDegradation requestKey =>
      simp only [ProxyState.perform, Reply.admits] at admitted
      rcases degraded_cases episode.proxy now requestKey with ⟨_, data, served⟩ | ⟨_, due, _⟩ | decided
      · simp [served] at admitted
      · exact absurd due early
      · simp [decided, ProxyState.admitDegraded, circuit] at admitted
  | recordSuccess => cases admitted
  | recordFailure => cases admitted
  | recordFailureStatic => cases admitted
  | cacheResponse requestKey response => cases admitted

/-! ## The runs of the proxy -/

/-- In every run each half-open episode admits at most one call, and no call is
admitted before its time. -/
theorem episodes_singleProbe (circuitThreshold circuitResetSecs : Nat)
    (gracefulDegradationEnabled : Bool) (calls : List TimedCall) :
    episodes.Always SingleProbe
        ⟨.new circuitThreshold circuitResetSecs gracefulDegradationEnabled, 0⟩ calls ∧
      episodes.Along NoneEarly
        ⟨.new circuitThreshold circuitResetSecs gracefulDegradationEnabled, 0⟩ calls := by
  have start : Covered ⟨.new circuitThreshold circuitResetSecs gracefulDegradationEnabled, 0⟩ :=
    fun _ => Nat.le_refl 0
  have covered : episodes.Always Covered
      ⟨.new circuitThreshold circuitResetSecs gracefulDegradationEnabled, 0⟩ calls :=
    Machine.always_ofFunction Covered (fun episode timed covered => covered.observe) start
  exact ⟨covered.imp fun episode covered => covered.singleProbe, Machine.along_of_all noneEarly⟩

end Evergreen.Proxy
