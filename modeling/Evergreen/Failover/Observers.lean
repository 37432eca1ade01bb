import Evergreen.Failover.Promotions
import Evergreen.Machine.Reactor

namespace Evergreen.Failover

/-! # The monitors beside the shim

`PatroniMonitor` and `RedisSentinelMonitor` make the checks of the shim's cluster
connectors in loops of their own and promote nothing.  Each remembers its last
successful check.
-/

structure PatroniMonitor where
  dbHost : String
  lagThresholdSecs : ℚ
  hasBus : Bool
deriving Repr

namespace PatroniMonitor

variable (monitor : PatroniMonitor)

def emit (event : EventType) (severity : Severity) : List Output :=
  if monitor.hasBus then [.emit "patroni-monitor" event severity] else []

/-- The new primary that a change of role is announced with. -/
def newPrimary (inRecovery : Bool) : String :=
  if inRecovery then "replica" else monitor.dbHost

/-- One turn of the loop of `start_loop`. -/
def tick (lastRecoveryState : Option Bool) (result : PatroniCheckResult) :
    Option Bool × List Output :=
  match result with
  | .healthy inRecovery maxLagSecs =>
      let roleChange :=
        if lastRecoveryState.any (· ≠ inRecovery) then
          monitor.emit (.failoverTriggered monitor.dbHost (monitor.newPrimary inRecovery)) .notice
        else []
      let lagWarning :=
        if maxLagSecs > monitor.lagThresholdSecs then
          monitor.emit (.replicationLagWarning (FailoverShim.millis maxLagSecs)
            (FailoverShim.millis monitor.lagThresholdSecs)) .warning
        else []
      (some inRecovery, roleChange ++ lagWarning)
  | .unreachable =>
      (lastRecoveryState, monitor.emit (.failoverTriggered monitor.dbHost "unknown") .error)

end PatroniMonitor

structure RedisSentinelMonitor where
  hasBus : Bool
deriving Repr

namespace RedisSentinelMonitor

variable (monitor : RedisSentinelMonitor)

def emit (event : EventType) (severity : Severity) : List Output :=
  if monitor.hasBus then [.emit "redis-sentinel-monitor" event severity] else []

/-- One turn of the loop of `start_loop`. -/
def tick (lastKnownMaster : Option String) (result : RedisSentinelCheckResult) :
    Option String × List Output :=
  match result with
  | .masterInfo ip port =>
      let masterAddr := s!"{ip}:{port}"
      (some masterAddr,
        if lastKnownMaster.any (· ≠ masterAddr) then
          monitor.emit (.failoverCompleted masterAddr) .notice
        else [])
  | .unreachable => (lastKnownMaster, [])

end RedisSentinelMonitor

/-! ## What the events announce -/

namespace Output

/-- The new primary of a change of role. -/
def role : Output → Option String
  | .emit _ (.failoverTriggered _ newPrimary) .notice => some newPrimary
  | _ => none

def promoted : Output → Option String
  | .emit _ (.failoverCompleted promoted) _ => some promoted
  | _ => none

def lag : Output → Option (Nat × Nat)
  | .emit _ (.replicationLagWarning lagMs thresholdMs) _ => some (lagMs, thresholdMs)
  | _ => none

/-- The primary that an alarm is about. -/
def alarm : Output → Option String
  | .emit _ (.failoverTriggered oldPrimary _) .error => some oldPrimary
  | _ => none

end Output

def PatroniCheckResult.role : PatroniCheckResult → Option Bool
  | .healthy inRecovery _ => some inRecovery
  | .unreachable => none

/-- The lag that a threshold makes a warning of. -/
def PatroniCheckResult.warning (thresholdSecs : ℚ) : PatroniCheckResult → Option (Nat × Nat)
  | .healthy _ maxLagSecs =>
      if maxLagSecs > thresholdSecs then
        some (FailoverShim.millis maxLagSecs, FailoverShim.millis thresholdSecs)
      else none
  | .unreachable => none

def RedisSentinelCheckResult.master : RedisSentinelCheckResult → Option String
  | .masterInfo ip port => some s!"{ip}:{port}"
  | .unreachable => none

def FailoverShim.roleHost (shim : FailoverShim) (inRecovery : Bool) : String :=
  if inRecovery then shim.replica else shim.dbHost

/-- Every reading that differs from the one before it. -/
def changes {Value : Type} [DecidableEq Value] (readings : List Value) : List Value :=
  (readings.destutter (· ≠ ·)).tail

open Reactor (Shows outputs detector answering)

variable {shim : FailoverShim} {patroni : PatroniMonitor} {sentinel : RedisSentinelMonitor}
variable {monitor : Monitor} {input : TickInput}

/-! ## A failed check of the shim -/

/-- Neither the calls of `trigger_failover` nor the webhook are shown. -/
structure Quiet {Sign : Type} (shown : Output → Option Sign) : Prop where
  post : ∀ url text, shown (.post url text) = none
  triggered : ∀ oldPrimary newPrimary,
    shown (.emit "failover-shim" (.failoverTriggered oldPrimary newPrimary) .error) = none

theorem quiet_role : Quiet Output.role := ⟨fun _ _ => rfl, fun _ _ => rfl⟩

theorem quiet_promoted : Quiet Output.promoted := ⟨fun _ _ => rfl, fun _ _ => rfl⟩

theorem quiet_lag : Quiet Output.lag := ⟨fun _ _ => rfl, fun _ _ => rfl⟩

theorem Quiet.tick_failed {Sign : Type} {shown : Output → Option Sign} (quiet : Quiet shown)
    (failed : shim.checkFailed input = true) :
    (shim.tick monitor input).2.filterMap shown = [] := by
  have posts : ∀ text, (shim.notify text).filterMap shown = [] := by
    intro text
    unfold FailoverShim.notify
    cases shim.webhook with
    | none => rfl
    | some url => simp [quiet.post]
  rw [Failover.tick_failed failed]
  by_cases due : shim.failureThreshold ≤ incrementU32 monitor.shared.consecutiveFailures
  · rw [recordFailedCheck_calls due]
    simp only [FailoverShim.triggerFailover]
    split <;> simp [posts, FailoverShim.emit, apply_ite (List.filterMap shown), quiet.triggered]
  · rw [recordFailedCheck_counts due]
    rfl

theorem tick_failed_keeps (failed : shim.checkFailed input = true) :
    (shim.tick monitor input).1.lastKnownMaster = monitor.lastKnownMaster ∧
      (shim.tick monitor input).1.lastRecoveryState = monitor.lastRecoveryState ∧
      (shim.tick monitor input).1.lastKnownPrimary = monitor.lastKnownPrimary := by
  rw [tick_failed failed]
  by_cases due : shim.failureThreshold ≤ incrementU32 monitor.shared.consecutiveFailures
  · rw [recordFailedCheck_calls due]
    exact ⟨rfl, rfl, rfl⟩
  · rw [recordFailedCheck_counts due]
    exact ⟨rfl, rfl, rfl⟩

/-! ## Sentinel -/

theorem shows_sentinelShim (connected : shim.connector = .redisSentinel) (bus : shim.hasBus = true) :
    Shows shim.tick (detector String) Monitor.lastKnownMaster (fun input => input.sentinel.master)
      Output.promoted id where
  state monitor input := by
    cases answer : input.sentinel with
    | unreachable =>
        have failed : shim.checkFailed input = true := by
          simp [FailoverShim.checkFailed, connected, answer]
        exact (tick_failed_keeps failed).1
    | masterInfo ip port =>
        simp [FailoverShim.tick, connected, FailoverShim.handleSentinelCheck, answer, detector,
          RedisSentinelCheckResult.master]
  output monitor input := by
    cases answer : input.sentinel with
    | unreachable =>
        have failed : shim.checkFailed input = true := by
          simp [FailoverShim.checkFailed, connected, answer]
        exact quiet_promoted.tick_failed failed
    | masterInfo ip port =>
        simp only [FailoverShim.tick, connected, FailoverShim.handleSentinelCheck, answer, detector,
          RedisSentinelCheckResult.master, FailoverShim.emit, bus, if_true]
        split <;> simp_all [Output.promoted]

theorem shows_sentinelMonitor (bus : sentinel.hasBus = true) :
    Shows sentinel.tick (detector String) id RedisSentinelCheckResult.master Output.promoted id where
  state last result := by cases result <;> rfl
  output last result := by
    cases result with
    | unreachable => rfl
    | masterInfo ip port =>
        simp only [RedisSentinelMonitor.tick, detector, RedisSentinelCheckResult.master,
          RedisSentinelMonitor.emit, bus, if_true]
        split <;> simp_all [Output.promoted]

/-! ## Patroni -/

theorem failed_of_unreachable (connected : shim.connector = .patroni)
    (answer : input.patroni = .unreachable) : shim.checkFailed input = true := by
  simp [FailoverShim.checkFailed, connected, answer]

theorem tick_healthy {inRecovery : Bool} {maxLagSecs : ℚ} (connected : shim.connector = .patroni)
    (bus : shim.hasBus = true) (answer : input.patroni = .healthy inRecovery maxLagSecs) :
    (shim.tick monitor input).2 =
      (if monitor.lastRecoveryState.any (· ≠ inRecovery) then
        [.emit "failover-shim" (.failoverTriggered monitor.shared.currentPrimary
          (shim.roleHost inRecovery)) .notice] else []) ++
      (if maxLagSecs > shim.lagThresholdSecs then
        [.emit "failover-shim" (.replicationLagWarning (FailoverShim.millis maxLagSecs)
          (FailoverShim.millis shim.lagThresholdSecs)) .warning] else []) ++
      (if monitor.lastKnownPrimary.any (· ≠ shim.roleHost inRecovery) then
        [.emit "failover-shim" (.failoverCompleted (shim.roleHost inRecovery)) .notice] else []) := by
  simp only [FailoverShim.tick, connected, FailoverShim.handlePatroniCheck, answer,
    FailoverShim.emit, bus, if_true, FailoverShim.roleHost]
  cases monitor.lastRecoveryState with
  | none => rfl
  | some previous =>
      simp only [Option.any_some, decide_eq_true_eq]
      rfl

theorem shows_roleShim (connected : shim.connector = .patroni) (bus : shim.hasBus = true) :
    Shows shim.tick (detector Bool) Monitor.lastRecoveryState (fun input => input.patroni.role)
      Output.role shim.roleHost where
  state monitor input := by
    cases answer : input.patroni with
    | unreachable => exact (tick_failed_keeps (failed_of_unreachable connected answer)).2.1
    | healthy inRecovery maxLagSecs =>
        simp [FailoverShim.tick, connected, FailoverShim.handlePatroniCheck, answer, detector,
          PatroniCheckResult.role]
  output monitor input := by
    cases answer : input.patroni with
    | unreachable => exact quiet_role.tick_failed (failed_of_unreachable connected answer)
    | healthy inRecovery maxLagSecs =>
        rw [tick_healthy connected bus answer]
        simp [apply_ite (List.filterMap _), apply_ite (Option.map _), apply_ite Option.toList,
          Output.role, detector, PatroniCheckResult.role]

theorem shows_promotedShim (connected : shim.connector = .patroni) (bus : shim.hasBus = true) :
    Shows shim.tick (detector String) Monitor.lastKnownPrimary
      (fun input => input.patroni.role.map shim.roleHost) Output.promoted id where
  state monitor input := by
    cases answer : input.patroni with
    | unreachable => exact (tick_failed_keeps (failed_of_unreachable connected answer)).2.2
    | healthy inRecovery maxLagSecs =>
        simp [FailoverShim.tick, connected, FailoverShim.handlePatroniCheck, answer, detector,
          PatroniCheckResult.role, FailoverShim.roleHost]
  output monitor input := by
    cases answer : input.patroni with
    | unreachable => exact quiet_promoted.tick_failed (failed_of_unreachable connected answer)
    | healthy inRecovery maxLagSecs =>
        rw [tick_healthy connected bus answer]
        simp [apply_ite (List.filterMap _), List.filterMap_cons, apply_ite Option.toList,
          Output.promoted, detector, PatroniCheckResult.role]

theorem shows_lagShim (connected : shim.connector = .patroni) (bus : shim.hasBus = true) :
    Shows shim.tick (answering (PatroniCheckResult.warning shim.lagThresholdSecs)) (fun _ => ())
      (·.patroni) Output.lag id where
  state _ _ := rfl
  output monitor input := by
    cases answer : input.patroni with
    | unreachable => exact quiet_lag.tick_failed (failed_of_unreachable connected answer)
    | healthy inRecovery maxLagSecs =>
        rw [tick_healthy connected bus answer]
        simp [apply_ite (List.filterMap _), List.filterMap_cons, apply_ite Option.toList, Output.lag,
          answering, PatroniCheckResult.warning]

theorem shows_roleMonitor (bus : patroni.hasBus = true) :
    Shows patroni.tick (detector Bool) id PatroniCheckResult.role Output.role
      patroni.newPrimary where
  state last result := by cases result <;> rfl
  output last result := by
    cases result with
    | unreachable => simp [PatroniMonitor.tick, PatroniMonitor.emit, bus, Output.role, detector,
        PatroniCheckResult.role]
    | healthy inRecovery maxLagSecs =>
        simp [PatroniMonitor.tick, PatroniMonitor.emit, bus, apply_ite (List.filterMap _),
          apply_ite (Option.map _), apply_ite Option.toList, Output.role, detector,
          PatroniCheckResult.role]

theorem shows_lagMonitor (bus : patroni.hasBus = true) :
    Shows patroni.tick (answering (PatroniCheckResult.warning patroni.lagThresholdSecs))
      (fun _ => ()) id Output.lag id where
  state _ _ := rfl
  output last result := by
    cases result with
    | unreachable => simp [PatroniMonitor.tick, PatroniMonitor.emit, bus, Output.lag, answering,
        PatroniCheckResult.warning]
    | healthy inRecovery maxLagSecs =>
        simp [PatroniMonitor.tick, PatroniMonitor.emit, bus, apply_ite (List.filterMap _),
          apply_ite Option.toList, Output.lag, answering, PatroniCheckResult.warning]

theorem shows_alarmMonitor (bus : patroni.hasBus = true) :
    Shows patroni.tick (answering fun result =>
        if result = .unreachable then some patroni.dbHost else none)
      (fun _ => ()) id Output.alarm id where
  state _ _ := rfl
  output last result := by
    cases result with
    | unreachable => simp [PatroniMonitor.tick, PatroniMonitor.emit, bus, Output.alarm, answering]
    | healthy inRecovery maxLagSecs =>
        simp [PatroniMonitor.tick, PatroniMonitor.emit, bus, apply_ite (List.filterMap _),
          Output.alarm, answering]

/-- Every call of `trigger_failover` follows a check that Patroni did not answer. -/
theorem length_triggered_le (connected : shim.connector = .patroni) (bus : shim.hasBus = true)
    (inputs : List TickInput) :
    ((outputs shim.tick monitor inputs).filter Output.isTriggered).length ≤
      inputs.countP (fun input => input.patroni = .unreachable) := by
  induction inputs generalizing monitor with
  | nil => exact Nat.le_refl 0
  | cons input inputs ih =>
      have rest := @ih (shim.tick monitor input).1
      rw [outputs, List.filter_append, List.length_append, tick_events bus, List.countP_cons]
      cases called : shim.tickCall monitor input with
      | none =>
          rw [Option.toList_none, List.map_nil, List.length_nil, Nat.zero_add]
          exact rest.trans (Nat.le_add_right _ _)
      | some call =>
          have failed := (tickCall_eq_some called).1
          have unreachable : input.patroni = .unreachable := by
            simpa [FailoverShim.checkFailed, connected] using failed
          simpa [unreachable, Nat.add_comm] using rest

theorem length_alarms (observed : patroni.hasBus = true) (last : Option Bool)
    (results : List PatroniCheckResult) :
    ((outputs patroni.tick last results).filterMap Output.alarm).length =
      results.countP (fun result => result = .unreachable) := by
  rw [(shows_alarmMonitor observed).outputs, List.map_id, List.map_id, Reactor.answers_answering]
  induction results with
  | nil => rfl
  | cons result results ih =>
      rw [List.filterMap_cons, List.countP_cons, ← ih]
      by_cases unreachable : result = .unreachable
      · simp [unreachable]
      · simp [unreachable]

/-! ## The loops agree -/

theorem answers_detector_map {Input Value : Type} [DecidableEq Value] (read : Input → Option Value)
    (inputs : List Input) :
    (detector Value).answers none (inputs.map read) = changes (inputs.filterMap read) := by
  rw [Reactor.answers_detector, List.reduceOption, List.filterMap_map]
  rfl

/-- Whatever the shim promotes and counts beside it, its Sentinel connector
announces the masters that the monitor announces: each one reported that is not
the one reported before it. -/
theorem sentinel_agrees (connected : shim.connector = .redisSentinel) (bus : shim.hasBus = true)
    (observed : sentinel.hasBus = true) (inputs : List TickInput) :
    (outputs shim.tick shim.initial inputs).filterMap Output.promoted =
        changes (inputs.filterMap fun input => input.sentinel.master) ∧
      (outputs sentinel.tick none (inputs.map fun input => input.sentinel)).filterMap
          Output.promoted =
        changes (inputs.filterMap fun input => input.sentinel.master) := by
  have own := (shows_sentinelShim connected bus).outputs shim.initial inputs
  have beside := (shows_sentinelMonitor observed).outputs none
    (inputs.map fun input => input.sentinel)
  rw [List.map_id] at own beside
  rw [List.map_map] at beside
  exact ⟨own.trans (answers_detector_map _ inputs), beside.trans (answers_detector_map _ inputs)⟩

def masterReport (host : String) : TickInput :=
  { silentInput with sentinel := .masterInfo host "5432" }

/-- The master changes while Sentinel does not answer. -/
theorem sentinel_agrees_changed :
    (outputs (pairedShim .redisSentinel).tick (pairedShim .redisSentinel).initial
        [masterReport "db-1", silentInput, masterReport "db-2"]).filterMap Output.promoted =
      ["db-2:5432"] :=
  (@sentinel_agrees (pairedShim .redisSentinel) ⟨true⟩ rfl rfl rfl
    [masterReport "db-1", silentInput, masterReport "db-2"]).1.trans (by decide)

/-- What the Patroni connector of the shim and the monitor make of the same
answers. -/
structure PatroniAgreement (shim : FailoverShim) (patroni : PatroniMonitor)
    (inputs : List TickInput) : Prop where
  /-- Both announce each change of role, the shim with its own names. -/
  shimRoles : (outputs shim.tick shim.initial inputs).filterMap Output.role =
    (changes (inputs.filterMap fun input => input.patroni.role)).map shim.roleHost
  monitorRoles : (outputs patroni.tick none (inputs.map fun input => input.patroni)).filterMap
      Output.role =
    (changes (inputs.filterMap fun input => input.patroni.role)).map patroni.newPrimary
  /-- The shim completes a failover at every change of the name. -/
  completed : (outputs shim.tick shim.initial inputs).filterMap Output.promoted =
    changes ((inputs.filterMap fun input => input.patroni.role).map shim.roleHost)
  lags : shim.lagThresholdSecs = patroni.lagThresholdSecs →
    (outputs shim.tick shim.initial inputs).filterMap Output.lag =
      (outputs patroni.tick none (inputs.map fun input => input.patroni)).filterMap Output.lag
  /-- The monitor alarms each time the primary does not answer, the shim at most
  as often. -/
  alarms : ((outputs patroni.tick none (inputs.map fun input => input.patroni)).filterMap
      Output.alarm).length = inputs.countP (fun input => input.patroni = .unreachable)
  calls : ((outputs shim.tick shim.initial inputs).filter Output.isTriggered).length ≤
    inputs.countP (fun input => input.patroni = .unreachable)

/-- In every run. -/
theorem patroni_agrees (connected : shim.connector = .patroni) (bus : shim.hasBus = true)
    (observed : patroni.hasBus = true) (inputs : List TickInput) :
    PatroniAgreement shim patroni inputs where
  shimRoles := by
    rw [(shows_roleShim connected bus).outputs]
    exact congrArg _ (answers_detector_map _ inputs)
  monitorRoles := by
    rw [(shows_roleMonitor observed).outputs, List.map_map]
    exact congrArg _ (answers_detector_map _ inputs)
  completed := by
    rw [(shows_promotedShim connected bus).outputs, List.map_id]
    refine (answers_detector_map _ inputs).trans ?_
    rw [List.map_filterMap]
  lags := by
    intro same
    rw [(shows_lagShim connected bus).outputs, (shows_lagMonitor observed).outputs, same,
      List.map_id, List.map_id, List.map_id]
  alarms := by
    rw [length_alarms observed, List.countP_map]
    rfl
  calls := length_triggered_le connected bus inputs

/-- A primary that becomes a replica while its check fails once. -/
def roleChanged : List TickInput := [roleInput false, silentInput, roleInput true, roleInput true]

theorem patroni_agrees_roleChanged :
    PatroniAgreement (pairedShim .patroni) ⟨"db-1", 30, true⟩ roleChanged :=
  patroni_agrees rfl rfl rfl roleChanged

end Evergreen.Failover
