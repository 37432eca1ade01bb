import Evergreen.Machine.Run
import Mathlib.Data.Rat.Floor

namespace Evergreen.Failover

/-! # The failover shim's monitoring loop

One tick of the loop spawned by `FailoverShim::start`, for the three
connectors, with everything it does to the shared state, the loop's own
variables, the bus and the webhook.  What the outside world answers during a
tick (probes, promotion commands) is the tick's input.
-/

inductive FailoverConnector where
  | tcp
  | patroni
  | redisSentinel
deriving DecidableEq, Repr

inductive FailoverState where
  | healthy
  | suspect
  | failingOver
  | failedOver
  | recovering
  | recovered
deriving DecidableEq, Repr

/-- The `i32` under which a state is kept in the shared atomic. -/
def FailoverState.toCode : FailoverState → Int
  | .healthy => 0
  | .suspect => 1
  | .failingOver => 2
  | .failedOver => 3
  | .recovering => 4
  | .recovered => 5

def FailoverState.ofCode : Int → FailoverState
  | 0 => .healthy
  | 1 => .suspect
  | 2 => .failingOver
  | 3 => .failedOver
  | 4 => .recovering
  | 5 => .recovered
  | _ => .healthy

@[simp] theorem FailoverState.ofCode_toCode (state : FailoverState) : ofCode state.toCode = state := by
  cases state <;> rfl

structure SharedState where
  consecutiveFailures : Nat
  failoverCount : Nat
  stateCode : Int
  currentPrimary : String
deriving DecidableEq, Repr

namespace SharedState

def new : SharedState where
  consecutiveFailures := 0
  failoverCount := 0
  stateCode := 0
  currentPrimary := ""

def state (shared : SharedState) : FailoverState :=
  .ofCode shared.stateCode

def setState (shared : SharedState) (state : FailoverState) : SharedState :=
  { shared with stateCode := state.toCode }

@[simp] theorem state_setState (shared : SharedState) (state : FailoverState) :
    (shared.setState state).state = state := FailoverState.ofCode_toCode state

@[simp] theorem setState_consecutiveFailures (shared : SharedState) (state : FailoverState) :
    (shared.setState state).consecutiveFailures = shared.consecutiveFailures := rfl

@[simp] theorem setState_failoverCount (shared : SharedState) (state : FailoverState) :
    (shared.setState state).failoverCount = shared.failoverCount := rfl

@[simp] theorem setState_currentPrimary (shared : SharedState) (state : FailoverState) :
    (shared.setState state).currentPrimary = shared.currentPrimary := rfl

end SharedState

/-- `u32` addition of one, as the release profile computes it. -/
def incrementU32 (counter : Nat) : Nat := (counter + 1) % 2 ^ 32

def incrementU64 (counter : Nat) : Nat := (counter + 1) % 2 ^ 64

inductive Severity where
  | notice
  | warning
  | error
deriving DecidableEq, Repr

inductive EventType where
  | failoverTriggered (oldPrimary newPrimary : String)
  | failoverCompleted (promoted : String)
  | replicationLagWarning (lagMs thresholdMs : Nat)
deriving DecidableEq, Repr

inductive Output where
  | emit (source : String) (event : EventType) (severity : Severity)
  | post (url text : String)
deriving DecidableEq, Repr

/-- The configuration `FailoverShim::start` moves into the loop. -/
structure FailoverShim where
  primary : String
  replica : String
  failureThreshold : Nat
  webhook : Option String
  connector : FailoverConnector
  dbHost : String
  lagThresholdSecs : ℚ
  hasBus : Bool
deriving Repr

structure Monitor where
  shared : SharedState
  consecutivePrimaryHealthy : Nat
  lastKnownPrimary : Option String
  lastRecoveryState : Option Bool
  lastKnownMaster : Option String
deriving DecidableEq, Repr

/-- The loop's first state: `init` has stored the primary's address, and
`start` leaves the state `Healthy` whether or not the primary answers. -/
def FailoverShim.initial (shim : FailoverShim) : Monitor where
  shared := { SharedState.new with currentPrimary := shim.primary }
  consecutivePrimaryHealthy := 0
  lastKnownPrimary := none
  lastRecoveryState := none
  lastKnownMaster := none

/-- Which promotion command `trigger_failover` runs, and whether it succeeded. -/
inductive PromotionAttempt where
  | promoteCmd (succeeded : Bool)
  | sentinelFailover (succeeded : Bool)
  | patronictl (succeeded : Bool)
deriving DecidableEq, Repr

/-- `promotion_result`: without `patronictl` the promotion is in memory only,
which counts as a success. -/
def PromotionAttempt.result : PromotionAttempt → Bool
  | .promoteCmd succeeded => succeeded
  | .sentinelFailover succeeded => succeeded
  | .patronictl _ => true

inductive PatroniCheckResult where
  | healthy (inRecovery : Bool) (maxLagSecs : ℚ)
  | unreachable
deriving DecidableEq, Repr

inductive RedisSentinelCheckResult where
  | masterInfo (ip port : String)
  | unreachable
deriving DecidableEq, Repr

namespace FailoverShim

variable (shim : FailoverShim)

def emit (event : EventType) (severity : Severity) : List Output :=
  if shim.hasBus then [.emit "failover-shim" event severity] else []

def notify (text : String) : List Output :=
  match shim.webhook with
  | some url => [.post url text]
  | none => []

def triggerFailover (shared : SharedState) (oldPrimary newPrimary : String)
    (attempt : PromotionAttempt) : SharedState × List Output :=
  let shared := shared.setState .failingOver
  let verdict := if attempt.result then "SUCCEEDED" else "FAILED"
  let outputs :=
    shim.notify s!"FAILOVER {verdict}: {oldPrimary} failed, promoting {newPrimary}" ++
      shim.emit (.failoverTriggered oldPrimary newPrimary) .error
  if attempt.result then
    let shared := { shared with
      currentPrimary := newPrimary
      failoverCount := incrementU64 shared.failoverCount }
    let shared := shared.setState .failedOver
    ({ shared with consecutiveFailures := 0 }, outputs)
  else
    (shared.setState .failingOver, outputs)

/-- The failing branch, common to the TCP handler and to both cluster
connectors: count the failure, then promote or become `Suspect`. -/
def recordFailedCheck (monitor : Monitor) (cur : String) (attempt : PromotionAttempt) :
    Monitor × List Output :=
  let failures := incrementU32 monitor.shared.consecutiveFailures
  let shared := { monitor.shared with consecutiveFailures := failures }
  let monitor := { monitor with consecutivePrimaryHealthy := 0 }
  if failures ≥ shim.failureThreshold then
    let (shared, outputs) := shim.triggerFailover shared cur shim.replica attempt
    ({ monitor with shared }, outputs)
  else
    ({ monitor with shared := shared.setState .suspect }, [])

/-- The connector-independent body of a healthy TCP check of `cur`. -/
def handleHealthyCheck (monitor : Monitor) (cur : String) (originalReachable : Bool) :
    Monitor × List Output :=
  let shared := { monitor.shared with consecutiveFailures := 0 }
  if shared.state = .failedOver ∧ cur ≠ shim.primary then
    let counted := incrementU32 monitor.consecutivePrimaryHealthy
    if counted ≥ 10 ∧ originalReachable then
      ({ monitor with
          shared := { shared with currentPrimary := shim.primary }.setState .recovered
          consecutivePrimaryHealthy := 0 },
        shim.notify s!"FAILOVER SHIM: Failing back to original primary {shim.primary}" ++
          shim.emit (.failoverCompleted shim.primary) .notice)
    else
      ({ monitor with shared, consecutivePrimaryHealthy := counted }, [])
  else if shared.state = .suspect ∨ shared.state = .failingOver then
    ({ monitor with shared := shared.setState .healthy, consecutivePrimaryHealthy := 0 }, [])
  else
    ({ monitor with shared, consecutivePrimaryHealthy := 0 }, [])

def handleCheckResult (monitor : Monitor) (cur : String) (healthy originalReachable : Bool)
    (attempt : PromotionAttempt) : Monitor × List Output :=
  if healthy then shim.handleHealthyCheck monitor cur originalReachable
  else shim.recordFailedCheck monitor cur attempt

def millis (secs : ℚ) : Nat := (secs * 1000).floor.toNat % 2 ^ 64

def handlePatroniCheck (monitor : Monitor) (cur : String) (result : PatroniCheckResult)
    (attempt : PromotionAttempt) : Monitor × List Output :=
  match result with
  | .healthy inRecovery maxLagSecs =>
      let shared := { monitor.shared with consecutiveFailures := 0 }
      let roleHost := if inRecovery then shim.replica else shim.dbHost
      let roleChange :=
        match monitor.lastRecoveryState with
        | some previous =>
            if previous ≠ inRecovery then shim.emit (.failoverTriggered cur roleHost) .notice else []
        | none => []
      let lagWarning :=
        if maxLagSecs > shim.lagThresholdSecs then
          shim.emit (.replicationLagWarning (millis maxLagSecs) (millis shim.lagThresholdSecs)) .warning
        else []
      let newPrimary := monitor.lastKnownPrimary.any fun previous => previous ≠ roleHost
      let completed := if newPrimary then shim.emit (.failoverCompleted roleHost) .notice else []
      let shared := if newPrimary then
          { shared with failoverCount := incrementU64 shared.failoverCount } else shared
      ({ monitor with
          shared := shared.setState .healthy
          consecutivePrimaryHealthy := 0
          lastRecoveryState := some inRecovery
          lastKnownPrimary := some roleHost },
        roleChange ++ lagWarning ++ completed)
  | .unreachable => shim.recordFailedCheck monitor cur attempt

def handleSentinelCheck (monitor : Monitor) (cur : String) (result : RedisSentinelCheckResult)
    (attempt : PromotionAttempt) : Monitor × List Output :=
  match result with
  | .masterInfo ip port =>
      let shared := { monitor.shared with consecutiveFailures := 0 }
      let masterAddr := s!"{ip}:{port}"
      let newMaster := monitor.lastKnownMaster.any fun previous => previous ≠ masterAddr
      let completed := if newMaster then shim.emit (.failoverCompleted masterAddr) .notice else []
      let shared := if newMaster then
          { shared with failoverCount := incrementU64 shared.failoverCount } else shared
      ({ monitor with
          shared := shared.setState .healthy
          consecutivePrimaryHealthy := 0
          lastKnownMaster := some masterAddr },
        completed)
  | .unreachable => shim.recordFailedCheck monitor cur attempt

end FailoverShim

/-- The answers the loop gets during one tick.  Only those of the configured
connector are asked for. -/
structure TickInput where
  healthy : Bool
  originalReachable : Bool
  patroni : PatroniCheckResult
  sentinel : RedisSentinelCheckResult
  attempt : PromotionAttempt
deriving DecidableEq, Repr

namespace FailoverShim

variable (shim : FailoverShim)

def tick (monitor : Monitor) (input : TickInput) : Monitor × List Output :=
  let cur := monitor.shared.currentPrimary
  match shim.connector with
  | .tcp => shim.handleCheckResult monitor cur input.healthy input.originalReachable input.attempt
  | .patroni => shim.handlePatroniCheck monitor cur input.patroni input.attempt
  | .redisSentinel => shim.handleSentinelCheck monitor cur input.sentinel input.attempt

def machine : Machine Monitor TickInput :=
  .ofFunction fun monitor input => (shim.tick monitor input).1

end FailoverShim

end Evergreen.Failover
