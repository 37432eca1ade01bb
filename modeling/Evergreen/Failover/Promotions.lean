import Evergreen.Failover.Shim

namespace Evergreen.Failover

/-! # The calls of `trigger_failover`

A tick makes at most one call, and makes it only when its check failed.  The
replica is fixed when the loop starts, so a call while the replica serves
promotes it in place of itself; the cluster connectors also count the changes of
primary that the cluster reports.
-/

structure TriggerCall where
  oldPrimary : String
  newPrimary : String
  succeeded : Bool
deriving DecidableEq, Repr

namespace FailoverShim

variable (shim : FailoverShim)

/-- The check of the configured connector failed. -/
def checkFailed (input : TickInput) : Bool :=
  match shim.connector with
  | .tcp => !input.healthy
  | .patroni => input.patroni = .unreachable
  | .redisSentinel => input.sentinel = .unreachable

/-- The call of `trigger_failover` that a tick makes. -/
def tickCall (monitor : Monitor) (input : TickInput) : Option TriggerCall :=
  if shim.checkFailed input ∧
      shim.failureThreshold ≤ incrementU32 monitor.shared.consecutiveFailures then
    some ⟨monitor.shared.currentPrimary, shim.replica, input.attempt.result⟩
  else none

/-- The cluster names another primary, or another master, than at its last
successful check. -/
def reportsChange (monitor : Monitor) (input : TickInput) : Bool :=
  match shim.connector with
  | .tcp => false
  | .patroni =>
      match input.patroni with
      | .healthy inRecovery _ =>
          monitor.lastKnownPrimary.any fun previous =>
            previous ≠ if inRecovery then shim.replica else shim.dbHost
      | .unreachable => false
  | .redisSentinel =>
      match input.sentinel with
      | .masterInfo ip port =>
          monitor.lastKnownMaster.any fun previous => previous ≠ s!"{ip}:{port}"
      | .unreachable => false

end FailoverShim

open FailoverShim

variable {shim : FailoverShim} {monitor : Monitor} {input : TickInput}

/-! ## A tick is a failed or a passed check -/

theorem tick_failed (failed : shim.checkFailed input = true) : shim.tick monitor input =
    shim.recordFailedCheck monitor monitor.shared.currentPrimary input.attempt := by
  unfold checkFailed at failed
  cases connector : shim.connector with
  | tcp =>
      have unhealthy : input.healthy = false := by simpa [connector] using failed
      simp [tick, connector, handleCheckResult, unhealthy]
  | patroni =>
      have unreachable : input.patroni = .unreachable := by simpa [connector] using failed
      simp only [tick, connector, handlePatroniCheck, unreachable]
  | redisSentinel =>
      have unreachable : input.sentinel = .unreachable := by simpa [connector] using failed
      simp only [tick, connector, handleSentinelCheck, unreachable]

/-- What a passed check does to the shared state. -/
structure Passed (shim : FailoverShim) (monitor next : Monitor) (input : TickInput) : Prop where
  consecutiveFailures : next.shared.consecutiveFailures = 0
  failoverCount : next.shared.failoverCount = if shim.reportsChange monitor input then
    incrementU64 monitor.shared.failoverCount else monitor.shared.failoverCount
  outcome : next.shared.currentPrimary = shim.primary ∧ next.shared.state = .recovered ∨
    next.shared.currentPrimary = monitor.shared.currentPrimary ∧
      (next.shared.state = .healthy ∨ next.shared.state = monitor.shared.state ∧
        monitor.shared.state ≠ .suspect ∧ monitor.shared.state ≠ .failingOver)

theorem handleHealthyCheck_passed {cur : String} {reachable : Bool}
    (tcp : shim.connector = .tcp) :
    Passed shim monitor (shim.handleHealthyCheck monitor cur reachable).1 input := by
  have quiet : shim.reportsChange monitor input = false := by simp [reportsChange, tcp]
  have same : ({ monitor.shared with consecutiveFailures := 0 } : SharedState).state =
      monitor.shared.state := rfl
  simp only [handleHealthyCheck, same]
  split
  · rename_i counting
    split
    · exact ⟨rfl, by simp [quiet], .inl ⟨rfl, by simp⟩⟩
    · refine ⟨rfl, by simp [quiet], .inr ⟨rfl, .inr ⟨rfl, ?_⟩⟩⟩
      rw [counting.1]
      decide
  · split
    · exact ⟨rfl, by simp [quiet], .inr ⟨rfl, .inl (by simp)⟩⟩
    · rename_i steady
      rw [not_or] at steady
      exact ⟨rfl, by simp [quiet], .inr ⟨rfl, .inr ⟨rfl, steady⟩⟩⟩

theorem tick_passed (passed : shim.checkFailed input = false) :
    Passed shim monitor (shim.tick monitor input).1 input := by
  unfold checkFailed at passed
  cases connector : shim.connector with
  | tcp =>
      have healthy : input.healthy = true := by simpa [connector] using passed
      simp only [tick, connector, handleCheckResult, healthy, if_true]
      exact handleHealthyCheck_passed connector
  | patroni =>
      cases patroni : input.patroni with
      | unreachable => simp [connector, patroni] at passed
      | healthy inRecovery maxLagSecs =>
          simp only [tick, connector, handlePatroniCheck, patroni]
          refine ⟨?_, ?_, .inr ⟨?_, .inl (by simp)⟩⟩
          · simp [apply_ite SharedState.consecutiveFailures]
          · simp [apply_ite SharedState.failoverCount, reportsChange, connector, patroni]
          · simp [apply_ite SharedState.currentPrimary]
  | redisSentinel =>
      cases sentinel : input.sentinel with
      | unreachable => simp [connector, sentinel] at passed
      | masterInfo ip port =>
          simp only [tick, connector, handleSentinelCheck, sentinel]
          refine ⟨?_, ?_, .inr ⟨?_, .inl (by simp)⟩⟩
          · simp [apply_ite SharedState.consecutiveFailures]
          · simp [apply_ite SharedState.failoverCount, reportsChange, connector, sentinel]
          · simp [apply_ite SharedState.currentPrimary]

theorem recordFailedCheck_counts {cur : String} {attempt : PromotionAttempt}
    (below : ¬ shim.failureThreshold ≤ incrementU32 monitor.shared.consecutiveFailures) :
    shim.recordFailedCheck monitor cur attempt =
      ({ monitor with
        shared := ({ monitor.shared with
          consecutiveFailures := incrementU32 monitor.shared.consecutiveFailures } :
            SharedState).setState .suspect
        consecutivePrimaryHealthy := 0 }, []) := by
  simp only [recordFailedCheck, ge_iff_le, if_neg below]

/-- A failed check that makes its call: `trigger_failover` gets the current
primary and the replica, and leaves the shared state as it does. -/
theorem recordFailedCheck_calls {cur : String} {attempt : PromotionAttempt}
    (due : shim.failureThreshold ≤ incrementU32 monitor.shared.consecutiveFailures) :
    shim.recordFailedCheck monitor cur attempt =
      let triggered := shim.triggerFailover { monitor.shared with
        consecutiveFailures := incrementU32 monitor.shared.consecutiveFailures }
        cur shim.replica attempt
      ({ monitor with shared := triggered.1, consecutivePrimaryHealthy := 0 }, triggered.2) := by
  simp only [recordFailedCheck, ge_iff_le, if_pos due]

/-! ## The calls as the bus reports them -/

/-- The events only `trigger_failover` emits. -/
def Output.isTriggered : Output → Bool
  | .emit _ (.failoverTriggered _ _) .error => true
  | _ => false

def TriggerCall.event (call : TriggerCall) : Output :=
  .emit "failover-shim" (.failoverTriggered call.oldPrimary call.newPrimary) .error

theorem isTriggered_notify (text : String) :
    (shim.notify text).filter Output.isTriggered = [] := by
  unfold notify
  cases shim.webhook <;> rfl

theorem isTriggered_emit {event : EventType} {severity : Severity}
    (other : Output.isTriggered (.emit "failover-shim" event severity) = false) :
    (shim.emit event severity).filter Output.isTriggered = [] := by
  unfold emit
  cases shim.hasBus <;> simp [other]

theorem isTriggered_ite {condition : Prop} [Decidable condition] {outputs : List Output}
    (quiet : outputs.filter Output.isTriggered = []) :
    (if condition then outputs else []).filter Output.isTriggered = [] := by
  by_cases holds : condition
  · rw [if_pos holds, quiet]
  · rw [if_neg holds, List.filter_nil]

theorem tick_passed_events (passed : shim.checkFailed input = false) :
    (shim.tick monitor input).2.filter Output.isTriggered = [] := by
  unfold checkFailed at passed
  cases connector : shim.connector with
  | tcp =>
      have healthy : input.healthy = true := by simpa [connector] using passed
      simp only [tick, connector, handleCheckResult, healthy, if_true, handleHealthyCheck]
      split
      · split
        · rw [List.filter_append, isTriggered_notify, isTriggered_emit rfl, List.append_nil]
        · rfl
      · split <;> rfl
  | patroni =>
      cases patroni : input.patroni with
      | unreachable => simp [connector, patroni] at passed
      | healthy inRecovery maxLagSecs =>
          simp only [tick, connector, handlePatroniCheck, patroni, List.filter_append,
            List.append_eq_nil_iff]
          refine ⟨⟨?_, ?_⟩, ?_⟩
          · cases monitor.lastRecoveryState with
            | none => rfl
            | some previous => exact isTriggered_ite (isTriggered_emit rfl)
          · exact isTriggered_ite (isTriggered_emit rfl)
          · exact isTriggered_ite (isTriggered_emit rfl)
  | redisSentinel =>
      cases sentinel : input.sentinel with
      | unreachable => simp [connector, sentinel] at passed
      | masterInfo ip port =>
          simp only [tick, connector, handleSentinelCheck, sentinel]
          exact isTriggered_ite (isTriggered_emit rfl)

/-- With a bus, the calls of a tick are exactly the `FailoverTriggered` events
of severity `Error`. -/
theorem tick_events (bus : shim.hasBus = true) :
    (shim.tick monitor input).2.filter Output.isTriggered =
      (shim.tickCall monitor input).toList.map TriggerCall.event := by
  cases failed : shim.checkFailed input with
  | false =>
      rw [tick_passed_events failed]
      simp [tickCall, failed]
  | true =>
      rw [tick_failed failed]
      by_cases due : shim.failureThreshold ≤ incrementU32 monitor.shared.consecutiveFailures
      · have emitted : ∀ shared : SharedState, ∀ old new : String, ∀ attempt : PromotionAttempt,
            (shim.triggerFailover shared old new attempt).2.filter Output.isTriggered =
              [TriggerCall.event ⟨old, new, attempt.result⟩] := by
          intro shared old new attempt
          simp only [triggerFailover]
          split <;> simp [isTriggered_notify, emit, bus, Output.isTriggered, TriggerCall.event]
        rw [recordFailedCheck_calls due]
        simp [emitted, tickCall, failed, due]
      · rw [recordFailedCheck_counts due]
        simp [tickCall, failed, due]

/-! ## The runs of the loop -/

/-- A call with the primary served before and after it. -/
structure Promotion where
  call : TriggerCall
  servedBefore : String
  servedAfter : String
deriving DecidableEq, Repr

/-- The loop, every call it has made and how many changes the cluster reported. -/
structure Watch where
  monitor : Monitor
  promotions : List Promotion
  reported : Nat
deriving DecidableEq, Repr

namespace FailoverShim

def watchTick (shim : FailoverShim) (watch : Watch) (input : TickInput) : Watch :=
  let next := (shim.tick watch.monitor input).1
  { monitor := next
    promotions := watch.promotions ++ ((shim.tickCall watch.monitor input).map fun call =>
      ⟨call, watch.monitor.shared.currentPrimary, next.shared.currentPrimary⟩).toList
    reported := watch.reported + (shim.reportsChange watch.monitor input).toNat }

def watched (shim : FailoverShim) : Machine Watch TickInput := .ofFunction shim.watchTick

def watchInitial (shim : FailoverShim) : Watch := ⟨shim.initial, [], 0⟩

/-- Every successful call changes the primary, and those are what is counted. -/
structure PromotionsReal (watch : Watch) : Prop where
  changes : ∀ promotion ∈ watch.promotions, promotion.call.succeeded = true →
    promotion.call.oldPrimary ≠ promotion.call.newPrimary ∧
      promotion.servedAfter ≠ promotion.servedBefore
  counted : watch.monitor.shared.failoverCount =
    watch.promotions.countP (·.call.succeeded) % 2 ^ 64

/-- Every call promotes the replica in place of the serving primary, with effect
if it succeeds; the counter also counts the changes the cluster reports. -/
structure PromotionsCounted (shim : FailoverShim) (watch : Watch) : Prop where
  named : ∀ promotion ∈ watch.promotions,
    promotion.call.oldPrimary = promotion.servedBefore ∧ promotion.call.newPrimary = shim.replica
  changes : ∀ promotion ∈ watch.promotions, promotion.call.succeeded = true →
    promotion.servedAfter = shim.replica ∧ (promotion.servedBefore ≠ shim.replica →
      promotion.call.oldPrimary ≠ promotion.call.newPrimary ∧
        promotion.servedAfter ≠ promotion.servedBefore)
  counted : watch.monitor.shared.failoverCount =
    (watch.promotions.countP (·.call.succeeded) + watch.reported) % 2 ^ 64

end FailoverShim

variable {watch : Watch}

theorem tickCall_eq_some {call : TriggerCall} (called : shim.tickCall monitor input = some call) :
    shim.checkFailed input = true ∧
      shim.failureThreshold ≤ incrementU32 monitor.shared.consecutiveFailures ∧
      call = ⟨monitor.shared.currentPrimary, shim.replica, input.attempt.result⟩ := by
  unfold tickCall at called
  split at called
  · rename_i due
    exact ⟨due.1, due.2, (Option.some.inj called).symm⟩
  · cases called

theorem reportsChange_failed (failed : shim.checkFailed input = true) :
    shim.reportsChange monitor input = false := by
  unfold checkFailed at failed
  unfold reportsChange
  cases connector : shim.connector with
  | tcp => rfl
  | patroni =>
      have unreachable : input.patroni = .unreachable := by simpa [connector] using failed
      simp only [unreachable]
  | redisSentinel =>
      have unreachable : input.sentinel = .unreachable := by simpa [connector] using failed
      simp only [unreachable]

theorem tick_called {call : TriggerCall} (called : shim.tickCall monitor input = some call) :
    (shim.tick monitor input).1.shared.currentPrimary =
        (if call.succeeded then shim.replica else monitor.shared.currentPrimary) ∧
      (shim.tick monitor input).1.shared.failoverCount =
        (if call.succeeded then incrementU64 monitor.shared.failoverCount
          else monitor.shared.failoverCount) := by
  obtain ⟨failed, due, rfl⟩ := tickCall_eq_some called
  rw [tick_failed failed, recordFailedCheck_calls due]
  cases promoted : input.attempt.result <;> simp [triggerFailover, promoted]

theorem tick_uncalled (uncalled : shim.tickCall monitor input = none) :
    (shim.tick monitor input).1.shared.failoverCount =
      (if shim.reportsChange monitor input then incrementU64 monitor.shared.failoverCount
        else monitor.shared.failoverCount) := by
  cases failed : shim.checkFailed input with
  | false => exact (tick_passed failed).failoverCount
  | true =>
      have below : ¬ shim.failureThreshold ≤ incrementU32 monitor.shared.consecutiveFailures := by
        simpa [tickCall, failed] using uncalled
      rw [tick_failed failed, recordFailedCheck_counts below, reportsChange_failed failed]
      rfl

theorem incrementU64_mod (counter : Nat) :
    incrementU64 (counter % 2 ^ 64) = (counter + 1) % 2 ^ 64 := by
  unfold incrementU64
  omega

theorem FailoverShim.PromotionsCounted.tick (counted : shim.PromotionsCounted watch) :
    shim.PromotionsCounted (shim.watchTick watch input) := by
  obtain ⟨named, changes, counter⟩ := counted
  cases called : shim.tickCall watch.monitor input with
  | none =>
      have uncalled := tick_uncalled called
      refine ⟨?_, ?_, ?_⟩
      · simpa [watchTick, called] using named
      · simpa [watchTick, called] using changes
      · simp only [watchTick, called, uncalled, counter, incrementU64_mod]
        cases shim.reportsChange watch.monitor input <;> simp [Nat.add_assoc]
  | some call =>
      obtain ⟨address, count⟩ := tick_called called
      obtain ⟨failed, _, rfl⟩ := tickCall_eq_some called
      have unreported : shim.reportsChange watch.monitor input = false :=
        reportsChange_failed failed
      refine ⟨?_, ?_, ?_⟩
      · intro promotion made
        simp only [watchTick, called, Option.map_some, Option.toList_some, List.mem_append,
          List.mem_singleton] at made
        rcases made with earlier | rfl
        · exact named promotion earlier
        · exact ⟨rfl, rfl⟩
      · intro promotion made succeeded
        simp only [watchTick, called, Option.map_some, Option.toList_some, List.mem_append,
          List.mem_singleton] at made
        rcases made with earlier | rfl
        · exact changes promotion earlier succeeded
        · have served : (shim.tick watch.monitor input).1.shared.currentPrimary = shim.replica :=
            address.trans (if_pos succeeded)
          refine ⟨served, fun other => ⟨other, ?_⟩⟩
          dsimp only
          rw [served]
          exact other.symm
      · simp only [watchTick, called, count, unreported, counter, incrementU64_mod]
        cases input.attempt.result <;> simp [Nat.add_right_comm]

/-- In every run of every connector, calls are made in the name of the serving
primary for the replica, and the counter counts the successful ones together
with the changes the cluster reports. -/
theorem always_promotionsCounted (shim : FailoverShim) (inputs : List TickInput) :
    shim.watched.Always shim.PromotionsCounted shim.watchInitial inputs := by
  have start : shim.PromotionsCounted shim.watchInitial := ⟨by simp [watchInitial],
    by simp [watchInitial], rfl⟩
  apply Machine.always_ofFunction shim.PromotionsCounted ?_ start
  intro watch input counted
  exact counted.tick

def pairedShim (connector : FailoverConnector) : FailoverShim where
  primary := "db-1:5432"
  replica := "db-2:5432"
  failureThreshold := 1
  webhook := none
  connector := connector
  dbHost := "db-1"
  lagThresholdSecs := 30
  hasBus := true

def silentInput : TickInput where
  healthy := false
  originalReachable := false
  patroni := .unreachable
  sentinel := .unreachable
  attempt := .patronictl true

def roleInput (inRecovery : Bool) : TickInput :=
  { silentInput with patroni := .healthy inRecovery 0 }

/-- A second failure promotes the replica in place of itself; a role that
Patroni reports changed is counted without any call. -/
theorem not_always_promotionsReal :
    ¬ (pairedShim .tcp).watched.Always PromotionsReal (pairedShim .tcp).watchInitial
        [silentInput, silentInput] ∧
      ¬ (pairedShim .patroni).watched.Always PromotionsReal (pairedShim .patroni).watchInitial
        [roleInput false, roleInput true] := by
  constructor
  · intro always
    have replaced := (always.last rfl).changes
      ⟨⟨"db-2:5432", "db-2:5432", true⟩, "db-2:5432", "db-2:5432"⟩ (by decide) rfl
    exact replaced.1 rfl
  · intro always
    have counted := (always.last rfl).counted
    exact absurd counted (by decide)

end Evergreen.Failover
