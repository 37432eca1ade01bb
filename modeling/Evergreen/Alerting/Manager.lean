import Mathlib.Algebra.Order.Ring.Nat
import Mathlib.Logic.Function.Basic

namespace Evergreen.Alerting

/-! # The alert manager

Events that pass the severity filters and the dedup window are posted to every
webhook that accepts their severity.  Instants are nanoseconds of the
monotonic clock; what an event carries besides its name never reaches a
decision.
-/

inductive Severity where
  | info
  | notice
  | warning
  | error
  | critical
deriving DecidableEq, Repr

inductive AlertSeverity where
  | info
  | warning
  | error
  | critical
deriving DecidableEq, Repr

def AlertSeverity.ofSeverity : Severity → AlertSeverity
  | .info => .info
  | .notice => .info
  | .warning => .warning
  | .error => .error
  | .critical => .critical

def severityRank : AlertSeverity → Nat
  | .info => 0
  | .warning => 1
  | .error => 2
  | .critical => 3

def severityRankEvent : Severity → Nat
  | .info => 0
  | .notice => 1
  | .warning => 2
  | .error => 3
  | .critical => 4

inductive EventType where
  | healthStatusChanged
  | failoverTriggered
  | failoverCompleted
  | backupStarted
  | backupCompleted
  | backupFailed
  | encryptionKeyRotated
  | replicationLagWarning
  | migrationStarted
  | migrationCompleted
  | migrationFailed
  | auditRecorded
  | complianceCheckCompleted
  | tlsCertExpiring
  | tlsCertRenewed
  | authTokenRevoked
  | schedulerTaskFired
  | queueJobFailed
  | cacheHitRateLow
  | circuitBreakerTripped
  | cdcBatchCommitted
  | shardRebalanceStarted
  | archivalTierTransition
  | costBudgetAlert
  | chaosExperimentStarted
  | chaosExperimentCompleted
  | custom (eventName : String)
deriving DecidableEq, Repr

structure ShimEvent where
  source : String
  event : EventType
  severity : Severity
deriving DecidableEq, Repr

namespace ShimEvent

def isAlertable (event : ShimEvent) : Bool :=
  match event.severity with
  | .warning | .error | .critical => true
  | .info | .notice => false

def eventName (event : ShimEvent) : String :=
  match event.event with
  | .healthStatusChanged => "health_status_changed"
  | .failoverTriggered => "failover_triggered"
  | .failoverCompleted => "failover_completed"
  | .backupStarted => "backup_started"
  | .backupCompleted => "backup_completed"
  | .backupFailed => "backup_failed"
  | .encryptionKeyRotated => "encryption_key_rotated"
  | .replicationLagWarning => "replication_lag_warning"
  | .migrationStarted => "migration_started"
  | .migrationCompleted => "migration_completed"
  | .migrationFailed => "migration_failed"
  | .auditRecorded => "audit_recorded"
  | .complianceCheckCompleted => "compliance_check_completed"
  | .tlsCertExpiring => "tls_cert_expiring"
  | .tlsCertRenewed => "tls_cert_renewed"
  | .authTokenRevoked => "auth_token_revoked"
  | .schedulerTaskFired => "scheduler_task_fired"
  | .queueJobFailed => "queue_job_failed"
  | .cacheHitRateLow => "cache_hit_rate_low"
  | .circuitBreakerTripped => "circuit_breaker_tripped"
  | .cdcBatchCommitted => "cdc_batch_committed"
  | .shardRebalanceStarted => "shard_rebalance_started"
  | .archivalTierTransition => "archival_tier_transition"
  | .costBudgetAlert => "cost_budget_alert"
  | .chaosExperimentStarted => "chaos_experiment_started"
  | .chaosExperimentCompleted => "chaos_experiment_completed"
  | .custom eventName => eventName

def severityStr (event : ShimEvent) : String :=
  match event.severity with
  | .info => "INFO"
  | .notice => "NOTICE"
  | .warning => "WARN"
  | .error => "ERROR"
  | .critical => "CRITICAL"

def dedupKey (event : ShimEvent) : String :=
  event.source ++ ":" ++ event.eventName ++ ":" ++ event.severityStr

end ShimEvent

structure AlertManagerWebhook where
  name : String
  url : String
  minSeverity : AlertSeverity
deriving DecidableEq, Repr

def AlertManagerWebhook.accepts (webhook : AlertManagerWebhook) (severity : AlertSeverity) : Bool :=
  decide (severityRank webhook.minSeverity ≤ severityRank severity)

/-- What comes of one POST: an answer with its HTTP status, or an error of the
client, the request or the connection. -/
inductive Delivery where
  | response (status : Nat)
  | error
deriving DecidableEq, Repr

/-- The webhook took the alert. -/
def Delivery.accepted : Delivery → Bool
  | .response status => decide (200 ≤ status ∧ status < 300)
  | .error => false

/-- `send_webhook` fails on an error only; it does not look at the status. -/
def sendWebhook : Delivery → Except Unit Unit
  | .response _ => .ok ()
  | .error => .error ()

structure AlertManager where
  webhooks : List AlertManagerWebhook
  minSeverity : Severity := .info
  dedupWindow : Nat := 300 * 10 ^ 9
  dedupCache : String → Option Nat := fun _ => none
  alertsForwarded : Nat := 0
  alertsDropped : Nat := 0
  deliveryFailures : Nat := 0

namespace AlertManager

def dropAlert (manager : AlertManager) : AlertManager :=
  { manager with alertsDropped := (manager.alertsDropped + 1) % 2 ^ 64 }

/-- The filters before the dedup cache: alertable, and at or above the global
minimum. -/
def admits (manager : AlertManager) (event : ShimEvent) : Bool :=
  event.isAlertable &&
    decide (severityRankEvent manager.minSeverity ≤ severityRankEvent event.severity)

/-- The cache holds the key, with `elapsed` (which stops at zero) inside the window. -/
def isDuplicate (manager : AlertManager) (key : String) (now : Nat) : Bool :=
  match manager.dedupCache key with
  | some lastSeen => decide (now - lastSeen < manager.dedupWindow)
  | none => false

/-- The webhooks that accept the severity, with their places in the configuration. -/
def matching (manager : AlertManager) (severity : AlertSeverity) :
    List (AlertManagerWebhook × Nat) :=
  manager.webhooks.zipIdx.filter fun entry => entry.1.accepts severity

def countDelivery (manager : AlertManager) (delivery : Delivery) : AlertManager :=
  match sendWebhook delivery with
  | .ok () => { manager with alertsForwarded := (manager.alertsForwarded + 1) % 2 ^ 64 }
  | .error () => { manager with deliveryFailures := (manager.deliveryFailures + 1) % 2 ^ 64 }

/-- `deliveries` says what comes of the POST to the webhook at each place. -/
def forward (manager : AlertManager) (severity : AlertSeverity) (deliveries : Nat → Delivery) :
    AlertManager :=
  if (manager.matching severity).isEmpty then manager.dropAlert
  else (manager.matching severity).foldl
    (fun manager entry => manager.countDelivery (deliveries entry.2)) manager

/-- The clock is read twice, for `elapsed` and for the new record. -/
def processEvent (manager : AlertManager) (event : ShimEvent) (checkedAt recordedAt : Nat)
    (deliveries : Nat → Delivery) : AlertManager :=
  if !manager.admits event then manager.dropAlert
  else if manager.isDuplicate event.dedupKey checkedAt then manager.dropAlert
  else
    let recorded := { manager with
      dedupCache := Function.update manager.dedupCache event.dedupKey (some recordedAt) }
    recorded.forward (.ofSeverity event.severity) deliveries

def cleanupDedupCache (manager : AlertManager) (now : Nat) : AlertManager :=
  { manager with dedupCache := fun key =>
      (manager.dedupCache key).filter fun seen => decide (now - seen < manager.dedupWindow) }

/-- At least one webhook that the event is routed to took the alert. -/
def delivered (manager : AlertManager) (event : ShimEvent) (deliveries : Nat → Delivery) : Bool :=
  (manager.matching (.ofSeverity event.severity)).any fun entry => (deliveries entry.2).accepted

/-! ## What counting leaves alone -/

theorem countDelivery_keeps (manager : AlertManager) (delivery : Delivery) :
    (manager.countDelivery delivery).dedupCache = manager.dedupCache ∧
      (manager.countDelivery delivery).dedupWindow = manager.dedupWindow := by
  cases delivery with
  | response status => exact ⟨rfl, rfl⟩
  | error => exact ⟨rfl, rfl⟩

theorem forward_keeps (manager : AlertManager) (severity : AlertSeverity)
    (deliveries : Nat → Delivery) :
    (manager.forward severity deliveries).dedupCache = manager.dedupCache ∧
      (manager.forward severity deliveries).dedupWindow = manager.dedupWindow := by
  rw [forward]
  split
  · exact ⟨rfl, rfl⟩
  · next routed =>
    clear routed
    generalize manager.matching severity = entries
    induction entries generalizing manager with
    | nil => exact ⟨rfl, rfl⟩
    | cons entry entries ih =>
        obtain ⟨cache, window⟩ := manager.countDelivery_keeps (deliveries entry.2)
        exact ⟨(ih _).1.trans cache, (ih _).2.trans window⟩

@[simp] theorem processEvent_dedupWindow (manager : AlertManager) (event : ShimEvent)
    (checkedAt recordedAt : Nat) (deliveries : Nat → Delivery) :
    (manager.processEvent event checkedAt recordedAt deliveries).dedupWindow =
      manager.dedupWindow := by
  rw [processEvent]
  split
  · rfl
  · split
    · rfl
    · exact (forward_keeps _ _ _).2

/-- An event writes a record exactly when the filters and the window let it pass. -/
theorem processEvent_dedupCache (manager : AlertManager) (event : ShimEvent)
    (checkedAt recordedAt : Nat) (deliveries : Nat → Delivery) :
    (manager.processEvent event checkedAt recordedAt deliveries).dedupCache =
      if manager.admits event && !manager.isDuplicate event.dedupKey checkedAt then
        Function.update manager.dedupCache event.dedupKey (some recordedAt)
      else manager.dedupCache := by
  rw [processEvent]
  cases manager.admits event with
  | false => rfl
  | true =>
      cases manager.isDuplicate event.dedupKey checkedAt with
      | true => rfl
      | false => exact (forward_keeps _ _ _).1

theorem isDuplicate_iff {manager : AlertManager} {key : String} {now : Nat} :
    manager.isDuplicate key now ↔
      ∃ seen, manager.dedupCache key = some seen ∧ now - seen < manager.dedupWindow := by
  rw [isDuplicate]
  cases manager.dedupCache key with
  | none => simp
  | some seen => simp

end AlertManager

end Evergreen.Alerting
