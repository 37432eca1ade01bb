import Evergreen.Bus.Publish

namespace Evergreen.Bus

/-! # The events of the shims

What an event carries beside its source and its sequence.  The JSON of a custom
event decides nothing.
-/

inductive Severity where
  | info
  | notice
  | warning
  | error
  | critical
deriving DecidableEq, Repr

inductive EventType where
  | healthStatusChanged (previous current : String)
  | failoverTriggered (oldPrimary newPrimary : String)
  | failoverCompleted (promoted : String)
  | backupStarted (name : String)
  | backupCompleted (name : String) (sizeBytes : Nat) (checksum : String)
  | backupFailed (name reason : String)
  | encryptionKeyRotated (keyId algorithm : String)
  | replicationLagWarning (lagMs thresholdMs : Nat)
  | migrationStarted (version : String)
  | migrationCompleted (version : String)
  | migrationFailed (version reason : String)
  | auditRecorded (eventType resource action : String)
  | complianceCheckCompleted (standard : String) (score : Float) (violations : Nat)
  | tlsCertExpiring (certPath : String) (daysRemaining : Nat)
  | tlsCertRenewed (certPath : String)
  | authTokenRevoked (tokenId reason : String)
  | schedulerTaskFired (taskName schedule : String)
  | queueJobFailed (jobId queue : String) (retries : Nat)
  | cacheHitRateLow (hitRate threshold : Float)
  | circuitBreakerTripped (service state : String)
  | cdcBatchCommitted (table : String) (eventCount : Nat)
  | shardRebalanceStarted (fromShard toShard : String)
  | archivalTierTransition (resource fromTier toTier : String)
  | costBudgetAlert (budgetName : String) (usagePercent : Float)
  | chaosExperimentStarted (experiment : String)
  | chaosExperimentCompleted (experiment result : String)
  | custom (eventName : String)

structure Body where
  event : EventType
  severity : Severity

def severityRank : Severity → Nat
  | .info => 0
  | .notice => 1
  | .warning => 2
  | .error => 3
  | .critical => 4

def eventTypeTag : EventType → String
  | .healthStatusChanged .. => "health_status_changed"
  | .failoverTriggered .. => "failover_triggered"
  | .failoverCompleted .. => "failover_completed"
  | .backupStarted .. => "backup_started"
  | .backupCompleted .. => "backup_completed"
  | .backupFailed .. => "backup_failed"
  | .encryptionKeyRotated .. => "encryption_key_rotated"
  | .replicationLagWarning .. => "replication_lag_warning"
  | .migrationStarted .. => "migration_started"
  | .migrationCompleted .. => "migration_completed"
  | .migrationFailed .. => "migration_failed"
  | .auditRecorded .. => "audit_recorded"
  | .complianceCheckCompleted .. => "compliance_check_completed"
  | .tlsCertExpiring .. => "tls_cert_expiring"
  | .tlsCertRenewed .. => "tls_cert_renewed"
  | .authTokenRevoked .. => "auth_token_revoked"
  | .schedulerTaskFired .. => "scheduler_task_fired"
  | .queueJobFailed .. => "queue_job_failed"
  | .cacheHitRateLow .. => "cache_hit_rate_low"
  | .circuitBreakerTripped .. => "circuit_breaker_tripped"
  | .cdcBatchCommitted .. => "cdc_batch_committed"
  | .shardRebalanceStarted .. => "shard_rebalance_started"
  | .archivalTierTransition .. => "archival_tier_transition"
  | .costBudgetAlert .. => "cost_budget_alert"
  | .chaosExperimentStarted .. => "chaos_experiment_started"
  | .chaosExperimentCompleted .. => "chaos_experiment_completed"
  | .custom .. => "custom"

end Evergreen.Bus
