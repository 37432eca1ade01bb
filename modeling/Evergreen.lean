import Evergreen.Failover.Shim
import Evergreen.Failover.Failback
import Evergreen.Proxy.Circuit
import Evergreen.Proxy.Probe
import Evergreen.Queue.Jobs
import Evergreen.Queue.Workers
import Evergreen.Queue.Tokens
import Evergreen.Queue.NoLoss
import Evergreen.Migration.Lock
import Evergreen.Migration.Exclusion
import Evergreen.Supervisor.Capabilities
import Evergreen.Supervisor.Teardown
import Evergreen.Process.Child
import Evergreen.Process.Signals
import Evergreen.Supervisor.ExitStatus
import Evergreen.Encryption.RoundTrip
import Evergreen.Migration.Files
import Evergreen.Migration.Shim
import Evergreen.Migration.Restart
import Evergreen.Scheduler.Coverage
import Evergreen.Settings.Load
import Evergreen.Settings.Precedence
import Evergreen.Cache.Shim
import Evergreen.Machine.PartialMap
import Evergreen.Cache.Coherence
import Evergreen.Bus.Publish
import Evergreen.Bus.Ordering
import Evergreen.Queue.NoDuplication
import Evergreen.Failover.JointState
import Evergreen.Failover.Attempts
import Evergreen.Migration.DryRun
import Evergreen.Migration.Order
import Evergreen.Migration.Prefix
import Evergreen.Cache.Orders
import Evergreen.Proxy.Episode
import Evergreen.Proxy.Representation
import Evergreen.Migration.Agreement
import Evergreen.Migration.Release
import Evergreen.Proxy.Recovery
import Evergreen.Machine.Budget
import Evergreen.Machine.Component
import Evergreen.Tenant.Isolator
import Evergreen.Tenant.Tenancy
import Evergreen.Tenant.Isolation
import Evergreen.Tenant.RateBound
import Evergreen.Search.Binary
import Evergreen.Search.Cyclic
import Evergreen.Sharding.Monotone
import Evergreen.Cdc.Shim
import Evergreen.Cdc.Accounting
import Evergreen.Cdc.Redis
import Evergreen.Cdc.Snapshots
import Evergreen.Failover.Clusters
import Evergreen.Failover.Selection
import Evergreen.Failover.Primaries
import Evergreen.Failover.Hysteresis
import Evergreen.Queue.Concurrency
import Evergreen.Queue.Custody
import Evergreen.Queue.Attempts
import Evergreen.Process.Shutdown
import Evergreen.Process.Reporting
import Evergreen.Text.SocketAddr
import Evergreen.Settings.Validate
import Evergreen.Settings.Usable
import Evergreen.Settings.Watch
import Evergreen.Settings.Debounce
import Evergreen.Settings.Reload
import Evergreen.Machine.ConsumerGroup
import Evergreen.Bus.Bridge
import Evergreen.Bus.Relay
import Evergreen.Alerting.Manager
import Evergreen.Alerting.Dedup
import Evergreen.Word.Usize
import Evergreen.Text.Utf8Lossy
import Evergreen.Wasm.Host
import Evergreen.Wasm.Totality
import Evergreen.Encryption.Rotation
import Evergreen.Text.Hex
import Evergreen.Auth.Shim
import Evergreen.Auth.Authenticity
import Evergreen.Files.Lines
import Evergreen.Audit.Shim
import Evergreen.Audit.Restart
import Evergreen.Backup.Schedule
import Evergreen.Backup.Shim
import Evergreen.Backup.Outcome
import Evergreen.Archival.Distinct
import Evergreen.Tls.Renewal
import Evergreen.Operator.Convergence
import Evergreen.Proxy.Requests
import Evergreen.Proxy.Window
import Evergreen.Proxy.Fairness
import Evergreen.Proxy.Snapshot
import Evergreen.Operator.Environment
import Evergreen.Cache.Recency
import Evergreen.Reload.Shim
import Evergreen.Reload.InStep
import Evergreen.Machine.Retry
import Evergreen.Webhooks.Shim
import Evergreen.Webhooks.Delivery
import Evergreen.Sharding.Routing
import Evergreen.Sharding.Ranges
import Evergreen.Failover.Configured
import Evergreen.Failover.Sentinel
import Evergreen.Failover.PromotionSafety
import Evergreen.Tenant.Registration
import Evergreen.Tenant.Rejections
import Evergreen.Settings.Backoff
import Evergreen.Scheduler.Firing
import Evergreen.Scheduler.Observed
import Evergreen.Cdc.Wal
import Evergreen.Tenant.AuditLog
import Evergreen.Migration.Rollback
import Evergreen.Migration.Orchestration
import Evergreen.Migration.Pending
import Evergreen.Cdc.Postgres
import Evergreen.Cdc.MariaDb
import Evergreen.Bus.Acknowledgement
import Evergreen.Cdc.EventIds
import Evergreen.Management.RateLimiter
import Evergreen.Auth.Lockout
import Evergreen.Auth.Refusals
import Evergreen.Bus.Event
import Evergreen.Bus.Filters
import Evergreen.Wiring.HealthFailover
import Evergreen.Replication.Shim
import Evergreen.Replication.Topology
import Evergreen.Cost.Optimizer
import Evergreen.Cost.Consistency
import Evergreen.Wasm.Frame
import Evergreen.Binary64.Rounding
import Evergreen.Binary64.Ratio
import Evergreen.Resource.Monitor
import Evergreen.Supervisor.Grace
import Evergreen.Migration.Staleness
import Evergreen.Archival.Lifecycle
import Evergreen.Replication.Rounds
import Evergreen.Migration.Names
import Evergreen.Resource.CpuTimes
import Evergreen.Auth.HexCoding
import Evergreen.Encryption.Totality
import Evergreen.Text.Find
import Evergreen.Tls.Base64
import Evergreen.Tls.Pem
import Evergreen.Tls.RoundTrip
import Evergreen.Audit.Faults
import Evergreen.Machine.Reactor
import Evergreen.Wiring.Network
import Evergreen.Wiring.Cascade
import Evergreen.Process.Drain
import Evergreen.Chaos.Orchestrator
import Evergreen.Chaos.Ledger
import Evergreen.Machine.KeyedList
import Evergreen.Failover.Observers
import Evergreen.Backup.Retention
import Evergreen.Backup.Verification
import Evergreen.Health.Probing
import Evergreen.Health.Server
import Evergreen.Bus.Delivery
import Evergreen.Machine.Writes
import Evergreen.Operator.Fleet
import Evergreen.Cost.Ledger
import Evergreen.Audit.Reporting
import Evergreen.Vault.Rotation
import Evergreen.Vault.Loops
import Evergreen.Archival.Retention
import Evergreen.Auth.Hashes
import Evergreen.Chaos.Injection
