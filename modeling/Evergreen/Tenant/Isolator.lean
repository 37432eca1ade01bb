import Evergreen.Machine.Run
import Evergreen.Settings.Load
import Mathlib.Algebra.Order.Ring.Rat
import Mathlib.Logic.Function.Basic

namespace Evergreen.Tenant

/-! # The tenant isolator

`TenantIsolator` and the token buckets behind it.  Instants are seconds on the
monotonic clock, and instants and tokens are exact.  The percentages are a
parameter, the code's are `f64`.
-/

/-- `Duration::as_secs`. -/
def asSecs (elapsed : ℚ) : Nat := elapsed.floor.toNat

/-- `duration_since` and `elapsed` saturate at zero. -/
def durationSince (now earlier : ℚ) : ℚ := max 0 (now - earlier)

inductive TenantQuotaResult where
  | allowed
  | rateLimited
  | memoryExceeded
  | cpuExceeded
deriving DecidableEq, Repr

/-- One reading of the monotonic and of the wall clock. -/
structure Moment where
  now : ℚ
  timestamp : String
deriving DecidableEq

structure AuditEntry where
  timestamp : String
  tenantId : String
  action : String
  allowed : Bool
deriving DecidableEq, Repr

structure TokenBucket where
  tokens : ℚ
  maxTokens : ℚ
  refillRate : ℚ
  lastRefill : ℚ
deriving DecidableEq

namespace TokenBucket

def new (maxTokens refillRate now : ℚ) : TokenBucket where
  tokens := maxTokens
  maxTokens := maxTokens
  refillRate := refillRate
  lastRefill := now

variable (bucket : TokenBucket) (now : ℚ)

def refill : TokenBucket :=
  { bucket with
    tokens := min (bucket.tokens + durationSince now bucket.lastRefill * bucket.refillRate)
      bucket.maxTokens
    lastRefill := now }

def tryConsume : TokenBucket × Bool :=
  let bucket := bucket.refill now
  if 1 ≤ bucket.tokens then ({ bucket with tokens := bucket.tokens - 1 }, true)
  else (bucket, false)

def reset : TokenBucket := { bucket with tokens := bucket.maxTokens, lastRefill := now }

end TokenBucket

structure CpuTimeTracker where
  totalCpuMs : ℚ := 0
  windowStart : Option ℚ := none
  maxCpuMs : Option ℚ := none
deriving DecidableEq

namespace CpuTimeTracker

variable (tracker : CpuTimeTracker) (now : ℚ)

def startWindow : CpuTimeTracker := { tracker with windowStart := some now }

def endWindow : CpuTimeTracker × ℚ :=
  match tracker.windowStart with
  | some start =>
      let elapsed := durationSince now start * 1000
      ({ tracker with windowStart := none, totalCpuMs := tracker.totalCpuMs + elapsed }, elapsed)
  | none => (tracker, 0)

def isOverBudget : Bool :=
  match tracker.maxCpuMs with
  | some maximum => maximum < tracker.totalCpuMs
  | none => false

end CpuTimeTracker

/-- The counters are `u64` without overflow checks in release builds. -/
structure TenantUsage (Percent : Type) where
  memoryBytes : Nat
  cpuPercent : Percent
  requestsCount : Nat
  lastReset : ℚ
  tokenBucket : Option TokenBucket
  cpuTime : CpuTimeTracker
  rejectedCount : Nat
deriving DecidableEq

/-- `TenantUsage::default`. -/
def TenantUsage.default {Percent : Type} [Zero Percent] (now : ℚ) : TenantUsage Percent where
  memoryBytes := 0
  cpuPercent := 0
  requestsCount := 0
  lastReset := now
  tokenBucket := none
  cpuTime := {}
  rejectedCount := 0

open Settings (TenantConfig Config)

variable {Percent : Type}

/-- The block that both reset paths repeat. -/
def TenantUsage.resetIfDue (usage : TenantUsage Percent) (resetPeriod : Nat) (now : ℚ) :
    TenantUsage Percent :=
  if resetPeriod ≤ asSecs (durationSince now usage.lastReset) then
    { usage with
      requestsCount := 0
      lastReset := now
      tokenBucket := usage.tokenBucket.map fun bucket => bucket.reset now }
  else usage

def classifyRate (usage : TenantUsage Percent) (config : TenantConfig Percent) :
    TenantQuotaResult × Bool :=
  if usage.tokenBucket.isSome then (.allowed, true)
  else
    match config.maxRequestsPerSec with
    | some maxRps =>
        if maxRps < usage.requestsCount then (.rateLimited, false) else (.allowed, false)
    | none => (.allowed, false)

def TenantUsage.reject (usage : TenantUsage Percent) : TenantUsage Percent :=
  { usage with rejectedCount := (usage.rejectedCount + 1) % 2 ^ 64 }

def TenantUsage.addBucket (usage : TenantUsage Percent) (config : TenantConfig Percent) (now : ℚ) :
    TenantUsage Percent :=
  match config.maxRequestsPerSec with
  | some maxRps => { usage with tokenBucket := some (.new maxRps maxRps now) }
  | none => usage

section Percentages

variable [LT Percent] [DecidableLT Percent]

/-- `f64Max` is what an absent limit compares as. -/
def checkCpuAndRate (f64Max : Percent) (usage : TenantUsage Percent) (config : TenantConfig Percent) :
    TenantUsage Percent × TenantQuotaResult × Bool :=
  if config.maxCpuPercent.getD f64Max < usage.cpuPercent ∨ usage.cpuTime.isOverBudget then
    (usage.reject, .cpuExceeded, false)
  else (usage, classifyRate usage config)

/-- The checks that `check_quota_hardened` makes before it takes a token. -/
def checkBudgets (f64Max : Percent) (usage : TenantUsage Percent) (config : TenantConfig Percent) :
    TenantUsage Percent × TenantQuotaResult × Bool :=
  match config.maxMemoryBytes with
  | some maxMem =>
      if maxMem < usage.memoryBytes then (usage.reject, .memoryExceeded, false)
      else checkCpuAndRate f64Max usage config
  | none => checkCpuAndRate f64Max usage config

end Percentages

structure InvalidTenantId where
  id : String
deriving DecidableEq, Repr

def InvalidTenantId.message (invalid : InvalidTenantId) : String :=
  let id := invalid.id
  s!"invalid tenant ID '{id}': must be 3-64 ASCII alphanumeric/hyphen characters"

/-- The two maps are `HashMap`s. -/
structure TenantIsolator (Percent : Type) where
  configs : String → Option (TenantConfig Percent)
  usage : String → Option (TenantUsage Percent)
  globalEnabled : Bool
  auditLog : List AuditEntry
  maxAuditEntries : Nat

namespace TenantIsolator

def new : TenantIsolator Percent where
  configs := fun _ => none
  usage := fun _ => none
  globalEnabled := false
  auditLog := []
  maxAuditEntries := 10000

variable (isolator : TenantIsolator Percent) (moment : Moment) (tenantId : String)

def setMaxAuditEntries (max : Nat) : TenantIsolator Percent := { isolator with maxAuditEntries := max }

/-- With no room for an entry, `remove(0)` panics on an empty log. -/
def recordAuditEntry (action : String) (allowed : Bool) : TenantIsolator Percent :=
  let auditLog := if isolator.maxAuditEntries ≤ isolator.auditLog.length then
    isolator.auditLog.tail else isolator.auditLog
  { isolator with auditLog := auditLog ++ [⟨moment.timestamp, tenantId, action, allowed⟩] }

def insertUsage (usage : TenantUsage Percent) : TenantIsolator Percent :=
  { isolator with usage := Function.update isolator.usage tenantId (some usage) }

@[simp] theorem configs_recordAuditEntry (action : String) (allowed : Bool) :
    (isolator.recordAuditEntry moment tenantId action allowed).configs = isolator.configs := rfl

@[simp] theorem usage_recordAuditEntry (action : String) (allowed : Bool) :
    (isolator.recordAuditEntry moment tenantId action allowed).usage = isolator.usage := rfl

@[simp] theorem globalEnabled_recordAuditEntry (action : String) (allowed : Bool) :
    (isolator.recordAuditEntry moment tenantId action allowed).globalEnabled =
      isolator.globalEnabled := rfl

@[simp] theorem configs_insertUsage (usage : TenantUsage Percent) :
    (isolator.insertUsage tenantId usage).configs = isolator.configs := rfl

@[simp] theorem usage_insertUsage (usage : TenantUsage Percent) :
    (isolator.insertUsage tenantId usage).usage = Function.update isolator.usage tenantId (some usage) :=
  rfl

@[simp] theorem globalEnabled_insertUsage (usage : TenantUsage Percent) :
    (isolator.insertUsage tenantId usage).globalEnabled = isolator.globalEnabled := rfl

variable [Zero Percent]

/-- `usage.entry(..).or_default()`. -/
def entry : TenantUsage Percent := (isolator.usage tenantId).getD (.default moment.now)

/-- One turn of the loop of `from_config`; `valid` is what
`TenantIdSlug::try_from` accepts. -/
def addTenant (valid : String → Bool) (tenant : TenantConfig Percent) :
    Except InvalidTenantId (TenantIsolator Percent) :=
  if valid tenant.tenantId then
    let isolator := { isolator with
      configs := Function.update isolator.configs tenant.tenantId (some tenant) }
    .ok (isolator.insertUsage tenant.tenantId
      ((TenantUsage.default moment.now).addBucket tenant moment.now))
  else .error ⟨tenant.tenantId⟩

def fromConfig (valid : String → Bool) (config : Config Percent) :
    Except InvalidTenantId (TenantIsolator Percent) :=
  (config.tenants.foldlM (fun isolator tenant => addTenant isolator moment valid tenant) new).map
    fun isolator => { isolator with globalEnabled := !config.tenants.isEmpty }

def registerTenant (valid : String → Bool) (config : TenantConfig Percent) :
    TenantIsolator Percent × Except InvalidTenantId Unit :=
  let tenantId := config.tenantId
  if valid tenantId then
    let isolator := { isolator with
      configs := Function.update isolator.configs tenantId (some config)
      globalEnabled := true }
    let isolator := match config.maxRequestsPerSec with
      | some _ =>
          isolator.insertUsage tenantId ((isolator.entry moment tenantId).addBucket config moment.now)
      | none => isolator
    (isolator.recordAuditEntry moment tenantId "register" true, .ok ())
  else (isolator, .error ⟨tenantId⟩)

def removeTenant : TenantIsolator Percent × Bool :=
  let removed := (isolator.configs tenantId).isSome
  let isolator := { isolator with
    usage := Function.update isolator.usage tenantId none
    configs := Function.update isolator.configs tenantId none }
  (if removed then isolator.recordAuditEntry moment tenantId "remove" true else isolator, removed)

def recordMemory (bytes : Nat) : TenantIsolator Percent :=
  isolator.insertUsage tenantId { isolator.entry moment tenantId with memoryBytes := bytes }

def recordCpu (percent : Percent) : TenantIsolator Percent :=
  isolator.insertUsage tenantId { isolator.entry moment tenantId with cpuPercent := percent }

def recordRequest : TenantIsolator Percent :=
  let usage := isolator.entry moment tenantId
  isolator.insertUsage tenantId { usage with requestsCount := (usage.requestsCount + 1) % 2 ^ 64 }

def checkAndReset : TenantIsolator Percent :=
  let resetPeriod := ((isolator.configs tenantId).map (·.resetPeriodSecs)).getD 1
  match isolator.usage tenantId with
  | some usage => isolator.insertUsage tenantId (usage.resetIfDue resetPeriod moment.now)
  | none => isolator

/-- The last two lines of `check_quota_hardened`. -/
def finishCheck (result : TenantQuotaResult) : TenantIsolator Percent × TenantQuotaResult :=
  (isolator.recordAuditEntry moment tenantId "quota_check" (result = .allowed), result)

def checkQuotaHardened [LT Percent] [DecidableLT Percent] (f64Max : Percent) :
    TenantIsolator Percent × TenantQuotaResult :=
  if isolator.globalEnabled then
    match isolator.configs tenantId with
    | none => (isolator, .allowed)
    | some config =>
        let usage := isolator.entry moment tenantId
        let isolator := isolator.insertUsage tenantId
          (if usage.tokenBucket.isNone then usage.addBucket config moment.now else usage)
        let usage := (isolator.entry moment tenantId).resetIfDue config.resetPeriodSecs moment.now
        let (usage, result, needsTokenConsume) := checkBudgets f64Max usage config
        let isolator := isolator.insertUsage tenantId usage
        if needsTokenConsume then
          match isolator.usage tenantId with
          | none => (isolator.recordAuditEntry moment tenantId "quota_check" false, .rateLimited)
          | some usage =>
              match usage.tokenBucket with
              | some bucket =>
                  let (bucket, consumed) := bucket.tryConsume moment.now
                  let usage := { usage with tokenBucket := some bucket }
                  if consumed then
                    (isolator.insertUsage tenantId usage).finishCheck moment tenantId result
                  else
                    ((isolator.insertUsage tenantId usage.reject).recordAuditEntry moment tenantId
                      "quota_check" false, .rateLimited)
              | none => isolator.finishCheck moment tenantId result
        else isolator.finishCheck moment tenantId result
  else (isolator, .allowed)

def startCpuWindow : TenantIsolator Percent :=
  let usage := isolator.entry moment tenantId
  isolator.insertUsage tenantId { usage with cpuTime := usage.cpuTime.startWindow moment.now }

def endCpuWindow : TenantIsolator Percent × ℚ :=
  let usage := isolator.entry moment tenantId
  let (cpuTime, elapsed) := usage.cpuTime.endWindow moment.now
  (isolator.insertUsage tenantId { usage with cpuTime }, elapsed)

end TenantIsolator

/-! ## Runs -/

inductive Operation (Percent : Type) where
  | registerTenant (config : TenantConfig Percent)
  | removeTenant (tenantId : String)
  | recordMemory (tenantId : String) (bytes : Nat)
  | recordCpu (tenantId : String) (percent : Percent)
  | recordRequest (tenantId : String)
  | checkAndReset (tenantId : String)
  | checkQuotaHardened (tenantId : String)
  | startCpuWindow (tenantId : String)
  | endCpuWindow (tenantId : String)
deriving DecidableEq

def Operation.tenantId : Operation Percent → String
  | .registerTenant config => config.tenantId
  | .removeTenant tenantId => tenantId
  | .recordMemory tenantId _ => tenantId
  | .recordCpu tenantId _ => tenantId
  | .recordRequest tenantId => tenantId
  | .checkAndReset tenantId => tenantId
  | .checkQuotaHardened tenantId => tenantId
  | .startCpuWindow tenantId => tenantId
  | .endCpuWindow tenantId => tenantId

inductive Answer where
  | registered (result : Except InvalidTenantId Unit)
  | removed (removed : Bool)
  | checked (result : TenantQuotaResult)
  | elapsed (milliseconds : ℚ)
  | none
deriving DecidableEq

/-- An operation with its readings of the clocks. -/
structure Timed (Percent : Type) where
  moment : Moment
  operation : Operation Percent
deriving DecidableEq

section Machine

variable [Zero Percent] [LT Percent] [DecidableLT Percent]

def TenantIsolator.perform (valid : String → Bool) (f64Max : Percent)
    (isolator : TenantIsolator Percent) (timed : Timed Percent) : TenantIsolator Percent × Answer :=
  let moment := timed.moment
  match timed.operation with
  | .registerTenant config =>
      let (isolator, result) := isolator.registerTenant moment valid config
      (isolator, .registered result)
  | .removeTenant tenantId =>
      let (isolator, removed) := isolator.removeTenant moment tenantId
      (isolator, .removed removed)
  | .recordMemory tenantId bytes => (isolator.recordMemory moment tenantId bytes, .none)
  | .recordCpu tenantId percent => (isolator.recordCpu moment tenantId percent, .none)
  | .recordRequest tenantId => (isolator.recordRequest moment tenantId, .none)
  | .checkAndReset tenantId => (isolator.checkAndReset moment tenantId, .none)
  | .checkQuotaHardened tenantId =>
      let (isolator, result) := isolator.checkQuotaHardened moment tenantId f64Max
      (isolator, .checked result)
  | .startCpuWindow tenantId => (isolator.startCpuWindow moment tenantId, .none)
  | .endCpuWindow tenantId =>
      let (isolator, elapsed) := isolator.endCpuWindow moment tenantId
      (isolator, .elapsed elapsed)

def TenantIsolator.advance (valid : String → Bool) (f64Max : Percent)
    (isolator : TenantIsolator Percent) (timed : Timed Percent) : TenantIsolator Percent :=
  (isolator.perform valid f64Max timed).1

def machine (valid : String → Bool) (f64Max : Percent) :
    Machine (TenantIsolator Percent) (Timed Percent) :=
  .ofFunction (TenantIsolator.advance valid f64Max)

end Machine

/-- Where a run begins. -/
inductive Initial [Zero Percent] (valid : String → Bool) : TenantIsolator Percent → Prop
  | new : Initial valid .new
  | fromConfig (moment : Moment) (config : Config Percent) (isolator : TenantIsolator Percent)
      (built : TenantIsolator.fromConfig moment valid config = .ok isolator) : Initial valid isolator

end Evergreen.Tenant
