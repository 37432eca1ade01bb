import Evergreen.Machine.Component
import Evergreen.Tenant.Isolator

namespace Evergreen.Tenant

/-! # One tenant

What the isolator keeps of a tenant, and the operations as they would be if it
were the only one.  The isolator refines this machine for each of its tenants:
the flag that all of them share is set as soon as one is configured.
-/

open Settings (TenantConfig Config)

structure Tenancy (Percent : Type) where
  config : Option (TenantConfig Percent)
  usage : Option (TenantUsage Percent)

variable {Percent : Type}

def Tenancy.keep (tenancy : Tenancy Percent) (usage : TenantUsage Percent) : Tenancy Percent :=
  { tenancy with usage := some usage }

namespace TenantIsolator

def tenancy (isolator : TenantIsolator Percent) (tenantId : String) : Tenancy Percent :=
  ⟨isolator.configs tenantId, isolator.usage tenantId⟩

/-- Without the flag there is no tenant. -/
def Enabled (isolator : TenantIsolator Percent) : Prop :=
  ∀ tenantId, (isolator.configs tenantId).isSome → isolator.globalEnabled = true

/-- Nothing is different but what is kept of one tenant. -/
structure Touches (before after : TenantIsolator Percent) (tenantId : String)
    (tenancy : Tenancy Percent) : Prop where
  configs : after.configs = Function.update before.configs tenantId tenancy.config
  usage : after.usage = Function.update before.usage tenantId tenancy.usage
  enabled : before.globalEnabled = true → after.globalEnabled = true

variable {isolator after : TenantIsolator Percent} {moment : Moment} {tenantId other : String}
variable {usage : TenantUsage Percent} {tenancy : Tenancy Percent} {config : TenantConfig Percent}

theorem Touches.tenancy_self (touches : Touches isolator after tenantId tenancy) :
    after.tenancy tenantId = tenancy := by
  simp [TenantIsolator.tenancy, touches.configs, touches.usage]

theorem Touches.tenancy_of_ne (touches : Touches isolator after tenantId tenancy)
    (differs : other ≠ tenantId) : after.tenancy other = isolator.tenancy other := by
  simp [TenantIsolator.tenancy, touches.configs, touches.usage, differs]

theorem touches_nothing : Touches isolator isolator tenantId (isolator.tenancy tenantId) :=
  ⟨(Function.update_eq_self ..).symm, (Function.update_eq_self ..).symm, id⟩

theorem touches_insertUsage : Touches isolator (isolator.insertUsage tenantId usage) tenantId
    ((isolator.tenancy tenantId).keep usage) :=
  ⟨(Function.update_eq_self ..).symm, rfl, id⟩

theorem Touches.recordAuditEntry (touches : Touches isolator after tenantId tenancy)
    (action : String) (allowed : Bool) :
    Touches isolator (after.recordAuditEntry moment other action allowed) tenantId tenancy :=
  ⟨touches.configs, touches.usage, touches.enabled⟩

theorem Touches.insertUsage (touches : Touches isolator after tenantId tenancy) :
    Touches isolator (after.insertUsage tenantId usage) tenantId (tenancy.keep usage) :=
  ⟨touches.configs, by rw [usage_insertUsage, touches.usage, Function.update_idem]; rfl,
    touches.enabled⟩

theorem touches_removeTenant :
    Touches isolator (isolator.removeTenant moment tenantId).1 tenantId ⟨none, none⟩ := by
  unfold TenantIsolator.removeTenant
  dsimp only
  split <;> exact ⟨rfl, rfl, id⟩

end TenantIsolator

/-! ## The machine of a tenant -/

namespace TenantUsage

/-- The usage with the bucket that a check makes sure of. -/
def ensureBucket (usage : TenantUsage Percent) (config : TenantConfig Percent) (now : ℚ) :
    TenantUsage Percent :=
  if usage.tokenBucket.isNone then usage.addBucket config now else usage

/-- The usage that a check holds against the budgets. -/
def refreshed (usage : TenantUsage Percent) (config : TenantConfig Percent) (now : ℚ) :
    TenantUsage Percent :=
  (usage.ensureBucket config now).resetIfDue config.resetPeriodSecs now

theorem refreshed_eq (usage : TenantUsage Percent) (config : TenantConfig Percent) (now : ℚ) :
    (if usage.tokenBucket.isNone then usage.addBucket config now else usage).resetIfDue
      config.resetPeriodSecs now = usage.refreshed config now := rfl

/-- The token of a usage that is within its budgets. -/
def settle (now : ℚ) (usage : TenantUsage Percent) (result : TenantQuotaResult)
    (needsTokenConsume : Bool) : TenantUsage Percent × TenantQuotaResult :=
  if needsTokenConsume then
    match usage.tokenBucket with
    | some bucket =>
        let (bucket, consumed) := bucket.tryConsume now
        let usage := { usage with tokenBucket := some bucket }
        if consumed then (usage, result) else (usage.reject, .rateLimited)
    | none => (usage, result)
  else (usage, result)

end TenantUsage

variable [Zero Percent]

def Tenancy.entry (tenancy : Tenancy Percent) (now : ℚ) : TenantUsage Percent :=
  tenancy.usage.getD (.default now)

theorem TenantIsolator.entry_insertUsage (isolator : TenantIsolator Percent) (moment : Moment)
    (tenantId : String) (usage : TenantUsage Percent) :
    (isolator.insertUsage tenantId usage).entry moment tenantId = usage := by
  simp [TenantIsolator.entry]

section Percentages

variable [LT Percent] [DecidableLT Percent]

/-- The check of a configured tenant. -/
def TenantUsage.check (usage : TenantUsage Percent) (config : TenantConfig Percent)
    (f64Max : Percent) (now : ℚ) : TenantUsage Percent × TenantQuotaResult :=
  let (usage, result, needsTokenConsume) := checkBudgets f64Max (usage.refreshed config now) config
  usage.settle now result needsTokenConsume

def Tenancy.perform (valid : String → Bool) (f64Max : Percent) (tenancy : Tenancy Percent)
    (timed : Timed Percent) : Tenancy Percent × Answer :=
  let now := timed.moment.now
  let usage := tenancy.entry now
  match timed.operation with
  | .registerTenant config =>
      if valid config.tenantId then
        (⟨some config, match config.maxRequestsPerSec with
            | some _ => some (usage.addBucket config now)
            | none => tenancy.usage⟩, .registered (.ok ()))
      else (tenancy, .registered (.error ⟨config.tenantId⟩))
  | .removeTenant _ => (⟨none, none⟩, .removed tenancy.config.isSome)
  | .recordMemory _ bytes => (tenancy.keep { usage with memoryBytes := bytes }, .none)
  | .recordCpu _ percent => (tenancy.keep { usage with cpuPercent := percent }, .none)
  | .recordRequest _ =>
      (tenancy.keep { usage with requestsCount := (usage.requestsCount + 1) % 2 ^ 64 }, .none)
  | .checkAndReset _ =>
      let resetPeriod := (tenancy.config.map (·.resetPeriodSecs)).getD 1
      ({ tenancy with usage := tenancy.usage.map fun usage => usage.resetIfDue resetPeriod now }, .none)
  | .checkQuotaHardened _ =>
      match tenancy.config with
      | none => (tenancy, .checked .allowed)
      | some config =>
          let (usage, result) := usage.check config f64Max now
          (tenancy.keep usage, .checked result)
  | .startCpuWindow _ => (tenancy.keep { usage with cpuTime := usage.cpuTime.startWindow now }, .none)
  | .endCpuWindow _ =>
      let (cpuTime, elapsed) := usage.cpuTime.endWindow now
      (tenancy.keep { usage with cpuTime }, .elapsed elapsed)

/-! ## The isolator refines it -/

namespace TenantIsolator

variable {isolator : TenantIsolator Percent} {moment : Moment} {tenantId other : String}
variable {config : TenantConfig Percent} {valid : String → Bool} {f64Max : Percent}

theorem touches_registerTenant :
    Touches isolator (isolator.registerTenant moment valid config).1 config.tenantId
      ((isolator.tenancy config.tenantId).perform valid f64Max ⟨moment, .registerTenant config⟩).1 := by
  by_cases accepted : valid config.tenantId = true
  · simp only [TenantIsolator.registerTenant, Tenancy.perform, accepted, if_true]
    refine Touches.recordAuditEntry ?_ _ _
    cases config.maxRequestsPerSec with
    | none => exact ⟨rfl, (Function.update_eq_self ..).symm, fun _ => rfl⟩
    | some maxRps => exact ⟨rfl, rfl, fun _ => rfl⟩
  · simp only [TenantIsolator.registerTenant, Tenancy.perform, accepted]
    exact touches_nothing

theorem touches_checkAndReset :
    Touches isolator (isolator.checkAndReset moment tenantId) tenantId
      ((isolator.tenancy tenantId).perform valid f64Max ⟨moment, .checkAndReset tenantId⟩).1 := by
  cases held : isolator.usage tenantId with
  | none =>
      simp only [TenantIsolator.checkAndReset, Tenancy.perform, tenancy, held]
      exact ⟨(Function.update_eq_self ..).symm, by simp [held], id⟩
  | some usage =>
      simp only [TenantIsolator.checkAndReset, Tenancy.perform, tenancy, held]
      exact ⟨(Function.update_eq_self ..).symm, rfl, id⟩

/-- What the isolator does to a configured tenant is the tenant's own check. -/
theorem checkQuotaHardened_eq (enabled : isolator.globalEnabled = true)
    (configured : isolator.configs tenantId = some config) :
    Touches isolator (isolator.checkQuotaHardened moment tenantId f64Max).1 tenantId
        ((isolator.tenancy tenantId).keep
          ((isolator.entry moment tenantId).check config f64Max moment.now).1) ∧
      (isolator.checkQuotaHardened moment tenantId f64Max).2 =
        ((isolator.entry moment tenantId).check config f64Max moment.now).2 := by
  unfold TenantUsage.check
  simp only [TenantIsolator.checkQuotaHardened, enabled, if_true, configured, entry_insertUsage,
    usage_insertUsage, Function.update_self, TenantUsage.refreshed_eq]
  generalize checkBudgets f64Max _ config = checked
  obtain ⟨usage, result, needsTokenConsume⟩ := checked
  cases needsTokenConsume with
  | false =>
      simp only [TenantUsage.settle, Bool.false_eq_true, if_false]
      exact ⟨touches_insertUsage.insertUsage.recordAuditEntry _ _, rfl⟩
  | true =>
      simp only [TenantUsage.settle, if_true]
      cases held : usage.tokenBucket with
      | none => exact ⟨touches_insertUsage.insertUsage.recordAuditEntry _ _, rfl⟩
      | some bucket =>
          dsimp only
          by_cases consumed : (bucket.tryConsume moment.now).2 = true
          · simp only [consumed, if_true]
            exact ⟨touches_insertUsage.insertUsage.insertUsage.recordAuditEntry _ _, rfl⟩
          · simp only [consumed]
            exact ⟨touches_insertUsage.insertUsage.insertUsage.recordAuditEntry _ _, rfl⟩

theorem checkQuotaHardened_unconfigured (missing : isolator.configs tenantId = none) :
    isolator.checkQuotaHardened moment tenantId f64Max = (isolator, .allowed) := by
  simp [TenantIsolator.checkQuotaHardened, missing]

/-- The isolator does to its tenant what the tenant's own machine does, gives
the same answer, and leaves every other tenant alone. -/
theorem perform_refines (enabled : isolator.Enabled) (timed : Timed Percent) :
    Touches isolator (isolator.perform valid f64Max timed).1 timed.operation.tenantId
        ((isolator.tenancy timed.operation.tenantId).perform valid f64Max timed).1 ∧
      (isolator.perform valid f64Max timed).2 =
        ((isolator.tenancy timed.operation.tenantId).perform valid f64Max timed).2 := by
  obtain ⟨moment, operation⟩ := timed
  cases operation with
  | registerTenant config =>
      refine ⟨touches_registerTenant, ?_⟩
      simp only [TenantIsolator.perform, TenantIsolator.registerTenant, Tenancy.perform,
        Operation.tenantId]
      split <;> rfl
  | removeTenant tenantId => exact ⟨touches_removeTenant, rfl⟩
  | recordMemory tenantId bytes => exact ⟨touches_insertUsage, rfl⟩
  | recordCpu tenantId percent => exact ⟨touches_insertUsage, rfl⟩
  | recordRequest tenantId => exact ⟨touches_insertUsage, rfl⟩
  | checkAndReset tenantId => exact ⟨touches_checkAndReset, rfl⟩
  | checkQuotaHardened tenantId =>
      cases configured : isolator.configs tenantId with
      | none =>
          simp only [TenantIsolator.perform, Tenancy.perform, Operation.tenantId, tenancy, configured,
            checkQuotaHardened_unconfigured configured]
          exact ⟨configured ▸ touches_nothing, trivial⟩
      | some config =>
          obtain ⟨touches, answered⟩ := @checkQuotaHardened_eq _ _ _ _ isolator moment tenantId config
            f64Max (enabled tenantId (by simp [configured])) configured
          simp only [TenantIsolator.perform, Tenancy.perform, Operation.tenantId, answered]
          simp only [tenancy, configured] at touches ⊢
          exact ⟨touches, rfl⟩
  | startCpuWindow tenantId => exact ⟨touches_insertUsage, rfl⟩
  | endCpuWindow tenantId => exact ⟨touches_insertUsage, rfl⟩

/-- A tenant is configured by its registration only. -/
theorem configured_perform {tenancy : Tenancy Percent} {timed : Timed Percent}
    (configured : (tenancy.perform valid f64Max timed).1.config.isSome) :
    tenancy.config.isSome ∨ ∃ config, timed.operation = .registerTenant config ∧
      valid config.tenantId = true := by
  obtain ⟨moment, operation⟩ := timed
  cases operation with
  | registerTenant config =>
      by_cases accepted : valid config.tenantId = true
      · exact .inr ⟨config, rfl, accepted⟩
      · simp only [Tenancy.perform, accepted] at configured
        exact .inl configured
  | removeTenant tenantId => cases configured
  | checkQuotaHardened tenantId =>
      left
      by_contra missing
      rw [Option.not_isSome_iff_eq_none] at missing
      simp [Tenancy.perform, missing] at configured
  | _ => exact .inl configured

theorem Enabled.perform (enabled : isolator.Enabled) (timed : Timed Percent) :
    (isolator.perform valid f64Max timed).1.Enabled := by
  intro tenantId configured
  have touches := (@perform_refines _ _ _ _ isolator valid f64Max enabled timed).1
  by_cases same : tenantId = timed.operation.tenantId
  · subst same
    rw [touches.configs, Function.update_self] at configured
    rcases configured_perform configured with before | ⟨config, registers, accepted⟩
    · exact touches.enabled (enabled _ before)
    · obtain ⟨moment, operation⟩ := timed
      cases registers
      simp only [TenantIsolator.perform, TenantIsolator.registerTenant, accepted, if_true]
      cases config.maxRequestsPerSec <;> rfl
  · rw [touches.configs, Function.update_of_ne same] at configured
    exact touches.enabled (enabled tenantId configured)

end TenantIsolator

/-- Every tenant of an isolator is a component of it. -/
theorem tenant_component (valid : String → Bool) (f64Max : Percent) (tenantId : String) :
    Component (TenantIsolator.perform valid f64Max)
      (fun timed => timed.operation.tenantId = tenantId)
      (fun isolator => isolator.tenancy tenantId) (Tenancy.perform valid f64Max)
      TenantIsolator.Enabled where
  kept isolator timed enabled := enabled.perform timed
  ignored isolator timed enabled elsewhere := by
    have differs : tenantId ≠ timed.operation.tenantId := fun same => by simp [same] at elsewhere
    exact (TenantIsolator.perform_refines enabled timed).1.tenancy_of_ne differs
  decided isolator timed enabled concerned := by
    obtain rfl : timed.operation.tenantId = tenantId := of_decide_eq_true concerned
    obtain ⟨touches, answered⟩ := @TenantIsolator.perform_refines _ _ _ _ isolator valid f64Max enabled timed
    rw [answered, touches.tenancy_self]

end Percentages

end Evergreen.Tenant
