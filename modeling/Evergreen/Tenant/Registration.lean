import Evergreen.Tenant.Metering

namespace Evergreen.Tenant

/-! # Registering a tenant again

A limit puts a new bucket in the tenant's usage.  A configuration without one
leaves the usage as it is, and what the check goes by is the bucket.
-/

open Settings (TenantConfig Config)

variable {Percent : Type}

def Tenancy.Unlimited (tenancy : Tenancy Percent) : Prop :=
  ∀ config, tenancy.config = some config → config.maxRequestsPerSec = none →
    ∀ usage, tenancy.usage = some usage → usage.tokenBucket = none

/-- A tenant that is registered without a limit has no bucket then. -/
def TenantIsolator.LeavesNoBucket (valid : String → Bool) (isolator : TenantIsolator Percent)
    (timed : Timed Percent) : Prop :=
  ∀ config, timed.operation = .registerTenant config → valid config.tenantId = true →
    config.maxRequestsPerSec = none →
    ∀ usage, isolator.usage config.tenantId = some usage → usage.tokenBucket = none

/-- The bucket of every tenant is the one of its current limit, and a tenant
without a limit is never answered that it is over it. -/
def TenantIsolator.ByCurrentConfig [Zero Percent] [LT Percent] [DecidableLT Percent]
    (f64Max : Percent) (isolator : TenantIsolator Percent) : Prop :=
  ∀ tenantId, (isolator.tenancy tenantId).Provisioned ∧ (isolator.tenancy tenantId).Unlimited ∧
    ∀ config, isolator.configs tenantId = some config → config.maxRequestsPerSec = none →
      ∀ moment, (isolator.checkQuotaHardened moment tenantId f64Max).2 ≠ .rateLimited

/-! ## A check without a limit -/

namespace TenantUsage

variable {usage : TenantUsage Percent} {config : TenantConfig Percent} {now : ℚ}

theorem refreshed_unlimited (bare : usage.tokenBucket = none)
    (unlimited : config.maxRequestsPerSec = none) :
    (usage.refreshed config now).tokenBucket = none := by
  have ensured : usage.ensureBucket config now = usage := by
    simp [TenantUsage.ensureBucket, addBucket, bare, unlimited]
  rw [refreshed, ensured, resetIfDue]
  split
  · simp [bare]
  · exact bare

variable [LT Percent] [DecidableLT Percent] {f64Max : Percent}

/-- Without a limit and without a bucket, memory and processor time decide. -/
theorem checkBudgets_unlimited (bare : usage.tokenBucket = none)
    (unlimited : config.maxRequestsPerSec = none) :
    checkBudgets f64Max usage config = (usage, .allowed, false) ∨
      ∃ result, (result = .memoryExceeded ∨ result = .cpuExceeded) ∧
        checkBudgets f64Max usage config = (usage.reject, result, false) := by
  have cpu : checkCpuAndRate f64Max usage config = (usage, .allowed, false) ∨
      ∃ result, (result = .memoryExceeded ∨ result = .cpuExceeded) ∧
        checkCpuAndRate f64Max usage config = (usage.reject, result, false) := by
    unfold checkCpuAndRate
    split
    · exact .inr ⟨.cpuExceeded, .inr rfl, rfl⟩
    · exact .inl (by simp [classifyRate, bare, unlimited])
  unfold checkBudgets
  split
  · split
    · exact .inr ⟨.memoryExceeded, .inl rfl, rfl⟩
    · exact cpu
  · exact cpu

theorem check_unlimited (bare : usage.tokenBucket = none)
    (unlimited : config.maxRequestsPerSec = none) :
    (usage.check config f64Max now).1.tokenBucket = none ∧
      (usage.check config f64Max now).2 ≠ .rateLimited := by
  have refreshed : (usage.refreshed config now).tokenBucket = none :=
    refreshed_unlimited bare unlimited
  have budgets : checkBudgets f64Max (usage.refreshed config now) config = _ ∨ _ :=
    checkBudgets_unlimited refreshed unlimited
  rcases budgets with passed | ⟨result, exceeded, rejected⟩
  · rw [TenantUsage.check, passed]
    exact ⟨refreshed, by simp [settle]⟩
  · rw [TenantUsage.check, rejected]
    rcases exceeded with rfl | rfl
    · exact ⟨refreshed, by simp [settle]⟩
    · exact ⟨refreshed, by simp [settle]⟩

end TenantUsage

/-! ## Registrations and everything else -/

variable [Zero Percent]

variable {tenancy : Tenancy Percent} {isolator : TenantIsolator Percent} {valid : String → Bool}
variable {now : ℚ} {timed : Timed Percent} {operations : List (Timed Percent)}

theorem Tenancy.Unlimited.keep (unlimited : tenancy.Unlimited) {usage : TenantUsage Percent}
    (bucket : usage.tokenBucket = (tenancy.entry now).tokenBucket) :
    (tenancy.keep usage).Unlimited := by
  intro config configured without kept same
  cases same
  rw [bucket, Tenancy.entry]
  cases held : tenancy.usage with
  | none => rfl
  | some usage => exact unlimited config configured without usage held

theorem Initial.unlimited (initial : Initial valid isolator) (tenantId : String) :
    (isolator.tenancy tenantId).Unlimited := by
  cases initial with
  | new => exact fun config configured => nomatch configured
  | fromConfig moment config isolator built =>
      rcases tenancy_fromConfig built tenantId with missing | ⟨tenant, _, configured⟩
      · rw [missing]
        exact fun config configured => nomatch configured
      · rw [configured]
        intro config same without usage kept
        cases same
        cases kept
        simp [TenantUsage.addBucket, without, TenantUsage.default]

variable [LT Percent] [DecidableLT Percent] {f64Max : Percent}

theorem Tenancy.Unlimited.perform (unlimited : tenancy.Unlimited)
    (clean : ∀ config, timed.operation = .registerTenant config → valid config.tenantId = true →
      config.maxRequestsPerSec = none →
      ∀ usage, tenancy.usage = some usage → usage.tokenBucket = none) :
    (tenancy.perform valid f64Max timed).1.Unlimited := by
  obtain ⟨moment, operation⟩ := timed
  cases operation with
  | registerTenant config =>
      by_cases accepted : valid config.tenantId = true
      · simp only [Tenancy.perform, accepted, if_true]
        intro same configured without usage kept
        cases configured
        simp only [without] at kept
        exact clean config rfl accepted without usage kept
      · simp only [Tenancy.perform, accepted]
        exact unlimited
  | removeTenant tenantId =>
      intro config configured
      cases configured
  | recordMemory tenantId bytes => exact unlimited.keep rfl
  | recordCpu tenantId percent => exact unlimited.keep rfl
  | recordRequest tenantId => exact unlimited.keep rfl
  | checkAndReset tenantId =>
      intro config configured without usage kept
      obtain ⟨before, held, rfl⟩ := Option.map_eq_some_iff.mp kept
      have bare := unlimited config configured without before held
      unfold TenantUsage.resetIfDue
      split
      · simp [bare]
      · exact bare
  | checkQuotaHardened tenantId =>
      cases configured : tenancy.config with
      | none =>
          simp only [Tenancy.perform, configured]
          exact unlimited
      | some config =>
          simp only [Tenancy.perform, configured]
          intro same still without usage kept
          cases kept
          obtain rfl : config = same := Option.some.inj (configured.symm.trans still)
          have bare : (tenancy.entry moment.now).tokenBucket = none := by
            have kept : (tenancy.keep (tenancy.entry moment.now)).Unlimited := unlimited.keep rfl
            exact kept config still without _ rfl
          exact (TenantUsage.check_unlimited bare without).1
  | startCpuWindow tenantId => exact unlimited.keep rfl
  | endCpuWindow tenantId => exact unlimited.keep rfl

/-- Every tenant has the bucket of its limit, if it has one. -/
structure TenantIsolator.Current (isolator : TenantIsolator Percent) : Prop where
  enabled : isolator.Enabled
  provisioned : ∀ tenantId, (isolator.tenancy tenantId).Provisioned
  unlimited : ∀ tenantId, (isolator.tenancy tenantId).Unlimited

theorem TenantIsolator.Current.advance (current : isolator.Current)
    (clean : isolator.LeavesNoBucket valid timed) :
    (isolator.advance valid f64Max timed).Current := by
  have touches := (@TenantIsolator.perform_refines _ _ _ _ isolator valid f64Max current.enabled timed).1
  constructor
  · exact current.enabled.perform timed
  · intro tenantId
    by_cases own : tenantId = timed.operation.tenantId
    · subst own
      rw [TenantIsolator.advance, touches.tenancy_self]
      exact (current.provisioned _).perform timed
    · rw [TenantIsolator.advance, touches.tenancy_of_ne own]
      exact current.provisioned tenantId
  · intro tenantId
    by_cases own : tenantId = timed.operation.tenantId
    · subst own
      rw [TenantIsolator.advance, touches.tenancy_self]
      apply (current.unlimited _).perform
      intro config registers accepted without usage held
      rw [registers] at held
      exact clean config registers accepted without usage held
    · rw [TenantIsolator.advance, touches.tenancy_of_ne own]
      exact current.unlimited tenantId

theorem TenantIsolator.Current.byCurrentConfig (current : isolator.Current) :
    isolator.ByCurrentConfig f64Max := by
  intro tenantId
  refine ⟨current.provisioned tenantId, current.unlimited tenantId, ?_⟩
  intro config configured without moment
  have enabled := current.enabled tenantId (by simp [configured])
  rw [(checkQuotaHardened_eq enabled configured).2]
  have bare : (isolator.entry moment tenantId).tokenBucket = none := by
    unfold TenantIsolator.entry
    cases held : isolator.usage tenantId with
    | none => rfl
    | some usage => exact current.unlimited tenantId config configured without usage held
  exact (TenantUsage.check_unlimited bare without).2

/-- Whatever was registered, removed, recorded and checked, a tenant is held to
its current configuration in every state exactly when no registration without a
limit finds a bucket in the tenant's usage. -/
theorem always_byCurrentConfig_iff (initial : Initial valid isolator) :
    (machine valid f64Max).Always (TenantIsolator.ByCurrentConfig f64Max) isolator operations ↔
      (machine valid f64Max).Along (TenantIsolator.LeavesNoBucket valid) isolator operations := by
  apply Machine.always_ofFunction_iff_along TenantIsolator.Current
  · exact fun isolator current => current.byCurrentConfig
  · exact fun isolator timed current clean => current.advance clean
  · intro isolator timed current stale fits
    simp only [TenantIsolator.LeavesNoBucket, not_forall] at stale
    obtain ⟨config, registers, accepted, without, usage, held, bucket⟩ := stale
    have touches := (@TenantIsolator.perform_refines _ _ _ _ isolator valid f64Max current.enabled
      timed).1
    have unlimited := (fits timed.operation.tenantId).2.1
    rw [TenantIsolator.advance, touches.tenancy_self] at unlimited
    obtain ⟨moment, operation⟩ := timed
    cases registers
    apply bucket
    apply unlimited config _ without usage
    · simp only [Tenancy.perform, Operation.tenantId, accepted, without, if_true]
      exact held
    · simp [Tenancy.perform, accepted]
  · exact ⟨initial.enabled, initial.provisioned, initial.unlimited⟩

def unrated (tenantId : String) : TenantConfig ℚ where
  tenantId := tenantId

theorem always_byCurrentConfig_removed :
    (machine (fun _ => true) (2 ^ 1024 - 2 ^ 971)).Always
      (TenantIsolator.ByCurrentConfig (2 ^ 1024 - 2 ^ 971)) .new
      [atSecond 0 (.registerTenant (rated "acme-corp" 1)), atSecond 1 (.removeTenant "acme-corp"),
        atSecond 2 (.registerTenant (unrated "acme-corp"))] := by
  apply (always_byCurrentConfig_iff .new).mpr
  refine .cons rfl ?_ (.cons rfl ?_ (.cons rfl ?_ trivial))
  · intro config registers _ without
    cases registers
    cases without
  · intro config registers
    cases registers
  · intro config registers _ _ usage held
    cases registers
    cases held

/-- The bucket of the first registration is still there, and with it the limit. -/
theorem not_always_byCurrentConfig :
    ¬(machine (fun _ => true) (2 ^ 1024 - 2 ^ 971)).Always
      (TenantIsolator.ByCurrentConfig (2 ^ 1024 - 2 ^ 971)) .new
      [atSecond 0 (.registerTenant (rated "acme-corp" 1)),
        atSecond 0 (.registerTenant (unrated "acme-corp")),
        atSecond 0 (.checkQuotaHardened "acme-corp")] := by
  intro always
  have current := always.last rfl "acme-corp"
  apply current.2.2 (unrated "acme-corp") (by decide +kernel) rfl ⟨0, ""⟩
  decide +kernel

end Evergreen.Tenant
