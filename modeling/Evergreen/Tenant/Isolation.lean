import Evergreen.Tenant.Tenancy

namespace Evergreen.Tenant

/-! # No tenant sees another

The operations on one tenant are answered by its own configuration and usage,
whatever the isolator does for the others.
-/

open Settings (TenantConfig Config)

variable {Percent : Type} [Zero Percent] {valid : String → Bool}
variable {isolator loaded : TenantIsolator Percent} {moment : Moment}

/-! ## Where a run begins -/

/-- What `from_config` makes of an entry. -/
def Tenancy.configured (tenant : TenantConfig Percent) (now : ℚ) : Tenancy Percent :=
  ⟨some tenant, some ((TenantUsage.default now).addBucket tenant now)⟩

theorem tenancy_addTenant {tenant : TenantConfig Percent}
    (added : isolator.addTenant moment valid tenant = .ok loaded) (tenantId : String) :
    loaded.tenancy tenantId =
      if tenantId = tenant.tenantId then .configured tenant moment.now
      else isolator.tenancy tenantId := by
  rw [TenantIsolator.addTenant] at added
  split at added
  · cases added
    by_cases own : tenantId = tenant.tenantId
    · subst own
      simp [TenantIsolator.tenancy, TenantIsolator.insertUsage, Tenancy.configured]
    · simp [TenantIsolator.tenancy, TenantIsolator.insertUsage, own]
  · cases added

theorem tenancy_addTenants {tenants : List (TenantConfig Percent)}
    (added : tenants.foldlM (fun isolator tenant =>
      TenantIsolator.addTenant isolator moment valid tenant) isolator = .ok loaded) (tenantId : String) :
    loaded.tenancy tenantId = isolator.tenancy tenantId ∨
      ∃ tenant ∈ tenants, loaded.tenancy tenantId = .configured tenant moment.now := by
  apply Machine.keeps_foldlM _ added
  · intro tenant member current next accepted held
    rw [tenancy_addTenant accepted]
    split
    · exact .inr ⟨tenant, member, rfl⟩
    · exact held
  · exact .inl rfl

theorem fromConfig_ok {config : Config Percent}
    (built : TenantIsolator.fromConfig moment valid config = .ok isolator) :
    ∃ loaded, config.tenants.foldlM (fun isolator tenant =>
        TenantIsolator.addTenant isolator moment valid tenant) TenantIsolator.new = .ok loaded ∧
      isolator = { loaded with globalEnabled := !config.tenants.isEmpty } := by
  unfold TenantIsolator.fromConfig at built
  cases added : config.tenants.foldlM (fun isolator tenant =>
      TenantIsolator.addTenant isolator moment valid tenant) TenantIsolator.new with
  | error error =>
      rw [added] at built
      cases built
  | ok loaded =>
      rw [added] at built
      cases built
      exact ⟨loaded, rfl, rfl⟩

theorem tenancy_fromConfig {config : Config Percent}
    (built : TenantIsolator.fromConfig moment valid config = .ok isolator) (tenantId : String) :
    isolator.tenancy tenantId = ⟨none, none⟩ ∨
      ∃ tenant ∈ config.tenants, isolator.tenancy tenantId = .configured tenant moment.now := by
  obtain ⟨loaded, added, rfl⟩ := fromConfig_ok built
  exact tenancy_addTenants added tenantId

theorem globalEnabled_fromConfig {config : Config Percent}
    (built : TenantIsolator.fromConfig moment valid config = .ok isolator) :
    isolator.globalEnabled = !config.tenants.isEmpty := by
  obtain ⟨loaded, _, rfl⟩ := fromConfig_ok built
  rfl

theorem Initial.enabled (initial : Initial valid isolator) : isolator.Enabled := by
  intro tenantId configured
  cases initial with
  | new => cases configured
  | fromConfig moment config isolator built =>
      rcases tenancy_fromConfig built tenantId with missing | ⟨tenant, member, _⟩
      · have absent : isolator.configs tenantId = none := congrArg Tenancy.config missing
        simp [absent] at configured
      · rw [globalEnabled_fromConfig built]
        simp [List.ne_nil_of_mem member]

/-! ## Two runs -/

variable [LT Percent] [DecidableLT Percent]

/-- The operations on a tenant and their answers, in the order of the run. -/
def answersTo (valid : String → Bool) (f64Max : Percent) (tenantId : String)
    (isolator : TenantIsolator Percent) (timed : List (Timed Percent)) :
    List (Timed Percent × Answer) :=
  (transcript (TenantIsolator.perform valid f64Max) isolator timed).filter
    fun entry => entry.1.operation.tenantId = tenantId

/-- Two runs that begin with the same tenant, and perform the same operations on
it at the same times, give it the same answers. -/
theorem answersTo_isolated (valid : String → Bool) (f64Max : Percent) (tenantId : String)
    (first second : TenantIsolator Percent) (one : Initial valid first) (two : Initial valid second)
    (same : first.tenancy tenantId = second.tenancy tenantId) (timed other : List (Timed Percent))
    (agree : timed.filter (fun timed => timed.operation.tenantId = tenantId) =
      other.filter fun timed => timed.operation.tenantId = tenantId) :
    answersTo valid f64Max tenantId first timed = answersTo valid f64Max tenantId second other :=
  (tenant_component valid f64Max tenantId).noninterference one.enabled two.enabled same agree

def rated (tenantId : String) (maxRps : Nat) : TenantConfig ℚ where
  tenantId := tenantId
  maxRequestsPerSec := some maxRps

def atSecond (now : ℚ) (operation : Operation ℚ) : Timed ℚ := ⟨⟨now, "2024-01-01T00:00:00Z"⟩, operation⟩

theorem answersTo_isolated_noisy :
    answersTo (fun _ => true) (2 ^ 1024 - 2 ^ 971) "acme-corp" .new
        [atSecond 0 (.registerTenant (rated "acme-corp" 1)),
          atSecond 1 (.checkQuotaHardened "acme-corp")] =
      answersTo (fun _ => true) (2 ^ 1024 - 2 ^ 971) "acme-corp" .new
        [atSecond 0 (.checkQuotaHardened "noisy"),
          atSecond 0 (.registerTenant (rated "acme-corp" 1)),
          atSecond (1 / 2) (.registerTenant (rated "noisy" 5)),
          atSecond 1 (.checkQuotaHardened "acme-corp"), atSecond 1 (.removeTenant "noisy")] :=
  answersTo_isolated _ _ _ _ _ .new .new rfl _ _ rfl

end Evergreen.Tenant
