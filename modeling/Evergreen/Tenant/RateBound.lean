import Evergreen.Machine.Budget
import Evergreen.Tenant.Metering

namespace Evergreen.Tenant

/-! # How many requests a window can hold

A bucket is refilled at its rate and once more, to the brim, at every reset of
the period, which happens at most once in a period.
-/

open Settings (TenantConfig Config)

variable {Percent : Type}
variable {config : TenantConfig Percent} {maxRps : Nat}

/-! ## Runs of checks -/

structure Check where
  moment : Moment
  tenantId : String
deriving DecidableEq

namespace TenantIsolator

/-- The tenant has this configuration, and its bucket is made for it. -/
structure Limited (tenantId : String) (config : TenantConfig Percent) (maxRps : Nat)
    (isolator : TenantIsolator Percent) : Prop where
  enabled : isolator.Enabled
  configured : (isolator.tenancy tenantId).config = some config
  metered : ∀ usage, (isolator.tenancy tenantId).usage = some usage → usage.Metered maxRps

variable {isolator : TenantIsolator Percent} {tenantId : String} {call : Check}

/-- What the tenant's next check would find in its bucket. -/
def available (tenantId : String) (maxRps : Nat) (isolator : TenantIsolator Percent) (now : ℚ) : ℚ :=
  ((isolator.tenancy tenantId).usage.map fun usage => usage.available maxRps now).getD maxRps

theorem available_keep {after : TenantIsolator Percent} {tenancy : Tenancy Percent}
    {usage : TenantUsage Percent} {now : ℚ} (kept : after.tenancy tenantId = tenancy.keep usage) :
    available tenantId maxRps after now = usage.available maxRps now := by
  simp [available, kept, Tenancy.keep]

theorem Limited.available_cases (holds : Limited tenantId config maxRps isolator) :
    (∀ now, available tenantId maxRps isolator now = maxRps) ∨
      ∃ bucket : TokenBucket, bucket.Metered maxRps ∧
        ∀ now, available tenantId maxRps isolator now = bucket.available now := by
  cases kept : (isolator.tenancy tenantId).usage with
  | none => exact .inl fun now => by simp [available, kept]
  | some usage =>
      cases held : usage.tokenBucket with
      | none => exact .inl fun now => by simp [available, kept, TenantUsage.available, held]
      | some bucket =>
          exact .inr ⟨bucket, holds.metered usage kept bucket held,
            fun now => by simp [available, kept, TenantUsage.available, held]⟩

/-- The part of its period that the tenant has behind it. -/
def elapsedPart (tenantId : String) (resetPeriod : Nat) (isolator : TenantIsolator Percent) (now : ℚ) : ℚ :=
  ((isolator.tenancy tenantId).usage.map fun usage =>
    min (durationSince now usage.lastReset / resetPeriod) 1).getD 1

theorem elapsedPart_keep {after : TenantIsolator Percent} {tenancy : Tenancy Percent}
    {usage : TenantUsage Percent} {now : ℚ} (resetPeriod : Nat)
    (kept : after.tenancy tenantId = tenancy.keep usage) :
    elapsedPart tenantId resetPeriod after now = min (durationSince now usage.lastReset / resetPeriod) 1 := by
  simp [elapsedPart, kept, Tenancy.keep]

variable [Zero Percent]

/-- The call is a check of the tenant and finds that its period is over. -/
def resets (tenantId : String) (resetPeriod : Nat) (isolator : TenantIsolator Percent)
    (call : Check) : Bool :=
  decide (call.tenantId = tenantId) &&
    (isolator.entry call.moment tenantId).resetDue resetPeriod call.moment.now

theorem Limited.entry (holds : Limited tenantId config maxRps isolator) (moment : Moment) :
    (isolator.entry moment tenantId).Metered maxRps :=
  Tenancy.metered_entry holds.metered

theorem available_entry (moment : Moment) : available tenantId maxRps isolator moment.now =
    (isolator.entry moment tenantId).available maxRps moment.now := by
  cases kept : isolator.usage tenantId with
  | none => simp [available, tenancy, entry, kept, TenantUsage.available, TenantUsage.default]
  | some usage => simp [available, tenancy, entry, kept]

theorem le_elapsedPart (tenantId : String) (resetPeriod : Nat) (isolator : TenantIsolator Percent)
    (moment : Moment) :
    min (durationSince moment.now (isolator.entry moment tenantId).lastReset / resetPeriod) 1 ≤
      elapsedPart tenantId resetPeriod isolator moment.now := by
  cases kept : isolator.usage tenantId with
  | none =>
      simp only [elapsedPart, tenancy, kept, Option.map_none, Option.getD_none]
      exact min_le_right _ _
  | some usage => simp [elapsedPart, tenancy, entry, kept]

variable [LT Percent] [DecidableLT Percent] {f64Max : Percent}

def check (f64Max : Percent) (isolator : TenantIsolator Percent) (call : Check) :
    TenantIsolator Percent :=
  (isolator.checkQuotaHardened call.moment call.tenantId f64Max).1

/-- The call is a check of the tenant and returns `Allowed`. -/
def allows (f64Max : Percent) (tenantId : String) (isolator : TenantIsolator Percent)
    (call : Check) : Bool :=
  decide (call.tenantId = tenantId) &&
    decide ((isolator.checkQuotaHardened call.moment call.tenantId f64Max).2 = .allowed)

theorem tenancy_check_of_ne (f64Max : Percent) (enabled : isolator.Enabled) (differs : call.tenantId ≠ tenantId) :
    (isolator.check f64Max call).tenancy tenantId = isolator.tenancy tenantId :=
  (@perform_refines _ _ _ _ isolator (fun _ => true) f64Max enabled
    ⟨call.moment, .checkQuotaHardened call.tenantId⟩).1.tenancy_of_ne differs.symm

theorem Limited.check_self (holds : Limited tenantId config maxRps isolator) (f64Max : Percent)
    (own : call.tenantId = tenantId) :
    (isolator.check f64Max call).tenancy tenantId = (isolator.tenancy tenantId).keep
        ((isolator.entry call.moment tenantId).check config f64Max call.moment.now).1 ∧
      (isolator.checkQuotaHardened call.moment call.tenantId f64Max).2 =
        ((isolator.entry call.moment tenantId).check config f64Max call.moment.now).2 := by
  subst own
  have configured : isolator.configs call.tenantId = some config := holds.configured
  obtain ⟨touches, answered⟩ := @checkQuotaHardened_eq _ _ _ _ isolator call.moment call.tenantId config
    f64Max (holds.enabled call.tenantId (by simp [configured])) configured
  exact ⟨touches.tenancy_self, answered⟩

theorem Limited.check (limited : config.maxRequestsPerSec = some maxRps)
    (holds : Limited tenantId config maxRps isolator) (call : Check) :
    Limited tenantId config maxRps (isolator.check f64Max call) := by
  have enabled : (isolator.check f64Max call).Enabled :=
    @Enabled.perform _ _ _ _ isolator (fun _ => true) f64Max holds.enabled
      ⟨call.moment, .checkQuotaHardened call.tenantId⟩
  by_cases own : call.tenantId = tenantId
  · have kept := (holds.check_self f64Max own).1
    refine ⟨enabled, by rw [kept]; exact holds.configured, ?_⟩
    rw [kept]
    rintro usage ⟨⟩
    exact ((holds.entry call.moment).check limited).1
  · have same := tenancy_check_of_ne f64Max holds.enabled own
    exact ⟨enabled, by rw [same]; exact holds.configured, by rw [same]; exact holds.metered⟩

/-! ## The two budgets -/

/-- The bucket pays for what is allowed. -/
theorem tokens_budget (f64Max : Percent) (tenantId : String) (limited : config.maxRequestsPerSec = some maxRps) :
    Budget (check f64Max) (fun call => call.moment.now) (allows f64Max tenantId)
      (resets tenantId config.resetPeriodSecs) (Limited tenantId config maxRps)
      (available tenantId maxRps) maxRps maxRps maxRps where
  kept isolator call holds := holds.check limited call
  nonneg isolator now holds := by
    rcases holds.available_cases with full | ⟨bucket, metered, same⟩
    · rw [full]
      exact Nat.cast_nonneg maxRps
    · rw [same]
      exact metered.available_nonneg (Nat.cast_nonneg maxRps)
  capped isolator now holds := by
    rcases holds.available_cases with full | ⟨bucket, metered, same⟩
    · rw [full]
    · rw [same]
      exact metered.available_le
  accrues isolator earlier later holds ordered := by
    rcases holds.available_cases with full | ⟨bucket, metered, same⟩
    · rw [full, full]
      exact le_add_of_nonneg_right (mul_nonneg (Nat.cast_nonneg maxRps) (sub_nonneg.mpr ordered))
    · rw [same, same]
      exact metered.available_later (Nat.cast_nonneg maxRps) ordered
  pays isolator call holds := by
    by_cases own : call.tenantId = tenantId
    · subst own
      obtain ⟨kept, answered⟩ := holds.check_self f64Max rfl
      have paid := (@TenantUsage.Metered.check _ _ config call.moment.now maxRps _ _ f64Max
        (holds.entry call.moment) limited).2
      rw [available_keep kept, available_entry]
      simpa [allows, resets, answered] using paid
    · have same := tenancy_check_of_ne f64Max holds.enabled own
      simp [allows, resets, own, available, same]

theorem le_of_le_asSecs {period : Nat} {elapsed : ℚ} (positive : 1 ≤ period)
    (reached : period ≤ asSecs elapsed) : (period : ℚ) ≤ elapsed := by
  have whole : (period : Int) ≤ elapsed.floor := by
    unfold asSecs at reached
    omega
  exact_mod_cast Rat.le_floor_iff.mp whole

/-- A reset needs a whole period since the one before. -/
theorem resets_budget (f64Max : Percent) (tenantId : String)
    (limited : config.maxRequestsPerSec = some maxRps) (positive : 1 ≤ config.resetPeriodSecs) :
    Budget (check f64Max) (fun call => call.moment.now) (resets tenantId config.resetPeriodSecs)
      (fun _ _ => false) (Limited tenantId config maxRps)
      (elapsedPart tenantId config.resetPeriodSecs) 1 (1 / config.resetPeriodSecs) 0 where
  kept isolator call holds := holds.check limited call
  nonneg isolator now holds := by
    unfold elapsedPart
    cases (isolator.tenancy tenantId).usage with
    | none => exact zero_le_one
    | some usage =>
        exact le_min (div_nonneg TokenBucket.durationSince_nonneg (Nat.cast_nonneg _)) zero_le_one
  capped isolator now holds := by
    unfold elapsedPart
    cases (isolator.tenancy tenantId).usage with
    | none => exact le_refl 1
    | some usage => exact min_le_right _ _
  accrues isolator earlier later holds ordered := by
    have period : (0 : ℚ) ≤ 1 / config.resetPeriodSecs := div_nonneg zero_le_one (Nat.cast_nonneg _)
    have accrued := mul_nonneg period (sub_nonneg.mpr ordered)
    unfold elapsedPart
    cases (isolator.tenancy tenantId).usage with
    | none => exact le_add_of_nonneg_right accrued
    | some usage =>
        have grown := mul_le_mul_of_nonneg_left
          (TokenBucket.durationSince_le usage.lastReset ordered) period
        simp only [Option.map_some, Option.getD_some, div_eq_mul_one_div (durationSince _ _)]
        rw [← min_add_add_right]
        exact min_le_min (by linarith) (by linarith)
  pays isolator call holds := by
    by_cases own : call.tenantId = tenantId
    · subst own
      have kept := (holds.check_self f64Max rfl).1
      have reset := @TenantUsage.lastReset_check _ _ config call.moment.now maxRps _ _ f64Max
        (holds.entry call.moment) limited
      have before := le_elapsedPart call.tenantId config.resetPeriodSecs isolator call.moment
      rw [elapsedPart_keep config.resetPeriodSecs kept, reset]
      by_cases due : (isolator.entry call.moment call.tenantId).resetDue config.resetPeriodSecs
          call.moment.now = true
      · have period := le_of_le_asSecs positive (of_decide_eq_true due)
        have complete := (one_le_div₀ (by exact_mod_cast positive)).mpr period
        rw [min_eq_right complete] at before
        simpa [resets, due, durationSince] using before
      · simpa [resets, due] using before
    · have same := tenancy_check_of_ne f64Max holds.enabled own
      simp [resets, own, elapsedPart, same]

end TenantIsolator

variable [Zero Percent] [LT Percent] [DecidableLT Percent]

theorem limited_of_reached {valid : String → Bool} {f64Max : Percent}
    {start isolator : TenantIsolator Percent} {timed : List (Timed Percent)} {tenantId : String}
    (initial : Initial valid start) (reached : (machine valid f64Max).run start timed = some isolator)
    (configured : isolator.configs tenantId = some config)
    (limited : config.maxRequestsPerSec = some maxRps) :
    TenantIsolator.Limited tenantId config maxRps isolator := by
  have always : (machine valid f64Max).Always
      (fun isolator => isolator.Enabled ∧ (isolator.tenancy tenantId).Provisioned) start timed := by
    apply Machine.always_ofFunction _ ?_ ⟨initial.enabled, initial.provisioned tenantId⟩
    rintro isolator timed ⟨enabled, provisioned⟩
    have touches := (@TenantIsolator.perform_refines _ _ _ _ isolator valid f64Max enabled timed).1
    refine ⟨enabled.perform timed, ?_⟩
    by_cases own : tenantId = timed.operation.tenantId
    · subst own
      rw [TenantIsolator.advance, touches.tenancy_self]
      exact provisioned.perform timed
    · rw [TenantIsolator.advance, touches.tenancy_of_ne own]
      exact provisioned
  obtain ⟨enabled, provisioned⟩ := always.last reached
  exact ⟨enabled, configured, provisioned config maxRps configured limited⟩

/-- In every window a tenant is allowed no more requests than its bucket holds
at the start, what flows in, and a bucketful for every reset of its period; a
period of a second or more is reset at most once in its length. -/
theorem allowed_le (valid : String → Bool) (f64Max : Percent) (start isolator : TenantIsolator Percent)
    (timed : List (Timed Percent)) (initial : Initial valid start)
    (reached : (machine valid f64Max).run start timed = some isolator) (tenantId : String)
    (config : TenantConfig Percent) (maxRps : Nat) (configured : isolator.configs tenantId = some config)
    (limited : config.maxRequestsPerSec = some maxRps) (calls : List Check)
    (ordered : calls.Pairwise fun first second => first.moment.now ≤ second.moment.now)
    (begins ends : ℚ) (window : begins ≤ ends) :
    let allowed := count (TenantIsolator.check f64Max)
      (during (fun call => call.moment.now) begins ends (TenantIsolator.allows f64Max tenantId))
      isolator calls
    let resets := count (TenantIsolator.check f64Max)
      (during (fun call => call.moment.now) begins ends
        (TenantIsolator.resets tenantId config.resetPeriodSecs)) isolator calls
    (allowed : ℚ) ≤ maxRps + maxRps * (ends - begins) + maxRps * resets ∧
      (1 ≤ config.resetPeriodSecs → (resets : ℚ) ≤ 1 + (ends - begins) / config.resetPeriodSecs) := by
  have holds := limited_of_reached initial reached configured limited
  refine ⟨(TenantIsolator.tokens_budget f64Max tenantId limited).count_le holds ordered window,
    fun positive => ?_⟩
  have bound := (TenantIsolator.resets_budget f64Max tenantId limited positive).count_le holds ordered
    window
  rw [zero_mul, add_zero, div_mul_eq_mul_div, one_mul] at bound
  exact bound

/-! ## Two bucketfuls -/

/-- A tenant with one request a second, registered at 0. -/
def registered : TenantIsolator ℚ :=
  TenantIsolator.advance (fun _ => true) (2 ^ 1024 - 2 ^ 971) .new
    (atSecond 0 (.registerTenant (rated "acme-corp" 1)))

/-- One check right before the end of the first period and one at its end. -/
def burst : List Check := [⟨⟨9 / 10, ""⟩, "acme-corp"⟩, ⟨⟨1, ""⟩, "acme-corp"⟩]

theorem burst_ordered : burst.Pairwise fun first second => first.moment.now ≤ second.moment.now := by
  decide +kernel

theorem allowed_burst : count (TenantIsolator.check (2 ^ 1024 - 2 ^ 971))
    (during (fun call => call.moment.now) (9 / 10) 1
      (TenantIsolator.allows (2 ^ 1024 - 2 ^ 971) "acme-corp")) registered burst = 2 := by
  decide +kernel

theorem allowed_le_burst :
    (count (TenantIsolator.check (2 ^ 1024 - 2 ^ 971))
      (during (fun call => call.moment.now) (9 / 10) 1
        (TenantIsolator.allows (2 ^ 1024 - 2 ^ 971) "acme-corp")) registered burst : ℚ) ≤
      (1 : Nat) + (1 : Nat) * (1 - 9 / 10) +
        (1 : Nat) * count (TenantIsolator.check (2 ^ 1024 - 2 ^ 971))
          (during (fun call => call.moment.now) (9 / 10) 1
            (TenantIsolator.resets "acme-corp" 1)) registered burst :=
  (allowed_le (fun _ => true) (2 ^ 1024 - 2 ^ 971) .new registered
    [atSecond 0 (.registerTenant (rated "acme-corp" 1))] .new rfl "acme-corp" (rated "acme-corp" 1) 1
    rfl rfl burst burst_ordered (9 / 10) 1 (by norm_num)).1

/-- A token before the reset and one after it, within a tenth of a second. -/
theorem not_allowed_le_without_resets :
    ¬ ∀ (calls : List Check) (begins ends : ℚ),
      (calls.Pairwise fun first second => first.moment.now ≤ second.moment.now) → begins ≤ ends →
      (count (TenantIsolator.check (2 ^ 1024 - 2 ^ 971))
        (during (fun call => call.moment.now) begins ends
          (TenantIsolator.allows (2 ^ 1024 - 2 ^ 971) "acme-corp")) registered calls : ℚ) ≤
        1 + 1 * (ends - begins) := by
  intro bound
  have two := bound burst (9 / 10) 1 burst_ordered (by norm_num)
  rw [allowed_burst] at two
  norm_num at two

end Evergreen.Tenant
