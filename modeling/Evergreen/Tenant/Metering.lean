import Evergreen.Tenant.Isolation
import Mathlib.Tactic.Linarith

namespace Evergreen.Tenant

/-! # Metered tenants

What a bucket holds at an instant, never more than its capacity, pays for the
requests that a check allows; only a reset of the period adds to it.  The bucket
of a tenant has the capacity and the rate of the tenant's limit, in every state.
-/

open Settings (TenantConfig Config)

/-! ## Buckets -/

namespace TokenBucket

/-- The tokens a request at this instant would find. -/
def available (bucket : TokenBucket) (now : ℚ) : ℚ := (bucket.refill now).tokens

structure Metered (bucket : TokenBucket) (rate : ℚ) : Prop where
  capacity : bucket.maxTokens = rate
  refill : bucket.refillRate = rate
  nonneg : 0 ≤ bucket.tokens

variable {bucket : TokenBucket} {rate now earlier later : ℚ}

theorem Metered.new (nonneg : 0 ≤ rate) : (TokenBucket.new rate rate now).Metered rate :=
  ⟨rfl, rfl, nonneg⟩

theorem Metered.reset (metered : bucket.Metered rate) (nonneg : 0 ≤ rate) :
    (bucket.reset now).Metered rate :=
  ⟨metered.capacity, metered.refill, by rw [TokenBucket.reset, metered.capacity]; exact nonneg⟩

theorem durationSince_nonneg : 0 ≤ durationSince later earlier := le_max_left _ _

theorem Metered.available_eq (metered : bucket.Metered rate) :
    bucket.available now = min (bucket.tokens + durationSince now bucket.lastRefill * rate) rate := by
  rw [available, TokenBucket.refill, metered.refill, metered.capacity]

theorem Metered.available_le (metered : bucket.Metered rate) : bucket.available now ≤ rate := by
  rw [metered.available_eq]
  exact min_le_right _ _

theorem Metered.available_nonneg (metered : bucket.Metered rate) (nonneg : 0 ≤ rate) :
    0 ≤ bucket.available now := by
  rw [metered.available_eq]
  exact le_min (add_nonneg metered.nonneg (mul_nonneg durationSince_nonneg nonneg)) nonneg

theorem durationSince_le (since : ℚ) (ordered : earlier ≤ later) :
    durationSince later since ≤ durationSince earlier since + (later - earlier) := by
  unfold durationSince
  rcases le_total 0 (later - since) with passed | early
  · rw [max_eq_right passed]
    have bound := le_max_right 0 (earlier - since)
    linarith
  · rw [max_eq_left early]
    have bound := le_max_left 0 (earlier - since)
    linarith

theorem Metered.available_later (metered : bucket.Metered rate) (nonneg : 0 ≤ rate)
    (ordered : earlier ≤ later) :
    bucket.available later ≤ bucket.available earlier + rate * (later - earlier) := by
  rw [metered.available_eq, metered.available_eq]
  have refilled := mul_le_mul_of_nonneg_right (durationSince_le bucket.lastRefill ordered) nonneg
  have accrued := mul_nonneg nonneg (sub_nonneg.mpr ordered)
  rw [← min_add_add_right]
  exact min_le_min (by linarith) (by linarith)

theorem Metered.available_new (nonneg : 0 ≤ rate) :
    (TokenBucket.new rate rate now).available now = rate := by
  rw [(Metered.new nonneg).available_eq]
  simp [TokenBucket.new, durationSince]

theorem Metered.available_reset (metered : bucket.Metered rate) (nonneg : 0 ≤ rate) :
    (bucket.reset now).available now = rate := by
  rw [(metered.reset nonneg).available_eq]
  simp [TokenBucket.reset, durationSince, metered.capacity]

theorem Metered.tryConsume (metered : bucket.Metered rate) (nonneg : 0 ≤ rate) :
    (bucket.tryConsume now).1.Metered rate ∧
      (if (bucket.tryConsume now).2 = true then 1 else 0) + (bucket.tryConsume now).1.available now =
        bucket.available now := by
  have found : 0 ≤ bucket.available now := metered.available_nonneg nonneg
  have room : bucket.available now ≤ rate := metered.available_le
  unfold TokenBucket.tryConsume
  by_cases token : 1 ≤ (bucket.refill now).tokens
  · have less : 1 ≤ bucket.available now := token
    have taken : Metered { bucket.refill now with tokens := (bucket.refill now).tokens - 1 } rate :=
      ⟨metered.capacity, metered.refill, sub_nonneg.mpr token⟩
    simp only [token, if_true]
    refine ⟨taken, ?_⟩
    rw [taken.available_eq]
    change 1 + min (bucket.available now - 1 + durationSince now now * rate) rate = bucket.available now
    rw [durationSince, sub_self, max_self, zero_mul, add_zero, min_eq_left (by linarith)]
    exact add_sub_cancel 1 _
  · have kept : Metered (bucket.refill now) rate := ⟨metered.capacity, metered.refill, found⟩
    simp only [token, if_false]
    refine ⟨kept, ?_⟩
    rw [kept.available_eq]
    change (if false = true then 1 else 0) + min (bucket.available now + durationSince now now * rate) rate =
      bucket.available now
    rw [durationSince, sub_self, max_self, zero_mul, add_zero, min_eq_left room]
    simp

end TokenBucket

/-! ## One check -/

variable {Percent : Type}

namespace TenantUsage

def Metered (usage : TenantUsage Percent) (rate : ℚ) : Prop :=
  ∀ bucket, usage.tokenBucket = some bucket → bucket.Metered rate

/-- Without a bucket the next check fills one. -/
def available (usage : TenantUsage Percent) (rate now : ℚ) : ℚ :=
  (usage.tokenBucket.map fun bucket => bucket.available now).getD rate

def resetDue (usage : TenantUsage Percent) (resetPeriod : Nat) (now : ℚ) : Bool :=
  resetPeriod ≤ asSecs (durationSince now usage.lastReset)

variable {usage : TenantUsage Percent} {config : TenantConfig Percent} {rate now : ℚ}
variable {bucket : TokenBucket} {maxRps resetPeriod : Nat}

theorem available_of_bucket (held : usage.tokenBucket = some bucket) :
    usage.available rate now = bucket.available now := by
  simp [available, held]

theorem Metered.ensureBucket (metered : usage.Metered maxRps)
    (limited : config.maxRequestsPerSec = some maxRps) :
    ∃ bucket, (usage.ensureBucket config now).tokenBucket = some bucket ∧ bucket.Metered maxRps ∧
      bucket.available now = usage.available maxRps now := by
  cases held : usage.tokenBucket with
  | none =>
      refine ⟨.new maxRps maxRps now, ?_, .new (Nat.cast_nonneg _), ?_⟩
      · simp [TenantUsage.ensureBucket, held, addBucket, limited]
      · rw [TokenBucket.Metered.available_new (Nat.cast_nonneg _)]
        simp [available, held]
  | some bucket =>
      refine ⟨bucket, ?_, metered bucket held, (available_of_bucket held).symm⟩
      simp [TenantUsage.ensureBucket, held]

theorem metered_addBucket (limited : config.maxRequestsPerSec = some maxRps) :
    (usage.addBucket config now).Metered maxRps := by
  intro bucket held
  simp only [addBucket, limited] at held
  cases held
  exact .new (Nat.cast_nonneg maxRps)

theorem Metered.resetIfDue (metered : usage.Metered maxRps) :
    (usage.resetIfDue resetPeriod now).Metered maxRps := by
  intro bucket held
  unfold TenantUsage.resetIfDue at held
  split at held
  · obtain ⟨before, kept, rfl⟩ := Option.map_eq_some_iff.mp held
    exact (metered before kept).reset (Nat.cast_nonneg maxRps)
  · exact metered bucket held

theorem lastReset_ensureBucket : (usage.ensureBucket config now).lastReset = usage.lastReset := by
  unfold TenantUsage.ensureBucket addBucket
  split
  · split <;> rfl
  · rfl

theorem resetIfDue_bucket (nonneg : 0 ≤ rate) (held : usage.tokenBucket = some bucket)
    (metered : bucket.Metered rate) :
    ∃ after, (usage.resetIfDue resetPeriod now).tokenBucket = some after ∧ after.Metered rate ∧
      after.available now ≤
        bucket.available now + if usage.resetDue resetPeriod now = true then rate else 0 := by
  have found : 0 ≤ bucket.available now := metered.available_nonneg nonneg
  unfold resetIfDue resetDue
  by_cases due : resetPeriod ≤ asSecs (durationSince now usage.lastReset)
  · refine ⟨bucket.reset now, by simp [due, held], metered.reset nonneg, ?_⟩
    rw [metered.available_reset nonneg]
    simp only [due, decide_true, if_true]
    linarith
  · exact ⟨bucket, by simp [due, held], metered, by simp [due]⟩

theorem lastReset_resetIfDue : (usage.resetIfDue resetPeriod now).lastReset =
    if usage.resetDue resetPeriod now = true then now else usage.lastReset := by
  unfold resetIfDue resetDue
  by_cases due : resetPeriod ≤ asSecs (durationSince now usage.lastReset) <;> simp [due]

/-- The bucket of a check: the tenant's own, or a new one, filled by a reset. -/
theorem Metered.refreshed (metered : usage.Metered maxRps)
    (limited : config.maxRequestsPerSec = some maxRps) :
    ∃ bucket, (usage.refreshed config now).tokenBucket = some bucket ∧ bucket.Metered maxRps ∧
      bucket.available now ≤ usage.available maxRps now +
        if usage.resetDue config.resetPeriodSecs now = true then (maxRps : ℚ) else 0 := by
  obtain ⟨first, ensured, metered, same⟩ := @Metered.ensureBucket _ usage config now maxRps metered limited
  have due : (usage.ensureBucket config now).resetDue config.resetPeriodSecs now =
      usage.resetDue config.resetPeriodSecs now := by
    rw [resetDue, resetDue, lastReset_ensureBucket]
  rw [← same, ← due]
  exact resetIfDue_bucket (Nat.cast_nonneg maxRps) ensured metered

variable [LT Percent] [DecidableLT Percent] {f64Max : Percent}

theorem checkBudgets_cases (held : usage.tokenBucket = some bucket) :
    checkBudgets f64Max usage config = (usage, .allowed, true) ∨
      ∃ result, result ≠ .allowed ∧ checkBudgets f64Max usage config = (usage.reject, result, false) := by
  have cpu : checkCpuAndRate f64Max usage config = (usage, .allowed, true) ∨
      ∃ result, result ≠ .allowed ∧
        checkCpuAndRate f64Max usage config = (usage.reject, result, false) := by
    unfold checkCpuAndRate
    split
    · exact .inr ⟨.cpuExceeded, by decide, rfl⟩
    · exact .inl (by simp [classifyRate, held])
  unfold checkBudgets
  split
  · split
    · exact .inr ⟨.memoryExceeded, by decide, rfl⟩
    · exact cpu
  · exact cpu

theorem check_cases (held : (usage.refreshed config now).tokenBucket = some bucket) :
    (usage.check config f64Max now =
      if (bucket.tryConsume now).2 = true then
        ({ usage.refreshed config now with tokenBucket := some (bucket.tryConsume now).1 }, .allowed)
      else
        (TenantUsage.reject
          { usage.refreshed config now with tokenBucket := some (bucket.tryConsume now).1 },
          .rateLimited)) ∨
      ∃ result, result ≠ .allowed ∧
        usage.check config f64Max now = ((usage.refreshed config now).reject, result) := by
  rcases @checkBudgets_cases _ _ config bucket _ _ f64Max held with passed | ⟨result, refused, rejected⟩
  · exact .inl (by simp only [TenantUsage.check, passed, settle, if_true, held])
  · exact .inr ⟨result, refused, by simp [TenantUsage.check, rejected, settle]⟩

/-- What a check allows comes out of the bucket, and only a reset adds to it. -/
theorem Metered.check (metered : usage.Metered maxRps)
    (limited : config.maxRequestsPerSec = some maxRps) :
    (usage.check config f64Max now).1.Metered maxRps ∧
      (if (usage.check config f64Max now).2 = .allowed then 1 else 0) +
          (usage.check config f64Max now).1.available maxRps now ≤
        usage.available maxRps now +
          if usage.resetDue config.resetPeriodSecs now = true then (maxRps : ℚ) else 0 := by
  obtain ⟨bucket, held, bucketMetered, filled⟩ :=
    @Metered.refreshed _ usage config now maxRps metered limited
  obtain ⟨takenMetered, taken⟩ := @TokenBucket.Metered.tryConsume bucket maxRps now bucketMetered
    (Nat.cast_nonneg maxRps)
  rcases @check_cases _ usage config now bucket _ _ f64Max held with consumes | ⟨result, refused, rejects⟩
  · by_cases consumed : (bucket.tryConsume now).2 = true
    · rw [consumes, if_pos consumed]
      rw [if_pos consumed] at taken
      refine ⟨fun after kept => ?_, ?_⟩
      · cases kept
        exact takenMetered
      · rw [available_of_bucket rfl]
        simp only [if_true]
        linarith
    · rw [consumes, if_neg consumed]
      rw [if_neg consumed] at taken
      refine ⟨fun after kept => ?_, ?_⟩
      · cases kept
        exact takenMetered
      · rw [available_of_bucket rfl]
        simp only [reduceCtorEq, if_false]
        linarith
  · rw [rejects]
    refine ⟨fun after kept => ?_, ?_⟩
    · obtain rfl : bucket = after := Option.some.inj (held.symm.trans kept)
      exact bucketMetered
    · rw [@available_of_bucket _ (usage.refreshed config now).reject maxRps now bucket held,
        if_neg refused]
      linarith

theorem lastReset_check (metered : usage.Metered maxRps)
    (limited : config.maxRequestsPerSec = some maxRps) :
    (usage.check config f64Max now).1.lastReset =
      if usage.resetDue config.resetPeriodSecs now = true then now else usage.lastReset := by
  obtain ⟨bucket, held, _⟩ := @Metered.refreshed _ usage config now maxRps metered limited
  have refreshed : (usage.refreshed config now).lastReset =
      if usage.resetDue config.resetPeriodSecs now = true then now else usage.lastReset := by
    rw [TenantUsage.refreshed, lastReset_resetIfDue, resetDue, lastReset_ensureBucket]
    rfl
  rcases @check_cases _ usage config now bucket _ _ f64Max held with consumes | ⟨result, _, rejects⟩
  · rw [consumes, ← refreshed]
    split <;> rfl
  · rw [rejects, ← refreshed]
    rfl

end TenantUsage

/-! ## Every bucket has the rate of its tenant -/

variable [Zero Percent]

def Tenancy.Provisioned (tenancy : Tenancy Percent) : Prop :=
  ∀ config maxRps, tenancy.config = some config → config.maxRequestsPerSec = some maxRps →
    ∀ usage, tenancy.usage = some usage → usage.Metered maxRps

variable {tenancy : Tenancy Percent} {config : TenantConfig Percent} {maxRps : Nat} {now : ℚ}
variable {valid : String → Bool}

theorem Tenancy.metered_entry
    (metered : ∀ usage, tenancy.usage = some usage → usage.Metered maxRps) :
    (tenancy.entry now).Metered maxRps := by
  intro bucket held
  cases kept : tenancy.usage with
  | none => simp [Tenancy.entry, kept, TenantUsage.default] at held
  | some usage =>
      rw [Tenancy.entry, kept] at held
      exact metered usage kept bucket held

theorem Tenancy.Provisioned.keep (provisioned : tenancy.Provisioned) {usage : TenantUsage Percent}
    (bucket : usage.tokenBucket = (tenancy.entry now).tokenBucket) :
    (tenancy.keep usage).Provisioned := by
  intro config maxRps configured limited kept same found held
  cases same
  exact Tenancy.metered_entry (provisioned config maxRps configured limited) found (bucket ▸ held)

theorem provisioned_configured (tenant : TenantConfig Percent) :
    (Tenancy.configured tenant now).Provisioned := by
  intro config maxRps configured limited usage same
  cases configured
  cases same
  exact TenantUsage.metered_addBucket limited

theorem Initial.provisioned {isolator : TenantIsolator Percent} (initial : Initial valid isolator)
    (tenantId : String) : (isolator.tenancy tenantId).Provisioned := by
  cases initial with
  | new => exact fun config maxRps configured => nomatch configured
  | fromConfig moment config isolator built =>
      rcases tenancy_fromConfig built tenantId with missing | ⟨tenant, _, configured⟩
      · rw [missing]
        exact fun config maxRps configured => nomatch configured
      · rw [configured]
        exact provisioned_configured tenant

variable [LT Percent] [DecidableLT Percent] {f64Max : Percent}

theorem Tenancy.Provisioned.perform (provisioned : tenancy.Provisioned) (timed : Timed Percent) :
    (tenancy.perform valid f64Max timed).1.Provisioned := by
  obtain ⟨moment, operation⟩ := timed
  cases operation with
  | registerTenant config =>
      by_cases accepted : valid config.tenantId = true
      · simp only [Tenancy.perform, accepted, if_true]
        intro same maxRps configured limited usage kept
        cases configured
        simp only [limited] at kept
        cases kept
        exact TenantUsage.metered_addBucket limited
      · simp only [Tenancy.perform, accepted]
        exact provisioned
  | removeTenant tenantId =>
      intro config maxRps configured
      cases configured
  | recordMemory tenantId bytes => exact provisioned.keep rfl
  | recordCpu tenantId percent => exact provisioned.keep rfl
  | recordRequest tenantId => exact provisioned.keep rfl
  | checkAndReset tenantId =>
      intro config maxRps configured limited usage kept
      obtain ⟨before, held, rfl⟩ := Option.map_eq_some_iff.mp kept
      exact (provisioned config maxRps configured limited before held).resetIfDue
  | checkQuotaHardened tenantId =>
      cases configured : tenancy.config with
      | none =>
          simp only [Tenancy.perform, configured]
          exact provisioned
      | some config =>
          simp only [Tenancy.perform, configured]
          intro same maxRps still limited usage kept
          cases kept
          obtain rfl : config = same := Option.some.inj (configured.symm.trans still)
          have metered := provisioned config maxRps configured limited
          exact ((Tenancy.metered_entry metered).check limited).1
  | startCpuWindow tenantId => exact provisioned.keep rfl
  | endCpuWindow tenantId => exact provisioned.keep rfl

end Evergreen.Tenant
