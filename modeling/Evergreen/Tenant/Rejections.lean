import Evergreen.Tenant.Registration

namespace Evergreen.Tenant

/-! # Rejected checks

Three of the paths on which a check is rejected count the rejection.  The two
that do not, the counter of requests and the missing usage, are never taken: a
check begins by making the usage, and the bucket of a tenant with a limit.
-/

open Settings (TenantConfig Config)

variable {Percent : Type}

/-! ## The check with other code on those two paths -/

section Variant

variable (counter : TenantUsage Percent → Nat → TenantQuotaResult × Bool)
variable (usage : TenantUsage Percent) (config : TenantConfig Percent)

/-- `classify_rate`, with `counter` for a tenant that has a limit and no bucket. -/
def classifyRateOr : TenantQuotaResult × Bool :=
  if usage.tokenBucket.isSome then (.allowed, true)
  else
    match config.maxRequestsPerSec with
    | some maxRps => counter usage maxRps
    | none => (.allowed, false)

variable [LT Percent] [DecidableLT Percent] (f64Max : Percent)

def checkCpuAndRateOr : TenantUsage Percent × TenantQuotaResult × Bool :=
  if config.maxCpuPercent.getD f64Max < usage.cpuPercent ∨ usage.cpuTime.isOverBudget then
    (usage.reject, .cpuExceeded, false)
  else (usage, classifyRateOr counter usage config)

def checkBudgetsOr : TenantUsage Percent × TenantQuotaResult × Bool :=
  match config.maxMemoryBytes with
  | some maxMem =>
      if maxMem < usage.memoryBytes then (usage.reject, .memoryExceeded, false)
      else checkCpuAndRateOr counter usage config f64Max
  | none => checkCpuAndRateOr counter usage config f64Max

variable [Zero Percent]

/-- `check_quota_hardened`, with `missing` for a usage that is not there. -/
def TenantIsolator.checkQuotaHardenedOr
    (missing : TenantIsolator Percent → TenantIsolator Percent × TenantQuotaResult)
    (isolator : TenantIsolator Percent) (moment : Moment) (tenantId : String) :
    TenantIsolator Percent × TenantQuotaResult :=
  if isolator.globalEnabled then
    match isolator.configs tenantId with
    | none => (isolator, .allowed)
    | some config =>
        let usage := isolator.entry moment tenantId
        let isolator := isolator.insertUsage tenantId
          (if usage.tokenBucket.isNone then usage.addBucket config moment.now else usage)
        let usage := (isolator.entry moment tenantId).resetIfDue config.resetPeriodSecs moment.now
        let (usage, result, needsTokenConsume) := checkBudgetsOr counter usage config f64Max
        let isolator := isolator.insertUsage tenantId usage
        if needsTokenConsume then
          match isolator.usage tenantId with
          | none => missing isolator
          | some usage =>
              match usage.tokenBucket with
              | some bucket =>
                  let (bucket, consumed) := bucket.tryConsume moment.now
                  let usage := { usage with tokenBucket := some bucket }
                  if consumed then
                    (isolator.insertUsage tenantId usage).finishCheck moment tenantId result
                  else
                    ((isolator.insertUsage tenantId usage.reject).recordAuditEntry moment tenantId
                      "quota_check" false, .rateLimited)
              | none => isolator.finishCheck moment tenantId result
        else isolator.finishCheck moment tenantId result
  else (isolator, .allowed)

end Variant

/-- The counter of requests against the limit. -/
def legacyCounter (usage : TenantUsage Percent) (maxRps : Nat) : TenantQuotaResult × Bool :=
  if maxRps < usage.requestsCount then (.rateLimited, false) else (.allowed, false)

section Agreement

variable {usage : TenantUsage Percent} {config : TenantConfig Percent} {now : ℚ}
variable {counter : TenantUsage Percent → Nat → TenantQuotaResult × Bool}

theorem TenantUsage.refreshed_bucket : (usage.refreshed config now).tokenBucket.isSome ∨
    usage.tokenBucket = none ∧ config.maxRequestsPerSec = none := by
  have kept : ∀ usage : TenantUsage Percent, usage.tokenBucket.isSome →
      (usage.resetIfDue config.resetPeriodSecs now).tokenBucket.isSome := by
    intro usage held
    unfold resetIfDue
    split
    · simpa using held
    · exact held
  cases held : usage.tokenBucket with
  | some bucket =>
      left
      apply kept
      simp [ensureBucket, held]
  | none =>
      cases limit : config.maxRequestsPerSec with
      | none => exact .inr ⟨rfl, rfl⟩
      | some maxRps =>
          left
          apply kept
          simp [ensureBucket, addBucket, held, limit]

theorem classifyRateOr_eq
    (settled : usage.tokenBucket.isSome ∨ config.maxRequestsPerSec = none) :
    classifyRateOr counter usage config = classifyRate usage config := by
  unfold classifyRateOr classifyRate
  rcases settled with held | unlimited
  · simp [held]
  · simp [unlimited]

variable [LT Percent] [DecidableLT Percent] {f64Max : Percent}

theorem checkBudgetsOr_eq
    (settled : usage.tokenBucket.isSome ∨ config.maxRequestsPerSec = none) :
    checkBudgetsOr counter usage config f64Max = checkBudgets f64Max usage config := by
  simp only [checkBudgetsOr, checkCpuAndRateOr, classifyRateOr_eq settled]
  rfl

variable [Zero Percent] {isolator : TenantIsolator Percent} {moment : Moment} {tenantId : String}
variable {missing : TenantIsolator Percent → TenantIsolator Percent × TenantQuotaResult}

/-- With the code of the source on both paths this is the source's check. -/
theorem TenantIsolator.checkQuotaHardenedOr_source :
    isolator.checkQuotaHardenedOr legacyCounter f64Max
        (fun isolator => (isolator.recordAuditEntry moment tenantId "quota_check" false, .rateLimited))
        moment tenantId =
      isolator.checkQuotaHardened moment tenantId f64Max := rfl

theorem TenantIsolator.checkQuotaHardenedOr_eq :
    isolator.checkQuotaHardenedOr counter f64Max missing moment tenantId =
      isolator.checkQuotaHardened moment tenantId f64Max := by
  unfold checkQuotaHardenedOr checkQuotaHardened
  cases isolator.globalEnabled with
  | false => rfl
  | true =>
      cases isolator.configs tenantId with
      | none => rfl
      | some config =>
          have settled : ((isolator.entry moment tenantId).refreshed config
              moment.now).tokenBucket.isSome ∨ config.maxRequestsPerSec = none :=
            TenantUsage.refreshed_bucket.imp_right And.right
          simp only [if_true, entry_insertUsage, TenantUsage.refreshed_eq, usage_insertUsage,
            checkBudgetsOr_eq settled, Function.update_self]
          all_goals rfl

end Agreement

/-! ## One check -/

theorem TokenBucket.available_refill (bucket : TokenBucket) (now : ℚ) :
    (bucket.refill now).available now = bucket.available now := by
  simp [available, TokenBucket.refill, durationSince]

namespace TenantUsage

variable {usage : TenantUsage Percent} {config : TenantConfig Percent} {now : ℚ}
variable {bucket : TokenBucket} {resetPeriod : Nat}

theorem rejectedCount_addBucket :
    (usage.addBucket config now).rejectedCount = usage.rejectedCount := by
  unfold addBucket
  split <;> rfl

theorem rejectedCount_resetIfDue :
    (usage.resetIfDue resetPeriod now).rejectedCount = usage.rejectedCount := by
  unfold resetIfDue
  split <;> rfl

theorem rejectedCount_refreshed :
    (usage.refreshed config now).rejectedCount = usage.rejectedCount := by
  rw [refreshed, rejectedCount_resetIfDue, ensureBucket]
  split
  · exact rejectedCount_addBucket
  · rfl

variable [LT Percent] [DecidableLT Percent] {f64Max : Percent}

theorem rejectedCount_check :
    (usage.check config f64Max now).1.rejectedCount =
      if (usage.check config f64Max now).2 = .allowed then usage.rejectedCount
      else (usage.rejectedCount + 1) % 2 ^ 64 := by
  cases held : (usage.refreshed config now).tokenBucket with
  | some bucket =>
      rcases @check_cases _ usage config now bucket _ _ f64Max held with
        consumes | ⟨result, refused, rejects⟩
      · rw [consumes]
        by_cases consumed : (bucket.tryConsume now).2 = true
        · simp [consumed, rejectedCount_refreshed]
        · simp [consumed, reject, rejectedCount_refreshed]
      · simp [rejects, refused, reject, rejectedCount_refreshed]
  | none =>
      have settled : (usage.refreshed config now).tokenBucket.isSome ∨ _ := refreshed_bucket
      have unlimited := (settled.resolve_left (by simp [held])).2
      have budgets : checkBudgets f64Max (usage.refreshed config now) config = _ ∨ _ :=
        checkBudgets_unlimited held unlimited
      rcases budgets with passed | ⟨result, exceeded, rejected⟩
      · simp [TenantUsage.check, passed, settle, rejectedCount_refreshed]
      · have refused : result ≠ .allowed := by
          rintro rfl
          rcases exceeded with same | same <;> cases same
        simp [TenantUsage.check, rejected, settle, refused, reject, rejectedCount_refreshed]

theorem check_spares (held : (usage.refreshed config now).tokenBucket = some bucket)
    (rejected : (usage.check config f64Max now).2 ≠ .allowed) :
    ∃ after, (usage.check config f64Max now).1.tokenBucket = some after ∧
      after.available now = bucket.available now := by
  rcases @check_cases _ usage config now bucket _ _ f64Max held with
    consumes | ⟨result, _, rejects⟩
  · have unconsumed : (bucket.tryConsume now).2 = false := by
      by_contra consumed
      rw [Bool.not_eq_false] at consumed
      simp [consumes, consumed] at rejected
    have refilled : (bucket.tryConsume now).1 = bucket.refill now := by
      unfold TokenBucket.tryConsume at unconsumed ⊢
      dsimp only at unconsumed ⊢
      split at unconsumed
      · cases unconsumed
      · rw [if_neg ‹_›]
    rw [consumes, if_neg (by simp [unconsumed])]
    exact ⟨(bucket.tryConsume now).1, rfl, by rw [refilled, bucket.available_refill now]⟩
  · rw [rejects]
    exact ⟨bucket, held, rfl⟩

end TenantUsage

/-! ## Runs -/

/-- An isolator, with the rejected checks of one tenant since its usage was made. -/
structure Rejecting (Percent : Type) where
  isolator : TenantIsolator Percent
  rejections : Nat

def isRejection (tenantId : String) : Operation Percent → Answer → Bool
  | .checkQuotaHardened checked, .checked result => checked = tenantId ∧ result ≠ .allowed
  | _, _ => false

theorem isRejection_of_ne {tenantId : String} {operation : Operation Percent} {answer : Answer}
    (differs : tenantId ≠ operation.tenantId) : isRejection tenantId operation answer = false := by
  cases operation with
  | checkQuotaHardened checked =>
      cases answer with
      | checked result => simpa [isRejection] using fun same => absurd same.symm differs
      | _ => rfl
  | _ => rfl

/-- The part of the invariant that every step keeps. -/
structure Rejecting.Counted (tenantId : String) (state : Rejecting Percent) : Prop where
  enabled : state.isolator.Enabled
  counted : ∀ usage, state.isolator.usage tenantId = some usage →
    usage.rejectedCount = state.rejections % 2 ^ 64

section Machine

variable [Zero Percent]

theorem Initial.counted {valid : String → Bool} {tenantId : String}
    {isolator : TenantIsolator Percent} (initial : Initial valid isolator) :
    (Rejecting.mk isolator 0).Counted tenantId := by
  refine ⟨initial.enabled, fun usage held => ?_⟩
  cases initial with
  | new => cases held
  | fromConfig moment config isolator built =>
      rcases tenancy_fromConfig built tenantId with missing | ⟨tenant, _, configured⟩
      · rw [show isolator.usage tenantId = none from congrArg Tenancy.usage missing] at held
        cases held
      · rw [show isolator.usage tenantId = _ from congrArg Tenancy.usage configured] at held
        cases held
        exact TenantUsage.rejectedCount_addBucket

variable [LT Percent] [DecidableLT Percent]

namespace Rejecting

variable (valid : String → Bool) (f64Max : Percent) (tenantId : String) (state : Rejecting Percent)

def advance (timed : Timed Percent) : Rejecting Percent where
  isolator := state.isolator.advance valid f64Max timed
  rejections :=
    (if (state.isolator.usage tenantId).isSome then state.rejections else 0) +
      if isRejection tenantId timed.operation (state.isolator.perform valid f64Max timed).2 then 1
      else 0

/-- The rejections are counted, the next one takes no token, and neither of the
two paths that would not count one is taken. -/
structure Accounted : Prop where
  counted : ∀ usage, state.isolator.usage tenantId = some usage →
    usage.rejectedCount = state.rejections % 2 ^ 64
  spares : ∀ moment config bucket, state.isolator.configs tenantId = some config →
    (state.isolator.checkQuotaHardened moment tenantId f64Max).2 ≠ .allowed →
    ((state.isolator.entry moment tenantId).refreshed config moment.now).tokenBucket = some bucket →
    ∃ usage after,
      (state.isolator.checkQuotaHardened moment tenantId f64Max).1.usage tenantId = some usage ∧
      usage.tokenBucket = some after ∧ after.available moment.now = bucket.available moment.now
  unreachable : ∀ moment counter missing,
    state.isolator.checkQuotaHardenedOr counter f64Max missing moment tenantId =
      state.isolator.checkQuotaHardened moment tenantId f64Max

end Rejecting

def rejecting (valid : String → Bool) (f64Max : Percent) (tenantId : String) :
    Machine (Rejecting Percent) (Timed Percent) :=
  .ofFunction (Rejecting.advance valid f64Max tenantId)

variable {valid : String → Bool} {f64Max : Percent} {tenantId : String}
variable {isolator : TenantIsolator Percent} {tenancy : Tenancy Percent} {timed : Timed Percent}
variable {usage : TenantUsage Percent} {operations : List (Timed Percent)}

theorem Tenancy.rejectedCount_perform
    (kept : (tenancy.perform valid f64Max timed).1.usage = some usage) :
    usage.rejectedCount =
      if isRejection timed.operation.tenantId timed.operation
        (tenancy.perform valid f64Max timed).2 then
        ((tenancy.entry timed.moment.now).rejectedCount + 1) % 2 ^ 64
      else (tenancy.entry timed.moment.now).rejectedCount := by
  obtain ⟨moment, operation⟩ := timed
  have held : ∀ {usage : TenantUsage Percent}, tenancy.usage = some usage →
      usage.rejectedCount = (tenancy.entry moment.now).rejectedCount := by
    intro usage same
    rw [Tenancy.entry, same, Option.getD_some]
  cases operation with
  | registerTenant config =>
      by_cases accepted : valid config.tenantId = true
      · cases limit : config.maxRequestsPerSec with
        | none =>
            simp only [Tenancy.perform, accepted, limit, if_true] at kept
            exact held kept
        | some maxRps =>
            simp only [Tenancy.perform, accepted, limit, if_true] at kept
            cases kept
            exact TenantUsage.rejectedCount_addBucket
      · simp only [Tenancy.perform, accepted] at kept
        exact held kept
  | removeTenant tenantId => cases kept
  | checkAndReset tenantId =>
      obtain ⟨before, same, rfl⟩ := Option.map_eq_some_iff.mp kept
      exact TenantUsage.rejectedCount_resetIfDue.trans (held same)
  | checkQuotaHardened tenantId =>
      cases configured : tenancy.config with
      | none =>
          simp only [Tenancy.perform, configured] at kept ⊢
          simpa [isRejection] using held kept
      | some config =>
          simp only [Tenancy.perform, configured] at kept ⊢
          cases kept
          rw [TenantUsage.rejectedCount_check]
          simp only [isRejection, Operation.tenantId]
          split <;> simp_all
  | recordMemory tenantId bytes =>
      cases kept
      rfl
  | recordCpu tenantId percent =>
      cases kept
      rfl
  | recordRequest tenantId =>
      cases kept
      rfl
  | startCpuWindow tenantId =>
      cases kept
      rfl
  | endCpuWindow tenantId =>
      cases kept
      rfl

variable {state : Rejecting Percent}

theorem Rejecting.Counted.advance (counted : state.Counted tenantId) (timed : Timed Percent) :
    (state.advance valid f64Max tenantId timed).Counted tenantId := by
  obtain ⟨touches, answered⟩ :=
    @TenantIsolator.perform_refines _ _ _ _ state.isolator valid f64Max counted.enabled timed
  refine ⟨counted.enabled.perform timed, fun usage kept => ?_⟩
  by_cases own : tenantId = timed.operation.tenantId
  · subst own
    have found := kept
    simp only [Rejecting.advance, TenantIsolator.advance, touches.usage, Function.update_self] at found
    have entry : ((state.isolator.tenancy timed.operation.tenantId).entry
        timed.moment.now).rejectedCount =
        (if (state.isolator.usage timed.operation.tenantId).isSome then state.rejections else 0) %
          2 ^ 64 := by
      unfold Tenancy.entry TenantIsolator.tenancy
      cases held : state.isolator.usage timed.operation.tenantId with
      | none => rfl
      | some before => exact counted.counted before held
    rw [Tenancy.rejectedCount_perform found, Rejecting.advance, answered, entry]
    split
    · rw [Nat.mod_add_mod]
    · rfl
  · have before : state.isolator.usage tenantId = some usage := by
      have same := congrArg Tenancy.usage (touches.tenancy_of_ne own)
      exact same.symm.trans kept
    rw [Rejecting.advance, isRejection_of_ne own, before]
    exact counted.counted usage before

theorem Rejecting.Counted.accounted (counted : state.Counted tenantId) :
    state.Accounted f64Max tenantId := by
  refine ⟨counted.counted, ?_, fun moment counter missing => TenantIsolator.checkQuotaHardenedOr_eq⟩
  intro moment config bucket configured rejected held
  have enabled := counted.enabled tenantId (by simp [configured])
  obtain ⟨touches, answered⟩ := TenantIsolator.checkQuotaHardened_eq enabled configured
  rw [answered] at rejected
  obtain ⟨after, kept, same⟩ := TenantUsage.check_spares held rejected
  refine ⟨_, after, ?_, kept, same⟩
  rw [touches.usage, Function.update_self]
  rfl

/-- In every state of every run, as many rejections are counted as checks were
rejected since the usage was made, and whichever check comes next takes no token
unless it is allowed and takes neither of the paths that do not count. -/
theorem always_accounted (initial : Initial valid isolator) :
    (rejecting valid f64Max tenantId).Always (Rejecting.Accounted f64Max tenantId) ⟨isolator, 0⟩
      operations := by
  have always : (rejecting valid f64Max tenantId).Always (Rejecting.Counted tenantId) ⟨isolator, 0⟩
      operations :=
    Machine.always_ofFunction _ (fun _ timed counted => counted.advance timed) initial.counted
  exact always.imp fun _ counted => counted.accounted

end Machine

theorem always_accounted_twice :
    (rejecting (fun _ => true) (2 ^ 1024 - 2 ^ 971) "acme-corp").Always
      (Rejecting.Accounted (2 ^ 1024 - 2 ^ 971) "acme-corp") ⟨.new, 0⟩
      [atSecond 0 (.registerTenant (rated "acme-corp" 1)),
        atSecond 0 (.checkQuotaHardened "acme-corp"), atSecond 0 (.checkQuotaHardened "acme-corp")] :=
  always_accounted .new

end Evergreen.Tenant
