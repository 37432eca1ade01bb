import Evergreen.Tenant.Isolation

namespace Evergreen.Tenant

/-! # The bound of the audit log

An entry evicts at most one other, so the limit holds only while it is not put
below what the log already has.
-/

open Settings (TenantConfig Config)

variable {Percent : Type}

/-! ## What an operation records -/

namespace TenantIsolator

def logged (isolator : TenantIsolator Percent) : Option AuditEntry → List AuditEntry
  | none => isolator.auditLog
  | some entry =>
      (if isolator.maxAuditEntries ≤ isolator.auditLog.length then isolator.auditLog.tail
        else isolator.auditLog) ++ [entry]

structure Logs (isolator next : TenantIsolator Percent) (entry : Option AuditEntry) : Prop where
  log : next.auditLog = isolator.logged entry
  limit : next.maxAuditEntries = isolator.maxAuditEntries

theorem length_logged (isolator : TenantIsolator Percent) (entry : AuditEntry)
    (room : isolator.maxAuditEntries = 0 → isolator.auditLog ≠ []) :
    (isolator.logged (some entry)).length ≤ isolator.maxAuditEntries ↔
      0 < isolator.maxAuditEntries ∧ isolator.auditLog.length ≤ isolator.maxAuditEntries := by
  have some : isolator.maxAuditEntries = 0 → 0 < isolator.auditLog.length :=
    fun none => List.length_pos_iff.mpr (room none)
  simp only [logged, List.length_append, List.length_singleton]
  split
  · rw [List.length_tail]
    omega
  · omega

theorem logged_suffix {isolator : TenantIsolator Percent} {recorded : List AuditEntry}
    {entry : AuditEntry} (recent : isolator.auditLog <:+ recorded) :
    isolator.logged (some entry) <:+ recorded ++ [entry] := by
  obtain ⟨evicted, rfl⟩ := recent
  rw [logged]
  split
  · obtain ⟨dropped, split⟩ := List.tail_suffix isolator.auditLog
    exact ⟨evicted ++ dropped, by rw [← List.append_assoc, List.append_assoc evicted, split]⟩
  · exact ⟨evicted, (List.append_assoc ..).symm⟩

variable [Zero Percent] [LT Percent] [DecidableLT Percent]
variable (valid : String → Bool) (f64Max : Percent) (isolator : TenantIsolator Percent)

/-- The entry an operation records. -/
def audits (timed : Timed Percent) : Option AuditEntry :=
  let moment := timed.moment
  match timed.operation with
  | .registerTenant config =>
      if valid config.tenantId then some ⟨moment.timestamp, config.tenantId, "register", true⟩ else none
  | .removeTenant tenantId =>
      if (isolator.configs tenantId).isSome then some ⟨moment.timestamp, tenantId, "remove", true⟩
      else none
  | .checkQuotaHardened tenantId =>
      if isolator.globalEnabled ∧ (isolator.configs tenantId).isSome then
        some ⟨moment.timestamp, tenantId, "quota_check",
          (isolator.checkQuotaHardened moment tenantId f64Max).2 = .allowed⟩
      else none
  | _ => none

variable {valid f64Max isolator} {moment : Moment} {tenantId : String}

theorem logs_registerTenant (config : TenantConfig Percent) :
    isolator.Logs (isolator.registerTenant moment valid config).1
      (isolator.audits valid f64Max ⟨moment, .registerTenant config⟩) := by
  by_cases accepted : valid config.tenantId = true
  · simp only [registerTenant, audits, accepted, if_true]
    cases config.maxRequestsPerSec with
    | none => exact ⟨rfl, rfl⟩
    | some maxRps => exact ⟨rfl, rfl⟩
  · simp only [registerTenant, audits, accepted]
    exact ⟨rfl, rfl⟩

theorem logs_removeTenant : isolator.Logs (isolator.removeTenant moment tenantId).1
    (isolator.audits valid f64Max ⟨moment, .removeTenant tenantId⟩) := by
  cases configured : isolator.configs tenantId with
  | none =>
      simp only [removeTenant, audits, configured]
      exact ⟨rfl, rfl⟩
  | some config =>
      simp only [removeTenant, audits, configured]
      exact ⟨rfl, rfl⟩

/-- Every path through the check of a configured tenant records its result. -/
theorem logs_checkQuotaHardened : isolator.Logs (isolator.checkQuotaHardened moment tenantId f64Max).1
    (isolator.audits valid f64Max ⟨moment, .checkQuotaHardened tenantId⟩) := by
  by_cases enabled : isolator.globalEnabled = true
  · cases configured : isolator.configs tenantId with
    | none =>
        simp only [audits, checkQuotaHardened, configured]
        exact ⟨by simp [logged], by simp⟩
    | some config =>
        simp only [audits, checkQuotaHardened, configured, enabled, if_true]
        generalize checkBudgets f64Max _ config = checked
        obtain ⟨usage, result, needsTokenConsume⟩ := checked
        cases needsTokenConsume with
        | false => exact ⟨rfl, rfl⟩
        | true =>
            simp only [if_true, usage_insertUsage, Function.update_self]
            cases held : usage.tokenBucket with
            | none => exact ⟨rfl, rfl⟩
            | some bucket =>
                dsimp only
                by_cases consumed : (bucket.tryConsume moment.now).2 = true
                · simp only [consumed, if_true]
                  exact ⟨rfl, rfl⟩
                · simp only [consumed]
                  exact ⟨rfl, rfl⟩
  · simp only [audits, checkQuotaHardened, enabled]
    exact ⟨by simp [logged], by simp⟩

theorem logs_perform (valid : String → Bool) (f64Max : Percent) (isolator : TenantIsolator Percent)
    (timed : Timed Percent) : isolator.Logs (isolator.perform valid f64Max timed).1
      (isolator.audits valid f64Max timed) := by
  obtain ⟨moment, operation⟩ := timed
  cases operation with
  | registerTenant config => exact logs_registerTenant config
  | removeTenant tenantId => exact logs_removeTenant
  | recordMemory tenantId bytes => exact ⟨rfl, rfl⟩
  | recordCpu tenantId percent => exact ⟨rfl, rfl⟩
  | recordRequest tenantId => exact ⟨rfl, rfl⟩
  | checkAndReset tenantId =>
      simp only [perform, audits, checkAndReset]
      cases isolator.usage tenantId with
      | none => exact ⟨rfl, rfl⟩
      | some usage => exact ⟨rfl, rfl⟩
  | checkQuotaHardened tenantId => exact logs_checkQuotaHardened
  | startCpuWindow tenantId => exact ⟨rfl, rfl⟩
  | endCpuWindow tenantId => exact ⟨rfl, rfl⟩

end TenantIsolator

theorem auditLog_addTenant [Zero Percent] {valid : String → Bool} {moment : Moment}
    {tenant : TenantConfig Percent} {isolator next : TenantIsolator Percent}
    (added : isolator.addTenant moment valid tenant = .ok next) : next.auditLog = isolator.auditLog := by
  rw [TenantIsolator.addTenant] at added
  split at added
  · cases added
    rfl
  · cases added

theorem Initial.auditLog [Zero Percent] {valid : String → Bool} {isolator : TenantIsolator Percent}
    (initial : Initial valid isolator) : isolator.auditLog = [] := by
  cases initial with
  | new => rfl
  | fromConfig moment config isolator built =>
      obtain ⟨loaded, added, rfl⟩ := fromConfig_ok built
      have empty : loaded.auditLog = [] := by
        apply Machine.keeps_foldlM _ added
        · intro tenant _ current next accepted held
          exact (auditLog_addTenant accepted).trans held
        · rfl
      exact empty

/-! ## Runs -/

inductive AuditCall (Percent : Type) where
  | perform (timed : Timed Percent)
  | setMaxAuditEntries (max : Nat)
deriving DecidableEq

/-- An isolator with all that was ever recorded, and whether the last call
panicked. -/
structure Audited (Percent : Type) where
  isolator : TenantIsolator Percent
  recorded : List AuditEntry
  panicked : Bool

def Audited.start (isolator : TenantIsolator Percent) : Audited Percent := ⟨isolator, [], false⟩

section Machine

variable [Zero Percent] [LT Percent] [DecidableLT Percent]
variable (valid : String → Bool) (f64Max : Percent)

/-- The log is the last that an operation changes, and its `remove(0)` comes
before the `push`. -/
def Audited.call (state : Audited Percent) : AuditCall Percent → Audited Percent
  | .setMaxAuditEntries max => ⟨state.isolator.setMaxAuditEntries max, state.recorded, false⟩
  | .perform timed =>
      let isolator := (state.isolator.perform valid f64Max timed).1
      match state.isolator.audits valid f64Max timed with
      | none => ⟨isolator, state.recorded, false⟩
      | some entry =>
          if state.isolator.maxAuditEntries = 0 ∧ state.isolator.auditLog = [] then
            ⟨{ isolator with auditLog := [] }, state.recorded, true⟩
          else ⟨isolator, state.recorded ++ [entry], false⟩

def auditCalls : Machine (Audited Percent) (AuditCall Percent) :=
  .ofFunction (Audited.call valid f64Max)

def Audited.Records (state : Audited Percent) : AuditCall Percent → Prop
  | .setMaxAuditEntries _ => False
  | .perform timed => (state.isolator.audits valid f64Max timed).isSome

/-- What is asked of a call. -/
structure Audited.Retains (state : Audited Percent) (call : AuditCall Percent) : Prop where
  returns : (state.call valid f64Max call).panicked = false
  bounded : state.Records valid f64Max call →
    (state.call valid f64Max call).isolator.auditLog.length ≤
      (state.call valid f64Max call).isolator.maxAuditEntries
  recent : (state.call valid f64Max call).isolator.auditLog <:+
    (state.call valid f64Max call).recorded

/-- The log that an operation records into has not outgrown its limit. -/
def Audited.Fits (state : Audited Percent) (call : AuditCall Percent) : Prop :=
  state.Records valid f64Max call →
    0 < state.isolator.maxAuditEntries ∧
      state.isolator.auditLog.length ≤ state.isolator.maxAuditEntries

end Machine

section Proofs

variable [Zero Percent] [LT Percent] [DecidableLT Percent]
variable {valid : String → Bool} {f64Max : Percent} {state : Audited Percent}
variable {timed : Timed Percent} {entry : AuditEntry}

theorem Audited.call_of_nothing (nothing : state.isolator.audits valid f64Max timed = none) :
    state.call valid f64Max (.perform timed) =
      ⟨(state.isolator.perform valid f64Max timed).1, state.recorded, false⟩ := by
  simp only [call, nothing]

theorem Audited.call_of_room (recorded : state.isolator.audits valid f64Max timed = some entry)
    (room : state.isolator.maxAuditEntries = 0 → state.isolator.auditLog ≠ []) :
    state.call valid f64Max (.perform timed) =
      ⟨(state.isolator.perform valid f64Max timed).1, state.recorded ++ [entry], false⟩ := by
  simp only [call, recorded]
  exact if_neg fun empty => room empty.1 empty.2

theorem Audited.call_panics (recorded : state.isolator.audits valid f64Max timed = some entry)
    (full : state.isolator.maxAuditEntries = 0) (empty : state.isolator.auditLog = []) :
    (state.call valid f64Max (.perform timed)).panicked = true := by
  simp only [call, recorded, full, empty, and_self, if_true]

theorem Audited.recent_call (valid : String → Bool) (f64Max : Percent)
    (recent : state.isolator.auditLog <:+ state.recorded)
    (call : AuditCall Percent) :
    (state.call valid f64Max call).isolator.auditLog <:+ (state.call valid f64Max call).recorded := by
  cases call with
  | setMaxAuditEntries max => exact recent
  | perform timed =>
      have logs := TenantIsolator.logs_perform valid f64Max state.isolator timed
      cases recorded : state.isolator.audits valid f64Max timed with
      | none =>
          rw [recorded] at logs
          rw [call_of_nothing recorded]
          exact logs.log ▸ recent
      | some entry =>
          rw [recorded] at logs
          by_cases full : state.isolator.maxAuditEntries = 0 ∧ state.isolator.auditLog = []
          · simp only [Audited.call, recorded, full, and_self, if_true]
            exact List.nil_suffix
          · rw [call_of_room recorded (not_and.mp full)]
            exact logs.log ▸ TenantIsolator.logged_suffix recent

theorem Audited.retains_iff (recent : state.isolator.auditLog <:+ state.recorded)
    (call : AuditCall Percent) :
    state.Retains valid f64Max call ↔ state.Fits valid f64Max call := by
  have stays := recent_call valid f64Max recent call
  cases call with
  | setMaxAuditEntries max => exact iff_of_true ⟨rfl, fun records => records.elim, stays⟩ False.elim
  | perform timed =>
      have logs := TenantIsolator.logs_perform valid f64Max state.isolator timed
      cases recorded : state.isolator.audits valid f64Max timed with
      | none =>
          have silent : ¬ state.Records valid f64Max (.perform timed) := by simp [Records, recorded]
          refine iff_of_true ⟨?_, fun records => (silent records).elim, stays⟩
            fun records => (silent records).elim
          rw [call_of_nothing recorded]
      | some entry =>
          have records : state.Records valid f64Max (.perform timed) := by simp [Records, recorded]
          rw [recorded] at logs
          by_cases full : state.isolator.maxAuditEntries = 0 ∧ state.isolator.auditLog = []
          · refine iff_of_false (fun retains => ?_) fun fits => (fits records).1.ne' full.1
            have panicked := call_panics recorded full.1 full.2
            rw [retains.returns] at panicked
            cases panicked
          · have room := not_and.mp full
            have fits := state.isolator.length_logged entry room
            have called := call_of_room recorded room
            constructor
            · intro retains _
              have bounded := retains.bounded records
              rw [called] at bounded
              rw [← fits, ← logs.log, ← logs.limit]
              exact bounded
            · intro allowed
              refine ⟨by rw [called], fun _ => ?_, stays⟩
              rw [called]
              change (state.isolator.perform valid f64Max timed).1.auditLog.length ≤ _
              rw [logs.log, logs.limit]
              exact fits.mpr (allowed records)

end Proofs

variable [Zero Percent] [LT Percent] [DecidableLT Percent]

/-- The audit log keeps its promises throughout a run exactly when every
operation that records finds the log within a limit that has room. -/
theorem retains_iff_fits (valid : String → Bool) (f64Max : Percent)
    (isolator : TenantIsolator Percent) (initial : Initial valid isolator)
    (calls : List (AuditCall Percent)) :
    (auditCalls valid f64Max).Along (Audited.Retains valid f64Max) (.start isolator) calls ↔
      (auditCalls valid f64Max).Along (Audited.Fits valid f64Max) (.start isolator) calls := by
  apply Machine.along_ofFunction_iff_along fun state => state.isolator.auditLog <:+ state.recorded
  · intro state call recent
    exact Audited.retains_iff recent call
  · intro state call recent _
    exact Audited.recent_call valid f64Max recent call
  · show isolator.auditLog <:+ []
    rewrite [initial.auditLog]
    exact List.suffix_rfl

def registering (tenantId : String) : AuditCall Nat :=
  .perform ⟨⟨0, "now"⟩, .registerTenant { tenantId }⟩

theorem retains_iff_fits_registering :
    (auditCalls (fun _ => true) 0).Along (Audited.Retains (fun _ => true) 0) (.start .new)
        [registering "acme"] ↔
      (auditCalls (fun _ => true) 0).Along (Audited.Fits (fun _ => true) 0) (.start .new)
        [registering "acme"] :=
  retains_iff_fits (fun _ => true) 0 .new .new [registering "acme"]

/-- With the limit at zero, the first entry takes `remove(0)` to an empty log. -/
theorem registering_panics :
    ¬ ∀ calls : List (AuditCall Nat),
      (auditCalls (fun _ => true) 0).Along (Audited.Retains (fun _ => true) 0) (.start .new) calls := by
  intro retained
  have retains := (retained [.setMaxAuditEntries 0, registering "acme"] _ rfl).2 _ rfl
  exact absurd retains.1.returns (by decide)

end Evergreen.Tenant
