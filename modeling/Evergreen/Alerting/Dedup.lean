import Evergreen.Alerting.Manager
import Evergreen.Machine.Run

namespace Evergreen.Alerting

/-! # What the dedup window suppresses

The manager beside the record of what it let through: every event that got past
the dedup cache, with the instant of its cache record and whether a webhook it
was routed to took it.
-/

structure Processed where
  event : ShimEvent
  recordedAt : Nat
  accepted : Bool
deriving DecidableEq, Repr

structure Session where
  manager : AlertManager
  clock : Nat := 0
  processed : List Processed := []

inductive Label where
  | process (event : ShimEvent) (checkedAt recordedAt : Nat) (deliveries : Nat → Delivery)
  | cleanup (now : Nat)

namespace Session

/-- The event gets past the severity filters and is dropped as a duplicate. -/
def Suppresses (session : Session) (event : ShimEvent) (now : Nat) : Prop :=
  session.manager.admits event ∧ session.manager.isDuplicate event.dedupKey now

instance (session : Session) (event : ShimEvent) (now : Nat) :
    Decidable (session.Suppresses event now) := inferInstanceAs (Decidable (_ ∧ _))

/-- The last event that wrote a record for the key. -/
def lastWriter (session : Session) (key : String) : Option Processed :=
  session.processed.find? fun written => written.event.dedupKey == key

def process (session : Session) (event : ShimEvent) (checkedAt recordedAt : Nat)
    (deliveries : Nat → Delivery) : Session where
  manager := session.manager.processEvent event checkedAt recordedAt deliveries
  clock := recordedAt
  processed :=
    if session.manager.admits event && !session.manager.isDuplicate event.dedupKey checkedAt then
      ⟨event, recordedAt, session.manager.delivered event deliveries⟩ :: session.processed
    else session.processed

end Session

/-- Events are taken one at a time, and the monotonic clock does not go back. -/
def machine : Machine Session Label where
  step session
    | .process event checkedAt recordedAt deliveries =>
        if session.clock ≤ checkedAt ∧ checkedAt ≤ recordedAt then
          some (session.process event checkedAt recordedAt deliveries)
        else none
    | .cleanup now =>
        if session.clock ≤ now then
          some { session with manager := session.manager.cleanupDedupCache now, clock := now }
        else none

/-- An event is suppressed only on an event of the same source, type and
severity that a webhook took within the window before it. -/
def Justified (session : Session) : Label → Prop
  | .process event checkedAt _ _ =>
      session.Suppresses event checkedAt →
        ∃ written ∈ session.processed,
          written.event.source = event.source ∧
          written.event.eventName = event.eventName ∧
          written.event.severity = event.severity ∧
          written.accepted = true ∧
          written.recordedAt ≤ checkedAt ∧
          checkedAt - written.recordedAt < session.manager.dedupWindow
  | .cleanup _ => True

/-- The record an event is suppressed on was left by an event of the same
source and name, not just of the same key, whose delivery succeeded somewhere. -/
def Backed (session : Session) : Label → Prop
  | .process event checkedAt _ _ =>
      session.Suppresses event checkedAt →
        ∀ written, session.lastWriter event.dedupKey = some written →
          written.event.source = event.source ∧
          written.event.eventName = event.eventName ∧
          written.accepted = true
  | .cleanup _ => True

theorem ShimEvent.severity_of_dedupKey {first second : ShimEvent}
    (key : first.dedupKey = second.dedupKey) (source : first.source = second.source)
    (name : first.eventName = second.eventName) : first.severity = second.severity := by
  have texts : first.severityStr = second.severityStr := by
    rw [dedupKey, dedupKey, source, name] at key
    exact String.append_right_inj _ |>.mp key
  simp only [severityStr] at texts
  cases left : first.severity <;> cases right : second.severity <;> simp [left, right] at texts ⊢

theorem ShimEvent.dedupKey_congr {first second : ShimEvent}
    (source : first.source = second.source) (name : first.eventName = second.eventName)
    (severity : first.severity = second.severity) : first.dedupKey = second.dedupKey := by
  rw [dedupKey, dedupKey, source, name, severityStr, severityStr, severity]

/-! ## The cache and the history -/

/-- The cache speaks of the last writer of each key; whatever it does not hold
has left the window. -/
structure Session.Tracked (session : Session) : Prop where
  past : ∀ written ∈ session.processed, written.recordedAt ≤ session.clock
  cached : ∀ key seen, session.manager.dedupCache key = some seen →
    ∃ written, session.lastWriter key = some written ∧ written.recordedAt = seen
  expired : ∀ written ∈ session.processed,
    session.lastWriter written.event.dedupKey = some written ∧
        session.manager.dedupCache written.event.dedupKey = some written.recordedAt ∨
      written.recordedAt + session.manager.dedupWindow ≤ session.clock

namespace Session

variable {session : Session} {event : ShimEvent} {checkedAt recordedAt now : Nat}
variable {deliveries : Nat → Delivery} {key : String}

theorem lastWriter_spec {written : Processed} (last : session.lastWriter key = some written) :
    written ∈ session.processed ∧ written.event.dedupKey = key :=
  ⟨List.mem_of_find?_eq_some last, by simpa using List.find?_some last⟩

/-- Outside the window, what the key's records say has expired. -/
theorem Tracked.expired_of_not_duplicate (tracked : session.Tracked)
    (passes : session.manager.isDuplicate key now = false) (later : session.clock ≤ now) :
    ∀ written ∈ session.processed, written.event.dedupKey = key →
      written.recordedAt + session.manager.dedupWindow ≤ now := by
  intro written member same
  rcases tracked.expired written member with ⟨_, held⟩ | gone
  · have young : ¬ now - written.recordedAt < session.manager.dedupWindow := by
      intro young
      have duplicate := AlertManager.isDuplicate_iff.mpr ⟨_, same ▸ held, young⟩
      rw [passes] at duplicate
      cases duplicate
    have past := tracked.past written member
    omega
  · omega

theorem process_dedupWindow :
    (session.process event checkedAt recordedAt deliveries).manager.dedupWindow =
      session.manager.dedupWindow :=
  AlertManager.processEvent_dedupWindow _ _ _ _ _

theorem Tracked.process_skipped (tracked : session.Tracked)
    (skipped : (session.manager.admits event &&
      !session.manager.isDuplicate event.dedupKey checkedAt) = false)
    (forward : session.clock ≤ recordedAt) :
    (session.process event checkedAt recordedAt deliveries).Tracked := by
  have cache : (session.process event checkedAt recordedAt deliveries).manager.dedupCache =
      session.manager.dedupCache := by
    simp [process, AlertManager.processEvent_dedupCache, skipped]
  have history : (session.process event checkedAt recordedAt deliveries).processed =
      session.processed := by
    simp [process, skipped]
  refine ⟨?_, ?_, ?_⟩
  · intro written member
    exact (tracked.past written (history ▸ member)).trans forward
  · intro key seen held
    rw [lastWriter, history]
    exact tracked.cached key seen (cache ▸ held)
  · intro written member
    rw [lastWriter, history, cache, process_dedupWindow]
    exact (tracked.expired written (history ▸ member)).imp id fun gone => gone.trans forward

theorem Tracked.process_recorded (tracked : session.Tracked)
    (admitted : session.manager.admits event = true)
    (passes : session.manager.isDuplicate event.dedupKey checkedAt = false)
    (later : session.clock ≤ checkedAt) (ordered : checkedAt ≤ recordedAt) :
    (session.process event checkedAt recordedAt deliveries).Tracked := by
  have cache : (session.process event checkedAt recordedAt deliveries).manager.dedupCache =
      Function.update session.manager.dedupCache event.dedupKey (some recordedAt) := by
    simp [process, AlertManager.processEvent_dedupCache, admitted, passes]
  have history : (session.process event checkedAt recordedAt deliveries).processed =
      ⟨event, recordedAt, session.manager.delivered event deliveries⟩ :: session.processed := by
    simp [process, admitted, passes]
  have other : ∀ key, key ≠ event.dedupKey →
      (session.process event checkedAt recordedAt deliveries).lastWriter key =
        session.lastWriter key := by
    intro key different
    rw [lastWriter, history, List.find?_cons_of_neg (by simpa using Ne.symm different)]
    rfl
  have own : (session.process event checkedAt recordedAt deliveries).lastWriter event.dedupKey =
      some ⟨event, recordedAt, session.manager.delivered event deliveries⟩ := by
    rw [lastWriter, history, List.find?_cons_of_pos (by simp)]
  have clock : (session.process event checkedAt recordedAt deliveries).clock = recordedAt := rfl
  refine ⟨?_, ?_, ?_⟩
  · intro written member
    rw [history] at member
    rcases List.mem_cons.mp member with rfl | member
    · exact Nat.le_refl _
    · have past := tracked.past written member
      omega
  · intro key seen held
    rw [cache] at held
    by_cases same : key = event.dedupKey
    · subst same
      rw [Function.update_self] at held
      exact ⟨_, own, Option.some.inj held⟩
    · rw [Function.update_of_ne same] at held
      rw [other key same]
      exact tracked.cached key seen held
  · intro written member
    rw [history] at member
    rw [cache, process_dedupWindow, clock]
    rcases List.mem_cons.mp member with rfl | member
    · exact .inl ⟨own, Function.update_self _ _ _⟩
    · by_cases same : written.event.dedupKey = event.dedupKey
      · have gone := tracked.expired_of_not_duplicate passes later written member same
        exact .inr (by omega)
      · rw [other _ same, Function.update_of_ne same]
        exact (tracked.expired written member).imp id fun gone => by omega

theorem Tracked.cleanup (tracked : session.Tracked) (later : session.clock ≤ now) :
    Tracked { session with manager := session.manager.cleanupDedupCache now, clock := now } := by
  refine ⟨?_, ?_, ?_⟩
  · intro written member
    exact (tracked.past written member).trans later
  · intro key seen held
    exact tracked.cached key seen (Option.eq_some_of_filter_eq_some held)
  · intro written member
    rcases tracked.expired written member with ⟨last, held⟩ | gone
    · by_cases young : now - written.recordedAt < session.manager.dedupWindow
      · refine .inl ⟨last, ?_⟩
        change (session.manager.dedupCache _).filter _ = _
        rw [held, Option.filter_some]
        simp [young]
      · have past := tracked.past written member
        refine .inr ?_
        change written.recordedAt + session.manager.dedupWindow ≤ now
        omega
    · exact .inr (gone.trans later)

theorem Tracked.step {next : Session} {label : Label} (tracked : session.Tracked)
    (taken : machine.step session label = some next) : next.Tracked := by
  cases label with
  | process event checkedAt recordedAt deliveries =>
      obtain ⟨⟨later, ordered⟩, reached⟩ := Option.ite_none_right_eq_some.mp taken
      cases reached
      by_cases recorded : session.manager.admits event = true ∧
          session.manager.isDuplicate event.dedupKey checkedAt = false
      · exact tracked.process_recorded recorded.1 recorded.2 later ordered
      · exact tracked.process_skipped (by simpa using recorded) (later.trans ordered)
  | cleanup now =>
      obtain ⟨later, reached⟩ := Option.ite_none_right_eq_some.mp taken
      cases reached
      exact tracked.cleanup later

/-- Only the last writer of a key is young enough to justify a suppression. -/
theorem Tracked.justified_iff (tracked : session.Tracked) {label : Label} {next : Session}
    (taken : machine.step session label = some next) :
    Justified session label ↔ Backed session label := by
  cases label with
  | cleanup now => exact Iff.rfl
  | process event checkedAt recordedAt deliveries =>
      obtain ⟨⟨later, _⟩, _⟩ := Option.ite_none_right_eq_some.mp taken
      refine ⟨fun justified suppressed => ?_, fun backed suppressed => ?_⟩
      · intro last isLast
        obtain ⟨written, member, source, name, severity, accepted, _, young⟩ :=
          justified suppressed
        have key : written.event.dedupKey = event.dedupKey :=
          ShimEvent.dedupKey_congr source name severity
        rcases tracked.expired written member with ⟨held, _⟩ | gone
        · obtain rfl : written = last := by
            rw [key, isLast] at held
            exact (Option.some.inj held).symm
          exact ⟨source, name, accepted⟩
        · omega
      · obtain ⟨seen, held, young⟩ := AlertManager.isDuplicate_iff.mp suppressed.2
        obtain ⟨written, last, rfl⟩ := tracked.cached _ _ held
        obtain ⟨member, key⟩ := lastWriter_spec last
        obtain ⟨source, name, accepted⟩ := backed suppressed written last
        exact ⟨written, member, source, name, ShimEvent.severity_of_dedupKey key source name,
          accepted, (tracked.past written member).trans later, young⟩

end Session

/-- The manager as configured, before its first event. -/
def Session.start (webhooks : List AlertManagerWebhook) (minSeverity : Severity)
    (dedupWindow : Nat) : Session where
  manager := { webhooks, minSeverity, dedupWindow }

theorem Session.start_tracked (webhooks : List AlertManagerWebhook) (minSeverity : Severity)
    (dedupWindow : Nat) : (Session.start webhooks minSeverity dedupWindow).Tracked where
  past written member := by cases member
  cached key seen held := by cases held
  expired written member := by cases member

/-- Every suppression of a run is justified exactly when each rests on a record
whose writer was accepted somewhere. -/
theorem suppressions_justified_iff (webhooks : List AlertManagerWebhook) (minSeverity : Severity)
    (dedupWindow : Nat) (labels : List Label) :
    machine.Along Justified (.start webhooks minSeverity dedupWindow) labels ↔
      machine.Along Backed (.start webhooks minSeverity dedupWindow) labels :=
  Machine.along_iff_along Session.Tracked
    (fun _ _ _ tracked taken => tracked.justified_iff taken)
    (fun _ _ _ tracked _ taken => tracked.step taken)
    (Session.start_tracked webhooks minSeverity dedupWindow)

/-- One webhook, which refuses the connection at the first backup failure; the
next failure a second later is dropped, and no webhook has heard of either. -/
theorem suppression_unjustified :
    ¬ machine.Along Justified
      (.start [⟨"pager", "http://pager:9093", .warning⟩] .info (300 * 10 ^ 9))
      [.process ⟨"backup-shim", .backupFailed, .error⟩ 0 0 fun _ => .error,
        .process ⟨"backup-shim", .backupFailed, .error⟩ (10 ^ 9) (10 ^ 9) fun _ => .response 200] := by
  intro along
  obtain ⟨_, along⟩ := along _ rfl
  obtain ⟨justified, _⟩ := along _ rfl
  obtain ⟨written, member, _, _, _, accepted, _⟩ := justified (by decide +kernel)
  obtain rfl := List.mem_singleton.mp member
  cases accepted

end Evergreen.Alerting
