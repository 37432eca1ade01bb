import Evergreen.Bus.Event

namespace Evergreen.Wiring

/-! # From health to failover

The handler counts bad statuses in a row and triggers a failover at the
threshold.  It has one counter for the statuses of every source.
-/

open Bus (ShimEvent Body EventType Severity)

structure HealthFailoverHandler where
  failoverThreshold : UInt32
  unhealthyCount : UInt32 := 0

/-- The arguments of `emit`. -/
structure Emission where
  source : String
  event : EventType
  severity : Severity

def statusOf (event : ShimEvent Body) : Option String :=
  match event.payload.event with
  | .healthStatusChanged _ current => some current
  | _ => none

def isBad (current : String) : Bool :=
  current == "unhealthy" || current == "down"

def Emission.triggered : Emission where
  source := "failover-shim"
  event := .failoverTriggered "primary" "promoted"
  severity := .critical

/-- One turn of the loop that receives an event. -/
def HealthFailoverHandler.handle (handler : HealthFailoverHandler) (event : ShimEvent Body) :
    HealthFailoverHandler × Option Emission :=
  match statusOf event with
  | none => (handler, none)
  | some current =>
      if isBad current then
        let count := handler.unhealthyCount + 1
        if handler.failoverThreshold ≤ count then
          ({ handler with unhealthyCount := 0 }, some .triggered)
        else ({ handler with unhealthyCount := count }, none)
      else ({ handler with unhealthyCount := 0 }, none)

/-! ## Statuses in a row -/

structure Seen where
  event : ShimEvent Body
  triggers : Bool

/-- The bad statuses of these sources since their last other status or the last
trigger at one of them; the latest event is the first. -/
def streak (among : String → Bool) : List Seen → Nat
  | [] => 0
  | seen :: earlier =>
      if among seen.event.source then
        match statusOf seen.event with
        | none => streak among earlier
        | some current => if isBad current && !seen.triggers then streak among earlier + 1 else 0
      else streak among earlier

def streakOf (source : String) (history : List Seen) : Nat :=
  streak (· == source) history

structure Watched where
  handler : HealthFailoverHandler
  history : List Seen := []

def Watched.receive (watched : Watched) (event : ShimEvent Body) : Watched :=
  let (handler, emitted) := watched.handler.handle event
  { handler, history := ⟨event, emitted.isSome⟩ :: watched.history }

def wiring : Machine Watched (ShimEvent Body) := .ofFunction Watched.receive

/-- The event is a bad status that completes the threshold for its source. -/
def Completes (watched : Watched) (event : ShimEvent Body) : Prop :=
  ∃ current, statusOf event = some current ∧ isBad current = true ∧
    watched.handler.failoverThreshold.toNat ≤ streakOf event.source watched.history + 1

/-- The handler triggers a failover at the events that complete the threshold
for their source, and at no other. -/
def Triggers (watched : Watched) (event : ShimEvent Body) : Prop :=
  (watched.handler.handle event).2 = some .triggered ∧ Completes watched event ∨
    (watched.handler.handle event).2 = none ∧ ¬ Completes watched event

/-- A bad status completes the threshold for all sources together exactly when
it does for its own. -/
def CountsAlike (watched : Watched) (event : ShimEvent Body) : Prop :=
  ∀ current, statusOf event = some current → isBad current = true →
    (watched.handler.failoverThreshold.toNat ≤ streak (fun _ => true) watched.history + 1 ↔
      watched.handler.failoverThreshold.toNat ≤ streakOf event.source watched.history + 1)

/-- A status arrives when no other source has bad statuses in a row. -/
def OneAtATime (watched : Watched) (event : ShimEvent Body) : Prop :=
  statusOf event ≠ none → ∀ other ≠ event.source, streakOf other watched.history = 0

/-! ## The shared counter -/

variable {watched : Watched} {event : ShimEvent Body} {among : String → Bool} {current : String}
variable {seen : Seen} {history : List Seen}

theorem streak_other (outside : among seen.event.source = false) :
    streak among (seen :: history) = streak among history := by
  simp [streak, outside]

theorem streak_silent (silent : statusOf seen.event = none) :
    streak among (seen :: history) = streak among history := by
  simp [streak, silent]

theorem streak_status (inside : among seen.event.source = true)
    (status : statusOf seen.event = some current) :
    streak among (seen :: history) =
      if isBad current && !seen.triggers then streak among history + 1 else 0 := by
  simp [streak, inside, status]

/-- The counter is the streak over all sources, and is below the threshold. -/
structure Counts (watched : Watched) : Prop where
  count : watched.handler.unhealthyCount.toNat = streak (fun _ => true) watched.history
  below : streak (fun _ => true) watched.history = 0 ∨
    streak (fun _ => true) watched.history < watched.handler.failoverThreshold.toNat

theorem Counts.increment (counts : Counts watched) :
    (watched.handler.unhealthyCount + 1).toNat = streak (fun _ => true) watched.history + 1 := by
  have bound := watched.handler.failoverThreshold.toNat_lt
  have small : streak (fun _ => true) watched.history + 1 < 2 ^ 32 := by
    rcases counts.below with none | below <;> omega
  rw [UInt32.toNat_add, counts.count]
  exact Nat.mod_eq_of_lt small

/-- At a bad status the handler triggers when the streak over all sources is long enough. -/
theorem Counts.handle_bad (counts : Counts watched) (status : statusOf event = some current)
    (bad : isBad current = true) :
    watched.handler.handle event =
      if watched.handler.failoverThreshold.toNat ≤ streak (fun _ => true) watched.history + 1 then
        ({ watched.handler with unhealthyCount := 0 }, some .triggered)
      else ({ watched.handler with unhealthyCount := watched.handler.unhealthyCount + 1 }, none) := by
  simp only [HealthFailoverHandler.handle, status, bad, if_true, UInt32.le_iff_toNat_le,
    counts.increment]

theorem handle_good (status : statusOf event = some current) (good : isBad current = false) :
    watched.handler.handle event = ({ watched.handler with unhealthyCount := 0 }, none) := by
  simp [HealthFailoverHandler.handle, status, good]

theorem handle_silent (silent : statusOf event = none) :
    watched.handler.handle event = (watched.handler, none) := by
  simp [HealthFailoverHandler.handle, silent]

theorem receive_eq {handler : HealthFailoverHandler} {emitted : Option Emission}
    (handled : watched.handler.handle event = (handler, emitted)) :
    watched.receive event = { handler, history := ⟨event, emitted.isSome⟩ :: watched.history } := by
  rw [Watched.receive, handled]

/-- What an event may do to the handler. -/
inductive Turn (watched : Watched) (event : ShimEvent Body) : Watched → Prop where
  | silent (status : statusOf event = none) :
      Turn watched event { watched with history := ⟨event, false⟩ :: watched.history }
  | good (current : String) (status : statusOf event = some current) (good : isBad current = false) :
      Turn watched event
        { handler := { watched.handler with unhealthyCount := 0 }
          history := ⟨event, false⟩ :: watched.history }
  | triggers (current : String) (status : statusOf event = some current) (bad : isBad current = true)
      (reached : watched.handler.failoverThreshold.toNat ≤
        streak (fun _ => true) watched.history + 1) :
      Turn watched event
        { handler := { watched.handler with unhealthyCount := 0 }
          history := ⟨event, true⟩ :: watched.history }
  | counts (current : String) (status : statusOf event = some current) (bad : isBad current = true)
      (below : streak (fun _ => true) watched.history + 1 < watched.handler.failoverThreshold.toNat) :
      Turn watched event
        { handler := { watched.handler with unhealthyCount := watched.handler.unhealthyCount + 1 }
          history := ⟨event, false⟩ :: watched.history }

theorem Counts.turn (counts : Counts watched) (event : ShimEvent Body) :
    Turn watched event (watched.receive event) := by
  cases status : statusOf event with
  | none =>
      rw [receive_eq (handle_silent status)]
      exact .silent status
  | some current =>
      cases bad : isBad current with
      | false =>
          rw [receive_eq (handle_good status bad)]
          exact .good current status bad
      | true =>
          have handled := counts.handle_bad status bad
          by_cases reached : watched.handler.failoverThreshold.toNat ≤
              streak (fun _ => true) watched.history + 1
          · rw [receive_eq (handled.trans (if_pos reached))]
            exact .triggers current status bad reached
          · rw [receive_eq (handled.trans (if_neg reached))]
            exact .counts current status bad (Nat.lt_of_not_le reached)

theorem Counts.receive (counts : Counts watched) (event : ShimEvent Body) :
    Counts (watched.receive event) := by
  have increment := counts.increment
  have turn := counts.turn event
  generalize watched.receive event = next at turn ⊢
  cases turn with
  | silent status =>
      refine ⟨?_, ?_⟩
      · rw [streak_silent status]
        exact counts.count
      · rw [streak_silent status]
        exact counts.below
  | good current status good =>
      have none := @streak_status (fun _ => true) current ⟨event, false⟩ watched.history rfl status
      rw [good] at none
      exact ⟨none.symm, .inl none⟩
  | triggers current status bad reached =>
      have none := @streak_status (fun _ => true) current ⟨event, true⟩ watched.history rfl status
      rw [bad] at none
      exact ⟨none.symm, .inl none⟩
  | counts current status bad below =>
      have longer := @streak_status (fun _ => true) current ⟨event, false⟩ watched.history rfl status
      rw [bad] at longer
      exact ⟨increment.trans longer.symm, .inr (longer.trans_lt below)⟩

theorem Counts.triggers_iff (counts : Counts watched) (event : ShimEvent Body) :
    Triggers watched event ↔ CountsAlike watched event := by
  cases status : statusOf event with
  | none =>
      have silent : watched.handler.handle event = (watched.handler, none) := handle_silent status
      simp [Triggers, Completes, CountsAlike, status, silent]
  | some current =>
      cases bad : isBad current with
      | false =>
          have good : watched.handler.handle event =
              ({ watched.handler with unhealthyCount := 0 }, none) := handle_good status bad
          simp [Triggers, Completes, CountsAlike, status, good, bad]
      | true =>
          have handled := counts.handle_bad status bad
          by_cases reached : watched.handler.failoverThreshold.toNat ≤
              streak (fun _ => true) watched.history + 1
          · rw [if_pos reached] at handled
            simp [Triggers, Completes, CountsAlike, status, bad, handled, reached]
          · rw [if_neg reached] at handled
            simp [Triggers, Completes, CountsAlike, status, bad, handled, reached]

/-! ## One source at a time -/

/-- A source with bad statuses in a row has all there are. -/
structure Alone (watched : Watched) : Prop where
  all : ∀ source, streakOf source watched.history ≠ 0 →
    streakOf source watched.history = streak (fun _ => true) watched.history
  quiet : (∀ source, streakOf source watched.history = 0) →
    streak (fun _ => true) watched.history = 0

theorem Alone.own (alone : Alone watched) (one : OneAtATime watched event)
    (status : statusOf event ≠ none) :
    streakOf event.source watched.history = streak (fun _ => true) watched.history := by
  by_cases own : streakOf event.source watched.history = 0
  · rw [own, alone.quiet]
    intro source
    by_cases same : source = event.source
    · rw [same, own]
    · exact one status source same
  · exact alone.all event.source own

theorem Alone.countsAlike (alone : Alone watched) (one : OneAtATime watched event) :
    CountsAlike watched event := by
  intro current status bad
  rw [alone.own one (by simp [status])]

theorem streakOf_other {source : String} (differs : seen.event.source ≠ source) :
    streakOf source (seen :: history) = streakOf source history :=
  streak_other (by simpa using differs)

/-- After a status every other source is still without bad statuses in a row,
and the source has what there is over all. -/
theorem Alone.of_status (one : ∀ other ≠ seen.event.source, streakOf other history = 0)
    (same : streakOf seen.event.source (seen :: history) =
      streak (fun _ => true) (seen :: history)) {handler : HealthFailoverHandler} :
    Alone { handler, history := seen :: history } := by
  refine ⟨fun source streaks => ?_, fun none => same.symm.trans (none seen.event.source)⟩
  by_cases own : source = seen.event.source
  · rw [own]
    exact same
  · exact absurd ((streakOf_other (Ne.symm own)).trans (one source own)) streaks

theorem Alone.receive (alone : Alone watched) (counts : Counts watched)
    (one : OneAtATime watched event) : Alone (watched.receive event) := by
  have alike : ∀ current triggers, statusOf event = some current →
      streakOf event.source (⟨event, triggers⟩ :: watched.history) =
        streak (fun _ => true) (⟨event, triggers⟩ :: watched.history) := by
    intro current triggers status
    rw [streakOf, streak_status (by simp) status, streak_status rfl status]
    rw [← alone.own one (by simp [status])]
    rfl
  have turn := counts.turn event
  generalize watched.receive event = next at turn ⊢
  cases turn with
  | silent status =>
      refine ⟨fun source => ?_, fun none => ?_⟩
      · rw [streakOf, streak_silent status, streak_silent status]
        exact alone.all source
      · rw [streak_silent status]
        refine alone.quiet fun source => ?_
        have still := none source
        rw [streakOf, streak_silent status] at still
        exact still
  | good current status good => exact .of_status (one (by simp [status])) (alike current false status)
  | triggers current status bad reached =>
      exact .of_status (one (by simp [status])) (alike current true status)
  | counts current status bad below =>
      exact .of_status (one (by simp [status])) (alike current false status)

/-- A handler that has received nothing. -/
def Watched.start (failoverThreshold : UInt32) : Watched where
  handler := { failoverThreshold }

theorem counts_start (failoverThreshold : UInt32) : Counts (.start failoverThreshold) :=
  ⟨rfl, .inl rfl⟩

theorem alone_start (failoverThreshold : UInt32) : Alone (.start failoverThreshold) :=
  ⟨fun _ streaks => absurd rfl streaks, fun _ => rfl⟩

/-- The handler triggers for each source by itself exactly when the count over
all sources and the source's own complete the threshold together, as they do
where one source at a time has bad statuses in a row. -/
theorem triggers_iff_countsAlike (failoverThreshold : UInt32) (events : List (ShimEvent Body)) :
    (wiring.Along Triggers (.start failoverThreshold) events ↔
        wiring.Along CountsAlike (.start failoverThreshold) events) ∧
      (wiring.Along OneAtATime (.start failoverThreshold) events →
        wiring.Along CountsAlike (.start failoverThreshold) events) := by
  constructor
  · exact Machine.along_ofFunction_iff_along Counts (fun _ event counts => counts.triggers_iff event)
      (fun _ event counts _ => counts.receive event) (counts_start failoverThreshold)
  · intro one
    have both : wiring.Along (fun watched event => OneAtATime watched event ∧ CountsAlike watched event)
        (.start failoverThreshold) events := by
      refine (Machine.along_ofFunction_iff_along (fun watched => Counts watched ∧ Alone watched)
        ?_ ?_ ⟨counts_start failoverThreshold, alone_start failoverThreshold⟩).mpr one
      · intro watched event ⟨_, alone⟩
        exact ⟨And.left, fun one => ⟨one, alone.countsAlike one⟩⟩
      · intro watched event ⟨counts, alone⟩ one
        exact ⟨counts.receive event, alone.receive counts one⟩
    exact (Machine.along_and.mp both).2

def status (source current : String) : ShimEvent Body where
  source := source
  sequence := 0
  payload := { event := .healthStatusChanged "healthy" current, severity := .warning }

/-- A second source reports that it is well between two failures of the first. -/
def interleaved : List (ShimEvent Body) :=
  [status "health-shim" "unhealthy", status "proxy-shim" "healthy", status "health-shim" "unhealthy"]

theorem other_source_resets : ¬ wiring.Along Triggers (.start 2) interleaved := by
  intro along
  obtain ⟨_, along⟩ := along _ rfl
  obtain ⟨_, along⟩ := along _ rfl
  obtain ⟨triggers, _⟩ := along _ rfl
  rcases triggers with ⟨emitted, _⟩ | ⟨_, incomplete⟩
  · cases emitted
  · exact incomplete ⟨"unhealthy", rfl, rfl, by decide⟩

end Evergreen.Wiring
