import Evergreen.Cdc.Accounting
import Evergreen.Cdc.Redis
import Evergreen.Machine.Changes

namespace Evergreen.Cdc

/-! # Snapshots and the events between them

A poll sees a snapshot of the key space.  Its events are meant to lead from the
last snapshot to this one; they never say that a key is gone.
-/

/-- What an event says to have changed in the recorded state. -/
def CdcEvent.change? (event : CdcEvent RedisValue) : Option (Change String String) :=
  match event.operation, event.before, event.after with
  | .insert, none, some (.entry key valType ttl) => some (.insert key (checksum valType ttl))
  | .update, some (.checksum before), some (.entry key valType ttl) =>
      some (.update key before (checksum valType ttl))
  | .delete, some (.entry key _ _), none => some (.delete key)
  | _, _, _ => none

/-- The readings of a scan, up to the page that ends it. -/
def scanned : List Page → List Reading
  | [] => []
  | page :: pages => page.readings ++ if page.cursor = 0 then [] else scanned pages

def Reading.recorded (reading : Reading) : String × String :=
  (reading.key, checksum reading.valType reading.ttl)

def Poll.recorded (poll : Poll) : List (String × String) :=
  (poll.scans.flatMap scanned).map Reading.recorded

/-- The keys a poll came across, with the state it read last. -/
def Poll.snapshot (poll : Poll) : String → Option String := readStore poll.recorded

/-- The loop together with the snapshot of its last poll. -/
structure Watched where
  cdc : RedisCdc
  snapshot : String → Option String := fun _ => none

namespace Watched

def poll (watched : Watched) (poll : Poll) : Watched where
  cdc := watched.cdc.poll poll
  snapshot := poll.snapshot

variable (watched : Watched) (poll : Poll)

/-- The events a poll captures. -/
def captured : List (CdcEvent RedisValue) :=
  (watched.cdc.scan poll.scans).shim.pendingEvents.drop watched.cdc.shim.pendingEvents.length

/-- Replaying the captured events on the last snapshot yields the new one. -/
def Faithful : Prop :=
  ((watched.captured poll).mapM CdcEvent.change?).bind (replay watched.snapshot) =
    some poll.snapshot

/-- No key of the last snapshot is gone; where the table filter leaves out the
events, nothing has changed at all. -/
def Retained : Prop :=
  if watched.cdc.shim.shouldCapture "redis" then
    ∀ key, watched.snapshot key ≠ none → poll.snapshot key ≠ none
  else poll.snapshot = watched.snapshot

end Watched

def polls : Machine Watched Poll := .ofFunction Watched.poll

/-! ## One scan -/

namespace RedisCdc

variable {cdc before middle after : RedisCdc} {first second readings : List Reading}

/-- The checksums take the readings over, and the events captured on the way are
their differences. -/
structure Follows (before after : RedisCdc) (readings : List Reading) : Prop where
  prevChecksums : after.prevChecksums =
    overwrite before.prevChecksums (readings.map Reading.recorded)
  filter : after.shim.shouldCapture = before.shim.shouldCapture
  pending : ∃ events, after.shim.pendingEvents = before.shim.pendingEvents ++ events ∧
    if before.shim.shouldCapture "redis" then
      events.mapM CdcEvent.change? =
        some (differences before.prevChecksums (readings.map Reading.recorded))
    else events = []

theorem Follows.refl : Follows cdc cdc [] where
  prevChecksums := rfl
  filter := rfl
  pending := ⟨[], (List.append_nil _).symm, by split <;> rfl⟩

theorem Follows.trans (earlier : Follows before middle first) (later : Follows middle after second) :
    Follows before after (first ++ second) := by
  obtain ⟨events, pending, changes⟩ := earlier.pending
  obtain ⟨more, appended, follow⟩ := later.pending
  refine ⟨?_, later.filter.trans earlier.filter, events ++ more, ?_, ?_⟩
  · rw [later.prevChecksums, earlier.prevChecksums, List.map_append, overwrite_append]
  · rw [appended, pending, List.append_assoc]
  · rw [earlier.filter] at follow
    split
    · rename_i captures
      rw [if_pos captures] at changes follow
      rw [earlier.prevChecksums] at follow
      rw [List.mapM_append, changes, follow, List.map_append, differences_append]
      rfl
    · rename_i captures
      rw [if_neg captures] at changes follow
      rw [changes, follow, List.append_nil]

theorem event_change (reading : Reading)
    (differs : cdc.prevChecksums reading.key ≠ some reading.recorded.2) :
    ∃ change, (cdc.event reading).change? = some change ∧
      difference cdc.prevChecksums reading.key reading.recorded.2 = some change := by
  unfold difference CdcEvent.change? RedisCdc.event
  cases held : cdc.prevChecksums reading.key with
  | none => exact ⟨.insert reading.key reading.recorded.2, by simp [Reading.recorded], rfl⟩
  | some before =>
      have changed : before ≠ reading.recorded.2 := fun same => differs (by rw [held, same])
      exact ⟨.update reading.key before reading.recorded.2, by simp [Reading.recorded],
        if_neg changed⟩

theorem follows_visit (reading : Reading) : Follows cdc (cdc.visit reading) [reading] := by
  by_cases same : cdc.prevChecksums reading.key = some reading.recorded.2
  · have kept : cdc.visit reading = cdc := if_neg (not_not.mpr same)
    have unchanged : Function.update cdc.prevChecksums reading.key (some reading.recorded.2) =
        cdc.prevChecksums := by
      rw [← same, Function.update_eq_self]
    have silent : difference cdc.prevChecksums reading.key reading.recorded.2 = none := by
      simp [difference, same]
    rw [kept]
    refine ⟨unchanged.symm, rfl, [], (List.append_nil _).symm, ?_⟩
    split
    · have nothing : differences cdc.prevChecksums ([reading].map Reading.recorded) = [] := by
        change (difference cdc.prevChecksums reading.key reading.recorded.2).toList ++ [] = []
        rw [silent]
        rfl
      rw [nothing]
      rfl
    · rfl
  · obtain ⟨change, told, shown⟩ := event_change reading same
    have visited : cdc.visit reading =
        { shim := (cdc.shim.capture (cdc.event reading)).1
          prevChecksums :=
            Function.update cdc.prevChecksums reading.key (some reading.recorded.2) } :=
      if_pos same
    rw [visited]
    cases captures : cdc.shim.shouldCapture "redis" with
    | true =>
        have taken : cdc.shim.capture (cdc.event reading) = _ := if_pos captures
        rw [taken]
        refine ⟨rfl, rfl, _, rfl, ?_⟩
        rw [if_pos captures]
        have alone : differences cdc.prevChecksums ([reading].map Reading.recorded) = [change] := by
          change (difference cdc.prevChecksums reading.key reading.recorded.2).toList ++ [] = [change]
          rw [shown]
          rfl
        have told : CdcEvent.change? { cdc.event reading with lsn := cdc.shim.walPosition.lsn } =
            some change := told
        rw [alone, List.mapM_cons, told]
        rfl
    | false =>
        have taken : cdc.shim.capture (cdc.event reading) = (cdc.shim, false) :=
          if_neg (by simp [RedisCdc.event, captures])
        rw [taken]
        exact ⟨rfl, rfl, [], (List.append_nil _).symm, by simp [captures]⟩

theorem follows_visits (readings : List Reading) :
    Follows cdc (readings.foldl visit cdc) readings := by
  induction readings generalizing cdc with
  | nil => exact .refl
  | cons reading readings ih => exact (follows_visit reading).trans ih

theorem scanPattern_eq (cdc : RedisCdc) (pages : List Page) :
    cdc.scanPattern pages = (scanned pages).foldl visit cdc := by
  induction pages generalizing cdc with
  | nil => rfl
  | cons page pages ih =>
      rw [scanPattern, scanned]
      by_cases last : page.cursor = 0
      · rw [if_pos last, if_pos last, List.append_nil]
      · rw [if_neg last, if_neg last, List.foldl_append]
        exact ih _

theorem scan_eq (cdc : RedisCdc) (scans : List (List Page)) :
    cdc.scan scans = (scans.flatMap scanned).foldl visit cdc := by
  rw [scan]
  induction scans generalizing cdc with
  | nil => rfl
  | cons pages rest ih =>
      rw [List.foldl_cons, List.flatMap_cons, List.foldl_append, ← scanPattern_eq]
      exact ih _

theorem follows_scan (scans : List (List Page)) :
    Follows cdc (cdc.scan scans) (scans.flatMap scanned) := by
  rw [scan_eq]
  exact follows_visits _

end RedisCdc

/-! ## Runs of polls -/

namespace Watched

variable {watched : Watched} {poll : Poll}

/-- The checksums are the last snapshot, as far as events are captured. -/
def Tracks (watched : Watched) : Prop :=
  watched.cdc.shim.shouldCapture "redis" = true → watched.cdc.prevChecksums = watched.snapshot

theorem poll_shouldCapture :
    (watched.poll poll).cdc.shim.shouldCapture = watched.cdc.shim.shouldCapture :=
  (CdcShim.publishBatch_shouldCapture).trans (RedisCdc.follows_scan poll.scans).filter

/-- The captured events lead from the last snapshot to that snapshot overwritten
by the readings. -/
theorem Tracks.replay_captured (tracks : watched.Tracks) :
    ((watched.captured poll).mapM CdcEvent.change?).bind (replay watched.snapshot) =
      some (if watched.cdc.shim.shouldCapture "redis" then
        overwrite watched.snapshot poll.recorded else watched.snapshot) := by
  obtain ⟨events, pending, told⟩ := (@RedisCdc.follows_scan watched.cdc poll.scans).pending
  have captured : watched.captured poll = events := by
    rw [Watched.captured, pending, List.drop_left]
  rw [captured]
  by_cases captures : watched.cdc.shim.shouldCapture "redis" = true
  · rw [if_pos captures] at told ⊢
    rw [told, tracks captures]
    exact replay_differences _
  · rw [if_neg captures] at told ⊢
    rw [told]
    rfl

theorem Tracks.faithful_iff (tracks : watched.Tracks) :
    watched.Faithful poll ↔ watched.Retained poll := by
  rw [Faithful, Retained, tracks.replay_captured, Option.some_inj]
  by_cases captures : watched.cdc.shim.shouldCapture "redis" = true
  · rw [if_pos captures, if_pos captures]
    exact overwrite_eq_readStore_iff
  · rw [if_neg captures, if_neg captures]
    exact eq_comm

theorem Tracks.kept (tracks : watched.Tracks) (retained : watched.Retained poll) :
    (watched.poll poll).Tracks := by
  intro captures
  rw [poll_shouldCapture] at captures
  rw [Retained, if_pos captures] at retained
  have follows := (@RedisCdc.follows_scan watched.cdc poll.scans).prevChecksums
  rw [tracks captures] at follows
  exact follows.trans (overwrite_eq_readStore_iff.mpr retained)

/-- A run of polls follows the snapshots exactly when no key is ever gone from
one snapshot to the next. -/
theorem faithful_iff_retained (shim : CdcShim RedisValue) (labels : List Poll) :
    polls.Along Faithful { cdc := { shim } } labels ↔
      polls.Along Retained { cdc := { shim } } labels :=
  Machine.along_ofFunction_iff_along Tracks (fun _ _ tracks => tracks.faithful_iff)
    (fun _ _ tracks retained => tracks.kept retained) fun _ => rfl

/-! ## A key that comes and goes -/

/-- A scan that finds these keys, each a string without an expiry. -/
def finding (keys : List String) : Poll where
  scans := [[⟨0, keys.map fun key => ⟨key, "string", -1, 0, ""⟩⟩]]
  outcomes _ := .delivered
  now := ""

def seen (keys : List String) : Watched :=
  Watched.poll { cdc := { shim := .new "kafka" [] none 100 "" } } (finding keys)

theorem vanished_not_captured :
    (seen ["session"]).snapshot "session" = some "string:-1" ∧
      (finding []).snapshot "session" = none ∧
      (seen ["session"]).captured (finding []) = [] ∧
      ((seen ["session"]).poll (finding [])).captured (finding ["session"]) = [] ∧
      ¬ (seen ["session"]).Faithful (finding []) := by
  have held : (seen ["session"]).snapshot "session" = some "string:-1" := by decide +kernel
  have silent : (seen ["session"]).captured (finding []) = [] := by decide +kernel
  refine ⟨held, by decide +kernel, silent, by decide +kernel, fun faithful => ?_⟩
  rw [Faithful, silent] at faithful
  have same := congrFun (Option.some.inj faithful) "session"
  rw [held] at same
  exact absurd same (by decide +kernel)

end Watched

end Evergreen.Cdc
