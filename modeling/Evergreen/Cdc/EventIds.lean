import Evergreen.Cdc.MariaDb
import Evergreen.Cdc.Postgres
import Evergreen.Cdc.Snapshots

namespace Evergreen.Cdc

/-! # The ids of the events

`create_event` takes its ids from a counter, the three loops take theirs from
the clock, in milliseconds.  Every loop is modelled on a shim of its own: what
they share, the filter apart, does not enter the ids.
-/

/-- What an id is made from; `created` counts the calls of `create_event`. -/
inductive Stamp where
  | created (count : Nat)
  | postgres (millis : Int)
  | mariaDb (millis : Int)
  | redis (millis : Int)
deriving DecidableEq, Repr

def Stamp.eventId : Stamp → String
  | .created count => s!"cdc-{Text.padDecimal 10 (count % 2 ^ 64)}"
  | .postgres millis => s!"pg-cdc-{millis}"
  | .mariaDb millis => s!"mysql-cdc-{millis}"
  | .redis millis => s!"redis-cdc-{millis}"

/-- Two events of one loop are not of the same millisecond, two created ones not
a multiple of `2 ^ 64` calls apart. -/
def Stamp.Apart : Stamp → Stamp → Prop
  | .created first, .created second => first % 2 ^ 64 ≠ second % 2 ^ 64
  | .postgres first, .postgres second => first ≠ second
  | .mariaDb first, .mariaDb second => first ≠ second
  | .redis first, .redis second => first ≠ second
  | _, _ => True

def Reading.stamp (reading : Reading) : Stamp := .redis reading.timestampMillis

/-! ## Equal ids -/

theorem toString_nat_injective {first second : Nat} (same : toString first = toString second) :
    first = second := by
  have digits : Nat.toDigits 10 first = Nat.toDigits 10 second := by
    have chars := congrArg String.toList same
    rwa [Nat.toString_eq_repr, Nat.toString_eq_repr, Nat.toList_repr, Nat.toList_repr] at chars
  have values := congrArg (fun digits => Nat.ofDigitChars 10 digits 0) digits
  simpa only [Nat.ofDigitChars_ten_toDigits] using values

theorem toString_ne_minus (value : Nat) (text : String) : toString value ≠ "-" ++ text := by
  intro same
  have member : '-' ∈ (toString value).toList := by
    rw [same, String.toList_append]
    exact List.mem_append_left _ (by decide)
  rw [Nat.toString_eq_repr, Nat.toList_repr] at member
  have digit := Nat.isDigit_of_mem_toDigits (by decide) (by decide) member
  cases digit

theorem toString_int_injective {first second : Int} (same : toString first = toString second) :
    first = second := by
  cases first with
  | ofNat first =>
      cases second with
      | ofNat second => exact congrArg Int.ofNat (toString_nat_injective same)
      | negSucc second => exact absurd same (toString_ne_minus first _)
  | negSucc first =>
      cases second with
      | ofNat second => exact absurd same.symm (toString_ne_minus second _)
      | negSucc second =>
          have successors : first + 1 = second + 1 :=
            toString_nat_injective ((String.append_right_inj "-").mp same)
          rw [Nat.succ.inj successors]

def Stamp.initial : Stamp → Char
  | .created _ => 'c'
  | .postgres _ => 'p'
  | .mariaDb _ => 'm'
  | .redis _ => 'r'

theorem head_append {start text : String} {letter : Char} {rest : List Char}
    (spelled : start.toList = letter :: rest) : (start ++ text).toList.head? = some letter := by
  rw [String.toList_append, spelled]
  rfl

theorem eventId_initial (stamp : Stamp) : stamp.eventId.toList.head? = some stamp.initial := by
  cases stamp with
  | created count => exact @head_append "cdc-" _ 'c' "dc-".toList (by decide)
  | postgres millis => exact @head_append "pg-cdc-" _ 'p' "g-cdc-".toList (by decide)
  | mariaDb millis => exact @head_append "mysql-cdc-" _ 'm' "ysql-cdc-".toList (by decide)
  | redis millis => exact @head_append "redis-cdc-" _ 'r' "edis-cdc-".toList (by decide)

theorem eventId_ne_of_initial {first second : Stamp} (differs : first.initial ≠ second.initial) :
    first.eventId ≠ second.eventId := by
  intro same
  have letters := eventId_initial first
  rw [same, eventId_initial second] at letters
  exact differs (Option.some.inj letters).symm

theorem eventId_ne_iff {first second : Stamp} :
    first.eventId ≠ second.eventId ↔ first.Apart second := by
  have clock : ∀ (start : String) (one other : Int),
      start ++ toString one ≠ start ++ toString other ↔ one ≠ other := by
    intro start one other
    rw [ne_eq, String.append_right_inj]
    exact not_congr ⟨toString_int_injective, congrArg toString⟩
  cases first with
  | created first =>
      cases second with
      | created second =>
          have counter : Text.padDecimal 10 (first % 2 ^ 64) = Text.padDecimal 10 (second % 2 ^ 64) ↔
              first % 2 ^ 64 = second % 2 ^ 64 := ⟨Text.padDecimal_injective, congrArg _⟩
          exact not_congr ((String.append_right_inj "cdc-").trans counter)
      | _ => exact iff_of_true (eventId_ne_of_initial (by simp [Stamp.initial])) trivial
  | postgres first =>
      cases second with
      | postgres second => exact clock "pg-cdc-" first second
      | _ => exact iff_of_true (eventId_ne_of_initial (by simp [Stamp.initial])) trivial
  | mariaDb first =>
      cases second with
      | mariaDb second => exact clock "mysql-cdc-" first second
      | _ => exact iff_of_true (eventId_ne_of_initial (by simp [Stamp.initial])) trivial
  | redis first =>
      cases second with
      | redis second => exact clock "redis-cdc-" first second
      | _ => exact iff_of_true (eventId_ne_of_initial (by simp [Stamp.initial])) trivial

/-! ## What is captured -/

variable {Value : Type}

def capturedIds (before after : CdcShim Value) : List String :=
  (after.pendingEvents.drop before.pendingEvents.length).map (·.eventId)

/-- The events with these stamps were captured. -/
structure Captures (before after : CdcShim Value) (stamps : List Stamp) : Prop where
  events : ∃ events, after.pendingEvents = before.pendingEvents ++ events ∧
    events.map (·.eventId) = stamps.map Stamp.eventId
  filter : after.shouldCapture = before.shouldCapture

variable {before middle after : CdcShim Value} {stamps more : List Stamp} {stamp : Stamp}

theorem Captures.nothing : Captures before before [] :=
  ⟨⟨[], (List.append_nil _).symm, rfl⟩, rfl⟩

theorem Captures.trans (first : Captures before middle stamps) (second : Captures middle after more) :
    Captures before after (stamps ++ more) := by
  obtain ⟨⟨events, pending, ids⟩, filter⟩ := first
  obtain ⟨⟨later, appended, laterIds⟩, same⟩ := second
  refine ⟨⟨events ++ later, ?_, ?_⟩, same.trans filter⟩
  · rw [appended, pending, List.append_assoc]
  · rw [List.map_append, List.map_append, ids, laterIds]

theorem Captures.capturedIds (captures : Captures before after stamps) :
    capturedIds before after = stamps.map Stamp.eventId := by
  obtain ⟨events, pending, ids⟩ := captures.events
  rw [Cdc.capturedIds, pending, List.drop_left, ids]

theorem captures_capture {event : CdcEvent Value} (stamped : event.eventId = stamp.eventId) :
    Captures before (before.capture event).1
      (if before.shouldCapture event.table then [stamp] else []) := by
  cases allowed : before.shouldCapture event.table with
  | false =>
      rw [CdcShim.capture, allowed]
      exact .nothing
  | true =>
      rw [CdcShim.capture, allowed]
      exact ⟨⟨_, rfl, congrArg (· :: []) stamped⟩, rfl⟩

def Watcher.takes {Key : Type} (watcher : Watcher Value) (sighting : Sighting Key Value) : Bool :=
  watcher.mark < sighting.number && watcher.shim.shouldCapture sighting.table

theorem captures_observe {Key : Type} (watcher : Watcher Value)
    (sighting : Option (Sighting Key Value))
    (stamped : ∀ seen, sighting = some seen → seen.eventId = stamp.eventId) :
    Captures watcher.shim (watcher.observe sighting).shim
      (if sighting.any watcher.takes then [stamp] else []) := by
  cases sighting with
  | none => exact .nothing
  | some seen =>
      rw [Watcher.observe, Option.any_some, Watcher.takes]
      by_cases above : watcher.mark < seen.number
      · rw [if_pos above, decide_eq_true above, Bool.true_and]
        exact captures_capture (stamped seen rfl)
      · rw [if_neg above, decide_eq_false above, Bool.false_and]
        exact .nothing

namespace RedisCdc

def takes (cdc : RedisCdc) (reading : Reading) : Bool :=
  cdc.prevChecksums reading.key ≠ some (checksum reading.valType reading.ttl) &&
    cdc.shim.shouldCapture "redis"

/-- The readings of a scan that lead to an event. -/
def taken (cdc : RedisCdc) : List Reading → List Reading
  | [] => []
  | reading :: rest =>
      (if cdc.takes reading then [reading] else []) ++ (cdc.visit reading).taken rest

theorem captures_visit (cdc : RedisCdc) (reading : Reading) :
    Captures cdc.shim (cdc.visit reading).shim
      (if cdc.takes reading then [reading.stamp] else []) := by
  rw [visit, takes]
  by_cases differs : cdc.prevChecksums reading.key ≠ some (checksum reading.valType reading.ttl)
  · rw [if_pos differs, decide_eq_true differs, Bool.true_and]
    exact captures_capture rfl
  · rw [if_neg differs, decide_eq_false differs, Bool.false_and]
    exact .nothing

theorem captures_visits (cdc : RedisCdc) (readings : List Reading) :
    Captures cdc.shim (readings.foldl visit cdc).shim ((cdc.taken readings).map Reading.stamp) := by
  induction readings generalizing cdc with
  | nil => exact .nothing
  | cons reading rest ih =>
      have first := cdc.captures_visit reading
      have all := first.trans (ih (cdc.visit reading))
      rw [taken, List.map_append, apply_ite (List.map Reading.stamp)]
      exact all

end RedisCdc

/-! ## Runs -/

structure Draft (Value : Type) where
  table : String
  operation : CdcOperation
  before : Option Value
  after : Option Value
  timestamp : String

/-- The counter is a `u64` without overflow checks in release builds. -/
def CdcShim.createEvent (shim : CdcShim Value) (eventCounter : Nat) (draft : Draft Value) :
    Nat × CdcEvent Value :=
  let eventCounter := (eventCounter + 1) % 2 ^ 64
  (eventCounter,
    { eventId := s!"cdc-{Text.padDecimal 10 eventCounter}"
      lsn := shim.walPosition.lsn
      timestamp := draft.timestamp
      table := draft.table
      operation := draft.operation
      before := draft.before
      after := draft.after
      published := false })

/-- The ids of all captured events, with the number of the calls of
`create_event` and what the ids were made from. -/
structure Mixed (Value : Type) where
  shim : CdcShim Value
  eventCounter : Nat
  postgres : Watcher PgValue
  mariaDb : Watcher BinlogValue
  redis : RedisCdc
  ids : List String
  created : Nat
  stamps : List Stamp

/-- The caller may drop the event it created.  A loop that is started again
begins with its variables reset. -/
inductive MixedCall (Value : Type) where
  | create (draft : Draft Value) (kept : Bool)
  | startPostgres
  | pollPostgres (poll : PgPoll)
  | startMariaDb
  | pollMariaDb (basename : LogBasename) (poll : BinlogPoll)
  | startRedis
  | pollRedis (poll : Poll)

namespace Mixed

def start (shim : CdcShim Value) (postgres : CdcShim PgValue) (mariaDb : CdcShim BinlogValue)
    (redis : CdcShim RedisValue) : Mixed Value :=
  ⟨shim, 0, ⟨postgres, 0⟩, ⟨mariaDb, 0⟩, { shim := redis }, [], 0, []⟩

/-- What the events of a call are made from. -/
def stamped (state : Mixed Value) : MixedCall Value → List Stamp
  | .create draft kept =>
      if kept ∧ state.shim.shouldCapture draft.table then [.created (state.created + 1)] else []
  | .pollPostgres poll =>
      if poll.turn.sighting.any state.postgres.takes then [.postgres poll.timestampMillis] else []
  | .pollMariaDb basename poll =>
      if (poll.turn basename).sighting.any state.mariaDb.takes then [.mariaDb poll.timestampMillis]
      else []
  | .pollRedis poll => (state.redis.taken (poll.scans.flatMap scanned)).map Reading.stamp
  | .startPostgres => []
  | .startMariaDb => []
  | .startRedis => []

def call (state : Mixed Value) (call : MixedCall Value) : Mixed Value :=
  let stamps := state.stamps ++ state.stamped call
  match call with
  | .create draft kept =>
      let (eventCounter, event) := state.shim.createEvent state.eventCounter draft
      let shim := if kept then (state.shim.capture event).1 else state.shim
      { state with shim, eventCounter, stamps
                   created := state.created + 1
                   ids := state.ids ++ capturedIds state.shim shim }
  | .startPostgres => { state with postgres := ⟨state.postgres.shim, 0⟩ }
  | .pollPostgres poll =>
      { state with stamps
                   postgres := state.postgres.turn poll.turn
                   ids := state.ids ++ capturedIds state.postgres.shim
                     (state.postgres.observe poll.turn.sighting).shim }
  | .startMariaDb => { state with mariaDb := ⟨state.mariaDb.shim, 0⟩ }
  | .pollMariaDb basename poll =>
      { state with stamps
                   mariaDb := state.mariaDb.turn (poll.turn basename)
                   ids := state.ids ++ capturedIds state.mariaDb.shim
                     (state.mariaDb.observe (poll.turn basename).sighting).shim }
  | .startRedis => { state with redis := { shim := state.redis.shim } }
  | .pollRedis poll =>
      { state with stamps
                   redis := state.redis.poll poll
                   ids := state.ids ++ capturedIds state.redis.shim
                     (state.redis.scan poll.scans).shim }

/-- The events of the call are apart from each other and from all before. -/
def KeepsApart (state : Mixed Value) (call : MixedCall Value) : Prop :=
  (state.stamps ++ state.stamped call).Pairwise Stamp.Apart

/-- The ids are those of the stamps. -/
structure Stamped (state : Mixed Value) : Prop where
  ids : state.ids = state.stamps.map Stamp.eventId
  counter : state.eventCounter = state.created % 2 ^ 64

variable {state : Mixed Value}

theorem Stamped.nodup_iff (stamped : Stamped state) :
    state.ids.Nodup ↔ state.stamps.Pairwise Stamp.Apart := by
  rw [stamped.ids, List.Nodup, List.pairwise_map]
  exact ⟨fun distinct => distinct.imp eventId_ne_iff.mp, fun apart => apart.imp eventId_ne_iff.mpr⟩

theorem Stamped.appends (stamped : Stamped state) {next : Mixed Value} {ids : List String}
    {stamps : List Stamp} (appended : next.ids = state.ids ++ ids)
    (added : next.stamps = state.stamps ++ stamps) (same : ids = stamps.map Stamp.eventId) :
    next.ids = next.stamps.map Stamp.eventId := by
  rw [appended, added, same, stamped.ids, List.map_append]

theorem Stamped.captures_create (stamped : Stamped state) (draft : Draft Value) (kept : Bool) :
    Captures state.shim
      (if kept then (state.shim.capture (state.shim.createEvent state.eventCounter draft).2).1
        else state.shim)
      (state.stamped (.create draft kept)) := by
  cases kept with
  | false =>
      rw [Mixed.stamped]
      exact .nothing
  | true =>
      have id : (state.shim.createEvent state.eventCounter draft).2.eventId =
          (Stamp.created (state.created + 1)).eventId := by
        rw [CdcShim.createEvent, stamped.counter, Nat.mod_add_mod]
        rfl
      have captured : Captures state.shim
          (state.shim.capture (state.shim.createEvent state.eventCounter draft).2).1
          (if state.shim.shouldCapture draft.table then [.created (state.created + 1)] else []) :=
        captures_capture id
      simpa only [if_true, Mixed.stamped, true_and] using captured

theorem Stamped.kept (stamped : Stamped state) (call : MixedCall Value) :
    Stamped (state.call call) ∧ (state.call call).stamps = state.stamps ++ state.stamped call := by
  cases call with
  | create draft kept =>
      have captured := (stamped.captures_create draft kept).capturedIds
      have counted : (state.eventCounter + 1) % 2 ^ 64 = (state.created + 1) % 2 ^ 64 := by
        rw [stamped.counter, Nat.mod_add_mod]
      exact ⟨⟨stamped.appends rfl rfl captured, counted⟩, rfl⟩
  | startPostgres => exact ⟨⟨stamped.ids, stamped.counter⟩, (List.append_nil _).symm⟩
  | pollPostgres poll =>
      have named : ∀ seen, poll.turn.sighting = some seen →
          seen.eventId = (Stamp.postgres poll.timestampMillis).eventId := by
        intro seen sighted
        obtain ⟨lsn, _, rfl⟩ := Option.map_eq_some_iff.mp sighted
        rfl
      have captured := (captures_observe state.postgres _ named).capturedIds
      exact ⟨⟨stamped.appends rfl rfl captured, stamped.counter⟩, rfl⟩
  | startMariaDb => exact ⟨⟨stamped.ids, stamped.counter⟩, (List.append_nil _).symm⟩
  | pollMariaDb basename poll =>
      have named : ∀ seen, (poll.turn basename).sighting = some seen →
          seen.eventId = (Stamp.mariaDb poll.timestampMillis).eventId := by
        intro seen sighted
        obtain ⟨position, _, parsed⟩ := Option.bind_eq_some_iff.mp sighted
        obtain ⟨row, _, rfl⟩ := Option.map_eq_some_iff.mp parsed
        rfl
      have captured := (captures_observe state.mariaDb _ named).capturedIds
      exact ⟨⟨stamped.appends rfl rfl captured, stamped.counter⟩, rfl⟩
  | startRedis => exact ⟨⟨stamped.ids, stamped.counter⟩, (List.append_nil _).symm⟩
  | pollRedis poll =>
      have captured := (state.redis.captures_visits (poll.scans.flatMap scanned)).capturedIds
      rw [← RedisCdc.scan_eq] at captured
      exact ⟨⟨stamped.appends rfl rfl captured, stamped.counter⟩, rfl⟩

end Mixed

def mixedCalls : Machine (Mixed Value) (MixedCall Value) := .ofFunction Mixed.call

/-- The ids of all captured events stay distinct exactly as long as no two events
of a loop are captured in one millisecond, and no two created ones `2 ^ 64`
calls apart. -/
theorem ids_nodup_iff (shim : CdcShim Value) (postgres : CdcShim PgValue)
    (mariaDb : CdcShim BinlogValue) (redis : CdcShim RedisValue) (labels : List (MixedCall Value)) :
    mixedCalls.Always (fun state => state.ids.Nodup) (.start shim postgres mariaDb redis) labels ↔
      mixedCalls.Along Mixed.KeepsApart (.start shim postgres mariaDb redis) labels := by
  apply Machine.always_ofFunction_iff_along
    fun state => Mixed.Stamped state ∧ state.stamps.Pairwise Stamp.Apart
  · intro state ⟨stamped, apart⟩
    exact stamped.nodup_iff.mpr apart
  · intro state call ⟨stamped, _⟩ apart
    obtain ⟨kept, stamps⟩ := stamped.kept call
    exact ⟨kept, stamps ▸ apart⟩
  · intro state call ⟨stamped, _⟩ clashes distinct
    obtain ⟨kept, stamps⟩ := stamped.kept call
    rw [kept.nodup_iff, stamps] at distinct
    exact clashes distinct
  · exact ⟨⟨rfl, rfl⟩, List.Pairwise.nil⟩

def twoKeys : Poll where
  scans := [[⟨0, [⟨"a", "string", -1, 1700000000000, "now"⟩,
    ⟨"b", "string", -1, 1700000000000, "now"⟩]⟩]]
  outcomes _ := .delivered
  now := "now"

theorem ids_repeat :
    ¬ ∀ labels : List (MixedCall Unit), mixedCalls.Always (fun state => state.ids.Nodup)
      (.start (.new "stdout" [] none 1 "now") (.new "stdout" [] none 1 "now")
        (.new "stdout" [] none 1 "now") (.new "stdout" [] none 1 "now")) labels := by
  intro distinct
  exact absurd ((distinct [.pollRedis twoKeys]).last rfl) (by decide)

end Evergreen.Cdc
