import Evergreen.Audit.Faults
import Mathlib.Data.List.Induction

namespace Evergreen.Audit.Faults

/-! # What the shim reports

Queries and statistics read the log in memory.  Whatever fails, memory is never
ahead of the files, and what leaves it is in a file or was cleared.
-/

structure AuditFilter where
  operation : Option String := none
  table : Option String := none
  success : Option Bool := none
  minDurationMs : Option Nat := none
  since : Option String := none
  limit : Nat := 100
deriving DecidableEq, Repr

/-- `operations` holds the counters of the map. -/
structure AuditStats where
  totalEntries : Nat
  successCount : Nat
  failureCount : Nat
  operations : String → Option Nat
  maxDurationMs : Nat

/-- `parseTime` is `parse_from_rfc3339`.  A `since` that it cannot read asks for
nothing, a timestamp that it cannot read is not since any instant. -/
def AuditFilter.accepts (parseTime : String → Option Int) (filter : AuditFilter)
    (entry : AuditEntry) : Bool :=
  filter.operation.all (Text.eqIgnoreAsciiCase entry.operation ·) &&
    filter.table.all (fun table => entry.table.any (Text.eqIgnoreAsciiCase · table)) &&
    filter.success.all (entry.success = ·) &&
    filter.minDurationMs.all (· ≤ entry.durationMs) &&
    (filter.since.bind parseTime).all fun since => (parseTime entry.timestamp).any (since ≤ ·)

def query (parseTime : String → Option Int) (shim : AuditShim) (filter : AuditFilter) :
    List AuditEntry :=
  (shim.log.filter (filter.accepts parseTime)).take filter.limit

/-- One turn of the loop of `stats`. -/
def AuditStats.add (stats : AuditStats) (entry : AuditEntry) : AuditStats :=
  { stats with
    operations := Function.update stats.operations entry.operation
      (some ((stats.operations entry.operation).getD 0 + 1))
    successCount := if entry.success then stats.successCount + 1 else stats.successCount
    failureCount := if entry.success then stats.failureCount else stats.failureCount + 1 }

/-- Without the average, a quotient of two of the counters. -/
def stats (shim : AuditShim) : AuditStats :=
  shim.log.foldl AuditStats.add
    { totalEntries := shim.queriesLogged
      successCount := 0
      failureCount := 0
      operations := fun _ => none
      maxDurationMs := shim.maxDurationMs }

/-! ## The entries of a run -/

def textBytes (json : Json) (entry : AuditEntry) : List UInt8 :=
  (json.write entry).toUTF8.data.toList

/-- The entry is written in the file. -/
def Disk.Shows (disk : Disk) (json : Json) (name : String) (entry : AuditEntry) : Prop :=
  textBytes json entry <:+: (disk name).getD []

/-- The entry of a call, if it takes as long as this. -/
def Label.charged (minDurationMs : Nat) : Label → Option AuditEntry
  | .logEntry call => if call.entry.durationMs < minDurationMs then none else some call.entry
  | _ => none

def Label.passedOver (minDurationMs : Nat) : Label → Bool
  | .logEntry call => call.entry.durationMs < minDurationMs
  | _ => false

def charged (settings : Settings) (labels : List Label) : List Nat :=
  (labels.filterMap (Label.charged settings.minDurationMs)).map AuditEntry.durationMs

/-- The counters are those of all the calls, failed or not. -/
structure Counted (settings : Settings) (labels : List Label) (shim : AuditShim) : Prop where
  configured : shim.settings = settings
  logged : shim.queriesLogged = (charged settings labels).length % 2 ^ 64
  duration : shim.totalDurationMs = (charged settings labels).sum % 2 ^ 64
  longest : shim.maxDurationMs = (charged settings labels).foldl max 0
  filtered : shim.queriesFiltered =
    labels.countP (Label.passedOver settings.minDurationMs) % 2 ^ 64

/-- What is in memory was loaded or is in a daily file.  What was accepted is in
the file of its day, and in memory unless it was cleared or is in the file of a
rotation. -/
structure Traced (json : Json) (initial : List AuditEntry) (labels : List Label)
    (session : Session) : Prop where
  written : ∀ entry ∈ session.shim.log,
    entry ∈ initial ∨ ∃ date, session.disk.Shows json (dailyName date) entry
  accepted : ∀ logged ∈ session.accepted, session.disk.Shows json (dailyName logged.2) logged.1
  followed : ∀ logged ∈ session.accepted, logged.1 ∈ session.shim.log ∨
    (∃ keeps, .clearLogBefore keeps ∈ labels ∧ keeps logged.1 = false) ∨
    ∃ date time, session.disk.Shows json (rotateName date time) logged.1

/-- The statistics count the log in memory. -/
structure Tallied (shim : AuditShim) : Prop where
  total : (stats shim).totalEntries = shim.queriesLogged
  success : (stats shim).successCount = shim.log.countP (·.success)
  halves : (stats shim).successCount + (stats shim).failureCount = shim.log.length
  operations : ∀ operation, ((stats shim).operations operation).getD 0 =
    shim.log.countP (·.operation = operation)

variable {json : Json} {disk : Disk} {name other : String} {bytes : List UInt8}
variable {written : Written} {shim : AuditShim} {call : Call} {entry : AuditEntry}
variable {session : Session} {settings : Settings} {initial : List AuditEntry}
variable {labels : List Label}

/-! ## Files only grow -/

theorem Disk.write_prefix :
    (disk other).getD [] <+: ((disk.write name bytes written) other).getD [] := by
  rw [Disk.write]
  cases written.reached bytes with
  | none => exact List.prefix_rfl
  | some reached =>
      by_cases same : other = name
      · subst same
        simp
      · simp [same]

theorem Disk.Shows.write (shows : disk.Shows json other entry) :
    (disk.write name bytes written).Shows json other entry :=
  shows.trans Disk.write_prefix.isInfix

theorem line_eq (json : Json) (entry : AuditEntry) :
    line json entry = textBytes json entry ++ [10] := rfl

/-- Without the last new line of a text of lines, every entry is still there. -/
theorem infix_dropLast {entries : List AuditEntry} (member : entry ∈ entries) :
    textBytes json entry <:+: (entries.flatMap (line json)).dropLast := by
  obtain ⟨before, after, rfl⟩ := List.append_of_mem member
  rw [List.flatMap_append, List.flatMap_cons, line_eq]
  cases after with
  | nil =>
      refine ⟨before.flatMap (line json), [], ?_⟩
      simp [← List.append_assoc]
  | cons next rest =>
      have last : (next :: rest).flatMap (line json) ≠ [] := by simp [line_eq]
      refine ⟨before.flatMap (line json), [10] ++ ((next :: rest).flatMap (line json)).dropLast, ?_⟩
      rw [List.dropLast_append_of_ne_nil (by simp), List.dropLast_append_of_ne_nil last]
      simp

theorem Disk.shows_write {entries : List AuditEntry} (ok : written.isOk = true)
    (member : entry ∈ entries) :
    (disk.write name (entries.flatMap (line json)) written).Shows json name entry := by
  have there := @infix_dropLast json entry entries member
  cases written with
  | refused => cases ok
  | broken length => cases ok
  | unended =>
      simp only [Disk.Shows, Disk.write, Written.reached, Function.update_self, Option.getD_some]
      exact there.trans (List.suffix_append _ _).isInfix
  | whole =>
      simp only [Disk.Shows, Disk.write, Written.reached, Function.update_self, Option.getD_some]
      exact (there.trans (List.dropLast_prefix _).isInfix).trans (List.suffix_append _ _).isInfix

/-! ## What a call does to memory and files -/

/-- The files grow, and what leaves memory is in the file of a rotation. -/
structure Moves (json : Json) (before after : AuditShim × Disk) : Prop where
  grows : ∀ name, (before.2 name).getD [] <+: (after.2 name).getD []
  leaves : ∀ entry ∈ before.1.log, entry ∈ after.1.log ∨
    ∃ date time, after.2.Shows json (rotateName date time) entry

theorem Moves.shows {before after : AuditShim × Disk} (moves : Moves json before after)
    (shows : before.2.Shows json name entry) : after.2.Shows json name entry :=
  shows.trans (moves.grows name).isInfix

/-- A rotation changes no more of the shim than the log, and adds nothing to it. -/
theorem rotateLog_moves (rotation : DateText × String) :
    let result := rotateLog json shim disk rotation written
    Moves json (shim, disk) result.1 ∧ result.1.1.log ⊆ shim.log ∧
      result.1.1 = { shim with log := result.1.1.log } := by
  simp only [rotateLog]
  split_ifs with empty ok
  · exact ⟨⟨fun _ => List.prefix_rfl, fun _ member => .inl member⟩, List.Subset.refl _, rfl⟩
  · refine ⟨⟨fun _ => Disk.write_prefix, fun entry member => .inr ?_⟩, List.nil_subset _, rfl⟩
    exact ⟨rotation.1, rotation.2, Disk.shows_write ok member⟩
  · exact ⟨⟨fun _ => Disk.write_prefix, fun _ member => .inl member⟩, List.Subset.refl _, rfl⟩

theorem pushEntry_moves (shown : disk.Shows json (dailyName call.date) call.entry) :
    let result := pushEntry json shim disk call
    Moves json ({ shim with log := shim.log ++ [call.entry] }, disk) result.1 ∧
      result.1.1.log ⊆ shim.log ++ [call.entry] ∧
      result.1.1 = { shim with log := result.1.1.log } ∧
      result.1.2.Shows json (dailyName call.date) call.entry := by
  simp only [pushEntry]
  split_ifs with full
  · obtain ⟨moves, subset, same⟩ := @rotateLog_moves json disk call.rotated
      { shim with log := shim.log ++ [call.entry] } call.rotation
    exact ⟨moves, subset, same, moves.shows shown⟩
  · exact ⟨⟨fun _ => List.prefix_rfl, fun _ member => .inl member⟩, List.Subset.refl _, rfl, shown⟩

/-- What the shim counts before anything can fail. -/
def countCall (shim : AuditShim) (call : Call) : AuditShim :=
  if shim.isFiltered call.entry then
    { shim with queriesFiltered := (shim.queriesFiltered + 1) % 2 ^ 64 }
  else shim.count call.entry

theorem countCall_log : (countCall shim call).log = shim.log := by
  unfold countCall
  split <;> rfl

/-- An accepted entry passes through memory, and whatever is new in memory is in
the file of its day. -/
structure Logs (json : Json) (call : Call) (before after : AuditShim × Disk)
    (outcome : Except Unit Bool) : Prop extends Moves json before after where
  counts : after.1 = { countCall before.1 call with log := after.1.log }
  fresh : ∀ entry ∈ after.1.log, entry ∈ before.1.log ∨
    entry = call.entry ∧ after.2.Shows json (dailyName call.date) call.entry
  accepts : outcome = .ok true → after.2.Shows json (dailyName call.date) call.entry ∧
    (call.entry ∈ after.1.log ∨ ∃ date time, after.2.Shows json (rotateName date time) call.entry)

theorem logEntry_logs (json : Json) (shim : AuditShim) (disk : Disk) (call : Call) :
    Logs json call (shim, disk) (logEntry json shim disk call).1 (logEntry json shim disk call).2 := by
  have counted := @countCall_log shim call
  unfold logEntry
  cases filtered : shim.isFiltered call.entry with
  | true =>
      have counts : countCall shim call =
          { shim with queriesFiltered := (shim.queriesFiltered + 1) % 2 ^ 64 } := if_pos filtered
      refine ⟨⟨fun _ => List.prefix_rfl, fun _ member => .inl member⟩, ?_, fun _ member => .inl member,
        fun accepted => by cases accepted⟩
      simp only [if_true, counts]
  | false =>
      have counts : countCall shim call = shim.count call.entry :=
        if_neg (by rw [filtered]; exact Bool.false_ne_true)
      rw [counts] at counted
      simp only [Bool.false_eq_true, if_false, writeToDisk, sendWebhook]
      cases wrote : call.written.isOk with
      | false =>
          refine ⟨⟨fun _ => Disk.write_prefix, fun _ member => .inl (counted ▸ member)⟩, ?_,
            fun _ member => .inl (counted ▸ member), fun accepted => by cases accepted⟩
          rw [counts]
          rfl
      | true =>
          have shown : (disk.write (dailyName call.date) (line json call.entry) call.written).Shows
              json (dailyName call.date) call.entry := by
            have lines : [call.entry].flatMap (line json) = line json call.entry := by simp
            exact lines ▸ Disk.shows_write wrote List.mem_cons_self
          simp only [if_true]
          split_ifs with posted
          · refine ⟨⟨fun _ => Disk.write_prefix, fun _ member => .inl (counted ▸ member)⟩, ?_,
              fun _ member => .inl (counted ▸ member), fun accepted => by cases accepted⟩
            simp only [counts]
          · obtain ⟨moves, subset, same, daily⟩ := @pushEntry_moves json _ (shim.count call.entry) call shown
            refine ⟨⟨fun name => Disk.write_prefix.trans (moves.grows name), fun entry member => ?_⟩,
              ?_, fun entry member => ?_, fun _ => ⟨daily, ?_⟩⟩
            · exact moves.leaves entry (List.mem_append_left _ (counted ▸ member))
            · rw [counts]
              exact same
            · rcases List.mem_append.mp (subset member) with old | new
              · exact .inl (counted ▸ old)
              · exact .inr ⟨List.mem_singleton.mp new, daily⟩
            · exact moves.leaves call.entry (List.mem_append_right _ List.mem_cons_self)

/-! ## Runs -/

theorem step_logEntry (json : Json) (session : Session) (call : Call) :
    let result := logEntry json session.shim session.disk call
    (session.step json (.logEntry call)).shim = result.1.1 ∧
      (session.step json (.logEntry call)).disk = result.1.2 ∧
      ∀ logged ∈ (session.step json (.logEntry call)).accepted, logged ∈ session.accepted ∨
        logged = (call.entry, call.date) ∧ result.2 = .ok true := by
  cases outcome : (logEntry json session.shim session.disk call).2 with
  | error _ =>
      rw [step_of_error outcome]
      exact ⟨rfl, rfl, fun _ member => .inl member⟩
  | ok logged =>
      rw [step_of_ok outcome]
      refine ⟨rfl, rfl, fun accepted member => ?_⟩
      cases logged with
      | false => exact .inl member
      | true =>
          rcases List.mem_append.mp member with old | new
          · exact .inl old
          · exact .inr ⟨List.mem_singleton.mp new, outcome⟩

theorem Counted.log {entries : List AuditEntry} (counted : Counted settings labels shim) :
    Counted settings labels { shim with log := entries } :=
  ⟨counted.configured, counted.logged, counted.duration, counted.longest, counted.filtered⟩

theorem Counted.skip {label : Label} (counted : Counted settings labels shim)
    (free : label.charged settings.minDurationMs = none)
    (passes : label.passedOver settings.minDurationMs = false) :
    Counted settings (labels ++ [label]) shim := by
  have same : charged settings (labels ++ [label]) = charged settings labels := by
    simp [charged, free]
  exact ⟨counted.configured, same ▸ counted.logged, same ▸ counted.duration, same ▸ counted.longest,
    by simp [passes, counted.filtered]⟩

theorem Counted.logEntry (counted : Counted settings labels shim) :
    Counted settings (labels ++ [.logEntry call]) (countCall shim call) := by
  obtain ⟨rfl, logged, duration, longest, filtered⟩ := counted
  unfold countCall
  by_cases short : call.entry.durationMs < shim.settings.minDurationMs
  · have passes : shim.isFiltered call.entry = true := decide_eq_true short
    have same : charged shim.settings (labels ++ [.logEntry call]) = charged shim.settings labels := by
      simp [charged, Label.charged, short]
    rw [if_pos passes]
    refine ⟨rfl, same ▸ logged, same ▸ duration, same ▸ longest, ?_⟩
    simp [Label.passedOver, short, filtered]
  · have admitted : ¬ shim.isFiltered call.entry = true := by simpa [AuditShim.isFiltered] using short
    have longer : charged shim.settings (labels ++ [.logEntry call]) =
        charged shim.settings labels ++ [call.entry.durationMs] := by
      simp [charged, Label.charged, short]
    rw [if_neg admitted]
    refine ⟨rfl, ?_, ?_, ?_, ?_⟩
    · simp [AuditShim.count, longer, logged]
    · simp [AuditShim.count, longer, duration]
    · simp [AuditShim.count, longer, longest]
    · simp [AuditShim.count, Label.passedOver, short, filtered]

theorem Traced.moves {label : Label} {after : AuditShim × Disk}
    (traced : Traced json initial labels session)
    (moves : Moves json (session.shim, session.disk) after)
    (subset : after.1.log ⊆ session.shim.log) :
    Traced json initial (labels ++ [label])
      { session with shim := after.1, disk := after.2 } where
  written entry member := by
    rcases traced.written entry (subset member) with loaded | ⟨date, shows⟩
    · exact .inl loaded
    · exact .inr ⟨date, moves.shows shows⟩
  accepted logged member := moves.shows (traced.accepted logged member)
  followed logged member := by
    rcases traced.followed logged member with held | ⟨keeps, cleared, gone⟩ | ⟨date, time, shows⟩
    · rcases moves.leaves logged.1 held with held | rotated
      · exact .inl held
      · exact .inr (.inr rotated)
    · exact .inr (.inl ⟨keeps, List.mem_append_left _ cleared, gone⟩)
    · exact .inr (.inr ⟨date, time, moves.shows shows⟩)

theorem Traced.clear {keeps : AuditEntry → Bool} (traced : Traced json initial labels session) :
    Traced json initial (labels ++ [.clearLogBefore keeps])
      (session.step json (.clearLogBefore keeps)) where
  written entry member := traced.written entry (List.mem_of_mem_filter member)
  accepted := traced.accepted
  followed logged member := by
    rcases traced.followed logged member with held | ⟨other, cleared, gone⟩ | rotated
    · cases kept : keeps logged.1 with
      | true => exact .inl (List.mem_filter.mpr ⟨held, kept⟩)
      | false => exact .inr (.inl ⟨keeps, List.mem_append_right _ List.mem_cons_self, kept⟩)
    · exact .inr (.inl ⟨other, List.mem_append_left _ cleared, gone⟩)
    · exact .inr (.inr rotated)

theorem Traced.logEntry (traced : Traced json initial labels session) :
    Traced json initial (labels ++ [.logEntry call]) (session.step json (.logEntry call)) := by
  have logs := logEntry_logs json session.shim session.disk call
  obtain ⟨shim, disk, accepted⟩ := step_logEntry json session call
  constructor
  · intro entry member
    rw [shim] at member
    rw [disk]
    rcases logs.fresh entry member with old | ⟨rfl, shows⟩
    · rcases traced.written entry old with loaded | ⟨date, shows⟩
      · exact .inl loaded
      · exact .inr ⟨date, logs.shows shows⟩
    · exact .inr ⟨call.date, shows⟩
  · intro logged member
    rw [disk]
    rcases accepted logged member with old | ⟨rfl, outcome⟩
    · exact logs.shows (traced.accepted logged old)
    · exact (logs.accepts outcome).1
  · intro logged member
    rw [shim, disk]
    rcases accepted logged member with old | ⟨rfl, outcome⟩
    · rcases traced.followed logged old with held | ⟨keeps, cleared, gone⟩ | ⟨date, time, shows⟩
      · rcases logs.leaves logged.1 held with held | rotated
        · exact .inl held
        · exact .inr (.inr rotated)
      · exact .inr (.inl ⟨keeps, List.mem_append_left _ cleared, gone⟩)
      · exact .inr (.inr ⟨date, time, logs.shows shows⟩)
    · rcases (logs.accepts outcome).2 with held | rotated
      · exact .inl held
      · exact .inr (.inr rotated)

/-! ## Statistics -/

theorem foldl_add (entries : List AuditEntry) (start : AuditStats) :
    let total := entries.foldl AuditStats.add start
    total.totalEntries = start.totalEntries ∧
      total.successCount = start.successCount + entries.countP (·.success) ∧
      total.successCount + total.failureCount =
        start.successCount + start.failureCount + entries.length ∧
      ∀ operation, (total.operations operation).getD 0 =
        (start.operations operation).getD 0 + entries.countP (·.operation = operation) := by
  induction entries generalizing start with
  | nil => exact ⟨rfl, rfl, rfl, fun _ => rfl⟩
  | cons entry rest ih =>
      obtain ⟨total, success, halves, operations⟩ := ih (start.add entry)
      refine ⟨total, success.trans ?_, halves.trans ?_, fun operation => (operations operation).trans ?_⟩
      · cases succeeded : entry.success with
        | true =>
            simp [AuditStats.add, succeeded]
            omega
        | false => simp [AuditStats.add, succeeded]
      · cases succeeded : entry.success <;> simp [AuditStats.add, succeeded] <;> omega
      · by_cases same : entry.operation = operation
        · subst same
          simp only [AuditStats.add, Function.update_self, Option.getD_some, decide_true,
            List.countP_cons_of_pos]
          omega
        · simp [AuditStats.add, Function.update_of_ne (Ne.symm same), same]

theorem tallied (shim : AuditShim) : Tallied shim := by
  obtain ⟨total, success, halves, operations⟩ := foldl_add shim.log
    { totalEntries := shim.queriesLogged
      successCount := 0
      failureCount := 0
      operations := fun _ => none
      maxDurationMs := shim.maxDurationMs }
  refine ⟨total, ?_, ?_, fun operation => ?_⟩
  · exact success.trans (Nat.zero_add _)
  · exact halves.trans (Nat.zero_add _)
  · exact (operations operation).trans (Nat.zero_add _)

/-! ## What is reported -/

/-- The state of a run, and what it answers to a query: entries that match, each of
which was loaded or is in a daily file, and all of them unless the limit is reached. -/
structure Reports (json : Json) (settings : Settings) (initial : List AuditEntry)
    (labels : List Label) (session : Session) : Prop where
  counted : Counted settings labels session.shim
  traced : Traced json initial labels session
  tallied : Tallied session.shim
  answers : ∀ parseTime filter, ∀ entry ∈ query parseTime session.shim filter,
    filter.accepts parseTime entry = true ∧
      (entry ∈ initial ∨ ∃ date, session.disk.Shows json (dailyName date) entry)
  complete : ∀ parseTime filter, (query parseTime session.shim filter).length < filter.limit →
    ∀ entry ∈ session.shim.log, filter.accepts parseTime entry = true →
      entry ∈ query parseTime session.shim filter

def Session.after (json : Json) (session : Session) (labels : List Label) : Session :=
  labels.foldl (Session.step json) session

theorem after_concat (label : Label) :
    session.after json (labels ++ [label]) = (session.after json labels).step json label :=
  List.foldl_concat ..

theorem counted_after (json : Json) (settings : Settings) (log : List AuditEntry)
    (entryCounter : Nat) (disk : Disk) (labels : List Label) :
    Counted settings labels ((Session.start settings log entryCounter disk).after json labels).shim ∧
      Traced json log labels ((Session.start settings log entryCounter disk).after json labels) := by
  induction labels using List.reverseRecOn with
  | nil =>
      have none_accepted : ∀ logged, logged ∉ (Session.start settings log entryCounter disk).accepted :=
        fun _ => List.not_mem_nil
      exact ⟨⟨rfl, rfl, rfl, rfl, rfl⟩, fun _ member => .inl member,
        fun logged member => absurd member (none_accepted logged),
        fun logged member => absurd member (none_accepted logged)⟩
  | append_singleton labels label ih =>
      obtain ⟨counted, traced⟩ := ih
      rw [after_concat]
      generalize (Session.start settings log entryCounter disk).after json labels = session at counted traced ⊢
      cases label with
      | logEntry call =>
          refine ⟨?_, traced.logEntry⟩
          rw [(step_logEntry json session call).1, (logEntry_logs json session.shim session.disk call).counts]
          exact counted.logEntry.log
      | forceRotate rotation written =>
          obtain ⟨moves, subset, same⟩ := @rotateLog_moves json session.disk written session.shim rotation
          refine ⟨?_, traced.moves moves subset⟩
          change Counted settings _ (rotateLog json session.shim session.disk rotation written).1.1
          rw [same]
          exact (counted.skip rfl rfl).log
      | clearLogBefore keeps => exact ⟨(counted.skip rfl rfl).log, traced.clear⟩

end Evergreen.Audit.Faults
