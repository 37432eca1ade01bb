import Evergreen.Audit.Restart

namespace Evergreen.Audit.Faults

/-! # Failing writes

A file is its bytes here.  Opening it and writing to it can fail, with any part
of the text written by then, and so can the webhook.
-/

/-- The bytes of each file, by name; `none` while there is no such file. -/
abbrev Disk := String → Option (List UInt8)

/-- What comes of opening a file and writing to it. -/
inductive Written where
  | refused
  | broken (length : Nat)
  /-- The file is dropped without a flush, so nobody hears of the last new line. -/
  | unended
  | whole
deriving DecidableEq, Repr

def Written.isOk : Written → Bool
  | .refused | .broken _ => false
  | .unended | .whole => true

/-- What of the text gets to the file, if it is opened at all. -/
def Written.reached (bytes : List UInt8) : Written → Option (List UInt8)
  | .refused => none
  | .broken length => some (bytes.take length)
  | .unended => some bytes.dropLast
  | .whole => some bytes

def Disk.write (disk : Disk) (name : String) (bytes : List UInt8) (written : Written) : Disk :=
  match written.reached bytes with
  | none => disk
  | some reached => Function.update disk name (some ((disk name).getD [] ++ reached))

/-- What the file of a day holds. -/
def Disk.daily (disk : Disk) (date : DateText) : List UInt8 := (disk (dailyName date)).getD []

def lineBytes (text : String) : List UInt8 := text.toUTF8.data.toList ++ [10]

def line (json : Json) (entry : AuditEntry) : List UInt8 := lineBytes (json.write entry)

/-- An entry, the two readings of the clock and what fails. -/
structure Call where
  entry : AuditEntry
  date : DateText
  written : Written
  delivered : Bool
  rotation : DateText × String
  rotated : Written

def writeToDisk (json : Json) (disk : Disk) (entry : AuditEntry) (date : DateText)
    (written : Written) : Disk × Except Unit Unit :=
  (disk.write (dailyName date) (line json entry) written,
    if written.isOk then .ok () else .error ())

def rotateLog (json : Json) (shim : AuditShim) (disk : Disk) (rotation : DateText × String)
    (written : Written) : (AuditShim × Disk) × Except Unit Unit :=
  if shim.log = [] then ((shim, disk), .ok ())
  else
    let after := disk.write (rotateName rotation.1 rotation.2) (shim.log.flatMap (line json)) written
    if written.isOk then (({ shim with log := [] }, after), .ok ()) else ((shim, after), .error ())

def sendWebhook (shim : AuditShim) (delivered : Bool) : Except Unit Unit :=
  if shim.settings.webhook && !delivered then .error () else .ok ()

/-- The end of `log_entry`, once the entry is out. -/
def pushEntry (json : Json) (shim : AuditShim) (disk : Disk) (call : Call) :
    (AuditShim × Disk) × Except Unit Bool :=
  let pushed := { shim with log := shim.log ++ [call.entry] }
  if pushed.settings.maxEntries < pushed.log.length then
    let rotated := rotateLog json pushed disk call.rotation call.rotated
    (rotated.1, rotated.2.map fun _ => true)
  else ((pushed, disk), .ok true)

/-- Every `?` returns what there is by then. -/
def logEntry (json : Json) (shim : AuditShim) (disk : Disk) (call : Call) :
    (AuditShim × Disk) × Except Unit Bool :=
  if shim.isFiltered call.entry then
    (({ shim with queriesFiltered := (shim.queriesFiltered + 1) % 2 ^ 64 }, disk), .ok false)
  else
    let counted := shim.count call.entry
    match writeToDisk json disk call.entry call.date call.written with
    | (disk, .error ()) => ((counted, disk), .error ())
    | (disk, .ok ()) =>
        match sendWebhook counted call.delivered with
        | .error () => ((counted, disk), .error ())
        | .ok () => pushEntry json counted disk call

/-! ## Runs -/

/-- The shim and its files beside the history: what was accepted, with `Ok(true)`,
and the states before and after each call that failed. -/
structure Session where
  shim : AuditShim
  disk : Disk
  accepted : List (AuditEntry × DateText) := []
  failed : List ((AuditShim × Disk) × (AuditShim × Disk)) := []

/-- What `clear_log_before` keeps is for the timestamps to say. -/
inductive Label where
  | logEntry (call : Call)
  | forceRotate (rotation : DateText × String) (written : Written)
  | clearLogBefore (keeps : AuditEntry → Bool)

def Session.step (json : Json) (session : Session) : Label → Session
  | .logEntry call =>
      match logEntry json session.shim session.disk call with
      | (after, .error ()) =>
          { session with
            shim := after.1
            disk := after.2
            failed := session.failed ++ [((session.shim, session.disk), after)] }
      | (after, .ok logged) =>
          { session with
            shim := after.1
            disk := after.2
            accepted := if logged then session.accepted ++ [(call.entry, call.date)]
              else session.accepted }
  | .forceRotate rotation written =>
      let after := (rotateLog json session.shim session.disk rotation written).1
      { session with shim := after.1, disk := after.2 }
  | .clearLogBefore keeps =>
      { session with shim := { session.shim with log := session.shim.log.filter keeps } }

def machine (json : Json) : Machine Session Label := .ofFunction (Session.step json)

/-- Before the first entry, with the log and the id counter that were loaded. -/
def Session.start (settings : Settings) (log : List AuditEntry) (entryCounter : Nat)
    (disk : Disk) : Session where
  shim := { settings, log, entryCounter }
  disk

/-- The five views of a shim and its files. -/
structure SameViews (before after : AuditShim × Disk) : Prop where
  queriesLogged : after.1.queriesLogged = before.1.queriesLogged
  totalDurationMs : after.1.totalDurationMs = before.1.totalDurationMs
  maxDurationMs : after.1.maxDurationMs = before.1.maxDurationMs
  log : after.1.log = before.1.log
  dailyFiles : ∀ date, after.2 (dailyName date) = before.2 (dailyName date)

/-- The lines of what was accepted on a date. -/
def linesOf (json : Json) (accepted : List (AuditEntry × DateText)) (date : DateText) :
    List UInt8 :=
  (accepted.filter fun logged => logged.2 = date).flatMap fun logged => line json logged.1

/-- A call that failed changed no view; the counter is the number of entries
accepted, and the file of each day has one line more for each of its own. -/
structure Atomic (json : Json) (initial : Disk) (session : Session) : Prop where
  unchanged : ∀ call ∈ session.failed, SameViews call.1 call.2
  counted : session.shim.queriesLogged = session.accepted.length
  written : ∀ date, session.disk.daily date =
    initial.daily date ++ linesOf json session.accepted date

/-- Nothing fails that the call comes to. -/
def Succeeds (shim : AuditShim) (call : Call) : Prop :=
  call.written.isOk = true ∧ (shim.settings.webhook = true → call.delivered = true) ∧
    (shim.settings.maxEntries < shim.log.length + 1 → call.rotated.isOk = true)

/-- An entry that is not filtered is written to the last byte, nothing after it
fails, and the counter does not wrap. -/
def Completes (session : Session) : Label → Prop
  | .logEntry call => session.shim.isFiltered call.entry = false →
      Succeeds session.shim call ∧ call.written ≠ .unended ∧
        session.shim.queriesLogged + 1 < 2 ^ 64
  | .forceRotate _ _ | .clearLogBefore _ => True

/-! ## Writes that all get through -/

variable {json : Json} {disk initial : Disk} {name other : String} {bytes : List UInt8}
variable {written : Written} {shim : AuditShim} {call : Call} {date : DateText}
variable {session : Session}

/-- The bytes of a directory of lines. -/
def onDisk (files : List Files.LineFile) : Disk := fun name =>
  (files.find? fun file => file.name = name).map fun file => file.lines.flatMap lineBytes

theorem Disk.write_self : (disk.write name bytes .whole) name =
    some ((disk name).getD [] ++ bytes) :=
  Function.update_self _ _ _

theorem Disk.write_other (different : other ≠ name) :
    (disk.write name bytes written) other = disk other := by
  rw [Disk.write]
  cases written.reached bytes with
  | none => rfl
  | some reached => exact Function.update_of_ne different _ _

theorem onDisk_cons (file : Files.LineFile) (files : List Files.LineFile) :
    onDisk (file :: files) name =
      if file.name = name then some (file.lines.flatMap lineBytes) else onDisk files name := by
  rw [onDisk, List.find?_cons]
  split_ifs with named
  · simp [named]
  · simp [named, onDisk]

theorem onDisk_eq_none {files : List Files.LineFile}
    (missing : ¬ files.any (fun file => file.name == name) = true) : onDisk files name = none := by
  rw [onDisk, Option.map_eq_none_iff, List.find?_eq_none]
  intro file member named
  exact missing (List.any_eq_true.mpr ⟨file, member, by simpa using named⟩)

theorem onDisk_extend {files : List Files.LineFile} {lines : List String} :
    onDisk (files.map (Files.extend name lines)) other =
      if other = name then (onDisk files other).map (· ++ lines.flatMap lineBytes)
      else onDisk files other := by
  induction files with
  | nil => simp [onDisk]
  | cons file files ih =>
      rw [List.map_cons, onDisk_cons, onDisk_cons, Files.name_extend, ih]
      by_cases found : file.name = other
      · subst found
        rw [if_pos rfl, if_pos rfl, Files.extend]
        split_ifs with named
        · rw [List.flatMap_append, Option.map_some]
        · rfl
      · rw [if_neg found, if_neg found]

theorem onDisk_appendLines {files : List Files.LineFile} {lines : List String} :
    onDisk (Files.appendLines files name lines) =
      (onDisk files).write name (lines.flatMap lineBytes) .whole := by
  funext other
  rw [Files.appendLines]
  by_cases same : other = name
  · subst same
    rw [Disk.write_self]
    split_ifs with found
    · rw [onDisk_extend, if_pos rfl]
      cases held : onDisk files other with
      | some bytes => rfl
      | none =>
          rw [onDisk, Option.map_eq_none_iff, List.find?_eq_none] at held
          obtain ⟨file, member, named⟩ := List.any_eq_true.mp found
          exact absurd (by simpa using named) (held file member)
    · rw [onDisk_cons, if_pos rfl, onDisk_eq_none found]
      rfl
  · rw [Disk.write_other same]
    split_ifs with found
    · rw [onDisk_extend, if_neg same]
    · rw [onDisk_cons, if_neg (Ne.symm same)]

theorem flatMap_line (entries : List AuditEntry) :
    entries.flatMap (line json) = (entries.map json.write).flatMap lineBytes := by
  rw [List.flatMap_map]
  rfl

/-- A call whose writes get through is the call on a directory of lines. -/
theorem logEntry_whole {directory : Directory} (written : call.written = .whole)
    (rotated : call.rotated = .whole) :
    let lines := shim.logEntry json directory call.entry call.date call.delivered call.rotation
    logEntry json shim (onDisk (directory.getD [])) call =
      ((lines.1.1, onDisk (lines.1.2.getD [])), lines.2) := by
  have wrote : writeToDisk json (onDisk (directory.getD [])) call.entry call.date call.written =
      (onDisk ((AuditShim.writeToDisk json directory call.entry call.date).getD []), .ok ()) := by
    rw [writeToDisk, written, AuditShim.writeToDisk, Option.getD_some, onDisk_appendLines,
      List.flatMap_singleton]
    rfl
  simp only [logEntry, AuditShim.logEntry, wrote, sendWebhook]
  cases shim.isFiltered call.entry with
  | true => rfl
  | false =>
      have same : (shim.count call.entry).settings = shim.settings := rfl
      rw [same]
      cases shim.settings.webhook && !call.delivered with
      | true => rfl
      | false =>
          simp only [Bool.false_eq_true, if_false, pushEntry, same]
          split_ifs with full
          · simp only [rotateLog, AuditShim.rotateLog, rotated, Written.isOk, if_true]
            rw [if_neg (by simp), if_neg (by simp), Option.getD_some, onDisk_appendLines,
              flatMap_line]
            rfl
          · rfl

/-! ## One call -/

theorem dailyName_ne_rotateName (day : DateText) (time : String) :
    dailyName date ≠ rotateName day time := by
  intro same
  have length := congrArg (fun name => name.toList.length) same
  have start : "audit-".toList.length = 6 := rfl
  have middle : "-rotate-".toList.length = 8 := rfl
  have extension : ".log".toList.length = 4 := rfl
  simp only [dailyName, rotateName, String.toList_append, List.length_append, date.width,
    day.width, start, middle, extension] at length
  omega

/-- A rotation keeps the counters and the daily files, and fails with its write. -/
theorem rotateLog_spec (rotation : DateText × String) :
    let result := rotateLog json shim disk rotation written
    result.1.1.queriesLogged = shim.queriesLogged ∧
      (∀ date, result.1.2 (dailyName date) = disk (dailyName date)) ∧
      (result.2 = .error () ∧ written.isOk = false ∨
        result.2 = .ok () ∧ (shim.log ≠ [] → written.isOk = true)) := by
  simp only [rotateLog]
  split_ifs with empty ok
  · exact ⟨rfl, fun _ => rfl, .inr ⟨rfl, fun holds => absurd empty holds⟩⟩
  · exact ⟨rfl, fun _ => Disk.write_other (dailyName_ne_rotateName _ _), .inr ⟨rfl, fun _ => ok⟩⟩
  · exact ⟨rfl, fun _ => Disk.write_other (dailyName_ne_rotateName _ _),
      .inl ⟨rfl, Bool.eq_false_of_not_eq_true ok⟩⟩

theorem pushEntry_spec (json : Json) (shim : AuditShim) (disk : Disk) (call : Call) :
    let result := pushEntry json shim disk call
    result.1.1.queriesLogged = shim.queriesLogged ∧
      (∀ date, result.1.2 (dailyName date) = disk (dailyName date)) ∧
      (result.2 = .error () ∧
          ¬ (shim.settings.maxEntries < shim.log.length + 1 → call.rotated.isOk = true) ∨
        result.2 = .ok true ∧
          (shim.settings.maxEntries < shim.log.length + 1 → call.rotated.isOk = true)) := by
  simp only [pushEntry, List.length_append, List.length_singleton]
  split_ifs with full
  · have pushed : shim.log ++ [call.entry] ≠ [] := by simp
    obtain ⟨counted, daily, ⟨fails, refused⟩ | ⟨returns, ok⟩⟩ := @rotateLog_spec json disk
      call.rotated { shim with log := shim.log ++ [call.entry] } call.rotation
    · refine ⟨counted, daily, .inl ⟨by rw [fails]; rfl, fun ok => ?_⟩⟩
      rw [ok full] at refused
      cases refused
    · exact ⟨counted, daily, .inr ⟨by rw [returns]; rfl, fun _ => ok pushed⟩⟩
  · exact ⟨rfl, fun _ => rfl, .inr ⟨rfl, fun beyond => absurd beyond full⟩⟩

/-- What a call can do: leave an entry out, or count it, and then fail where a
step of it fails or write it to the file of its day. -/
theorem logEntry_cases (json : Json) (shim : AuditShim) (disk : Disk) (call : Call) :
    let result := logEntry json shim disk call
    (shim.isFiltered call.entry = true ∧ result.2 = .ok false ∧
      result.1.1.queriesLogged = shim.queriesLogged ∧ result.1.2 = disk) ∨
    (shim.isFiltered call.entry = false ∧
      result.1.1.queriesLogged = (shim.queriesLogged + 1) % 2 ^ 64 ∧
      (result.2 = .error () ∧ ¬ Succeeds shim call ∨
        result.2 = .ok true ∧ Succeeds shim call ∧ ∀ date, result.1.2 (dailyName date) =
          (disk.write (dailyName call.date) (line json call.entry) call.written)
            (dailyName date))) := by
  simp only [logEntry]
  cases filtered : shim.isFiltered call.entry with
  | true => exact .inl ⟨rfl, rfl, rfl, rfl⟩
  | false =>
      refine .inr ⟨rfl, ?_⟩
      simp only [Bool.false_eq_true, if_false, writeToDisk, sendWebhook]
      cases wrote : call.written.isOk with
      | false => exact ⟨rfl, .inl ⟨rfl, fun succeeds => by simp [Succeeds, wrote] at succeeds⟩⟩
      | true =>
          have same : (shim.count call.entry).settings = shim.settings := rfl
          simp only [if_true, same]
          cases posted : shim.settings.webhook && !call.delivered with
          | true =>
              refine ⟨rfl, .inl ⟨rfl, fun succeeds => ?_⟩⟩
              rw [Bool.and_eq_true, Bool.not_eq_true'] at posted
              rw [succeeds.2.1 posted.1] at posted
              cases posted.2
          | false =>
              have answered : shim.settings.webhook = true → call.delivered = true := by
                intro webhook
                rw [webhook, Bool.true_and, Bool.not_eq_false'] at posted
                exact posted
              simp only [Bool.false_eq_true, if_false]
              obtain ⟨counted, daily, ⟨fails, refused⟩ | ⟨returns, rotated⟩⟩ :=
                pushEntry_spec json (shim.count call.entry)
                  (disk.write (dailyName call.date) (line json call.entry) call.written) call
              · exact ⟨counted, .inl ⟨fails, fun succeeds => refused succeeds.2.2⟩⟩
              · exact ⟨counted, .inr ⟨returns, ⟨wrote, answered, rotated⟩, daily⟩⟩

theorem daily_write {reached : List UInt8} (reaches : written.reached bytes = some reached)
    (day date : DateText) : (disk.write (dailyName day) bytes written).daily date =
      disk.daily date ++ if day = date then reached else [] := by
  rw [Disk.daily, Disk.write, reaches]
  dsimp only
  split_ifs with same
  · rw [same, Function.update_self, Option.getD_some, Disk.daily]
  · have different : dailyName date ≠ dailyName day := fun named =>
      same (dailyName_injective named.symm)
    rw [Function.update_of_ne different, List.append_nil, Disk.daily]

theorem linesOf_append (accepted : List (AuditEntry × DateText)) (entry : AuditEntry)
    (day date : DateText) : linesOf json (accepted ++ [(entry, day)]) date =
      linesOf json accepted date ++ if day = date then line json entry else [] := by
  rw [linesOf, List.filter_append, List.flatMap_append, linesOf]
  split_ifs with same
  · simp [same]
  · simp [same]

theorem step_of_error (outcome : (logEntry json session.shim session.disk call).2 = .error ()) :
    let after := (logEntry json session.shim session.disk call).1
    session.step json (.logEntry call) =
      { session with
        shim := after.1
        disk := after.2
        failed := session.failed ++ [((session.shim, session.disk), after)] } := by
  rw [Session.step]
  generalize logEntry json session.shim session.disk call = result at *
  obtain ⟨after, _⟩ := result
  cases outcome
  rfl

theorem step_of_ok {logged : Bool}
    (outcome : (logEntry json session.shim session.disk call).2 = .ok logged) :
    let after := (logEntry json session.shim session.disk call).1
    session.step json (.logEntry call) =
      { session with
        shim := after.1
        disk := after.2
        accepted := if logged then session.accepted ++ [(call.entry, call.date)]
          else session.accepted } := by
  rw [Session.step]
  generalize logEntry json session.shim session.disk call = result at *
  obtain ⟨after, _⟩ := result
  cases outcome
  rfl

/-! ## Every run -/

/-- Atomic so far, and no call has failed. -/
structure Intact (json : Json) (initial : Disk) (session : Session) : Prop
    extends Atomic json initial session where
  none : session.failed = []

theorem Intact.start (settings : Settings) (log : List AuditEntry) (entryCounter : Nat) :
    Intact json disk (.start settings log entryCounter disk) where
  unchanged := fun _ member => nomatch member
  counted := rfl
  written _ := (List.append_nil _).symm
  none := rfl

theorem reached_whole (ok : written.isOk = true) (ended : written ≠ .unended) :
    written.reached bytes = some bytes := by
  cases written with
  | refused => cases ok
  | broken length => cases ok
  | unended => exact absurd rfl ended
  | whole => rfl

theorem Intact.step {label : Label} (intact : Intact json initial session)
    (completes : Completes session label) : Intact json initial (session.step json label) := by
  cases label with
  | clearLogBefore keeps => exact ⟨⟨intact.unchanged, intact.counted, intact.written⟩, intact.none⟩
  | forceRotate rotation written =>
      obtain ⟨counted, daily, _⟩ :=
        @rotateLog_spec json session.disk written session.shim rotation
      refine ⟨⟨intact.unchanged, counted.trans intact.counted, fun date => ?_⟩, intact.none⟩
      exact (congrArg (Option.getD · []) (daily date)).trans (intact.written date)
  | logEntry call =>
      rcases logEntry_cases json session.shim session.disk call with
        ⟨_, outcome, counted, disk⟩ | ⟨admitted, counted, ⟨_, fails⟩ | ⟨outcome, _, daily⟩⟩
      · rw [step_of_ok outcome]
        refine ⟨⟨intact.unchanged, counted.trans intact.counted, fun date => ?_⟩, intact.none⟩
        exact (congrArg (Disk.daily · date) disk).trans (intact.written date)
      · exact absurd (completes admitted).1 fails
      · obtain ⟨succeeds, ended, room⟩ := completes admitted
        rw [step_of_ok outcome]
        refine ⟨⟨intact.unchanged, ?_, fun date => ?_⟩, intact.none⟩
        · change _ = (session.accepted ++ [(call.entry, call.date)]).length
          rw [List.length_append, List.length_singleton, ← intact.counted, counted,
            Nat.mod_eq_of_lt room]
        · change Disk.daily _ date =
            _ ++ linesOf json (session.accepted ++ [(call.entry, call.date)]) date
          rw [linesOf_append, ← List.append_assoc, ← intact.written,
            ← daily_write (reached_whole succeeds.1 ended)]
          exact congrArg (Option.getD · []) (daily date)

/-- Whatever fails, the counter has moved; and a line without its end is not the
line of its entry. -/
theorem Intact.breaks {label : Label} (intact : Intact json initial session)
    (disturbed : ¬ Completes session label) :
    ¬ Atomic json initial (session.step json label) := by
  intro atomic
  cases label with
  | clearLogBefore keeps => exact disturbed trivial
  | forceRotate rotation written => exact disturbed trivial
  | logEntry call =>
      rcases logEntry_cases json session.shim session.disk call with
        ⟨filtered, _⟩ | ⟨admitted, counted, ⟨outcome, _⟩ | ⟨outcome, succeeds, daily⟩⟩
      · refine disturbed fun admitted => ?_
        rw [filtered] at admitted
        cases admitted
      · rw [step_of_error outcome] at atomic
        have views := (atomic.unchanged _ (List.mem_append_right _ List.mem_cons_self)).queriesLogged
        have moved : session.shim.queriesLogged = (session.shim.queriesLogged + 1) % 2 ^ 64 :=
          views.symm.trans counted
        omega
      · rw [step_of_ok outcome] at atomic
        refine disturbed fun _ => ⟨succeeds, fun unended => ?_, ?_⟩
        · have lines := (congrArg (Option.getD · []) (daily call.date)).symm.trans
            (atomic.written call.date)
          change Disk.daily _ _ =
            _ ++ linesOf json (session.accepted ++ [(call.entry, call.date)]) call.date at lines
          rw [unended, daily_write rfl, linesOf_append, ← List.append_assoc, ← intact.written,
            List.append_cancel_left_eq, if_pos rfl, if_pos rfl] at lines
          have shorter := congrArg List.length lines
          rw [List.length_dropLast, line, lineBytes, List.length_append] at shorter
          change _ + 1 - 1 = _ + 1 at shorter
          omega
        · have total : _ = (session.accepted ++ [(call.entry, call.date)]).length :=
            counted.symm.trans atomic.counted
          rw [List.length_append, List.length_singleton, ← intact.counted] at total
          omega

/-- In every run the calls are atomic exactly when no step of one fails, every
line is written to its end and the counter does not wrap. -/
theorem atomic_iff (json : Json) (settings : Settings) (log : List AuditEntry)
    (entryCounter : Nat) (disk : Disk) (labels : List Label) :
    (machine json).Always (Atomic json disk) (.start settings log entryCounter disk) labels ↔
      (machine json).Along Completes (.start settings log entryCounter disk) labels :=
  Machine.always_ofFunction_iff_along (Intact json disk) (fun _ intact => intact.toAtomic)
    (fun _ _ intact completes => intact.step completes)
    (fun _ _ intact disturbed => intact.breaks disturbed)
    (Intact.start settings log entryCounter)

/-- The directory cannot be written, and the entry is counted all the same. -/
theorem not_atomic_refused :
    ¬ (machine sampleJson).Always (Atomic sampleJson fun _ => none) (.start {} [] 0 fun _ => none)
      [.logEntry
        { entry := sampleEntry "audit-0000000001"
          date := newYear
          written := .refused
          delivered := true
          rotation := (newYear, "120000")
          rotated := .whole }] := by
  intro always
  have views := ((always.last rfl).unchanged _ List.mem_cons_self).queriesLogged
  revert views
  decide +kernel

end Evergreen.Audit.Faults
