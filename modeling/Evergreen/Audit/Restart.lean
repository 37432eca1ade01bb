import Evergreen.Audit.Shim

namespace Evergreen.Audit

/-! # The log after a restart

The shim and its directory beside what was logged, each entry with the date it
was written on.
-/

structure Session where
  shim : AuditShim
  directory : Directory
  logged : List (AuditEntry × DateText) := []

inductive Label where
  | logEntry (entry : AuditEntry) (date : DateText) (delivered : Bool)
      (rotation : DateText × String)
  | forceRotate (date : DateText) (time : String)
  | restart (settings : Settings)

def Session.step (json : Json) (session : Session) : Label → Session
  | .logEntry entry date delivered rotation =>
      let result := (session.shim.logEntry json session.directory entry date delivered rotation).1
      { shim := result.1
        directory := result.2
        logged := if session.shim.isFiltered entry then session.logged
          else session.logged ++ [(entry, date)] }
  | .forceRotate date time =>
      let result := session.shim.rotateLog json session.directory date time
      { session with shim := result.1, directory := result.2 }
  | .restart settings =>
      let result := AuditShim.loadFromDisk json { settings } session.directory
      { session with shim := result.1, directory := result.2 }

def machine (json : Json) : Machine Session Label := .ofFunction (Session.step json)

def Session.start (settings : Settings) : Session where
  shim := { settings }
  directory := none

/-- The shim a restart in this state brings up. -/
def Session.restored (json : Json) (session : Session) : AuditShim :=
  (AuditShim.loadFromDisk json { settings := session.shim.settings } session.directory).1

/-- A restart finds every logged entry once and in order, no id above its
counter, and its next id unused. -/
def Recovers (json : Json) (session : Session) : Prop :=
  (session.restored json).log = session.logged.map Prod.fst ∧
    (∀ entry ∈ session.logged.map Prod.fst, ∀ number, idNumber entry.id = some number →
      number ≤ (session.restored json).entryCounter) ∧
    ((session.restored json).entryCounter + 1 < 2 ^ 64 →
      ∀ entry ∈ session.logged.map Prod.fst, entry.id ≠ (session.restored json).nextId)

/-- What is logged reads back from its line. -/
def Readable (json : Json) (_ : Session) : Label → Prop
  | .logEntry entry _ _ _ => json.Reads entry
  | .forceRotate _ _ | .restart _ => True

/-- No rotation writes anything, and no entry is written on a date before that of
another entry already logged. -/
def KeepsFiles (session : Session) : Label → Prop
  | .logEntry entry date delivered _ => session.shim.isFiltered entry = false →
      ((session.shim.settings.webhook && !delivered) = true ∨
        session.shim.log.length < session.shim.settings.maxEntries) ∧
      ∀ earlier ∈ session.logged, earlier.1 ≠ entry → earlier.2.text ≤ date.text
  | .forceRotate _ _ => session.shim.log = []
  | .restart _ => True

/-! ## The names of daily files -/

theorem append_lt_append_iff {left right after : List Char} (same : left.length = right.length) :
    left ++ after < right ++ after ↔ left < right := by
  induction left generalizing right with
  | nil =>
      obtain rfl := List.length_eq_zero_iff.mp same.symm
      simp
  | cons first left ih =>
      cases right with
      | nil => cases same
      | cons other right =>
          rw [List.cons_append, List.cons_append, List.cons_lt_cons_iff, List.cons_lt_cons_iff,
            ih (Nat.succ.inj same)]

theorem dailyName_lt_iff (left right : DateText) :
    dailyName left < dailyName right ↔ left.text < right.text := by
  have start : ∀ before left right : List Char,
      before ++ left < before ++ right ↔ left < right := by
    intro before left right
    induction before with
    | nil => exact Iff.rfl
    | cons char before ih =>
        rw [List.cons_append, List.cons_append, List.cons_lt_cons_iff, ih]
        simp
  rw [String.lt_iff_toList_lt, String.lt_iff_toList_lt, dailyName, dailyName,
    String.toList_append, String.toList_append, String.toList_append, String.toList_append,
    List.append_assoc, List.append_assoc, start,
    append_lt_append_iff (left.width.trans right.width.symm)]

theorem dailyName_injective {left right : DateText} (same : dailyName left = dailyName right) :
    left = right := by
  have texts : left.text = right.text := by
    have forward := dailyName_lt_iff left right
    have backward := dailyName_lt_iff right left
    rw [same] at forward backward
    exact le_antisymm (not_lt.mp fun less => lt_irrefl _ (backward.mpr less))
      (not_lt.mp fun less => lt_irrefl _ (forward.mpr less))
  cases left
  cases right
  cases texts
  rfl

theorem isAuditLog_of_append {middle : String} : isAuditLog ("audit-" ++ middle ++ ".log") = true := by
  rw [isAuditLog, Text.startsWith, Bool.and_eq_true]
  refine ⟨List.isSuffixOf_iff_suffix.mpr ?_, List.isPrefixOf_iff_prefix.mpr ?_⟩
  · rw [String.toList_append]
    exact List.suffix_append _ _
  · rw [String.toList_append, String.toList_append, List.append_assoc]
    exact List.prefix_append _ _

theorem isAuditLog_dailyName (date : DateText) : isAuditLog (dailyName date) = true :=
  isAuditLog_of_append

theorem isAuditLog_rotateName (date : DateText) (time : String) :
    isAuditLog (rotateName date time) = true := by
  have middle : rotateName date time = "audit-" ++ (date.text ++ "-rotate-" ++ time) ++ ".log" := by
    simp only [rotateName, String.append_assoc]
  rw [middle]
  exact isAuditLog_of_append

/-! ## What is loaded -/

/-- The entries of the log files, in the order a restart reads them. -/
def loaded (json : Json) (files : List Files.LineFile) : List AuditEntry :=
  (Files.readAll (files.filter fun file => isAuditLog file.name)).filterMap
    (AuditShim.parseLine json)

variable {json : Json} {session : Session}

theorem loadFromDisk_eq (settings : Settings) (directory : Directory) :
    let shim := (AuditShim.loadFromDisk json { settings } directory).1
    shim.log = loaded json (directory.getD []) ∧
      shim.entryCounter = AuditShim.maxCounter (loaded json (directory.getD [])) := by
  cases directory with
  | none => exact ⟨rfl, rfl⟩
  | some files => exact ⟨rfl, rfl⟩

theorem parseLine_write {entry : AuditEntry} (reads : json.Reads entry) :
    AuditShim.parseLine json (json.write entry) = some entry := by
  simp only [AuditShim.parseLine, if_neg reads.1, reads.2]

theorem filterMap_write {entries : List AuditEntry} (reads : ∀ entry ∈ entries, json.Reads entry) :
    (entries.map json.write).filterMap (AuditShim.parseLine json) = entries := by
  induction entries with
  | nil => rfl
  | cons entry entries ih =>
      rw [List.map_cons, List.filterMap_cons_some (parseLine_write (reads entry List.mem_cons_self)),
        ih fun other member => reads other (List.mem_cons_of_mem _ member)]

theorem le_keepGreatest (most : Nat) (entry : AuditEntry) :
    most ≤ AuditShim.keepGreatest most entry ∧
      ∀ number, idNumber entry.id = some number → number ≤ AuditShim.keepGreatest most entry := by
  rw [AuditShim.keepGreatest]
  cases idNumber entry.id with
  | none => exact ⟨Nat.le_refl _, fun _ numbered => by cases numbered⟩
  | some counted =>
      dsimp only
      refine ⟨?_, fun number numbered => ?_⟩
      · split
        · omega
        · omega
      · cases numbered
        split
        · omega
        · omega

theorem le_foldl_keepGreatest (entries : List AuditEntry) (most : Nat) :
    most ≤ entries.foldl AuditShim.keepGreatest most ∧
      ∀ entry ∈ entries, ∀ number, idNumber entry.id = some number →
        number ≤ entries.foldl AuditShim.keepGreatest most := by
  induction entries generalizing most with
  | nil => exact ⟨Nat.le_refl _, fun _ member => by cases member⟩
  | cons first rest ih =>
      obtain ⟨grows, counts⟩ := le_keepGreatest most first
      obtain ⟨later, others⟩ := ih (AuditShim.keepGreatest most first)
      refine ⟨grows.trans later, fun entry member number numbered => ?_⟩
      rcases List.mem_cons.mp member with rfl | member
      · exact (counts number numbered).trans later
      · exact others entry member number numbered

theorem le_maxCounter {entries : List AuditEntry} {entry : AuditEntry} (member : entry ∈ entries)
    {number : Nat} (numbered : idNumber entry.id = some number) :
    number ≤ AuditShim.maxCounter entries :=
  (le_foldl_keepGreatest entries 0).2 entry member number numbered

theorem idNumber_nextId {shim : AuditShim} (small : shim.entryCounter + 1 < 2 ^ 64) :
    idNumber shim.nextId = some (shim.entryCounter + 1) := by
  rw [idNumber, AuditShim.nextId, Text.stripStart_append, Option.bind_some]
  exact Text.parseUnsigned_padDecimal 10 small

/-- Everything else follows once the entries come back. -/
theorem recovers_iff : Recovers json session ↔
    loaded json (session.directory.getD []) = session.logged.map Prod.fst := by
  obtain ⟨log, counter⟩ := @loadFromDisk_eq json session.shim.settings session.directory
  refine ⟨fun recovers => log.symm.trans recovers.1, fun same => ⟨log.trans same, ?_, ?_⟩⟩
  · intro entry member number numbered
    rw [Session.restored, counter, same]
    exact le_maxCounter member numbered
  · intro small entry member used
    have bound : ∀ number, idNumber entry.id = some number →
        number ≤ (session.restored json).entryCounter := by
      intro number numbered
      rw [Session.restored, counter, same]
      exact le_maxCounter member numbered
    have next := bound _ (used ▸ idNumber_nextId small)
    omega

/-! ## The invariant -/

/-- Only daily files, and in them exactly what was logged, on the right dates and
in order. -/
structure Kept (json : Json) (files : List Files.LineFile)
    (logged : List (AuditEntry × DateText)) : Prop where
  named : Files.Named files
  dated : ∀ file ∈ files, ∃ date, file.name = dailyName date ∧
    ∀ line ∈ file.lines, ∃ entry, (entry, date) ∈ logged ∧ line = json.write entry
  placed : ∀ entry date, (entry, date) ∈ logged →
    ∃ file ∈ files, file.name = dailyName date ∧ json.write entry ∈ file.lines
  whole : Files.readAll files = (logged.map Prod.fst).map json.write
  readable : ∀ entry ∈ logged.map Prod.fst, json.Reads entry

variable {files : List Files.LineFile} {logged : List (AuditEntry × DateText)}
variable {entry : AuditEntry} {date : DateText}

theorem loaded_of_audit (audit : ∀ file ∈ files, isAuditLog file.name = true) :
    loaded json files = (Files.readAll files).filterMap (AuditShim.parseLine json) := by
  rw [loaded, List.filter_eq_self.mpr audit]

theorem audit_appendLines {name : String} {lines : List String}
    (audit : ∀ file ∈ files, isAuditLog file.name = true) (log : isAuditLog name = true) :
    ∀ file ∈ Files.appendLines files name lines, isAuditLog file.name = true := by
  intro file member
  rcases Files.mem_appendLines member with ⟨held, _⟩ | ⟨named, _⟩
  · exact audit file held
  · exact named ▸ log

theorem Kept.audit (kept : Kept json files logged) :
    ∀ file ∈ files, isAuditLog file.name = true := by
  intro file member
  obtain ⟨date, named, _⟩ := kept.dated file member
  rw [named]
  exact isAuditLog_dailyName date

theorem Kept.loaded_eq (kept : Kept json files logged) :
    loaded json files = logged.map Prod.fst := by
  rw [loaded_of_audit kept.audit, kept.whole, filterMap_write kept.readable]

theorem Kept.later {line : String} (kept : Kept json files logged)
    (beyond : ∃ file ∈ files, dailyName date < file.name ∧ line ∈ file.lines) :
    ∃ earlier ∈ logged, date.text < earlier.2.text ∧ line = json.write earlier.1 := by
  obtain ⟨file, member, later, within⟩ := beyond
  obtain ⟨other, named, held⟩ := kept.dated file member
  obtain ⟨entry, inLog, written⟩ := held line within
  exact ⟨(entry, other), inLog, (dailyName_lt_iff date other).mp (named ▸ later), written⟩

theorem cons_eq_append_singleton {Item : Type} {item : Item} {items : List Item} :
    item :: items = items ++ [item] ↔ ∀ other ∈ items, other = item := by
  induction items with
  | nil => simp
  | cons first rest ih =>
      rw [List.cons_append, List.cons.injEq, List.forall_mem_cons, eq_comm]
      refine and_congr_right fun same => ?_
      rw [same, ih]

theorem Kept.write (kept : Kept json files logged) (reads : json.Reads entry)
    (ordered : ∀ earlier ∈ logged, earlier.1 ≠ entry → earlier.2.text ≤ date.text) :
    Kept json (Files.appendLines files (dailyName date) [json.write entry])
      (logged ++ [(entry, date)]) := by
  refine ⟨kept.named.appendLines, fun file member => ?_, fun other day member => ?_, ?_, ?_⟩
  · rcases Files.mem_appendLines member with ⟨held, _⟩ | ⟨named, lines⟩
    · obtain ⟨other, named, within⟩ := kept.dated file held
      refine ⟨other, named, fun line member => ?_⟩
      obtain ⟨entry, inLog, written⟩ := within line member
      exact ⟨entry, List.mem_append_left _ inLog, written⟩
    · refine ⟨date, named, fun line member => ?_⟩
      rcases lines line member with new | ⟨old, held, same, within⟩
      · exact ⟨entry, List.mem_append_right _ List.mem_cons_self, List.mem_singleton.mp new⟩
      · obtain ⟨other, oldName, oldLines⟩ := kept.dated old held
        obtain rfl := dailyName_injective (oldName.symm.trans same)
        obtain ⟨entry, inLog, written⟩ := oldLines line within
        exact ⟨entry, List.mem_append_left _ inLog, written⟩
  · apply Files.appendLines_holds
    rcases List.mem_append.mp member with inLog | new
    · exact .inr (kept.placed other day inLog)
    · obtain ⟨rfl, rfl⟩ := Prod.mk.inj (List.mem_singleton.mp new)
      exact .inl ⟨rfl, List.mem_cons_self⟩
  · obtain ⟨before, after, old, new, beyond⟩ :=
      Files.readAll_appendLines kept.named (dailyName date) [json.write entry]
    have same : ∀ line ∈ after, line = json.write entry := by
      intro line member
      obtain ⟨earlier, inLog, later, rfl⟩ := kept.later ((beyond line).mp member)
      by_contra different
      have other : earlier.1 ≠ entry := fun equal => different (congrArg json.write equal)
      exact absurd (ordered earlier inLog other) (not_le.mpr later)
    have commute := cons_eq_append_singleton.mpr same
    rw [List.map_append, List.map_append, ← kept.whole, old, new, List.append_assoc,
      List.append_assoc, List.singleton_append, commute]
    rfl
  · intro other member
    rw [List.map_append] at member
    rcases List.mem_append.mp member with inLog | new
    · exact kept.readable other inLog
    · obtain rfl := List.mem_singleton.mp new
      exact reads

/-- An entry written on a date before that of another one is loaded before it. -/
theorem Kept.misplaced {earlier : AuditEntry × DateText} (kept : Kept json files logged)
    (reads : json.Reads entry) (inLog : earlier ∈ logged) (other : earlier.1 ≠ entry)
    (later : ¬ earlier.2.text ≤ date.text) :
    loaded json (Files.appendLines files (dailyName date) [json.write entry]) ≠
      (logged ++ [(entry, date)]).map Prod.fst := by
  obtain ⟨before, after, old, new, beyond⟩ :=
    Files.readAll_appendLines kept.named (dailyName date) [json.write entry]
  intro same
  obtain ⟨file, held, named, within⟩ := kept.placed earlier.1 earlier.2 inLog
  have behind : json.write earlier.1 ∈ after :=
    (beyond _).mpr ⟨file, held, named ▸ (dailyName_lt_iff _ _).mpr (not_le.mp later), within⟩
  rw [loaded_of_audit (audit_appendLines kept.audit (isAuditLog_dailyName date)), new, List.map_append,
    ← kept.loaded_eq, loaded_of_audit kept.audit, old, List.filterMap_append,
    List.filterMap_append, List.filterMap_append, List.append_assoc, List.append_assoc,
    List.append_cancel_left_eq, List.filterMap_cons_some (parseLine_write reads)] at same
  have equal := cons_eq_append_singleton.mp same earlier.1
    (List.mem_filterMap.mpr ⟨_, behind, parseLine_write
      (kept.readable _ (List.mem_map_of_mem inLog))⟩)
  exact other equal

theorem length_loaded_appendLines {name : String} {entries : List AuditEntry}
    (named : Files.Named files) (audit : ∀ file ∈ files, isAuditLog file.name = true)
    (log : isAuditLog name = true) (reads : ∀ entry ∈ entries, json.Reads entry) :
    (loaded json (Files.appendLines files name (entries.map json.write))).length =
      (loaded json files).length + entries.length := by
  obtain ⟨before, after, old, new, _⟩ :=
    Files.readAll_appendLines named name (entries.map json.write)
  rw [loaded_of_audit (audit_appendLines audit log), loaded_of_audit audit, new, old]
  simp only [List.filterMap_append, List.length_append, filterMap_write reads]
  omega

/-- The directory is as logged, and what is in memory can be written again. -/
structure Faithful (json : Json) (session : Session) : Prop where
  kept : Kept json (session.directory.getD []) session.logged
  inMemory : ∀ entry ∈ session.shim.log, json.Reads entry

theorem Faithful.start (settings : Settings) : Faithful json (.start settings) where
  kept :=
    { named := List.nodup_nil
      dated := fun _ member => by cases member
      placed := fun _ _ member => by cases member
      whole := rfl
      readable := fun _ member => by cases member }
  inMemory _ member := by cases member

/-! ## One call -/

theorem rotateLog_of_ne_nil {shim : AuditShim} {directory : Directory} {time : String}
    (some : shim.log ≠ []) :
    shim.rotateLog json directory date time =
      ({ shim with log := [] }, .some (Files.appendLines (directory.getD [])
        (rotateName date time) (shim.log.map json.write))) :=
  if_neg some

theorem step_logEntry_cases (session : Session) (entry : AuditEntry) (date : DateText)
    (delivered : Bool) (rotation : DateText × String) :
    let next := session.step json (.logEntry entry date delivered rotation)
    (session.shim.isFiltered entry = true ∧ next.directory = session.directory ∧
      next.logged = session.logged ∧ next.shim.log = session.shim.log) ∨
    (session.shim.isFiltered entry = false ∧ next.logged = session.logged ++ [(entry, date)] ∧
      (((session.shim.settings.webhook && !delivered) = true ∨
          session.shim.log.length < session.shim.settings.maxEntries) ∧
        next.directory = AuditShim.writeToDisk json session.directory entry date ∧
        (∀ held ∈ next.shim.log, held ∈ session.shim.log ∨ held = entry) ∨
      ((session.shim.settings.webhook && !delivered) = false ∧
        ¬ session.shim.log.length < session.shim.settings.maxEntries ∧
        next.directory = some (Files.appendLines
          ((AuditShim.writeToDisk json session.directory entry date).getD [])
          (rotateName rotation.1 rotation.2) ((session.shim.log ++ [entry]).map json.write))))) := by
  simp only [Session.step, AuditShim.logEntry]
  cases filtered : session.shim.isFiltered entry with
  | true => exact .inl ⟨rfl, rfl, rfl, rfl⟩
  | false =>
      refine .inr ⟨rfl, rfl, ?_⟩
      cases failed : (session.shim.settings.webhook && !delivered) with
      | true => exact .inl ⟨.inl rfl, rfl, fun held member => .inl member⟩
      | false =>
          simp only [Bool.false_eq_true, if_false]
          split
          · next full =>
            refine .inr ⟨trivial, ?_, ?_⟩
            · simp only [AuditShim.count, List.length_append, List.length_singleton] at full
              omega
            · exact congrArg Prod.snd (rotateLog_of_ne_nil
                (List.append_ne_nil_of_right_ne_nil session.shim.log (List.cons_ne_nil entry [])))
          · next room =>
            refine .inl ⟨.inr ?_, rfl, fun held member => ?_⟩
            · simp only [AuditShim.count, List.length_append, List.length_singleton] at room
              omega
            · rcases List.mem_append.mp member with old | new
              · exact .inl old
              · exact .inr (List.mem_singleton.mp new)

theorem Faithful.step {label : Label} (faithful : Faithful json session)
    (readable : Readable json session label) (keeps : KeepsFiles session label) :
    Faithful json (session.step json label) := by
  cases label with
  | forceRotate date time =>
      have unchanged : session.step json (.forceRotate date time) = session := by
        simp only [Session.step, AuditShim.rotateLog, if_pos (show session.shim.log = [] from keeps)]
      rw [unchanged]
      exact faithful
  | restart settings =>
      obtain ⟨log, _⟩ := @loadFromDisk_eq json settings session.directory
      have files : (AuditShim.loadFromDisk json { settings } session.directory).2.getD [] =
          session.directory.getD [] := by
        cases session.directory with
        | none => rfl
        | some files => rfl
      refine ⟨files.symm ▸ faithful.kept, fun entry member => ?_⟩
      have held : entry ∈ loaded json (session.directory.getD []) := log ▸ member
      rw [faithful.kept.loaded_eq] at held
      exact faithful.kept.readable entry held
  | logEntry entry date delivered rotation =>
      rcases step_logEntry_cases session entry date delivered rotation with
        ⟨_, directory, logged, memory⟩ |
        ⟨admitted, logged, ⟨_, directory, memory⟩ | ⟨posted, full, _⟩⟩
      · refine ⟨?_, fun held member => faithful.inMemory held (memory ▸ member)⟩
        rw [directory, logged]
        exact faithful.kept
      · refine ⟨?_, fun held member => ?_⟩
        · rw [directory, logged]
          exact faithful.kept.write readable (keeps admitted).2
        · rcases memory held member with old | rfl
          · exact faithful.inMemory held old
          · exact readable
      · rcases (keeps admitted).1 with failed | room
        · rw [posted] at failed
          cases failed
        · exact absurd room full

/-- A rotation writes again what the daily files hold. -/
theorem Faithful.length_loaded_rotated (faithful : Faithful json session)
    {entry : AuditEntry} {rotation : DateText × String} (reads : json.Reads entry) :
    (loaded json (Files.appendLines
        ((AuditShim.writeToDisk json session.directory entry date).getD [])
        (rotateName rotation.1 rotation.2) ((session.shim.log ++ [entry]).map json.write))).length =
      (loaded json (session.directory.getD [])).length + 1 + (session.shim.log.length + 1) := by
  have pushed : ∀ other ∈ session.shim.log ++ [entry], json.Reads other := by
    intro other member
    rcases List.mem_append.mp member with old | new
    · exact faithful.inMemory other old
    · obtain rfl := List.mem_singleton.mp new
      exact reads
  have daily := @length_loaded_appendLines json _ (dailyName date) [entry]
    faithful.kept.named faithful.kept.audit (isAuditLog_dailyName date)
    (fun other member => pushed other (List.mem_append_right _ member))
  have audit : ∀ file ∈ Files.appendLines (session.directory.getD []) (dailyName date)
      [json.write entry], isAuditLog file.name = true :=
    audit_appendLines faithful.kept.audit (isAuditLog_dailyName date)
  have rotated := @length_loaded_appendLines json _ (rotateName rotation.1 rotation.2)
    (session.shim.log ++ [entry]) faithful.kept.named.appendLines audit
    (isAuditLog_rotateName _ _) pushed
  rw [AuditShim.writeToDisk, Option.getD_some, rotated]
  simp only [List.map_singleton, List.length_singleton] at daily
  rw [daily, List.length_append, List.length_singleton]

theorem not_recovers_of_longer
    (longer : session.logged.length < (loaded json (session.directory.getD [])).length) :
    ¬ Recovers json session := by
  intro recovers
  have same := congrArg List.length (recovers_iff.mp recovers)
  rw [List.length_map] at same
  omega

theorem Faithful.breaks {label : Label} (faithful : Faithful json session)
    (readable : Readable json session label) (careless : ¬ KeepsFiles session label) :
    ¬ Recovers json (session.step json label) := by
  have before := congrArg List.length faithful.kept.loaded_eq
  rw [List.length_map] at before
  cases label with
  | restart settings => exact absurd trivial careless
  | forceRotate date time =>
      have some : session.shim.log ≠ [] := careless
      apply not_recovers_of_longer
      simp only [Session.step, rotateLog_of_ne_nil some, Option.getD_some]
      rw [length_loaded_appendLines faithful.kept.named faithful.kept.audit
        (isAuditLog_rotateName date time) faithful.inMemory]
      have positive := List.length_pos_iff.mpr some
      omega
  | logEntry entry date delivered rotation =>
      rcases step_logEntry_cases session entry date delivered rotation with
        ⟨filtered, _⟩ | ⟨admitted, logged, ⟨room, directory, _⟩ | ⟨_, _, directory⟩⟩
      · refine absurd (fun admitted => ?_) careless
        rw [filtered] at admitted
        cases admitted
      · have misplaced : ∃ earlier ∈ session.logged, earlier.1 ≠ entry ∧
            ¬ earlier.2.text ≤ date.text := by
          by_contra ordered
          push Not at ordered
          exact careless fun _ => ⟨room, ordered⟩
        obtain ⟨earlier, inLog, other, later⟩ := misplaced
        rw [recovers_iff, directory, logged]
        exact faithful.kept.misplaced readable inLog other later
      · apply not_recovers_of_longer
        rw [directory, logged, Option.getD_some, faithful.length_loaded_rotated readable]
        simp only [List.length_append, List.length_singleton]
        omega

/-! ## Every run -/

/-- In every state of a run a restart recovers the log exactly when the run
keeps the files to one copy of each entry, in order. -/
theorem restart_recovers_iff (json : Json) (settings : Settings) (labels : List Label)
    (readable : (machine json).Along (Readable json) (.start settings) labels) :
    (machine json).Always (Recovers json) (.start settings) labels ↔
      (machine json).Along KeepsFiles (.start settings) labels := by
  refine Machine.always_iff_along_of_promise (Faithful json)
    (fun state faithful => recovers_iff.mpr faithful.kept.loaded_eq) ?_ ?_
    (Faithful.start settings) readable
  · intro state label next faithful readable keeps taken
    cases taken
    exact faithful.step readable keeps
  · intro state label next faithful readable careless taken
    cases taken
    exact faithful.breaks readable careless

/-- Entries named by their ids, for the one operation of a test. -/
def sampleEntry (id : String) : AuditEntry where
  id := id
  timestamp := "2025-01-01T00:00:00+00:00"
  database := "testdb"
  operation := "SELECT"
  table := none
  query := none
  durationMs := 1
  rowsAffected := none
  clientAddr := none
  user := none
  success := true
  error := none

def sampleJson : Json where
  write entry := entry.id
  read line := some (sampleEntry line)

def newYear : DateText := ⟨"2025-01-01", by decide⟩

theorem restart_recovers_one :
    (machine sampleJson).Always (Recovers sampleJson) (.start {})
      [.logEntry (sampleEntry "audit-0000000001") newYear true (newYear, "120000")] := by
  have readable : sampleJson.Reads (sampleEntry "audit-0000000001") :=
    ⟨by decide +kernel, by decide +kernel⟩
  refine (restart_recovers_iff sampleJson {} [.logEntry (sampleEntry "audit-0000000001") newYear true
    (newYear, "120000")] fun next taken => ⟨readable, trivial⟩).mpr ?_
  exact fun next taken => ⟨fun _ => ⟨.inr (by decide), fun earlier member => by cases member⟩, trivial⟩

/-- One entry and a forced rotation: it is in the daily file and in the rotated
one, and a restart loads it twice. -/
theorem restart_doubles :
    ¬ (machine sampleJson).Always (Recovers sampleJson) (.start {})
      [.logEntry (sampleEntry "audit-0000000001") newYear true (newYear, "120000"),
        .forceRotate newYear "120000"] := by
  intro always
  have recovers := (always.last rfl).1
  revert recovers
  decide +kernel

end Evergreen.Audit
