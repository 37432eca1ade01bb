import Evergreen.Backup.Outcome
import Evergreen.Machine.Run
import Mathlib.Logic.Function.Basic

namespace Evergreen.Backup

/-! # Verifying what was recorded

A verification reads the file of a backup and compares its checksum with the one
recorded; it does not compare the size, and a restore test that runs and fails is
no error.  Beside the shim stands the disk, to which each call writes the one file
it names by the second it starts in.
-/

structure VerificationResult where
  success : Bool
  fileExists : Bool
  fileSize : Nat
  checksumMatch : Option Bool
  restoreTest : Option Bool
  errors : List String
deriving DecidableEq, Repr

structure BackupVerifier where
  verifyAfter : Bool := true
  testRestore : Bool := false
deriving DecidableEq, Repr

/-- What the file system and `pg_restore` answer; the first is the length. -/
structure FileAnswers where
  metadata : Except String Nat
  read : Except String Bytes
  restore : Except String Bool

def BackupVerifier.verify (sha256 : Digest) (verifier : BackupVerifier) (answers : FileAnswers)
    (expectedChecksum : String) : VerificationResult :=
  if !verifier.verifyAfter then
    { success := true, fileExists := true, fileSize := 0, checksumMatch := none
      restoreTest := none, errors := [] }
  else
    match answers.metadata with
    | .error error =>
        { success := false, fileExists := false, fileSize := 0, checksumMatch := none
          restoreTest := none, errors := [s!"File not found: {error}"] }
    | .ok size =>
        if size = 0 then
          { success := false, fileExists := true, fileSize := 0, checksumMatch := some false
            restoreTest := none, errors := ["Backup file has zero size"] }
        else
          match answers.read with
          | .error error =>
              { success := false, fileExists := true, fileSize := size, checksumMatch := none
                restoreTest := none, errors := [s!"Failed to read backup file: {error}"] }
          | .ok data =>
              let actual := computeChecksum sha256 data
              let checksumOk := decide (actual = expectedChecksum)
              let mismatch := if checksumOk then [] else
                [s!"Checksum mismatch: expected={expectedChecksum}, actual={actual}"]
              let tested := verifier.testRestore && checksumOk
              let restoreOk := if tested then
                  match answers.restore with
                  | .ok restored => some restored
                  | .error _ => some false
                else none
              let unrestored := if tested then
                  match answers.restore with
                  | .ok _ => []
                  | .error error => [s!"Restore test failed: {error}"]
                else []
              let errors := mismatch ++ unrestored
              { success := checksumOk && errors.isEmpty
                fileExists := true
                fileSize := size
                checksumMatch := some checksumOk
                restoreTest := restoreOk
                errors }

/-- The answers about a file with these bytes, or about none. -/
def FileAnswers.of (file : Option Bytes) (restore : Except String Bool) : FileAnswers :=
  match file with
  | none =>
      { metadata := .error "No such file or directory (os error 2)"
        read := .error "No such file or directory (os error 2)"
        restore }
  | some data => { metadata := .ok data.length, read := .ok data, restore }

/-- The backups that are recorded and the files there are. -/
structure Archive where
  state : BackupState := {}
  disk : String → Option Bytes := fun _ => none

/-- A call, and what it leaves of its file if it records nothing. -/
structure BackupCall where
  answers : Answers
  leftover : Option Bytes

namespace BackupShim

def entryPath (shim : BackupShim) (filename : String) : String := s!"{shim.outputDir}/{filename}"

/-- The bytes of the dump that a call ended with. -/
def dumped (shim : BackupShim) (answers : Answers) (called : Called) : Option Bytes :=
  match called.lastAttempt with
  | none => none
  | some last =>
      match shim.dump (shim.outputPath answers) (answers.attempt last) with
      | .ok (.ok (.ok data)) => some data
      | _ => none

def archive (checks : Bool) (sha256 : Digest) (shim : BackupShim) : Machine Archive BackupCall :=
  .ofFunction fun archive call =>
    let called := shim.backup checks sha256 call.answers archive.state
    { state := called.state
      disk := Function.update archive.disk (shim.outputPath call.answers)
        (if called.removed then none
          else (shim.dumped call.answers called).or call.leftover) }

/-- The call's file has a name of its own and stays on the disk. -/
def OwnFile (checks : Bool) (sha256 : Digest) (shim : BackupShim) (archive : Archive)
    (call : BackupCall) : Prop :=
  (∀ entry ∈ archive.state.backupHistory,
      entry.filename ≠ shim.backupFilename call.answers.timestamp) ∧
    (shim.backup checks sha256 call.answers archive.state).removed = false

end BackupShim

variable {checks : Bool} {sha256 : Digest} {shim : BackupShim} {answers : Answers}
variable {archive : Archive} {call : BackupCall} {entry : BackupEntry}

/-! ## What a call does to the history -/

/-- The file of the entry holds what was recorded. -/
def Filed (sha256 : Digest) (shim : BackupShim) (disk : String → Option Bytes)
    (entry : BackupEntry) : Prop :=
  ∃ data, disk (shim.entryPath entry.filename) = some data ∧
    entry.checksum = computeChecksum sha256 data ∧ entry.sizeBytes = data.length

/-- A call records its dump, or nothing. -/
def Records (sha256 : Digest) (shim : BackupShim) (answers : Answers) (before : BackupState)
    (called : Called) : Prop :=
  called.state.backupHistory = before.backupHistory ∨
    ∃ data entry, shim.dumped answers called = some data ∧
      called.state.backupHistory = before.backupHistory ++ [entry] ∧
      entry.filename = shim.backupFilename answers.timestamp ∧
      entry.checksum = computeChecksum sha256 data ∧ entry.sizeBytes = data.length

theorem attempts_records (before : BackupState) (remaining attempt : Nat) (lastAttempt : Option Nat)
    (lastError : Option String) :
    Records sha256 shim answers before
      (shim.attempts checks sha256 answers before (shim.backupFilename answers.timestamp)
        (shim.outputPath answers) remaining attempt lastAttempt lastError) := by
  induction remaining generalizing attempt lastAttempt lastError with
  | zero => exact .inl rfl
  | succ remaining ih =>
      rw [BackupShim.attempts]
      cases shim.delayMs checks attempt with
      | error panic => exact .inl rfl
      | ok delay =>
          simp only
          cases taken : shim.dump (shim.outputPath answers) (answers.attempt attempt) with
          | error stop =>
              cases stop with
              | panicked panic => exact .inl rfl
              | returned error => exact .inl rfl
          | ok dump =>
              cases dump with
              | error error => exact ih (attempt + 1) (some attempt) (some error)
              | ok onDisk =>
                  cases onDisk with
                  | error error => exact .inl rfl
                  | ok data =>
                      refine .inr ⟨data, _, ?_, rfl, rfl, rfl, rfl⟩
                      simp only [BackupShim.dumped, BackupShim.conclude, taken]

theorem backup_records (before : BackupState) :
    Records sha256 shim answers before (shim.backup checks sha256 answers before) := by
  rw [BackupShim.backup]
  cases answers.createDirAll with
  | error error => exact .inl rfl
  | ok made => exact attempts_records before _ _ _ _

/-! ## The files of a run -/

theorem entryPath_injective {first second : String}
    (same : shim.entryPath first = shim.entryPath second) : first = second := by
  simpa [BackupShim.entryPath, toString] using same

theorem Filed.step (own : shim.OwnFile checks sha256 archive call)
    (filed : ∀ entry ∈ archive.state.backupHistory, Filed sha256 shim archive.disk entry)
    {next : Archive} (taken : (shim.archive checks sha256).step archive call = some next) :
    ∀ entry ∈ next.state.backupHistory, Filed sha256 shim next.disk entry := by
  obtain rfl := Option.some.inj taken
  obtain ⟨apart, stays⟩ := own
  have path : shim.outputPath call.answers =
    shim.entryPath (shim.backupFilename call.answers.timestamp) := rfl
  have earlier : ∀ entry ∈ archive.state.backupHistory, ∀ file,
      Filed sha256 shim (Function.update archive.disk (shim.outputPath call.answers) file) entry := by
    intro entry member file
    obtain ⟨data, held, same⟩ := filed entry member
    refine ⟨data, ?_, same⟩
    rw [path, Function.update_of_ne fun same => apart entry member (entryPath_injective same)]
    exact held
  rcases @backup_records checks sha256 shim call.answers archive.state with
    unchanged | ⟨data, entry, dumped, grown, named, recorded⟩
  · intro entry member
    exact earlier entry (unchanged ▸ member) _
  · intro other member
    rcases List.mem_append.mp (grown ▸ member) with old | new
    · exact earlier other old _
    · obtain rfl := List.mem_singleton.mp new
      refine ⟨data, ?_, recorded⟩
      simp only [stays, dumped, named, path, Function.update_self, Option.some_or, if_false,
        Bool.false_eq_true]

theorem verify_filed {disk : String → Option Bytes} (filed : Filed sha256 shim disk entry)
    (verifier : BackupVerifier) (restore : Except String Bool) :
    (verifier.verify sha256 (.of (disk (shim.entryPath entry.filename)) restore)
        entry.checksum).success = true ↔
      verifier.verifyAfter = true →
        entry.sizeBytes ≠ 0 ∧ (verifier.testRestore = true → restore.isOk = true) := by
  obtain ⟨data, held, checksum, size⟩ := filed
  rw [held, checksum, size]
  cases after : verifier.verifyAfter with
  | false => simp [BackupVerifier.verify, after]
  | true =>
      by_cases empty : data.length = 0
      · simp [BackupVerifier.verify, after, FileAnswers.of, empty]
      · cases tested : verifier.testRestore with
        | false => simp [BackupVerifier.verify, after, FileAnswers.of, empty, tested]
        | true =>
            cases restore with
            | error error =>
                simp [BackupVerifier.verify, after, FileAnswers.of, empty, tested, Except.isOk,
                  Except.toBool]
            | ok restored =>
                simp [BackupVerifier.verify, after, FileAnswers.of, empty, tested, Except.isOk,
                  Except.toBool]

/-- Where every call has a file of its own that stays, whatever is in the history
verifies in every state of a run, unless it is empty or the restore test cannot be
run; that the test fails does not matter. -/
theorem always_verifies (checks : Bool) (sha256 : Digest) (shim : BackupShim)
    (calls : List BackupCall) (own : (shim.archive checks sha256).Along
      (shim.OwnFile checks sha256) {} calls) :
    (shim.archive checks sha256).Always (fun archive => ∀ entry ∈ archive.state.backupHistory,
      ∀ verifier restore,
        (BackupVerifier.verify sha256 verifier
            (.of (archive.disk (shim.entryPath entry.filename)) restore) entry.checksum).success =
            true ↔
          verifier.verifyAfter = true →
            entry.sizeBytes ≠ 0 ∧ (verifier.testRestore = true → restore.isOk = true))
      {} calls := by
  have filed := Machine.always_of_along
    (fun archive : Archive => ∀ entry ∈ archive.state.backupHistory,
      Filed sha256 shim archive.disk entry)
    (fun _ _ _ filed own taken => Filed.step own filed taken)
    (fun entry member => absurd member List.not_mem_nil) own
  exact filed.imp fun archive filed entry member verifier restore =>
    verify_filed (filed entry member) verifier restore

instance (checks : Bool) (sha256 : Digest) (shim : BackupShim) (archive : Archive)
    (call : BackupCall) : Decidable (shim.OwnFile checks sha256 archive call) :=
  inferInstanceAs (Decidable (_ ∧ _))

def dumpAt (timestamp : String) (stdout : Bytes) : BackupCall where
  answers :=
    { BackupShim.bareAnswers with
      timestamp
      attempt := fun _ =>
        { BackupShim.bareAttempt with output := fun _ => .ok ⟨true, stdout, []⟩ } }
  leftover := none

/-- Two nights, of which the second dumps nothing. -/
theorem always_verifies_nights :
    (BackupShim.archive true BackupShim.zeroDigest {}).Always
      (fun archive => ∀ entry ∈ archive.state.backupHistory, ∀ verifier restore,
        (BackupVerifier.verify BackupShim.zeroDigest verifier
            (.of (archive.disk (BackupShim.entryPath {} entry.filename)) restore)
            entry.checksum).success = true ↔
          verifier.verifyAfter = true →
            entry.sizeBytes ≠ 0 ∧ (verifier.testRestore = true → restore.isOk = true))
      {} [dumpAt "20250101_020000" [80], dumpAt "20250102_020000" []] :=
  always_verifies true BackupShim.zeroDigest {}
    [dumpAt "20250101_020000" [80], dumpAt "20250102_020000" []] (by decide)

end Evergreen.Backup
