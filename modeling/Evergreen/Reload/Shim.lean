import Evergreen.Text.Parse

namespace Evergreen.Reload

/-! # One reload of the config file

`ConfigShim::reload` over the file, its backup and the signals to the child.
The validation command, the copy and `kill` answer through `Answers`, and nobody
else writes to the files during a call.
-/

abbrev Bytes := List UInt8

/-- `file_hash`, taken to tell any two contents apart. -/
structure FileHash where
  hash : Bytes → String
  injective : ∀ content other, hash content = hash other → content = other

structure ReloadEvent where
  timestamp : Int
  path : String
  oldHash : String
  newHash : String
  success : Bool
  error : Option String
  backupPath : Option String
deriving DecidableEq, Repr

/-- `backupPath` is `config_path` with the extension `toml.bak`, which is another
path. -/
structure ConfigShim where
  configPath : String := "/etc/app/config.toml"
  backupPath : String := "/etc/app/config.toml.bak"
  reloadSignal : Int := 1
  validateCmd : Option String := none
  keepBackup : Bool := true
  childPid : Option Nat := none
  reloadsTotal : Nat := 0
  reloadsSuccess : Nat := 0
  lastReload : Option Int := none
  lastHash : Option String := none
deriving DecidableEq, Repr

/-- The two files, `none` where there is none to read, and the signals that were
sent, the latest first. -/
structure World where
  config : Option Bytes
  backup : Option Bytes := none
  signals : List (Int × Int) := []
deriving DecidableEq, Repr

inductive CommandRun where
  | notStarted (error : String)
  | finished (success : Bool) (stderr : String)
deriving DecidableEq, Repr

/-- A copy that fails leaves something or nothing behind. -/
inductive Copying where
  | done
  | failed (left : Option Bytes) (error : String)
deriving DecidableEq, Repr

/-- `kill` is the error of the system call, if it fails. -/
structure Answers where
  validation : CommandRun
  copying : Copying
  kill : Option String
  now : Int
deriving DecidableEq, Repr

namespace ConfigShim

variable (shim : ConfigShim)

def setChildPid (pid : Nat) : ConfigShim := { shim with childPid := some pid }

/-- On a new shim, whose hash stays unset when there is no file to read. -/
def start (fileHash : FileHash) (world : World) : ConfigShim :=
  { shim with lastHash := world.config.map fileHash.hash }

def validate (answers : Answers) : Except String Unit :=
  match shim.validateCmd with
  | none => .ok ()
  | some _ =>
      match answers.validation with
      | .notStarted error => .error error
      | .finished true _ => .ok ()
      | .finished false stderr => .error ("Config validation failed: " ++ Text.trim stderr)

def backup (answers : Answers) (world : World) : Except String (Option String) × World :=
  if shim.keepBackup then
    match world.config with
    | none => (.ok none, world)
    | some content =>
        match answers.copying with
        | .done => (.ok (some shim.backupPath), { world with backup := some content })
        | .failed left error => (.error error, { world with backup := left })
  else (.ok none, world)

/-- The pid is cast to an `i32`. -/
def sendSignal (answers : Answers) (world : World) : Except String Unit × World :=
  match shim.childPid with
  | none => (.ok (), world)
  | some pid =>
      match answers.kill with
      | some error => (.error error, world)
      | none =>
          let pid := Int.bmod pid (2 ^ 32)
          (.ok (), { world with signals := (pid, shim.reloadSignal) :: world.signals })

def reload (fileHash : FileHash) (answers : Answers) (world : World) :
    Except String ReloadEvent × ConfigShim × World :=
  match world.config with
  | none => (.error ("Cannot read config file: " ++ shim.configPath), shim, world)
  | some content =>
      let newHash := fileHash.hash content
      let event : ReloadEvent :=
        { timestamp := answers.now, path := shim.configPath, oldHash := shim.lastHash.getD "",
          newHash, success := true, error := none, backupPath := none }
      if some newHash = shim.lastHash then (.ok event, shim, world)
      else
        match shim.validate answers with
        | .error error => (.error error, shim, world)
        | .ok () =>
            match shim.backup answers world with
            | (.error error, world) => (.error error, shim, world)
            | (.ok backupPath, world) =>
                let shim := { shim with lastHash := some newHash }
                match shim.sendSignal answers world with
                | (.error error, world) => (.error error, shim, world)
                | (.ok (), world) =>
                    (.ok { event with backupPath },
                      { shim with
                        reloadsTotal := shim.reloadsTotal + 1
                        reloadsSuccess := shim.reloadsSuccess + 1
                        lastReload := some answers.now }, world)

end ConfigShim

/-! ## How a reload ends -/

variable {fileHash : FileHash} {shim : ConfigShim} {answers : Answers} {world : World}

/-- The validation, the copy and the signal all succeed. -/
def ConfigShim.GoesThrough (shim : ConfigShim) (answers : Answers) : Prop :=
  shim.validate answers = .ok () ∧ (shim.keepBackup = true → answers.copying = .done) ∧
    answers.kill = none

/-- What a step of a reload leaves as it is, apart from the signals. -/
structure Keeps (world after : World) : Prop where
  config : after.config = world.config
  signals : after.signals = world.signals

theorem reload_unreadable (missing : world.config = none) :
    shim.reload fileHash answers world =
      (.error ("Cannot read config file: " ++ shim.configPath), shim, world) := by
  simp only [ConfigShim.reload, missing]

theorem reload_unchanged {content : Bytes} (found : world.config = some content)
    (same : shim.lastHash = some (fileHash.hash content)) :
    ∃ event, shim.reload fileHash answers world = (.ok event, shim, world) := by
  simp only [ConfigShim.reload, found, same, if_true]
  exact ⟨_, rfl⟩

theorem backup_succeeds {content : Bytes} (found : world.config = some content)
    (copied : shim.keepBackup = true → answers.copying = .done) :
    ∃ backupPath after, shim.backup answers world = (.ok backupPath, after) ∧ Keeps world after ∧
      (shim.keepBackup = true → after.backup = some content) := by
  unfold ConfigShim.backup
  cases keep : shim.keepBackup with
  | false => exact ⟨none, world, rfl, ⟨rfl, rfl⟩, fun kept => Bool.noConfusion kept⟩
  | true =>
      rw [found, copied keep]
      exact ⟨_, _, rfl, ⟨found.symm ▸ rfl, rfl⟩, fun _ => rfl⟩

theorem backup_keeps (shim : ConfigShim) (answers : Answers) (world : World) :
    Keeps world (shim.backup answers world).2 := by
  unfold ConfigShim.backup
  cases shim.keepBackup with
  | false => exact ⟨rfl, rfl⟩
  | true =>
      cases found : world.config with
      | none => exact ⟨rfl, rfl⟩
      | some content =>
          cases answers.copying with
          | done => exact ⟨found.symm, rfl⟩
          | failed left error => exact ⟨found.symm, rfl⟩

theorem copied_of_backup {backupPath : Option String} {content : Bytes}
    (found : world.config = some content)
    (succeeded : (shim.backup answers world).1 = .ok backupPath) (keep : shim.keepBackup = true) :
    answers.copying = .done := by
  cases copying : answers.copying with
  | done => rfl
  | failed left error => simp [ConfigShim.backup, keep, found, copying] at succeeded

theorem reload_goesThrough {content : Bytes} {pid : Nat} (child : shim.childPid = some pid)
    (found : world.config = some content)
    (changed : shim.lastHash ≠ some (fileHash.hash content)) (through : shim.GoesThrough answers) :
    ∃ event next after, shim.reload fileHash answers world = (.ok event, next, after) ∧
      next.childPid = shim.childPid ∧ next.lastHash = some (fileHash.hash content) ∧
      after.config = world.config ∧
      after.signals = (Int.bmod pid (2 ^ 32), shim.reloadSignal) :: world.signals ∧
      (shim.keepBackup = true → after.backup = some content) := by
  obtain ⟨valid, copied, killed⟩ := through
  obtain ⟨backupPath, middle, backed, kept, copy⟩ := backup_succeeds found copied
  have config : middle.config = some content := kept.config.trans found
  simp only [ConfigShim.reload, found, Ne.symm changed, if_false, valid, backed,
    ConfigShim.sendSignal, child, killed]
  exact ⟨_, _, _, rfl, rfl, rfl, config, congrArg _ kept.signals, copy⟩

theorem reload_fails {content : Bytes} {pid : Nat} (child : shim.childPid = some pid)
    (found : world.config = some content)
    (changed : shim.lastHash ≠ some (fileHash.hash content))
    (stopped : ¬ shim.GoesThrough answers) :
    ∃ error next after, shim.reload fileHash answers world = (.error error, next, after) ∧
      next.childPid = shim.childPid ∧ Keeps world after := by
  simp only [ConfigShim.reload, found, Ne.symm changed, if_false]
  cases valid : shim.validate answers with
  | error error => exact ⟨error, shim, world, rfl, rfl, rfl, rfl⟩
  | ok =>
      have kept := backup_keeps shim answers world
      have copied := @copied_of_backup shim answers world
      cases taken : shim.backup answers world with
      | mk backed middle =>
          rw [taken] at kept copied
          cases backed with
          | error error => exact ⟨error, shim, middle, rfl, rfl, kept⟩
          | ok backupPath =>
              cases killed : answers.kill with
              | none => exact absurd ⟨valid, copied found rfl, killed⟩ stopped
              | some error =>
                  simp only [ConfigShim.sendSignal, child, killed]
                  exact ⟨error, _, middle, rfl, rfl, kept⟩

end Evergreen.Reload
