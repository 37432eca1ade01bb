import Evergreen.Backup.Shim
import Mathlib.Tactic.SplitIfs

namespace Evergreen.Backup

/-! # What a call of the backup shim accounts for -/

inductive Engine where
  | command
  | redis
  | mongo
  | unsupported
deriving DecidableEq, Repr

def savedBadly (info : String) : Bool := Text.containsText "rdb_last_bgsave_status:err" info

namespace BackupShim

def engine (shim : BackupShim) : Engine :=
  if shim.dbType = "postgres" ∨ shim.dbType = "mariadb" ∨ shim.dbType = "mysql" then .command
  else if shim.dbType = "redis" then .redis
  else if shim.dbType = "mongo" then .mongo
  else .unsupported

def dumpCommand (shim : BackupShim) (path : String) : Command :=
  if shim.dbType = "postgres" then shim.postgresCommand
  else if shim.dbType = "mariadb" ∨ shim.dbType = "mysql" then shim.mariadbCommand
  else shim.mongoCommand path

/-- The dump command of the attempt exited successfully; for Redis this is the
background save. -/
def Exited (shim : BackupShim) (path : String) (attempt : Attempt) : Prop :=
  match shim.engine with
  | .redis => ∃ info, shim.awaitSave attempt.redis.lastPoll attempt.redis.polls = .ok info ∧
      savedBadly info = false
  | _ => ∃ output, attempt.output (shim.dumpCommand path) = .ok output ∧ output.success = true

/-- The accounting law of a call: it counts once, as a success exactly when it
returns `Ok`, and then for a dump that a validation accepts. -/
structure Accounts (sha256 : Digest) (shim : BackupShim) (answers : Answers) (before : BackupState)
    (called : Called) : Prop where
  counted :
    (called.state.backupSuccess = before.backupSuccess + 1 ∧
      called.state.backupFailure = before.backupFailure) ∨
    (called.state.backupSuccess = before.backupSuccess ∧
      called.state.backupFailure = before.backupFailure + 1)
  reported : called.result = .ok (.ok ()) ↔ before.backupSuccess < called.state.backupSuccess
  recorded : called.result = .ok (.ok ()) →
    ∃ last data entry, called.lastAttempt = some last ∧
      shim.Exited (shim.outputPath answers) (answers.attempt last) ∧
      shim.dump (shim.outputPath answers) (answers.attempt last) = .ok (.ok (.ok data)) ∧
      called.state.backupHistory = before.backupHistory ++ [entry] ∧
      validateBackup sha256 entry data = true

/-! ## The condition on the surroundings -/

/-- The attempt gets as far as a dump that `backup` takes for one. -/
def Takes (shim : BackupShim) (path : String) (attempt : Attempt) : Prop :=
  match shim.engine with
  | .command => ∃ output, attempt.output (shim.dumpCommand path) = .ok output ∧
      output.success = true ∧ attempt.written = .ok ()
  | .redis => shim.beginSave attempt.redis = .ok () ∧
      (∃ info, shim.awaitSave attempt.redis.lastPoll attempt.redis.polls = .ok info) ∧
      ∃ data, copySave attempt.redis = .ok data
  | .mongo => ∃ output, attempt.output (shim.dumpCommand path) = .ok output
  | .unsupported => False

/-- Nothing happens that `backup` does not account for.  A dump it takes can be
read and is not empty; `mongodump` is there, succeeds and leaves a file; a Redis
deadline is an instant, and the save did not fail. -/
def Clean (shim : BackupShim) (path : String) (attempt : Attempt) : Prop :=
  match shim.engine with
  | .command => ∀ output, attempt.output (shim.dumpCommand path) = .ok output →
      output.success = true → attempt.written = .ok () →
        attempt.readBack = .ok () ∧ output.stdout ≠ []
  | .redis => shim.beginSave attempt.redis = .ok () →
      shim.DeadlineFits attempt.redis ∧
      ∀ info data, shim.awaitSave attempt.redis.lastPoll attempt.redis.polls = .ok info →
        copySave attempt.redis = .ok data →
          savedBadly info = false ∧ attempt.readBack = .ok () ∧ data ≠ []
  | .mongo => ∃ output data, attempt.output (shim.dumpCommand path) = .ok output ∧
      output.success = true ∧ attempt.mongoOut = .ok data ∧ data ≠ []
  | .unsupported => False

/-- The delay before an attempt is a `u64`, or the build does not check. -/
def DelayFits (checks : Bool) (shim : BackupShim) (attempt : Nat) : Prop :=
  checks = true → attempt ≠ 0 →
    2 ^ (attempt - 1) < 2 ^ 64 ∧ shim.retryBaseDelayMs * 2 ^ (attempt - 1) < 2 ^ 64

/-- The output directory is there or can be made, and every attempt that is
come to is clean. -/
def Orderly (checks : Bool) (shim : BackupShim) (answers : Answers) : Prop :=
  answers.createDirAll = .ok () ∧
  ∀ attempt < shim.retryMaxAttempts + 1,
    (∀ earlier < attempt,
      ¬ shim.Takes (shim.outputPath answers) (answers.attempt earlier)) →
    shim.DelayFits checks attempt ∧
      shim.Clean (shim.outputPath answers) (answers.attempt attempt)

/-! ## The dump of an attempt -/

/-- The dump is an error, for which the loop tries again. -/
def Fails (shim : BackupShim) (path : String) (attempt : Attempt) : Prop :=
  ∃ error, shim.dump path attempt = .ok (.error error)

def Delivers (shim : BackupShim) (path : String) (attempt : Attempt) : Prop :=
  shim.Exited path attempt ∧ ∃ data, shim.dump path attempt = .ok (.ok (.ok data)) ∧ data ≠ []

section Dump

variable {shim : BackupShim} {path : String} {attempt : Attempt}

theorem dump_of_command (command : shim.engine = .command) :
    shim.dump path attempt = .ok (dumpToFile (shim.dumpCommand path) attempt) := by
  simp only [engine] at command
  simp only [dump, dumpCommand, dumpPostgres, dumpMariadb]
  split_ifs at command ⊢ with first second third
  · rfl
  · rfl
  all_goals simp_all

theorem dump_of_redis (redis : shim.engine = .redis) :
    shim.dump path attempt = (shim.backupRedis attempt).mapError .panicked := by
  simp only [engine] at redis
  simp only [dump]
  split_ifs at redis ⊢ <;> simp_all

theorem dump_of_mongo (mongo : shim.engine = .mongo) :
    shim.dump path attempt =
      ((attempt.output (shim.dumpCommand path)).mapError Stop.returned).map
        fun _ => .ok attempt.mongoOut := by
  simp only [engine] at mongo
  simp only [dump, dumpCommand]
  split_ifs at mongo ⊢ <;> simp_all
  cases attempt.output (shim.mongoCommand path) <;> rfl

theorem dump_of_unsupported (unsupported : shim.engine = .unsupported) :
    shim.dump path attempt =
      .error (.returned s!"Unsupported database type: {shim.dbType}") := by
  simp only [engine] at unsupported
  simp only [dump]
  split_ifs at unsupported ⊢ <;> simp_all

theorem clean_iff : shim.Clean path attempt ↔ shim.Fails path attempt ∨ shim.Delivers path attempt := by
  cases engine : shim.engine with
  | command =>
      simp only [Clean, Fails, Delivers, Exited, engine, dump_of_command engine, dumpToFile]
      cases attempt.output (shim.dumpCommand path) with
      | error error => simp
      | ok output =>
          cases success : output.success <;> cases attempt.written <;> cases attempt.readBack <;>
            simp [success, Except.map]
  | redis =>
      simp only [Clean, Fails, Delivers, Exited, engine, dump_of_redis engine, backupRedis]
      cases shim.beginSave attempt.redis with
      | error error => simp [Except.mapError]
      | ok begun =>
          by_cases fits : shim.DeadlineFits attempt.redis
          · cases shim.awaitSave attempt.redis.lastPoll attempt.redis.polls <;>
              cases copySave attempt.redis <;> cases attempt.readBack <;>
              simp [fits, Except.mapError, Except.map]
          · simp [fits, Except.mapError]
  | mongo =>
      simp only [Clean, Fails, Delivers, Exited, engine, dump_of_mongo engine]
      cases attempt.output (shim.dumpCommand path) <;> cases attempt.mongoOut <;>
        simp [Except.mapError, Except.map]
  | unsupported =>
      simp [Clean, Fails, Delivers, engine, dump_of_unsupported engine]

theorem takes_iff {result : Except String OnDisk} (dumped : shim.dump path attempt = .ok result) :
    shim.Takes path attempt ↔ ∃ onDisk, result = .ok onDisk := by
  cases engine : shim.engine with
  | command =>
      rw [dump_of_command engine, dumpToFile] at dumped
      simp only [Takes, engine]
      cases answered : attempt.output (shim.dumpCommand path) with
      | error error =>
          rw [answered] at dumped
          cases dumped
          simp
      | ok output =>
          cases success : output.success <;> cases written : attempt.written <;>
            simp only [answered, success, written] at dumped <;> cases dumped <;> simp [success]
  | redis =>
      rw [dump_of_redis engine, backupRedis] at dumped
      simp only [Takes, engine]
      cases begun : shim.beginSave attempt.redis with
      | error error =>
          rw [begun] at dumped
          cases dumped
          simp
      | ok answered =>
          by_cases fits : shim.DeadlineFits attempt.redis
          · cases awaited : shim.awaitSave attempt.redis.lastPoll attempt.redis.polls <;>
              cases copied : copySave attempt.redis <;>
              simp only [begun, fits, awaited, copied, if_true] at dumped <;> cases dumped <;> simp
          · simp [begun, fits, Except.mapError] at dumped
  | mongo =>
      rw [dump_of_mongo engine] at dumped
      simp only [Takes, engine]
      cases answered : attempt.output (shim.dumpCommand path) with
      | error error => simp [answered, Except.mapError, Except.map] at dumped
      | ok output =>
          rw [answered] at dumped
          cases dumped
          simp
  | unsupported =>
      rw [dump_of_unsupported engine] at dumped
      cases dumped

theorem Fails.not_takes (fails : shim.Fails path attempt) : ¬ shim.Takes path attempt := by
  obtain ⟨error, dumped⟩ := fails
  intro takes
  obtain ⟨onDisk, same⟩ := (takes_iff dumped).mp takes
  cases same

theorem Delivers.takes (delivers : shim.Delivers path attempt) : shim.Takes path attempt := by
  obtain ⟨_, data, dumped, _⟩ := delivers
  exact (takes_iff dumped).mpr ⟨_, rfl⟩

end Dump

/-! ## The loop over the attempts -/

variable {checks : Bool} {sha256 : Digest} {shim : BackupShim} {answers : Answers}
variable {before : BackupState} {attempt : Nat}

theorem delayMs_eq_ok_iff :
    (∃ delay, shim.delayMs checks attempt = .ok delay) ↔ shim.DelayFits checks attempt := by
  unfold delayMs DelayFits
  by_cases first : attempt = 0
  · simp [first]
  · rw [if_neg first]
    dsimp only
    constructor
    · rintro ⟨delay, computed⟩ checked _
      split at computed
      · cases computed
      · next power =>
          have small : 2 ^ (attempt - 1) < 2 ^ 64 :=
            Nat.lt_of_not_le fun large => power ⟨checked, large⟩
          rw [Nat.mod_eq_of_lt small] at computed
          split at computed
          · cases computed
          · next product =>
              exact ⟨small, Nat.lt_of_not_le fun large => product ⟨checked, large⟩⟩
    · intro fits
      rw [if_neg, if_neg]
      · exact ⟨_, rfl⟩
      · rintro ⟨checked, large⟩
        obtain ⟨small, product⟩ := fits checked first
        rw [Nat.mod_eq_of_lt small] at large
        exact absurd product (Nat.not_lt.mpr large)
      · rintro ⟨checked, large⟩
        exact absurd (fits checked first).1 (Nat.not_lt.mpr large)

/-- What `record_backup` is given passes the validation unless the dump is empty. -/
theorem validateBackup_iff {filename : String} {createdAt : Int} {data : Bytes} :
    validateBackup sha256
      { filename, createdAt, sizeBytes := data.length, checksum := computeChecksum sha256 data }
      data = true ↔ data ≠ [] := by
  have long : 64 ≤ (computeChecksum sha256 data).utf8ByteSize := by
    have digits := Text.two_digits_le_hexEncode (sha256.hash data)
    rw [sha256.length_hash] at digits
    exact digits
  have filled : (computeChecksum sha256 data).isEmpty = false := by
    rw [String.isEmpty_eq_false_iff]
    intro empty
    rw [empty] at long
    exact absurd long (by decide)
  unfold validateBackup
  simp only [filled, List.length_eq_zero_iff]
  by_cases empty : data = []
  · simp [empty]
  · simp [empty, Nat.not_lt.mpr ((by decide : 16 ≤ 64).trans long)]

theorem giveUp_accounts {lastAttempt : Option Nat} {lastError : Option String} :
    Accounts sha256 shim answers before (shim.giveUp checks before lastAttempt lastError) := by
  have failed : (shim.giveUp checks before lastAttempt lastError).result ≠ .ok (.ok ()) := by
    unfold giveUp
    split <;> simp
  refine ⟨.inr ⟨rfl, rfl⟩, ⟨fun returned => absurd returned failed, fun grown => ?_⟩,
    fun returned => absurd returned failed⟩
  exact absurd grown (lt_irrefl _)

theorem not_accounts_of_state {called : Called} (same : called.state = before) :
    ¬ Accounts sha256 shim answers before called := by
  intro accounts
  rcases accounts.counted with ⟨grown, _⟩ | ⟨_, grown⟩
  · rw [same] at grown
    omega
  · rw [same] at grown
    omega

/-- The attempts from a number on, each of them reached past dumps that failed. -/
def OrderlyFrom (checks : Bool) (shim : BackupShim) (answers : Answers) (remaining first : Nat) :
    Prop :=
  ∀ offset < remaining,
    (∀ earlier < offset,
      ¬ shim.Takes (shim.outputPath answers) (answers.attempt (first + earlier))) →
    shim.DelayFits checks (first + offset) ∧
      shim.Clean (shim.outputPath answers) (answers.attempt (first + offset))

theorem orderlyFrom_succ_iff {remaining : Nat} :
    OrderlyFrom checks shim answers (remaining + 1) attempt ↔
      (shim.DelayFits checks attempt ∧
        shim.Clean (shim.outputPath answers) (answers.attempt attempt)) ∧
      (¬ shim.Takes (shim.outputPath answers) (answers.attempt attempt) →
        OrderlyFrom checks shim answers remaining (attempt + 1)) := by
  constructor
  · intro orderly
    refine ⟨orderly 0 (Nat.succ_pos _) fun earlier lower => absurd lower (Nat.not_lt_zero _), ?_⟩
    intro passed offset within reached
    rw [Nat.add_right_comm, Nat.add_assoc]
    refine orderly (offset + 1) (Nat.succ_lt_succ within) fun earlier lower => ?_
    cases earlier with
    | zero => exact passed
    | succ earlier =>
        rw [Nat.add_comm earlier 1, ← Nat.add_assoc]
        exact reached earlier (Nat.lt_of_succ_lt_succ lower)
  · rintro ⟨now, later⟩ offset within reached
    cases offset with
    | zero => exact now
    | succ offset =>
        rw [Nat.add_comm offset 1, ← Nat.add_assoc]
        refine later (reached 0 (Nat.succ_pos _)) offset (Nat.lt_of_succ_lt_succ within) ?_
        intro earlier lower
        rw [Nat.add_assoc, Nat.add_comm 1 earlier]
        exact reached (earlier + 1) (Nat.succ_lt_succ lower)

/-- A dump that was taken is accounted for exactly when it is one to be recorded. -/
theorem conclude_accounts_iff {onDisk : OnDisk}
    (dumped : shim.dump (shim.outputPath answers) (answers.attempt attempt) = .ok (.ok onDisk)) :
    Accounts sha256 shim answers before
        (shim.conclude sha256 answers before attempt (shim.backupFilename answers.timestamp)
          (shim.outputPath answers) onDisk) ↔
      shim.Delivers (shim.outputPath answers) (answers.attempt attempt) := by
  cases onDisk with
  | error error =>
      constructor
      · intro accounts
        exact absurd accounts (not_accounts_of_state rfl)
      · rintro ⟨_, data, delivered, _⟩
        rw [dumped] at delivered
        cases delivered
  | ok data =>
      constructor
      · intro accounts
        obtain ⟨last, read, entry, same, exited, found, recorded, valid⟩ := accounts.recorded rfl
        cases same
        rw [dumped] at found
        cases found
        have appended := List.append_cancel_left recorded
        cases appended
        exact ⟨exited, data, dumped, validateBackup_iff.mp valid⟩
      · rintro ⟨exited, read, delivered, filled⟩
        rw [dumped] at delivered
        cases delivered
        refine ⟨.inl ⟨rfl, rfl⟩, ⟨fun _ => Nat.lt_succ_self _, fun _ => rfl⟩, fun _ => ?_⟩
        exact ⟨attempt, data, _, rfl, exited, dumped, rfl, validateBackup_iff.mpr filled⟩

theorem attempts_accounts_iff {remaining : Nat} {lastAttempt : Option Nat}
    {lastError : Option String} :
    Accounts sha256 shim answers before
        (shim.attempts checks sha256 answers before (shim.backupFilename answers.timestamp)
          (shim.outputPath answers) remaining attempt lastAttempt lastError) ↔
      OrderlyFrom checks shim answers remaining attempt := by
  induction remaining generalizing attempt lastAttempt lastError with
  | zero =>
      exact ⟨fun _ offset within => absurd within (Nat.not_lt_zero _), fun _ => giveUp_accounts⟩
  | succ remaining ih =>
      rw [orderlyFrom_succ_iff, ← delayMs_eq_ok_iff, clean_iff, attempts]
      cases delayed : shim.delayMs checks attempt with
      | error panic =>
          refine ⟨fun accounts => absurd accounts (not_accounts_of_state rfl), ?_⟩
          rintro ⟨⟨⟨_, fits⟩, _⟩, _⟩
          cases fits
      | ok delay =>
          cases dumped : shim.dump (shim.outputPath answers) (answers.attempt attempt) with
          | error stop =>
              have unclean : ¬ (shim.Fails (shim.outputPath answers) (answers.attempt attempt) ∨
                  shim.Delivers (shim.outputPath answers) (answers.attempt attempt)) := by
                rintro (⟨_, fails⟩ | ⟨_, _, delivers, _⟩)
                · rw [dumped] at fails
                  cases fails
                · rw [dumped] at delivers
                  cases delivers
              refine ⟨fun accounts => ?_, fun orderly => absurd orderly.1.2 unclean⟩
              cases stop with
              | panicked panic => exact absurd accounts (not_accounts_of_state rfl)
              | returned error => exact absurd accounts (not_accounts_of_state rfl)
          | ok dump =>
              cases dump with
              | error error =>
                  have fails : shim.Fails (shim.outputPath answers) (answers.attempt attempt) :=
                    ⟨error, dumped⟩
                  refine ih.trans ⟨fun later => ⟨⟨⟨delay, rfl⟩, .inl fails⟩, fun _ => later⟩, ?_⟩
                  exact fun orderly => orderly.2 fails.not_takes
              | ok onDisk =>
                  refine (conclude_accounts_iff dumped).trans ⟨fun delivers => ?_, ?_⟩
                  · exact ⟨⟨⟨delay, rfl⟩, .inr delivers⟩,
                      fun untaken => absurd delivers.takes untaken⟩
                  · rintro ⟨⟨_, ⟨error, fails⟩ | delivers⟩, _⟩
                    · rw [dumped] at fails
                      cases fails
                    · exact delivers

/-- A machine on which no command is installed and no server answers. -/
def bareAttempt : Attempt where
  output _ := .error "No such file or directory (os error 2)"
  written := .ok ()
  readBack := .ok ()
  mongoOut := .error "No such file or directory (os error 2)"
  redis :=
    { client := .ok ()
      connection := .error "Connection refused (os error 111)"
      auth := .ok ()
      bgsave := .ok ()
      instant := 0
      polls := []
      lastPoll := .error "broken pipe"
      dir := .ok "/data"
      dbfilename := .ok "dump.rdb"
      copy := fun _ => .ok [] }

def bareAnswers : Answers where
  timestamp := "20250101_020000"
  createDirAll := .ok ()
  attempt _ := bareAttempt
  upload := .ok "s3://backups/app"
  removeLocal := none
  removeFile := .ok ()
  createdAt := 0
  lastBackup := 0

def zeroDigest : Digest where
  hash _ := List.replicate 32 0
  length_hash _ := List.length_replicate

end BackupShim

end Evergreen.Backup
