import Evergreen.Text.Hex
import Evergreen.Text.Parse
import Evergreen.Text.Utf8Lossy

namespace Evergreen.Backup

/-! # One call of the backup shim

`BackupShim::backup` with its four ways to take a dump.  Everything outside the
process answers through `Answers`: commands, Redis, the file system, the upload
and the clock.  A call returns, or it panics.
-/

abbrev Bytes := List UInt8

/-- What reading a path gives: the bytes of the file, or the error. -/
abbrev OnDisk := Except String Bytes

structure BackupEntry where
  filename : String
  createdAt : Int
  sizeBytes : Nat
  checksum : String
deriving DecidableEq, Repr

structure BackupState where
  backupSuccess : Nat := 0
  backupFailure : Nat := 0
  backupsRetained : Nat := 0
  lastBackup : Option Int := none
  lastBackupSize : Nat := 0
  backupHistory : List BackupEntry := []
deriving DecidableEq, Repr

def BackupState.recordBackup (state : BackupState) (filename : String) (sizeBytes : Nat)
    (checksum : String) (createdAt lastBackup : Int) : BackupState where
  backupSuccess := state.backupSuccess + 1
  backupFailure := state.backupFailure
  backupsRetained := state.backupHistory.length + 1
  lastBackup := some lastBackup
  lastBackupSize := sizeBytes
  backupHistory := state.backupHistory ++ [{ filename, createdAt, sizeBytes, checksum }]

def BackupState.recordFailure (state : BackupState) : BackupState :=
  { state with backupFailure := state.backupFailure + 1 }

/-- The integers are those of `u16`, `u32` and `u64`. -/
structure BackupShim where
  storage : String := "local"
  database : String := ""
  dbType : String := "postgres"
  dbHost : String := "127.0.0.1"
  dbPort : Nat := 5432
  dbUser : String := "postgres"
  dbPassword : String := ""
  compression : String := "gzip"
  timeoutSecs : Nat := 3600
  backupCmd : String := "pg_dump"
  outputDir : String := "/tmp/backups"
  redisPassword : String := ""
  retryMaxAttempts : Nat := 3
  retryBaseDelayMs : Nat := 1000
  retryMaxDelayMs : Nat := 30000
  s3Bucket : String := ""
deriving DecidableEq, Repr

/-! ## What the surroundings answer -/

structure Command where
  program : String
  args : List String
  env : List (String × String) := []
deriving DecidableEq, Repr

structure Output where
  success : Bool
  stdout : Bytes
  stderr : Bytes

/-- Redis, as one attempt meets it.  `polls` are the answers to `INFO` before
the deadline, `lastPoll` is the first at or after it.  `instant` is the monotonic
clock in nanoseconds, `copy` what `fs::copy` puts at the output path. -/
structure RedisAnswers where
  client : Except String Unit
  connection : Except String Unit
  auth : Except String Unit
  bgsave : Except String Unit
  instant : Nat
  polls : List (Except String String)
  lastPoll : Except String String
  dir : Except String String
  dbfilename : Except String String
  copy : String → Except String Bytes

/-- `written` and `readBack` are the outcomes of `fs::write` and `fs::read` at
the output path, `mongoOut` is what `mongodump` leaves there. -/
structure Attempt where
  output : Command → Except String Output
  written : Except String Unit
  readBack : Except String Unit
  mongoOut : OnDisk
  redis : RedisAnswers

structure Answers where
  timestamp : String
  createDirAll : Except String Unit
  attempt : Nat → Attempt
  upload : Except String String
  removeLocal : Option String
  removeFile : Except String Unit
  createdAt : Int
  lastBackup : Int

inductive Panic where
  | powOverflow
  | mulOverflow
  | addOverflow
  | instantOverflow
deriving DecidableEq, Repr

/-- Why an attempt does not come to its `match result`. -/
inductive Stop where
  | panicked (panic : Panic)
  | returned (error : String)
deriving DecidableEq, Repr

/-- What a call leaves: its result, the state, the number of the last attempt
and whether the local file was removed after an upload. -/
structure Called where
  result : Except Panic (Except String Unit)
  state : BackupState
  lastAttempt : Option Nat := none
  removed : Bool := false

structure Digest where
  hash : Bytes → Bytes
  length_hash : ∀ data, (hash data).length = 32

def computeChecksum (sha256 : Digest) (data : Bytes) : String := Text.hexEncode (sha256.hash data)

def validateBackup (sha256 : Digest) (entry : BackupEntry) (data : Bytes) : Bool :=
  if entry.sizeBytes = 0 ∨ entry.checksum.isEmpty ∨ entry.checksum.utf8ByteSize < 16 then false
  else decide (computeChecksum sha256 data = entry.checksum ∧ data.length = entry.sizeBytes)

namespace BackupShim

def backupFilename (shim : BackupShim) (timestamp : String) : String :=
  let ext :=
    if shim.compression = "gzip" then "sql.gz"
    else if shim.compression = "zstd" then "sql.zst"
    else "sql"
  s!"{shim.database}_{timestamp}.{ext}"

/-! ## The dumps -/

/-- The body that `dump_postgres` and `dump_mariadb` share: the output of a
command that exits with success becomes the file. -/
def dumpToFile (command : Command) (attempt : Attempt) : Except String OnDisk :=
  match attempt.output command with
  | .error error => .error error
  | .ok output =>
      if output.success then
        match attempt.written with
        | .error error => .error error
        | .ok () => .ok (attempt.readBack.map fun _ => output.stdout)
      else .error s!"{command.program} failed: {Text.fromUtf8Lossy output.stderr}"

def postgresCommand (shim : BackupShim) : Command where
  program := shim.backupCmd
  args := ["-h", shim.dbHost, "-p", toString shim.dbPort, "-U", shim.dbUser, "-d", shim.database,
    "--no-owner", "--no-privileges", "-Fc"]
  env := [("PGPASSWORD", shim.dbPassword)]

def dumpPostgres (shim : BackupShim) (attempt : Attempt) : Except String OnDisk :=
  dumpToFile shim.postgresCommand attempt

def mariadbCommand (shim : BackupShim) : Command where
  program := "mysqldump"
  args := ["-h", shim.dbHost, "-P", toString shim.dbPort, "-u", shim.dbUser, shim.database,
    "--single-transaction", "--routines", "--triggers"]
  env := [("MYSQL_PWD", shim.dbPassword)]

def dumpMariadb (shim : BackupShim) (attempt : Attempt) : Except String OnDisk :=
  dumpToFile shim.mariadbCommand attempt

def mongoCommand (shim : BackupShim) (outputPath : String) : Command where
  program := "mongodump"
  args := ["--uri", s!"mongodb://{shim.dbHost}", "--out", outputPath]

def context {Value : Type} (text : String) : Except String Value → Except String Value
  | .error error => .error s!"{text}: {error}"
  | .ok value => .ok value

def beginSave (shim : BackupShim) (redis : RedisAnswers) : Except String Unit := do
  context "Failed to create Redis client" redis.client
  context "Failed to connect to Redis" redis.connection
  if shim.redisPassword.isEmpty then pure () else context "Redis AUTH failed" redis.auth
  context "Redis BGSAVE failed" redis.bgsave

def awaitSave (shim : BackupShim) (lastPoll : Except String String) :
    List (Except String String) → Except String String
  | [] =>
      match context "Redis INFO failed" lastPoll with
      | .error error => .error error
      | .ok info =>
          if Text.containsText "rdb_bgsave_in_progress:0" info then .ok info
          else .error s!"Redis BGSAVE timed out after {shim.timeoutSecs} seconds"
  | poll :: polls =>
      match context "Redis INFO failed" poll with
      | .error error => .error error
      | .ok info =>
          if Text.containsText "rdb_bgsave_in_progress:0" info then .ok info
          else awaitSave shim lastPoll polls

def copySave (redis : RedisAnswers) : Except String Bytes := do
  let rdbPath ← context "Redis CONFIG GET dir failed" redis.dir
  let rdbFilename ← context "Redis CONFIG GET dbfilename failed" redis.dbfilename
  redis.copy s!"{Text.trim rdbPath}/{Text.trim rdbFilename}"

/-- `Instant::now() + Duration::from_secs(..)` is an instant: its seconds are an
`i64`. -/
def DeadlineFits (shim : BackupShim) (redis : RedisAnswers) : Prop :=
  redis.instant / 10 ^ 9 + shim.timeoutSecs < 2 ^ 63

instance (shim : BackupShim) (redis : RedisAnswers) : Decidable (shim.DeadlineFits redis) :=
  inferInstanceAs (Decidable (_ < _))

def backupRedis (shim : BackupShim) (attempt : Attempt) : Except Panic (Except String OnDisk) :=
  match shim.beginSave attempt.redis with
  | .error error => .ok (.error error)
  | .ok () =>
      if shim.DeadlineFits attempt.redis then
        match shim.awaitSave attempt.redis.lastPoll attempt.redis.polls with
        | .error error => .ok (.error error)
        | .ok _ =>
            match copySave attempt.redis with
            | .error error => .ok (.error error)
            | .ok data => .ok (.ok (attempt.readBack.map fun _ => data))
      else .error .instantOverflow

/-- `let result = match self.db_type.as_str()`. -/
def dump (shim : BackupShim) (outputPath : String) (attempt : Attempt) :
    Except Stop (Except String OnDisk) :=
  if shim.dbType = "postgres" then .ok (shim.dumpPostgres attempt)
  else if shim.dbType = "mariadb" ∨ shim.dbType = "mysql" then .ok (shim.dumpMariadb attempt)
  else if shim.dbType = "redis" then (shim.backupRedis attempt).mapError .panicked
  else if shim.dbType = "mongo" then
    match attempt.output (shim.mongoCommand outputPath) with
    | .error error => .error (.returned error)
    | .ok _ => .ok (.ok attempt.mongoOut)
  else .error (.returned s!"Unsupported database type: {shim.dbType}")

/-! ## The attempts -/

/-- Integers of `u64`: a build with overflow checks panics where another wraps. -/
def delayMs (checks : Bool) (shim : BackupShim) (attempt : Nat) : Except Panic Nat :=
  if attempt = 0 then .ok 0
  else if checks ∧ 2 ^ 64 ≤ 2 ^ (attempt - 1) then .error .powOverflow
  else
    let factor := 2 ^ (attempt - 1) % 2 ^ 64
    if checks ∧ 2 ^ 64 ≤ shim.retryBaseDelayMs * factor then .error .mulOverflow
    else .ok (min (shim.retryBaseDelayMs * factor % 2 ^ 64) shim.retryMaxDelayMs)

def isTrue (value : Option String) : Bool :=
  value == some "true" || value == some "1"

/-- From `match result` on, with a dump that succeeded. -/
def conclude (sha256 : Digest) (shim : BackupShim) (answers : Answers) (state : BackupState)
    (attempt : Nat) (filename outputPath : String) (onDisk : OnDisk) : Called :=
  match onDisk with
  | .error error =>
      { result := .ok (.error s!"Failed to read backup file {outputPath}: {error}")
        state
        lastAttempt := some attempt }
  | .ok data =>
      { result := .ok (.ok ())
        state := state.recordBackup filename data.length (computeChecksum sha256 data)
          answers.createdAt answers.lastBackup
        lastAttempt := some attempt
        removed := decide (shim.storage = "s3") && !shim.s3Bucket.isEmpty &&
          answers.upload.isOk && isTrue answers.removeLocal && answers.removeFile.isOk }

/-- "All retries exhausted"; the number in the last message is a `u32`. -/
def giveUp (checks : Bool) (shim : BackupShim) (state : BackupState) (lastAttempt : Option Nat)
    (lastError : Option String) : Called where
  result :=
    if checks ∧ 2 ^ 32 ≤ shim.retryMaxAttempts + 1 then .error .addOverflow
    else .ok (.error (lastError.getD "Backup failed after all retries"))
  state := state.recordFailure
  lastAttempt := lastAttempt

/-- The loop over the attempts, from number `attempt` on. -/
def attempts (checks : Bool) (sha256 : Digest) (shim : BackupShim) (answers : Answers)
    (state : BackupState) (filename outputPath : String) :
    (remaining attempt : Nat) → (lastAttempt : Option Nat) → (lastError : Option String) → Called
  | 0, _, lastAttempt, lastError => shim.giveUp checks state lastAttempt lastError
  | remaining + 1, attempt, lastAttempt, _ =>
      match shim.delayMs checks attempt with
      | .error panic => { result := .error panic, state, lastAttempt }
      | .ok _ =>
          match shim.dump outputPath (answers.attempt attempt) with
          | .error (.panicked panic) =>
              { result := .error panic, state, lastAttempt := some attempt }
          | .error (.returned error) =>
              { result := .ok (.error error), state, lastAttempt := some attempt }
          | .ok (.error error) =>
              attempts checks sha256 shim answers state filename outputPath remaining (attempt + 1)
                (some attempt) (some error)
          | .ok (.ok onDisk) =>
              shim.conclude sha256 answers state attempt filename outputPath onDisk

def outputPath (shim : BackupShim) (answers : Answers) : String :=
  s!"{shim.outputDir}/{shim.backupFilename answers.timestamp}"

def backup (checks : Bool) (sha256 : Digest) (shim : BackupShim) (answers : Answers)
    (state : BackupState) : Called :=
  match answers.createDirAll with
  | .error error => { result := .ok (.error error), state }
  | .ok () =>
      shim.attempts checks sha256 answers state (shim.backupFilename answers.timestamp)
        (shim.outputPath answers) (shim.retryMaxAttempts + 1) 0 none none

end BackupShim

end Evergreen.Backup
