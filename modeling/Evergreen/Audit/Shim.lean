import Evergreen.Files.Lines
import Evergreen.Machine.Run
import Evergreen.Text.Parse

namespace Evergreen.Audit

/-! # The audit shim's log

Every entry goes to the file of the day, and a rotation writes the log in memory
to a file of its own.  All writes succeed, and an entry is one line of JSON; how
it is written and read comes from another crate.
-/

structure AuditEntry where
  id : String
  timestamp : String
  database : String
  operation : String
  table : Option String
  query : Option String
  durationMs : Nat
  rowsAffected : Option Nat
  clientAddr : Option String
  user : Option String
  success : Bool
  error : Option String
deriving DecidableEq, Repr

structure Json where
  write : AuditEntry → String
  read : String → Option AuditEntry

/-- The line of an entry, trimmed, is not empty and reads as the entry. -/
def Json.Reads (json : Json) (entry : AuditEntry) : Prop :=
  Text.trim (json.write entry) ≠ "" ∧ json.read (Text.trim (json.write entry)) = some entry

/-- `%Y-%m-%d` of a date with a year of four digits. -/
structure DateText where
  text : String
  width : text.toList.length = 10
deriving DecidableEq

/-- What the environment sets.  `webhook` says that entries are posted: the output
is a webhook, with a URL and a client. -/
structure Settings where
  database : String := ""
  logQueries : Bool := false
  webhook : Bool := false
  minDurationMs : Nat := 0
  maxEntries : Nat := 100000
deriving DecidableEq, Repr

structure AuditShim where
  settings : Settings
  queriesLogged : Nat := 0
  queriesFiltered : Nat := 0
  totalDurationMs : Nat := 0
  maxDurationMs : Nat := 0
  log : List AuditEntry := []
  entryCounter : Nat := 0

/-- The log directory; `none` while it does not exist. -/
abbrev Directory := Option (List Files.LineFile)

def dailyName (date : DateText) : String :=
  "audit-" ++ date.text ++ ".log"

def rotateName (date : DateText) (time : String) : String :=
  "audit-" ++ date.text ++ "-rotate-" ++ time ++ ".log"

/-- The extension is `log` and the name starts with `audit-`. -/
def isAuditLog (name : String) : Bool :=
  ".log".toList.isSuffixOf name.toList && Text.startsWith "audit-" name

/-- The number in an id, if it is `audit-` and a `u64`. -/
def idNumber (id : String) : Option Nat :=
  (Text.stripStart "audit-" id).bind Text.parseU64

namespace AuditShim

/-- A line that is empty or does not parse is skipped. -/
def parseLine (json : Json) (line : String) : Option AuditEntry :=
  let line := Text.trim line
  if line = "" then none else json.read line

def keepGreatest (most : Nat) (entry : AuditEntry) : Nat :=
  match idNumber entry.id with
  | some number => if most < number then number else most
  | none => most

/-- The greatest number among the ids. -/
def maxCounter (entries : List AuditEntry) : Nat :=
  entries.foldl keepGreatest 0

def loadFromDisk (json : Json) (shim : AuditShim) (directory : Directory) :
    AuditShim × Directory :=
  match directory with
  | none => (shim, some [])
  | some files =>
      let logFiles := files.filter fun file => isAuditLog file.name
      let entries := (Files.readAll logFiles).filterMap (parseLine json)
      ({ shim with entryCounter := maxCounter entries, log := entries }, some files)

def nextId (shim : AuditShim) : String :=
  "audit-" ++ Text.padDecimal 10 (shim.entryCounter + 1)

def createEntry (shim : AuditShim) (timestamp operation : String) (table query : Option String)
    (durationMs : Nat) (rowsAffected : Option Nat) (clientAddr user : Option String)
    (success : Bool) (error : Option String) : AuditShim × AuditEntry :=
  ({ shim with entryCounter := shim.entryCounter + 1 },
    { id := shim.nextId
      timestamp, operation, table, durationMs, rowsAffected, clientAddr, user, success, error
      database := shim.settings.database
      query := if shim.settings.logQueries then query else none })

def writeToDisk (json : Json) (directory : Directory) (entry : AuditEntry) (date : DateText) :
    Directory :=
  some (Files.appendLines (directory.getD []) (dailyName date) [json.write entry])

def rotateLog (json : Json) (shim : AuditShim) (directory : Directory) (date : DateText)
    (time : String) : AuditShim × Directory :=
  if shim.log = [] then (shim, directory)
  else
    ({ shim with log := [] },
      some (Files.appendLines (directory.getD []) (rotateName date time)
        (shim.log.map json.write)))

def isFiltered (shim : AuditShim) (entry : AuditEntry) : Bool :=
  decide (entry.durationMs < shim.settings.minDurationMs)

def count (shim : AuditShim) (entry : AuditEntry) : AuditShim :=
  { shim with
    totalDurationMs := (shim.totalDurationMs + entry.durationMs) % 2 ^ 64
    maxDurationMs := max shim.maxDurationMs entry.durationMs
    queriesLogged := (shim.queriesLogged + 1) % 2 ^ 64 }

/-- The clock is read for the daily file and again for the rotation.  A webhook
that fails ends the call after the write, before the entry is in memory. -/
def logEntry (json : Json) (shim : AuditShim) (directory : Directory) (entry : AuditEntry)
    (date : DateText) (delivered : Bool) (rotation : DateText × String) :
    (AuditShim × Directory) × Except Unit Bool :=
  if shim.isFiltered entry then
    (({ shim with queriesFiltered := (shim.queriesFiltered + 1) % 2 ^ 64 }, directory), .ok false)
  else
    let counted := shim.count entry
    let written := writeToDisk json directory entry date
    if shim.settings.webhook && !delivered then ((counted, written), .error ())
    else
      let pushed := { counted with log := counted.log ++ [entry] }
      if shim.settings.maxEntries < pushed.log.length then
        (pushed.rotateLog json written rotation.1 rotation.2, .ok true)
      else ((pushed, written), .ok true)

end AuditShim

end Evergreen.Audit
