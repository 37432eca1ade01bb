import Evergreen.Machine.Duration
import Evergreen.Machine.Run
import Mathlib.Logic.Function.Basic

namespace Evergreen.Migration

/-! # The migration lock file

`MigrationLock::acquire_lock` and `release_lock`, cut at every access to the
file system, for any number of processes that share one migration directory.
A file keeps its identity (its inode) when its name is taken over by another.
-/

structure LockInfo where
  pid : Nat
  hostname : String
  createdAt : Int
deriving DecidableEq, Repr

/-- What a lock file holds: text that `is_stale` cannot read as a lock with a
timestamp (an empty or half-written file, or anything else), or a lock. -/
inductive LockText where
  | malformed (text : String)
  | json (info : LockInfo)
deriving DecidableEq, Repr

/-- The path is a parameter of the directory; the threshold is what differs. -/
structure MigrationLock where
  staleThresholdSecs : Nat
deriving DecidableEq, Repr

def MigrationLock.new : MigrationLock := ⟨3600⟩

def MigrationLock.withStaleThreshold (staleThresholdSecs : Nat) : MigrationLock :=
  ⟨staleThresholdSecs⟩

/-- `is_stale`, from the text that was read; `none` when reading failed. -/
def MigrationLock.isStale (lock : MigrationLock) (now : Int) : Option LockText → Bool
  | none => true
  | some (.malformed _) => true
  | some (.json info) => lock.staleThresholdSecs < secondsAsU64 (now - info.createdAt)

/-! ## The directory -/

/-- `path` is the inode that `.migration.lock` names. -/
structure FileSystem where
  path : Option Nat
  text : Nat → LockText
  nextInode : Nat

namespace FileSystem

def fresh (files : FileSystem) : FileSystem where
  path := some files.nextInode
  text := Function.update files.text files.nextInode (.malformed "")
  nextInode := files.nextInode + 1

/-- `File::create_new`: atomic, and refused when the name exists. -/
def createNew (files : FileSystem) : Option (FileSystem × Nat) :=
  match files.path with
  | some _ => none
  | none => some (files.fresh, files.nextInode)

/-- The opening half of `fs::write`: truncates the named file or creates it. -/
def create (files : FileSystem) : FileSystem × Nat :=
  match files.path with
  | some inode => ({ files with text := Function.update files.text inode (.malformed "") }, inode)
  | none => (files.fresh, files.nextInode)

def write (files : FileSystem) (inode : Nat) (text : LockText) : FileSystem :=
  { files with text := Function.update files.text inode text }

/-- `remove_file` takes away whatever the name denotes. -/
def removeFile (files : FileSystem) : Option FileSystem :=
  match files.path with
  | some _ => some { files with path := none }
  | none => none

def read (files : FileSystem) : Option LockText := files.path.map files.text

end FileSystem

/-! ## One process -/

/-- The `Err` values of the two functions; `held` carries what the lock file
said, if it could be read. -/
inductive LockError where
  | staleNotRemoved (error : String)
  | held (content : Option LockText)
  | notCreated (error : String)
  | notWritten (error : String)
  | notReleased (error : String)
deriving DecidableEq, Repr

def LockError.message (display : LockText → String) : LockError → String
  | .staleNotRemoved error => s!"Failed to remove stale lock: {error}"
  | .held content =>
      let content := (content.map display).getD "<unreadable>"
      s!"Migration lock already held by another process: {content}"
  | .notCreated error => s!"Failed to create lock file: {error}"
  | .notWritten error => s!"Failed to write lock file: {error}"
  | .notReleased error => s!"Failed to remove lock file: {error}"

/-- Where a process stands; from `writing` on it remembers the file it created. -/
inductive Phase where
  | idle
  | failed (error : LockError)
  | acquiring
  | opening
  | reading (inode : Nat)
  | stale
  | refusing
  | creating
  | writing (own : Nat) (info : LockInfo)
  | filling (own : Nat) (info : LockInfo) (target : Nat)
  | holding (own : Nat)
  | releasing (own : Nat)
  | removing (own : Nat)
deriving DecidableEq, Repr

def Phase.own? : Phase → Option Nat
  | .writing own _ => some own
  | .filling own _ _ => some own
  | .holding own => some own
  | .releasing own => some own
  | .removing own => some own
  | _ => none

def Phase.holds : Phase → Bool
  | .holding _ => true
  | .releasing _ => true
  | .removing _ => true
  | _ => false

/-- One access to the file system with what the system answers; an `error` is
an I/O failure that leaves the directory as it is. -/
inductive Action where
  | acquire
  | exists (error : Bool)
  | openFile (error : Bool)
  | readFile (error : Bool) (now : Int)
  | removeStale (error : Option String)
  | refuse (error : Bool)
  | createNew (hostname : String) (now : Int) (error : Option String)
  | openForWrite (error : Option String)
  | writeSome (text : String)
  | writeAll (error : Option String)
  | release
  | removeLock (error : Option String)
  | crash
deriving DecidableEq, Repr

def MigrationLock.advance (lock : MigrationLock) (pid : Nat) (files : FileSystem) :
    Phase → Action → Option (FileSystem × Phase)
  | .idle, .acquire => some (files, .acquiring)
  | .failed _, .acquire => some (files, .acquiring)
  | .acquiring, .exists error =>
      some (files, if files.path.isSome && !error then .opening else .creating)
  | .opening, .openFile error =>
      match files.path with
      | some inode => some (files, if error then .stale else .reading inode)
      | none => some (files, .stale)
  | .reading inode, .readFile error now =>
      let text := if error then none else some (files.text inode)
      some (files, if lock.isStale now text then .stale else .refusing)
  | .stale, .removeStale none => files.removeFile.map fun files => (files, .creating)
  | .stale, .removeStale (some error) => some (files, .failed (.staleNotRemoved error))
  | .refusing, .refuse error => some (files, .failed (.held (if error then none else files.read)))
  | .creating, .createNew hostname now none =>
      files.createNew.map fun (files, own) => (files, .writing own ⟨pid, hostname, now⟩)
  | .creating, .createNew _ _ (some error) => some (files, .failed (.notCreated error))
  | .writing own info, .openForWrite none =>
      let (files, target) := files.create
      some (files, .filling own info target)
  | .writing _ _, .openForWrite (some error) => some (files, .failed (.notWritten error))
  | .filling own info target, .writeSome text =>
      some (files.write target (.malformed text), .filling own info target)
  | .filling own info target, .writeAll none => some (files.write target (.json info), .holding own)
  | .filling _ _ _, .writeAll (some error) => some (files, .failed (.notWritten error))
  | .holding own, .release => some (files, .releasing own)
  | .releasing own, .exists error =>
      some (files, if files.path.isSome && !error then .removing own else .idle)
  | .removing _, .removeLock none => files.removeFile.map fun files => (files, .idle)
  | .removing _, .removeLock (some error) => some (files, .failed (.notReleased error))
  | _, .crash => some (files, .idle)
  | _, _ => none

/-! ## All processes -/

structure Directory where
  files : FileSystem
  phase : Nat → Phase

def Directory.quiet (left : Option LockText) : Directory where
  files := {
    path := left.map fun _ => 0
    text := fun _ => left.getD (.malformed "")
    nextInode := 1 }
  phase := fun _ => .idle

structure Step where
  process : Nat
  action : Action
deriving DecidableEq, Repr

def machine (lock : MigrationLock) : Machine Directory Step where
  step directory step :=
    (lock.advance step.process directory.files (directory.phase step.process) step.action).map
      fun (files, phase) => ⟨files, Function.update directory.phase step.process phase⟩

end Evergreen.Migration
