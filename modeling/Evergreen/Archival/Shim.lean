import Evergreen.Machine.Run
import Evergreen.Text.Parse
import Mathlib.Algebra.Order.Ring.Int
import Mathlib.Logic.Function.Basic

namespace Evergreen.Archival

/-! # The archives of the archival shim

`archive_batch` with the counter that names the archives.  The integers are
`u64`s: `checks` says whether the build panics where one overflows.  A call that
panics returns no record.
-/

inductive StorageTier where
  | hot
  | warm
  | cold
deriving DecidableEq, Repr

structure RetentionRule where
  table : String
  ageDays : Nat
  storageTier : StorageTier
deriving DecidableEq, Repr

structure ArchivedRecord where
  id : String
  table : String
  originalSizeBytes : Nat
  archivedSizeBytes : Nat
  archivePath : String
  archivedAt : String
  storageTier : StorageTier
  retentionUntil : String
  compressed : Bool
deriving DecidableEq, Repr

/-- What `new` reads for `archive_batch`, but for the archive path. -/
structure Settings where
  compression : String := "zstd"
  retentionDays : Nat := 365
deriving DecidableEq, Repr

structure Totals where
  recordsArchived : Nat := 0
  bytesArchived : Nat := 0
  bytesSaved : Nat := 0
deriving DecidableEq, Repr

structure ArchivalShim where
  settings : Settings := {}
  retentionRules : String → Option RetentionRule := fun _ => none
  recordCounter : Nat := 0
  totals : Totals := {}
  lastArchival : Option Int := none
  archiveLog : List ArchivedRecord := []

/-- `compression_ratio` in hundredths. -/
def compressionRatio (compression : String) : Nat :=
  if compression = "gzip" then 30
  else if compression = "zstd" then 25
  else 100

/-- Instants are nanoseconds.  `scaled` is the product of a size and a ratio, as
`f64` computes it and `as u64` cuts it off. -/
structure Crates where
  toRfc3339 : Int → String
  representable : Int → Bool
  scaled : Nat → Nat → Nat

abbrev Content := List UInt8

/-- The source of a batch: whether it exists, what a copy of it carries over,
and what a copy that fails leaves at its destination. -/
structure Source where
  present : Bool
  copied : Option Content
  leaves : Option Content
deriving DecidableEq, Repr

/-- A call of `archive_batch`, with the answers of the file system and the
readings of the clock. -/
structure Call where
  table : String
  count : Nat
  originalSizeBytes : Nat
  source : Option Source
  directoryMade : Bool
  archivedAt : Int
  expiryFrom : Int
  archivalAt : Int
deriving DecidableEq, Repr

def addU64 (checks : Bool) (value amount : Nat) : Option Nat :=
  if value + amount < 2 ^ 64 then some (value + amount)
  else if checks then none
  else some ((value + amount) % 2 ^ 64)

/-- The totals after a record, as far as the additions come. -/
def Totals.add (checks : Bool) (totals : Totals) (count archived saved : Nat) : Totals × Bool :=
  match addU64 checks totals.recordsArchived count with
  | none => (totals, false)
  | some recordsArchived =>
      match addU64 checks totals.bytesArchived archived with
      | none => ({ totals with recordsArchived }, false)
      | some bytesArchived =>
          match addU64 checks totals.bytesSaved saved with
          | none => ({ totals with recordsArchived, bytesArchived }, false)
          | some bytesSaved => ({ recordsArchived, bytesArchived, bytesSaved }, true)

def dest (archivePath table : String) (number : Nat) : String :=
  s!"{archivePath}/{table}/archive-{number}.dat"

def recordId (number : Nat) : String := "arc-" ++ Text.padDecimal 10 number

def dayNanos : Int := 86400 * 10 ^ 9

namespace ArchivalShim

def addRetentionRule (shim : ArchivalShim) (rule : RetentionRule) : ArchivalShim :=
  { shim with retentionRules := Function.update shim.retentionRules rule.table (some rule) }

def retention (shim : ArchivalShim) (table : String) : Nat :=
  ((shim.retentionRules table).map (·.ageDays)).getD shim.settings.retentionDays

def tier (shim : ArchivalShim) (table : String) : StorageTier :=
  ((shim.retentionRules table).map (·.storageTier)).getD .cold

def expiry (shim : ArchivalShim) (call : Call) : Int :=
  call.expiryFrom + shim.retention call.table * dayNanos

def archivedSize (crates : Crates) (shim : ArchivalShim) (size : Nat) : Nat :=
  crates.scaled size (compressionRatio shim.settings.compression)

def record (crates : Crates) (archivePath : String) (shim : ArchivalShim) (call : Call)
    (number size : Nat) : ArchivedRecord where
  id := recordId number
  table := call.table
  originalSizeBytes := size
  archivedSizeBytes := shim.archivedSize crates size
  archivePath := dest archivePath call.table number
  archivedAt := crates.toRfc3339 call.archivedAt
  storageTier := shim.tier call.table
  retentionUntil := crates.toRfc3339 (shim.expiry call)
  compressed := decide (shim.settings.compression ≠ "none")

/-- From the sizes on, which the copying path and the other one have alike. -/
def complete (checks : Bool) (crates : Crates) (archivePath : String) (shim : ArchivalShim)
    (call : Call) (number size : Nat) : ArchivalShim × Option ArchivedRecord :=
  if crates.representable (shim.expiry call) then
    let record := shim.record crates archivePath call number size
    let added := shim.totals.add checks call.count (shim.archivedSize crates size)
      (size - shim.archivedSize crates size)
    if added.2 then
      ({ shim with
          totals := added.1
          lastArchival := some call.archivalAt
          archiveLog := shim.archiveLog ++ [record] }, some record)
    else ({ shim with totals := added.1 }, none)
  else (shim, none)

end ArchivalShim

/-- What a call does: the shim after it, the number it drew, what it left at its
destination if it called `fs::copy`, and the record it returned. -/
structure Outcome where
  shim : ArchivalShim
  number : Option Nat := none
  copied : Option (Option Content) := none
  record : Option ArchivedRecord := none

def ArchivalShim.archiveBatch (checks : Bool) (crates : Crates) (archivePath : String)
    (shim : ArchivalShim) (call : Call) : Outcome :=
  if call.directoryMade then
    match call.source with
    | some source =>
        if source.present then
          match addU64 checks shim.recordCounter 1 with
          | none => { shim }
          | some number =>
              let shim := { shim with recordCounter := number }
              match source.copied with
              | none => { shim, number := some number, copied := some source.leaves }
              | some content =>
                  let completed :=
                    shim.complete checks crates archivePath call number content.length
                  { shim := completed.1
                    number := some number
                    copied := some (some content)
                    record := completed.2 }
        else { shim }
    | none =>
        match addU64 checks shim.recordCounter 1 with
        | none => { shim }
        | some number =>
            let shim := { shim with recordCounter := number }
            let completed :=
              shim.complete checks crates archivePath call number call.originalSizeBytes
            { shim := completed.1
              number := some number
              record := completed.2 }
  else { shim }

/-! ## Lifetimes on one archive path -/

/-- The file that a path names.  Paths that end in different archive names do
not name one file. -/
structure Paths (File : Type) where
  archivePath : String
  resolve : String → File
  apart : ∀ table number other otherNumber,
    resolve (dest archivePath table number) = resolve (dest archivePath other otherNumber) →
      number = otherNumber

/-- A call of `fs::copy`: the process lifetime it fell in, the how manieth number
of this lifetime names its destination, and the content archived if the call
succeeded. -/
structure Copy where
  lifetime : Nat
  draw : Nat
  table : String
  archived : Option Content
deriving DecidableEq, Repr

structure Issued where
  lifetime : Nat
  draw : Nat
  record : ArchivedRecord
deriving DecidableEq, Repr

def numberOf (draw : Nat) : Nat := draw % 2 ^ 64

/-- The running process and the archive path, with what an observer writes down:
the lifetimes before, the numbers drawn in this one, the copies and the records. -/
structure Site (File : Type) where
  shim : ArchivalShim
  files : File → Option Content
  lifetime : Nat
  drawn : Nat
  copies : List Copy
  returned : List Issued

inductive Label where
  | archiveBatch (call : Call)
  | addRetentionRule (rule : RetentionRule)
  | restart (settings : Settings)
deriving DecidableEq, Repr

namespace Site

variable {File : Type}

def start (settings : Settings) (files : File → Option Content) : Site File where
  shim := { settings }
  files := files
  lifetime := 0
  drawn := 0
  copies := []
  returned := []

def observe [DecidableEq File] (paths : Paths File) (site : Site File) (call : Call)
    (outcome : Outcome) : Site File :=
  match outcome.number with
  | none => { site with shim := outcome.shim }
  | some number =>
      { shim := outcome.shim
        files :=
          match outcome.copied with
          | none => site.files
          | some content =>
              Function.update site.files (paths.resolve (dest paths.archivePath call.table number))
                content
        lifetime := site.lifetime
        drawn := site.drawn + 1
        copies :=
          match outcome.copied with
          | none => site.copies
          | some content =>
              site.copies ++ [⟨site.lifetime, site.drawn + 1, call.table,
                outcome.record.bind fun _ => content⟩]
        returned :=
          match outcome.record with
          | none => site.returned
          | some record => site.returned ++ [⟨site.lifetime, site.drawn + 1, record⟩] }

def step [DecidableEq File] (checks : Bool) (crates : Crates) (paths : Paths File)
    (site : Site File) : Label → Site File
  | .archiveBatch call =>
      site.observe paths call (site.shim.archiveBatch checks crates paths.archivePath call)
  | .addRetentionRule rule => { site with shim := site.shim.addRetentionRule rule }
  | .restart settings =>
      { site with
        shim := { settings }
        lifetime := site.lifetime + 1
        drawn := 0 }

end Site

def machine {File : Type} [DecidableEq File] (checks : Bool) (crates : Crates)
    (paths : Paths File) : Machine (Site File) Label :=
  .ofFunction (Site.step checks crates paths)

end Evergreen.Archival
