import Mathlib.Algebra.Order.Ring.Int
import Mathlib.Data.List.Sort

namespace Evergreen.Migration

/-! # Migration files

What `scan_migrations` and `read_migration` see of the migration directory.  The
order of the entries is the one `read_dir` happens to produce.
-/

/-- `parse::<u32>`: an optional plus sign and at least one digit, no overflow. -/
def parseU32 (text : List Char) : Option Nat :=
  let digits := match text with
    | '+' :: rest => rest
    | _ => text
  if digits = [] then none
  else digits.foldlM (fun value digit =>
    let next := value * 10 + (digit.toNat - '0'.toNat)
    if digit.isDigit ∧ next < 2 ^ 32 then some next else none) 0

/-- `splitn(2, '_')`: the part before the first underscore, and the rest if
there is one. -/
def splitName (name : List Char) : List Char × Option (List Char) :=
  match name.dropWhile (· ≠ '_') with
  | [] => (name, none)
  | _ :: rest => (name.takeWhile (· ≠ '_'), some rest)

/-- `trim_end_matches`: removes the suffix as often as it is there. -/
def trimEndMatches (suffix text : List Char) : List Char :=
  go text.length text
where
  go : Nat → List Char → List Char
    | 0, text => text
    | fuel + 1, text =>
        if suffix.isSuffixOf text then go fuel (text.take (text.length - suffix.length)) else text

def upSuffix : List Char := ".up.sql".toList

structure Entry where
  name : String
  content : Except String String
deriving DecidableEq

/-- `entries` fails when `read_dir` or one of its steps does. -/
structure MigrationDir where
  present : Bool
  entries : Except String (List Entry)

/-- An element of the vector that `scan_migrations` returns; the path is the
entry itself. -/
structure Scanned where
  version : Nat
  name : String
  entry : Entry
deriving DecidableEq

def scanEntry (entry : Entry) : Option Scanned :=
  let name := entry.name.toList
  if upSuffix.isSuffixOf name then
    let (version, rest) := splitName name
    (parseU32 version).map fun version =>
      ⟨version, String.ofList (trimEndMatches upSuffix (rest.getD [])), entry⟩
  else none

/-- A missing directory counts as empty; the sort by version is stable. -/
def MigrationDir.scan (dir : MigrationDir) : Except String (List Scanned) :=
  if dir.present then
    dir.entries.map fun entries =>
      (entries.filterMap scanEntry).insertionSort fun first second => first.version ≤ second.version
  else .ok []

def Scanned.read (scanned : Scanned) : Except String String :=
  match scanned.entry.content with
  | .ok sql => .ok sql
  | .error error =>
      let path := scanned.entry.name
      .error s!"Failed to read migration {path}: {error}"

/-! ## Checksums -/

/-- FNV-1a over the bytes, in sixteen hexadecimal digits. -/
def computeChecksum (sql : String) : String :=
  let hash := sql.toUTF8.data.toList.foldl
    (fun hash byte => (hash ^^^ byte.toNat) * 0x100000001b3 % 2 ^ 64) 0xcbf29ce484222325
  let digits := Nat.toDigits 16 hash
  String.ofList (List.replicate (16 - digits.length) '0' ++ digits)

end Evergreen.Migration
