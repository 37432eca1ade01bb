import Evergreen.Text.Words

namespace Evergreen.Resource

open Evergreen.Text (Word words)

/-! # The CPU times of the process

The kernel writes the fields of `/proc/self/stat` with blanks between them, and
the second one is the name of the process in parentheses, as it is.
-/

/-- A line of the kernel: the fields up to `cmajflt`, the two times, and at least
seven fields after them. -/
structure StatLine where
  pid : Nat
  comm : List Char
  before : List Word
  utime : UInt64
  stime : UInt64
  after : List Word
  upToCmajflt : before.length = 11
  enough : 7 ≤ after.length

namespace StatLine

/-- The fields after the name. -/
def fields (line : StatLine) : List Word :=
  line.before ++ Word.ofNat line.utime.toNat :: Word.ofNat line.stime.toNat :: line.after

def quotedComm (line : StatLine) : List Char := '(' :: (line.comm ++ [')'])

def text (line : StatLine) : String :=
  String.ofList (((Word.ofNat line.pid).chars ++ ' ' :: line.quotedComm) ++
    (line.fields.flatMap fun field => ' ' :: field.chars) ++ ['\n'])

/-- The words after the process id, those of the name among them. -/
def columns (line : StatLine) : List (List Char) :=
  words line.quotedComm ++ line.fields.map Word.chars

end StatLine

def parseTime (text : String) : Option UInt64 := (Text.parseU64 text).map UInt64.ofNat

/-- `read_cpu_times_static`, from what was read of the file. -/
def readCpuTimes (content : Option String) : Option (UInt64 × UInt64) :=
  content.bind fun content =>
    let fields := Text.splitWhitespace content
    if 21 < fields.length then
      (fields[13]?.bind parseTime).bind fun userTime =>
        (fields[14]?.bind parseTime).map fun systemTime => (userTime, systemTime)
    else none

/-- The words in the places of the two times read as the times, wherever they
come from. -/
def StatLine.Coincides (line : StatLine) : Prop :=
  (line.columns[12]?.bind fun word => parseTime (String.ofList word)) = some line.utime ∧
    (line.columns[13]?.bind fun word => parseTime (String.ofList word)) = some line.stime

variable {line : StatLine}

theorem parseTime_ofNat (time : UInt64) :
    parseTime (String.ofList (Word.ofNat time.toNat).chars) = some time := by
  rw [parseTime, Text.parseU64_ofNat time.toNat_lt, Option.map_some, UInt64.ofNat_toNat]

theorem splitWhitespace_text : Text.splitWhitespace line.text =
    ((Word.ofNat line.pid).chars :: line.columns).map String.ofList := by
  rw [Text.splitWhitespace_eq, StatLine.text, String.toList_ofList,
    Text.words_append_cons (by decide), Text.words_nil, List.append_nil,
    Text.words_append_flatMap, Text.words_append_cons (by decide), Text.words_word]
  rfl

theorem length_columns : 21 ≤ line.columns.length := by
  have name := List.length_pos_iff.mpr
    (@Text.words_ne_nil (line.comm ++ [')']) '(' (by decide))
  have early := line.upToCmajflt
  have late := line.enough
  rw [StatLine.columns, StatLine.quotedComm, List.length_append, List.length_map,
    StatLine.fields, List.length_append, List.length_cons, List.length_cons]
  omega

theorem readCpuTimes_text : readCpuTimes (some line.text) =
    (line.columns[12]?.bind fun word => parseTime (String.ofList word)).bind fun userTime =>
      (line.columns[13]?.bind fun word => parseTime (String.ofList word)).map fun systemTime =>
        (userTime, systemTime) := by
  have long := @length_columns line
  rw [readCpuTimes, Option.bind_some, splitWhitespace_text, if_pos (by simp; omega)]
  simp only [List.getElem?_map, List.getElem?_cons_succ, Option.bind_map]
  rfl

/-- A name without white space is one word, and every field is in its place. -/
theorem coincides_of_solid (solid : ∀ char ∈ line.comm, Text.isWhitespace char = false) :
    line.Coincides := by
  have quoted : words line.quotedComm = [line.quotedComm] := by
    refine Text.words_of_solid (List.cons_ne_nil _ _) fun char member => ?_
    rcases List.mem_cons.mp member with rfl | member
    · decide
    · rcases List.mem_append.mp member with member | member
      · exact solid char member
      · obtain rfl := List.mem_singleton.mp member
        decide
  have early : (line.before.map Word.chars).length = 11 := by
    rw [List.length_map, line.upToCmajflt]
  rw [StatLine.Coincides, StatLine.columns, quoted, StatLine.fields, List.map_append]
  simp only [List.singleton_append, List.getElem?_cons_succ]
  rw [List.getElem?_append_right (by omega), List.getElem?_append_right (by omega), early]
  simp only [List.map_cons, Nat.reduceSub, List.getElem?_cons_zero, List.getElem?_cons_succ,
    Option.bind_some, parseTime_ofNat, and_self]

/-- The times are read from any line whose process name has no white space, and
from another one only if the words in their places happen to be the same. -/
theorem readCpuTimes_eq_iff (line : StatLine) :
    readCpuTimes (some line.text) = some (line.utime, line.stime) ↔
      (∀ char ∈ line.comm, Text.isWhitespace char = false) ∨ line.Coincides := by
  rw [readCpuTimes_text, or_iff_right_of_imp coincides_of_solid, StatLine.Coincides]
  cases line.columns[12]?.bind fun word => parseTime (String.ofList word) with
  | none => simp
  | some userTime =>
      cases line.columns[13]?.bind fun word => parseTime (String.ofList word) with
      | none => simp
      | some systemTime => simp

/-- A sleeping process of this name with seven ticks of user time and three of
system time. -/
def sleeping (comm : List Char) : StatLine where
  pid := 1
  comm := comm
  before := ⟨['S'], by decide, List.forall_mem_singleton.mpr rfl⟩ :: List.replicate 10 (Word.ofNat 0)
  utime := 7
  stime := 3
  after := List.replicate 7 (Word.ofNat 0)
  upToCmajflt := rfl
  enough := Nat.le_refl 7

/-- The words move one place on: the first time read is the field before `utime`. -/
theorem readCpuTimes_spaced :
    readCpuTimes (some (sleeping "my prog".toList).text) ≠
      some ((sleeping "my prog".toList).utime, (sleeping "my prog".toList).stime) := by
  have shifted : readCpuTimes (some (sleeping "my prog".toList).text) = some (0, 7) := by
    decide +kernel
  rw [shifted]
  decide

end Evergreen.Resource
