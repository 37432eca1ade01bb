import Evergreen.Cdc.Watermark
import Evergreen.Text.Parse

namespace Evergreen.Cdc

/-! # Polling MariaDB

The loop of `start_mariadb_cdc` remembers the offset it saw last and not the
file, and a new file starts with small offsets.
-/

/-- What the names of the binlog files begin with. -/
structure LogBasename where
  name : String
  plain : '\t' ∉ name.toList

/-- The number of the file, and an offset that is a `u64`. -/
structure BinlogPosition where
  file : Nat
  offset : Nat
  fits : offset < 2 ^ 64
deriving DecidableEq, Repr

def BinlogPosition.Precedes (first second : BinlogPosition) : Prop :=
  first.file < second.file ∨ (first.file = second.file ∧ first.offset < second.offset)

instance (first second : BinlogPosition) : Decidable (first.Precedes second) :=
  inferInstanceAs (Decidable (_ ∨ _))

/-- As in `binlog.000001`. -/
def LogBasename.file (basename : LogBasename) (number : Nat) : String :=
  basename.name ++ "." ++ Text.padDecimal 6 number

def LogBasename.row (basename : LogBasename) (position : BinlogPosition) : String :=
  basename.file position.file ++ String.singleton '\t' ++ Text.padDecimal 0 position.offset

/-- The first two parts of a row, when the second is a number. -/
def parseRow (row : String) : Option (String × Nat) :=
  match Text.split '\t' row with
  | file :: offset :: _ => (Text.parseU64 offset).map fun offset => (file, offset)
  | _ => none

structure BinlogValue where
  binlogFile : String
  position : Nat
  bytesAdvanced : Nat
deriving DecidableEq, Repr

/-- A poll finds a position, or no row. -/
structure BinlogPoll where
  position : Option BinlogPosition
  timestampMillis : Int
  timestamp : String
  outcomes : Nat → Outcome
  now : String

def BinlogPoll.sighting (poll : BinlogPoll) (basename : LogBasename) (position : BinlogPosition) :
    Option (Sighting BinlogPosition BinlogValue) :=
  (parseRow (basename.row position)).map fun (file, offset) =>
    { key := position
      number := offset
      eventId := s!"mysql-cdc-{poll.timestampMillis}"
      lsn := s!"{file}:{offset}"
      timestamp := poll.timestamp
      table := "binlog"
      after diff := ⟨file, offset, diff⟩ }

def BinlogPoll.turn (basename : LogBasename) (poll : BinlogPoll) : Turn BinlogPosition BinlogValue where
  sighting := poll.position.bind (poll.sighting basename)
  outcomes := poll.outcomes
  now := poll.now

/-! ## What the loop makes of a row -/

variable {basename : LogBasename} {position : BinlogPosition} {poll : BinlogPoll}

theorem tab_not_mem_padDecimal (width value : Nat) : '\t' ∉ (Text.padDecimal width value).toList := by
  intro member
  have digit := Text.isDigit_padDecimal width value '\t' member
  cases digit

theorem parseRow_row : parseRow (basename.row position) =
    some (basename.file position.file, position.offset) := by
  have file : '\t' ∉ (basename.file position.file).toList := by
    rw [LogBasename.file, String.toList_append, String.toList_append, List.mem_append,
      List.mem_append, not_or, not_or]
    exact ⟨⟨basename.plain, by decide⟩, tab_not_mem_padDecimal _ _⟩
  rw [parseRow, LogBasename.row, Text.split_pair file (tab_not_mem_padDecimal _ _)]
  dsimp only
  rw [Text.parseU64, Text.parseUnsigned_padDecimal 0 position.fits]
  rfl

/-! ## Runs -/

def binlogPolls (basename : LogBasename) : Machine (Followed BinlogPosition BinlogValue) BinlogPoll :=
  .ofFunction fun state poll => state.turn (poll.turn basename)

/-- An event is captured when the position is ahead of the one before it. -/
def CapturesPosition (basename : LogBasename) (state : Followed BinlogPosition BinlogValue)
    (poll : BinlogPoll) : Prop :=
  CapturesAdvance BinlogPosition.Precedes state (poll.turn basename)

/-- A position that is ahead of the one before it has the greatest offset so far,
whatever its file, and the filter lets the event through. -/
def ExceedsOffsets (state : Followed BinlogPosition BinlogValue) (poll : BinlogPoll) : Prop :=
  ∀ position, poll.position = some position →
    (∃ previous, state.previous = some previous ∧ previous.Precedes position) →
    state.highest < position.offset ∧ state.watcher.shim.shouldCapture "binlog" = true

def reportedPositions (polls : List BinlogPoll) : List BinlogPosition :=
  polls.filterMap BinlogPoll.position

theorem advancesMark_iff_exceedsOffsets (state : Followed BinlogPosition BinlogValue) :
    AdvancesMark BinlogPosition.Precedes state (poll.turn basename) ↔ ExceedsOffsets state poll := by
  cases found : poll.position with
  | none => simp [AdvancesMark, ExceedsOffsets, BinlogPoll.turn, found]
  | some position =>
      have seen : (poll.turn basename).sighting = some
          { key := position
            number := position.offset
            eventId := s!"mysql-cdc-{poll.timestampMillis}"
            lsn := s!"{basename.file position.file}:{position.offset}"
            timestamp := poll.timestamp
            table := "binlog"
            after := fun diff => ⟨basename.file position.file, position.offset, diff⟩ } := by
        rw [BinlogPoll.turn, found, Option.bind_some, BinlogPoll.sighting, parseRow_row]
        rfl
      simp only [AdvancesMark, ExceedsOffsets, seen, found, Option.some.injEq, forall_eq',
        Followed.Advances]

def binlog : LogBasename := ⟨"binlog", by decide⟩

def finds (file offset : Nat) (fits : offset < 2 ^ 64) : BinlogPoll :=
  ⟨some ⟨file, offset, fits⟩, 0, "now", fun _ => .delivered, "now"⟩

end Evergreen.Cdc
