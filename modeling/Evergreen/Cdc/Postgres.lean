import Evergreen.Cdc.Watermark
import Evergreen.Text.Hex
import Evergreen.Text.Parse

namespace Evergreen.Cdc

/-! # Polling PostgreSQL

`start_pg_cdc` and the parser it compares positions by.  An LSN is two 32-bit
numbers in hexadecimal; the parser reads both as decimal.
-/

structure Lsn where
  upper : Nat
  lower : Nat
  upperFits : upper < 2 ^ 32
  lowerFits : lower < 2 ^ 32
deriving DecidableEq, Repr

/-- As PostgreSQL prints it. -/
def Lsn.text (lsn : Lsn) : String :=
  Text.upperHex lsn.upper ++ String.singleton '/' ++ Text.upperHex lsn.lower

def Lsn.value (lsn : Lsn) : Nat := lsn.upper * 2 ^ 32 + lsn.lower

/-- `parse_lsn`; the shift drops what leaves the 64 bits. -/
def parseLsn (lsn : String) : Nat :=
  match Text.split '/' lsn with
  | [first, second] =>
      match Text.parseU64 first, Text.parseU64 second with
      | some upper, some lower => (upper <<< 32) % 2 ^ 64 ||| lower
      | _, _ => 0
  | _ => 0

/-! ## Hexadecimal digits read as decimal -/

def decimalStep (values value : Nat) (digit : Char) : Option Nat :=
  let next := value * 10 + (digit.toNat - '0'.toNat)
  if digit.isDigit ∧ next < values then some next else none

theorem upperHex_snoc {value : Nat} (long : 16 ≤ value) : (Text.upperHex value).toList =
    (Text.upperHex (value / 16)).toList ++ [(Nat.digitChar (value % 16)).toUpper] := by
  rw [Text.upperHex, Text.upperHex, String.toList_ofList, String.toList_ofList,
    Nat.toDigits_of_base_le (by decide) long, List.map_append, List.map_singleton]

theorem upperHex_single {value : Nat} (short : value < 16) :
    (Text.upperHex value).toList = [(Nat.digitChar value).toUpper] := by
  rw [Text.upperHex, String.toList_ofList, Nat.toDigits_of_lt_base short, List.map_singleton]

theorem upperDigit_isAlphanum : ∀ digit < 16, (Nat.digitChar digit).toUpper.isAlphanum = true := by
  decide

theorem upperDigit_decimal : ∀ digit < 16, (Nat.digitChar digit).toUpper.isDigit = true →
    digit < 10 ∧ (Nat.digitChar digit).toUpper.toNat - '0'.toNat = digit := by
  decide

theorem upperHex_isAlphanum (value : Nat) :
    ∀ char ∈ (Text.upperHex value).toList, char.isAlphanum = true := by
  induction value using Nat.strongRecOn with
  | ind value ih =>
      intro char member
      rcases Nat.lt_or_ge value 16 with short | long
      · rw [upperHex_single short, List.mem_singleton] at member
        rw [member]
        exact upperDigit_isAlphanum value short
      · rw [upperHex_snoc long, List.mem_append, List.mem_singleton] at member
        rcases member with earlier | last
        · exact ih (value / 16) (Nat.div_lt_self (by omega) (by decide)) char earlier
        · rw [last]
          exact upperDigit_isAlphanum _ (Nat.mod_lt _ (by decide))

theorem upperHex_nonempty (value : Nat) : (Text.upperHex value).toList ≠ [] := by
  rw [Text.upperHex, String.toList_ofList]
  simp [Nat.toDigits_ne_nil]

theorem decimalStep_upperDigit {values value digit next : Nat} (small : digit < 16)
    (read : decimalStep values value (Nat.digitChar digit).toUpper = some next) :
    digit < 10 ∧ next = value * 10 + digit := by
  rw [decimalStep] at read
  split at read
  · next allowed =>
    obtain ⟨decimal, worth⟩ := upperDigit_decimal digit small allowed.1
    cases read
    exact ⟨decimal, by rw [worth]⟩
  · cases read

/-- Read as decimal, the digits are worth less, unless there is only one. -/
theorem read_upperHex {values value read : Nat}
    (parsed : (Text.upperHex value).toList.foldlM (decimalStep values) 0 = some read) :
    read ≤ value ∧ (10 ≤ value → read < value) := by
  induction value using Nat.strongRecOn generalizing read with
  | ind value ih =>
      rcases Nat.lt_or_ge value 16 with short | long
      · rw [upperHex_single short, List.foldlM_cons] at parsed
        obtain ⟨next, last, same⟩ := Option.bind_eq_some_iff.mp parsed
        cases same
        obtain ⟨decimal, worth⟩ := decimalStep_upperDigit short last
        omega
      · rw [upperHex_snoc long, List.foldlM_append] at parsed
        obtain ⟨before, earlier, rest⟩ := Option.bind_eq_some_iff.mp parsed
        obtain ⟨next, last, same⟩ := Option.bind_eq_some_iff.mp rest
        cases same
        have less := (ih (value / 16) (Nat.div_lt_self (by omega) (by decide)) earlier).1
        obtain ⟨decimal, worth⟩ := decimalStep_upperDigit (Nat.mod_lt value (by decide)) last
        omega

theorem parseU64_upperHex {value read : Nat}
    (parsed : Text.parseU64 (Text.upperHex value) = some read) :
    read ≤ value ∧ (10 ≤ value → read < value) := by
  rw [Text.parseU64, Text.parseUnsigned] at parsed
  split at parsed
  · next rest signed =>
    have sign := upperHex_isAlphanum value '+' (by rw [signed]; exact List.mem_cons_self)
    cases sign
  · rw [if_neg (upperHex_nonempty value)] at parsed
    exact read_upperHex parsed

theorem parseU64_upperHex_of_digit {value : Nat} (digit : value < 10) :
    Text.parseU64 (Text.upperHex value) = some value := by
  revert value
  decide

theorem slash_not_mem_upperHex (value : Nat) : '/' ∉ (Text.upperHex value).toList := by
  intro member
  have alphanumeric := upperHex_isAlphanum value '/' member
  cases alphanumeric

/-! ## The parser -/

theorem parseLsn_text (lsn : Lsn) : parseLsn lsn.text =
    match Text.parseU64 (Text.upperHex lsn.upper), Text.parseU64 (Text.upperHex lsn.lower) with
    | some upper, some lower => (upper <<< 32) % 2 ^ 64 ||| lower
    | _, _ => 0 := by
  rw [parseLsn, Lsn.text, Text.split_pair (slash_not_mem_upperHex _) (slash_not_mem_upperHex _)]

theorem joined_halves {upper lower : Nat} (upperFits : upper < 2 ^ 32) (lowerFits : lower < 2 ^ 32) :
    (upper <<< 32) % 2 ^ 64 ||| lower = upper * 2 ^ 32 + lower := by
  have shifted : upper <<< 32 < 2 ^ 64 := by
    rw [Nat.shiftLeft_eq]
    omega
  rw [Nat.mod_eq_of_lt shifted, ← Nat.shiftLeft_add_eq_or_of_lt lowerFits, Nat.shiftLeft_eq]

/-- The parser is right about the positions that are the same in both bases. -/
theorem parseLsn_text_iff (lsn : Lsn) :
    parseLsn lsn.text = lsn.value ↔ lsn.upper < 10 ∧ lsn.lower < 10 := by
  obtain ⟨upper, lower, upperFits, lowerFits⟩ := lsn
  rw [parseLsn_text]
  dsimp only
  have unread : ∀ {value : Nat}, Text.parseU64 (Text.upperHex value) = none → 10 ≤ value := by
    intro value none
    by_contra digit
    rw [parseU64_upperHex_of_digit (Nat.lt_of_not_le digit)] at none
    cases none
  have exactly : ∀ {value read : Nat}, Text.parseU64 (Text.upperHex value) = some read →
      (read = value ↔ value < 10) := by
    intro value read parsed
    have less := parseU64_upperHex parsed
    refine ⟨fun same => by omega, fun digit => ?_⟩
    rw [parseU64_upperHex_of_digit digit] at parsed
    exact (Option.some.inj parsed).symm
  cases first : Text.parseU64 (Text.upperHex upper) with
  | none =>
      have large := unread first
      simp only [Lsn.value]
      omega
  | some upperRead =>
      cases second : Text.parseU64 (Text.upperHex lower) with
      | none =>
          have large := unread second
          simp only [Lsn.value]
          omega
      | some lowerRead =>
          have upperLess := (parseU64_upperHex first).1
          have lowerLess := (parseU64_upperHex second).1
          have upperSame := exactly first
          have lowerSame := exactly second
          simp only [Lsn.value]
          rw [joined_halves (upperLess.trans_lt upperFits) (lowerLess.trans_lt lowerFits)]
          omega

/-! ## The loop -/

structure PgValue where
  lsn : String
  bytesAdvanced : Nat
deriving DecidableEq, Repr

/-- A poll finds the LSN of the first row, if there is one. -/
structure PgPoll where
  row : Option Lsn
  timestampMillis : Int
  timestamp : String
  outcomes : Nat → Outcome
  now : String

def PgPoll.sighting (poll : PgPoll) (lsn : Lsn) : Sighting Nat PgValue where
  key := lsn.value
  number := parseLsn lsn.text
  eventId := s!"pg-cdc-{poll.timestampMillis}"
  lsn := lsn.text
  timestamp := poll.timestamp
  table := "pg_stat_replication"
  after diff := ⟨lsn.text, diff⟩

/-- One turn of the loop of `start_pg_cdc`. -/
def PgPoll.turn (poll : PgPoll) : Turn Nat PgValue where
  sighting := poll.row.map poll.sighting
  outcomes := poll.outcomes
  now := poll.now

def reportedLsns (polls : List PgPoll) : List Lsn := polls.filterMap PgPoll.row

/-- What is asked of the loop: it reads every position as it is, in their order,
and captures an event whenever the position advances, at first from `0/0`. -/
structure WatchesWal (shim : CdcShim PgValue) (polls : List PgPoll) : Prop where
  reads : ∀ lsn ∈ reportedLsns polls, parseLsn lsn.text = lsn.value
  monotone : ∀ first ∈ reportedLsns polls, ∀ second ∈ reportedLsns polls,
    first.value < second.value → parseLsn first.text < parseLsn second.text
  captures : turns.Along (CapturesAdvance (· < ·)) (.start shim (some 0)) (polls.map PgPoll.turn)

/-- The loop does what it is for when all positions have one decimal digit in
each half, none that is ahead of the one before it is behind an earlier one, and
the filter lets the events through. -/
theorem watchesWal_iff (shim : CdcShim PgValue) (polls : List PgPoll) :
    WatchesWal shim polls ↔
      (∀ lsn ∈ reportedLsns polls, lsn.upper < 10 ∧ lsn.lower < 10) ∧
        turns.Along (AdvancesMark (· < ·)) (.start shim (some 0)) (polls.map PgPoll.turn) := by
  rw [← capturesAdvance_iff_advancesMark]
  constructor
  · rintro ⟨reads, _, captures⟩
    exact ⟨fun lsn member => (parseLsn_text_iff lsn).mp (reads lsn member), captures⟩
  · rintro ⟨digits, captures⟩
    have reads : ∀ lsn ∈ reportedLsns polls, parseLsn lsn.text = lsn.value :=
      fun lsn member => (parseLsn_text_iff lsn).mpr (digits lsn member)
    refine ⟨reads, fun first one second two less => ?_, captures⟩
    rw [reads first one, reads second two]
    exact less

/-- The position `0/A` reads as zero. -/
theorem lsn_misread : ¬ ∀ polls, WatchesWal (.new "stdout" [] none 1 "now") polls := by
  intro watches
  have reads := (watches [⟨some ⟨0, 10, by decide, by decide⟩, 0, "now", fun _ => .delivered,
    "now"⟩]).reads _ List.mem_cons_self
  exact absurd reads (by decide)

end Evergreen.Cdc
