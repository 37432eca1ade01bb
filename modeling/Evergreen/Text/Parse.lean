import Mathlib.Algebra.Order.Ring.Nat

namespace Evergreen.Text

/-! # Text as the standard library reads it

White space is the Unicode property `White_Space`, which `trim` and
`split_whitespace` go by.
-/

def isWhitespace (char : Char) : Bool :=
  let code := char.toNat
  (9 ≤ code && code ≤ 13) || code == 0x20 || code == 0x85 || code == 0xa0 || code == 0x1680 ||
    (0x2000 ≤ code && code ≤ 0x200a) || code == 0x2028 || code == 0x2029 || code == 0x202f ||
    code == 0x205f || code == 0x3000

def trim (text : String) : String :=
  String.ofList (((text.toList.dropWhile isWhitespace).reverse.dropWhile isWhitespace).reverse)

def splitWhitespace (text : String) : List String :=
  ((text.toList.splitOnP isWhitespace).filter (· ≠ [])).map String.ofList

/-- `split` at a character. -/
def split (separator : Char) (text : String) : List String :=
  (text.toList.splitOnP (· == separator)).map String.ofList

def eqIgnoreAsciiCase (left right : String) : Bool :=
  left.toList.map Char.toLower = right.toList.map Char.toLower

/-- `split` at the one separator there is. -/
theorem split_pair {separator : Char} {left right : String} (before : separator ∉ left.toList)
    (after : separator ∉ right.toList) :
    split separator (left ++ String.singleton separator ++ right) = [left, right] := by
  have other : ∀ text : List Char, separator ∉ text →
      ∀ char ∈ text, (char == separator) = false := by
    intro text absent char member
    exact beq_false_of_ne fun same => absent (same ▸ member)
  have chars : (left ++ String.singleton separator ++ right).toList =
      left.toList ++ separator :: right.toList := by
    simp [String.toList_append]
  rw [split, chars, List.splitOnP_append_cons_of_forall_mem (other _ before) _ (beq_self_eq_true _),
    List.splitOnP_eq_singleton (other _ after)]
  simp

def occursIn (piece : List Char) : List Char → Bool
  | [] => piece.isEmpty
  | char :: rest => piece.isPrefixOf (char :: rest) || occursIn piece rest

/-- `str::contains`. -/
def containsText (piece text : String) : Bool := occursIn piece.toList text.toList

def startsWith (start text : String) : Bool := start.toList.isPrefixOf text.toList

/-- `parse` of an unsigned integer type with this many values: an optional plus
sign and at least one digit, no overflow. -/
def parseUnsigned (values : Nat) (text : String) : Option Nat :=
  let digits := match text.toList with
    | '+' :: rest => rest
    | all => all
  if digits = [] then none
  else digits.foldlM (fun value digit =>
    let next := value * 10 + (digit.toNat - '0'.toNat)
    if digit.isDigit ∧ next < values then some next else none) 0

def parseU64 : String → Option Nat := parseUnsigned (2 ^ 64)

def parseU32 : String → Option Nat := parseUnsigned (2 ^ 32)

/-- `parse` of an `i64`: after a minus sign there is no other sign. -/
def parseI64 (text : String) : Option Int :=
  match text.toList with
  | '-' :: rest =>
      if rest.head? = some '+' then none
      else (parseUnsigned (2 ^ 63 + 1) (String.ofList rest)).map fun value => -(value : Int)
  | _ => (parseUnsigned (2 ^ 63) text).map fun value => (value : Int)

/-- `split_once` at a character: what stands before and after its first occurrence. -/
def splitOnce (separator : Char) (text : String) : Option (String × String) :=
  if separator ∈ text.toList then
    some (String.ofList (text.toList.takeWhile (· ≠ separator)),
      String.ofList ((text.toList.dropWhile (· ≠ separator)).drop 1))
  else none

theorem splitOnce_append {separator : Char} {left right : String}
    (absent : separator ∉ left.toList) :
    splitOnce separator (left ++ String.singleton separator ++ right) = some (left, right) := by
  have chars : (left ++ String.singleton separator ++ right).toList =
      left.toList ++ separator :: right.toList := by
    simp [String.toList_append]
  have other : ∀ char ∈ left.toList, decide (char ≠ separator) = true := by
    intro char member
    exact decide_eq_true fun same => absent (same ▸ member)
  rw [splitOnce, chars, if_pos (List.mem_append_right _ List.mem_cons_self)]
  rw [List.takeWhile_append_of_pos other, List.dropWhile_append_of_pos other]
  simp

/-- `strip_prefix`. -/
def stripStart (start text : String) : Option String :=
  if startsWith start text then some (String.ofList (text.toList.drop start.toList.length))
  else none

theorem stripStart_append (start rest : String) : stripStart start (start ++ rest) = some rest := by
  rw [stripStart, startsWith, if_pos]
  · rw [String.toList_append, List.drop_left, String.ofList_toList]
  · rw [String.toList_append]
    exact List.isPrefixOf_iff_prefix.mpr (List.prefix_append _ _)

/-- An unsigned integer, padded with zeros to a width. -/
def padDecimal (width value : Nat) : String :=
  String.ofList (List.replicate (width - (Nat.toDigits 10 value).length) '0' ++
    Nat.toDigits 10 value)

theorem foldlM_digits {values : Nat} {digits : List Char} {start : Nat}
    (numeric : ∀ digit ∈ digits, digit.isDigit = true)
    (small : Nat.ofDigitChars 10 digits start < values) :
    digits.foldlM (fun value digit =>
        let next := value * 10 + (digit.toNat - '0'.toNat)
        if digit.isDigit ∧ next < values then some next else none) start =
      some (Nat.ofDigitChars 10 digits start) := by
  induction digits generalizing start with
  | nil => simp
  | cons digit rest ih =>
      rw [Nat.ofDigitChars_cons] at small ⊢
      have grows : 10 * start + (digit.toNat - '0'.toNat) ≤
          Nat.ofDigitChars 10 rest (10 * start + (digit.toNat - '0'.toNat)) := by
        rw [Nat.ofDigitChars_eq_ofDigitChars_zero]
        exact (Nat.le_mul_of_pos_left _ (Nat.pow_pos (by decide))).trans (Nat.le_add_right _ _)
      have kept := numeric digit List.mem_cons_self
      rw [List.foldlM_cons]
      dsimp only
      rw [Nat.mul_comm start, if_pos ⟨kept, grows.trans_lt small⟩]
      exact ih (fun other member => numeric other (List.mem_cons_of_mem _ member)) small

/-- No overflow at any digit, so none at the end. -/
theorem lt_of_foldlM_digits {values : Nat} {digits : List Char} {start value : Nat}
    (small : start < values)
    (read : digits.foldlM (fun value digit =>
        let next := value * 10 + (digit.toNat - '0'.toNat)
        if digit.isDigit ∧ next < values then some next else none) start = some value) :
    value < values := by
  induction digits generalizing start with
  | nil =>
      cases read
      exact small
  | cons digit rest ih =>
      rw [List.foldlM_cons] at read
      obtain ⟨next, taken, read⟩ := Option.bind_eq_some_iff.mp read
      dsimp only at taken
      split at taken
      · next allowed =>
        cases taken
        exact ih allowed.2 read
      · cases taken

theorem isDigit_padDecimal (width value : Nat) :
    ∀ digit ∈ (padDecimal width value).toList, digit.isDigit = true := by
  intro digit member
  rw [padDecimal, String.toList_ofList] at member
  rcases List.mem_append.mp member with padding | member
  · rw [List.eq_of_mem_replicate padding]
    decide
  · exact Nat.isDigit_of_mem_toDigits (by decide) (by decide) member

theorem parseUnsigned_padDecimal {values value : Nat} (width : Nat) (small : value < values) :
    parseUnsigned values (padDecimal width value) = some value := by
  have numeric := isDigit_padDecimal width value
  have whole : Nat.ofDigitChars 10 (padDecimal width value).toList 0 = value := by
    rw [padDecimal, String.toList_ofList, Nat.ofDigitChars_append,
      Nat.ofDigitChars_replicate_zero, Nat.mul_zero, Nat.ofDigitChars_ten_toDigits]
  have some : (padDecimal width value).toList ≠ [] := by
    rw [padDecimal, String.toList_ofList]
    exact List.append_ne_nil_of_right_ne_nil _ Nat.toDigits_ne_nil
  rw [parseUnsigned]
  split
  · next rest signed =>
    have sign := numeric '+' (by rw [signed]; exact List.mem_cons_self)
    cases sign
  · rw [if_neg some, foldlM_digits numeric (whole.symm ▸ small), whole]

theorem padDecimal_injective {width value other : Nat}
    (same : padDecimal width value = padDecimal width other) : value = other := by
  have parsed := @parseUnsigned_padDecimal (value + other + 1) value width (by omega)
  rw [same, @parseUnsigned_padDecimal (value + other + 1) other width (by omega)] at parsed
  exact (Option.some.inj parsed).symm

/-- What follows the last separator of a text is all that follows it. -/
theorem after_last_inj {Item : Type} {separator : Item} {before after otherBefore otherAfter : List Item}
    (absent : separator ∉ after) (otherAbsent : separator ∉ otherAfter)
    (same : before ++ separator :: after = otherBefore ++ separator :: otherAfter) :
    after = otherAfter := by
  rcases List.append_eq_append_iff.mp same with ⟨between, _, rest⟩ | ⟨between, _, rest⟩
  · cases between with
    | nil => exact (List.cons.inj rest).2
    | cons first between =>
        have rest := (List.cons.inj rest).2
        exact absurd (rest ▸ List.mem_append_right _ List.mem_cons_self) absent
  · cases between with
    | nil => exact (List.cons.inj rest).2.symm
    | cons first between =>
        have rest := (List.cons.inj rest).2
        exact absurd (rest ▸ List.mem_append_right _ List.mem_cons_self) otherAbsent

/-- A property of the ASCII characters, from their codes. -/
theorem forall_ascii {property : Char → Prop}
    (every : ∀ code < 128, property (Char.ofNat code)) (char : Char) (ascii : char.toNat < 128) :
    property char := by
  have found := every char.toNat ascii
  rwa [Char.ofNat_toNat] at found

theorem toNat_lt_of_le {char limit : Char} (ascii : limit.toNat < 128) (le : char ≤ limit) :
    char.toNat < 128 :=
  lt_of_le_of_lt (Char.le_def.mp le) ascii

example : parseU64 "+18446744073709551615" = some 18446744073709551615 := by decide

example : parseU64 "18446744073709551616" = none := by decide

example : parseI64 "-9223372036854775808" = some (-9223372036854775808) := by decide

example : splitWhitespace " --flag  value\t" = ["--flag", "value"] := by decide

end Evergreen.Text
