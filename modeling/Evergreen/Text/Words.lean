import Evergreen.Text.Parse

namespace Evergreen.Text

/-! # Words between white space -/

/-- `split_whitespace`, on characters. -/
def words (chars : List Char) : List (List Char) :=
  (chars.splitOnP isWhitespace).filter (· ≠ [])

theorem splitWhitespace_eq (text : String) :
    splitWhitespace text = (words text.toList).map String.ofList := rfl

/-- Text that is one word. -/
structure Word where
  chars : List Char
  nonempty : chars ≠ []
  solid : ∀ char ∈ chars, isWhitespace char = false

def Word.ofNat (value : Nat) : Word where
  chars := (padDecimal 0 value).toList
  nonempty := by
    rw [padDecimal, String.toList_ofList]
    exact List.append_ne_nil_of_right_ne_nil _ Nat.toDigits_ne_nil
  solid := by
    intro char member
    have digit := isDigit_padDecimal 0 value char member
    simp only [Char.isDigit, Bool.and_eq_true, decide_eq_true_eq] at digit
    have low : 48 ≤ char.toNat := UInt32.le_iff_toNat_le.mp digit.1
    have high : char.toNat ≤ 57 := UInt32.le_iff_toNat_le.mp digit.2
    simp only [isWhitespace, Bool.or_eq_false_iff, Bool.and_eq_false_iff, decide_eq_false_iff_not,
      beq_eq_false_iff_ne]
    omega

theorem parseU64_ofNat {value : Nat} (small : value < 2 ^ 64) :
    parseU64 (String.ofList (Word.ofNat value).chars) = some value := by
  rw [Word.ofNat, String.ofList_toList]
  exact parseUnsigned_padDecimal 0 small

variable {left right : List Char} {separator : Char}

theorem words_append_cons (space : isWhitespace separator = true) :
    words (left ++ separator :: right) = words left ++ words right := by
  rw [words, List.splitOnP_append_cons left right space, List.filter_append]
  rfl

theorem words_nil : words [] = [] := rfl

theorem words_of_solid (nonempty : left ≠ []) (solid : ∀ char ∈ left, isWhitespace char = false) :
    words left = [left] := by
  rw [words, List.splitOnP_eq_singleton solid]
  simp [nonempty]

theorem words_word (word : Word) : words word.chars = [word.chars] :=
  words_of_solid word.nonempty word.solid

/-- Words after blanks are read one by one, whatever stands before them. -/
theorem words_append_flatMap (left : List Char) (list : List Word) :
    words (left ++ list.flatMap fun word => ' ' :: word.chars) =
      words left ++ list.map Word.chars := by
  induction list generalizing left with
  | nil => simp
  | cons word list ih =>
      rw [List.flatMap_cons, List.cons_append, words_append_cons (by decide), ih, words_word,
        List.map_cons, List.singleton_append]

theorem words_ne_nil {first : Char} (solid : isWhitespace first = false) :
    words (first :: right) ≠ [] := by
  intro absent
  have parted := List.splitOnP_ne_nil isWhitespace right
  obtain ⟨head, rest, parts⟩ := List.exists_cons_of_ne_nil parted
  rw [words, List.splitOnP_cons_eq_if_modifyHead, solid, parts] at absent
  simp at absent

end Evergreen.Text
