import Evergreen.Tls.Pem

namespace Evergreen.Tls

open Evergreen.Text (find OccursAt)

/-! # Encoding and decoding again

The end marker is looked for in the whole text, the line with the label
included.  Only a label that looks like the text after it can hold one.
-/

/-- The rest of the first line, from the label on, does not begin an end marker
within the label. -/
def LabelApart (der : List UInt8) (label : String) : Prop :=
  ∀ front back, label.toList = front ++ (closing ++ back) →
    ¬ label.toList ++ dashes <+: back ++ pemTail der label

variable {der : List UInt8} {label : String} {place : Nat} {text : List Char}

/-! ## Stripping -/

theorem filter_dropWhile_space (text : List Char) :
    (text.dropWhile Text.isWhitespace).filter (fun char => !Text.isWhitespace char) =
      text.filter fun char => !Text.isWhitespace char := by
  induction text with
  | nil => rfl
  | cons char text ih =>
      rw [List.dropWhile_cons]
      cases space : Text.isWhitespace char with
      | true => simp [ih, space]
      | false => simp

theorem strip_trim (text : String) : strip (Text.trim text) = strip text := by
  rw [strip, Text.trim, String.toList_ofList, List.filter_reverse, filter_dropWhile_space,
    List.filter_reverse, filter_dropWhile_space, List.reverse_reverse, strip]

theorem strip_dropNewlines (text : String) : strip (dropNewlines text) = strip text := by
  rw [strip, dropNewlines, String.toList_ofList, List.filter_filter, strip]
  refine List.filter_congr fun char _ => ?_
  cases space : Text.isWhitespace char with
  | true => rfl
  | false =>
      have newline : char ≠ '\n' := fun same => by rw [same] at space; cases space
      have carriage : char ≠ '\r' := fun same => by rw [same] at space; cases space
      simp [newline, carriage]

theorem filter_pemLines : (pemLines der).filter (fun char => !Text.isWhitespace char) =
    encodeGroups der := by
  have lines : ∀ chunks : List (List Char),
      (chunks.flatMap fun chunk => chunk ++ ['\n']).filter (fun char => !Text.isWhitespace char) =
        chunks.flatten.filter fun char => !Text.isWhitespace char := by
    intro chunks
    induction chunks with
    | nil => rfl
    | cons chunk chunks ih =>
        rw [List.flatMap_cons, List.filter_append, List.filter_append, ih, List.flatten_cons,
          List.filter_append]
        simp [Text.isWhitespace]
  rw [pemLines, lines, Text.flatten_chunks (by decide)]
  exact strip_base64Encode der

/-- No dash between the two lines of markers. -/
theorem dash_not_mem_pemLines : '-' ∉ pemLines der := by
  intro member
  have space : Text.isWhitespace '-' = false := by decide
  have kept : '-' ∈ (pemLines der).filter fun char => !Text.isWhitespace char :=
    List.mem_filter.mpr ⟨member, by rw [space]; rfl⟩
  rw [filter_pemLines] at kept
  exact (plain_of_mem_encodeGroups kept).2.2 rfl

/-! ## Where the end marker can be -/

/-- What begins a joined text agrees with its first part as far as both reach. -/
theorem take_eq_take_of_starts {piece part : List Char} (starts : piece <+: part ++ text) :
    piece.take part.length = part.take piece.length := by
  rw [List.prefix_iff_eq_take.mp starts, List.take_take, Nat.min_comm, ← List.take_take,
    List.take_left, List.length_take, List.take_eq_take_iff]
  rw [List.length_append]
  have within := starts.length_le
  rw [List.length_append] at within
  omega

/-- Before the label there is no place for it. -/
theorem not_closing_opening (small : place < 11) :
    ¬ closing <+: (opening ++ text).drop place := by
  intro starts
  have apart : ∀ place < 11,
      closing.take (opening.drop place).length ≠ (opening.drop place).take closing.length := by
    decide +kernel
  rw [List.drop_append_of_le_length (le_of_lt small)] at starts
  exact apart place small (take_eq_take_of_starts starts)

/-- What is left of it after the end of the label is no dashes and a new line. -/
theorem not_closing_straddles (entered : 0 < place) (short : place < 9) :
    ¬ closing.drop place <+: dashes ++ '\n' :: text := by
  intro starts
  have apart : ∀ place < 9, 0 < place → (closing.drop place).take (dashes ++ ['\n']).length ≠
      (dashes ++ ['\n']).take (closing.drop place).length := by
    decide +kernel
  rw [List.append_cons] at starts
  exact apart place short entered (take_eq_take_of_starts starts)

/-- Nor does it begin in them. -/
theorem not_closing_dashes (small : place < 6) :
    ¬ closing <+: (dashes ++ '\n' :: text).drop place := by
  intro starts
  have apart : ∀ place < 6, closing.take ((dashes ++ ['\n']).drop place).length ≠
      ((dashes ++ ['\n']).drop place).take closing.length := by
    decide +kernel
  rw [List.append_cons, List.drop_append_of_le_length (le_of_lt small)] at starts
  exact apart place small (take_eq_take_of_starts starts)

theorem not_closing_lines {lines : List Char} (dashless : '-' ∉ lines)
    (inside : place < lines.length) : ¬ closing <+: (lines ++ text).drop place := by
  intro starts
  rw [List.drop_append_of_le_length inside.le] at starts
  cases remaining : lines.drop place with
  | nil =>
      rw [List.drop_eq_nil_iff] at remaining
      omega
  | cons char rest =>
      rw [remaining, List.cons_append] at starts
      obtain rfl : '-' = char := (List.cons_prefix_cons.mp starts).1
      exact dashless (List.mem_of_mem_drop (remaining ▸ List.mem_cons_self))

/-- An end marker in the encoding, earlier than the one at its end, stands in
the label. -/
theorem in_label_of_occursAt (occurs : OccursAt (endMarker label) (pemEncode der label).toList place)
    (early : place < 17 + label.toList.length + (pemLines der).length) :
    ∃ front back, label.toList = front ++ (closing ++ back) ∧ place = 11 + front.length ∧
      label.toList ++ dashes <+: back ++ pemTail der label := by
  have starts := occurs.2
  rw [pemEncode, String.toList_ofList, endMarker] at starts
  have start := (List.prefix_append closing (label.toList ++ dashes)).trans starts
  by_cases before : place < 11
  · exact absurd start (not_closing_opening before)
  obtain ⟨after, rfl⟩ := Nat.exists_eq_add_of_le (Nat.le_of_not_lt before)
  have width : opening.length = 11 := rfl
  rw [← List.drop_drop, ← width, List.drop_left] at starts start
  by_cases within : after < label.toList.length
  · rw [List.drop_append_of_le_length within.le] at starts start
    have split := List.take_append_drop after label.toList
    have length := List.length_drop (i := after) (l := label.toList)
    have front := List.length_take_of_le within.le
    generalize label.toList.drop after = rest at *
    by_cases long : 9 ≤ rest.length
    · obtain ⟨back, rfl⟩ := List.prefix_of_prefix_length_le start (List.prefix_append _ _) long
      refine ⟨label.toList.take after, back, split.symm, by rw [front], ?_⟩
      rw [List.append_assoc] at starts
      exact (List.prefix_append_right_inj closing).mp starts
    · -- The marker leaves the label, for the dashes after it.
      have short : rest.length ≤ closing.length := Nat.le_of_not_le fun le => long le
      obtain ⟨beyond, whole⟩ :=
        List.prefix_of_prefix_length_le (List.prefix_append rest _) start short
      have dropped : closing.drop rest.length = beyond := by rw [← whole, List.drop_left]
      rw [← whole, List.prefix_append_right_inj, ← dropped] at start
      exact absurd start (not_closing_straddles (by omega) (by omega))
  · obtain ⟨after, rfl⟩ := Nat.exists_eq_add_of_le (Nat.le_of_not_lt within)
    rw [← List.drop_drop, List.drop_left, pemTail] at start
    by_cases dashed : after < 6
    · exact absurd start (not_closing_dashes dashed)
    · obtain ⟨after, rfl⟩ := Nat.exists_eq_add_of_le (Nat.le_of_not_lt dashed)
      rw [← List.drop_drop, List.append_cons, show 6 = (dashes ++ ['\n']).length from rfl,
        List.drop_left] at start
      exact absurd start (not_closing_lines dash_not_mem_pemLines (by omega))

theorem occursAt_in_label {front back : List Char}
    (split : label.toList = front ++ (closing ++ back))
    (starts : label.toList ++ dashes <+: back ++ pemTail der label) :
    OccursAt (endMarker label) (pemEncode der label).toList (11 + front.length) := by
  have text : (pemEncode der label).toList =
      (opening ++ front) ++ (closing ++ (back ++ pemTail der label)) := by
    rw [pemEncode, String.toList_ofList]
    nth_rewrite 1 [split]
    simp only [List.append_assoc]
  have width : (opening ++ front).length = 11 + front.length := by
    rw [List.length_append]
    rfl
  rw [text, OccursAt, ← width, List.drop_left, endMarker]
  exact ⟨(List.prefix_append _ _).length_le, (List.prefix_append_right_inj closing).mpr starts⟩

theorem pemEncode_split : (pemEncode der label).toList =
    beginMarker label ++ ('\n' :: pemLines der ++ (endMarker label ++ ['\n'])) := by
  rw [pemEncode, String.toList_ofList, beginMarker, pemTail]
  simp only [List.append_assoc, List.cons_append]

theorem length_beginMarker : (beginMarker label).length = 16 + label.toList.length := by
  rw [beginMarker, List.length_append, List.length_append]
  change 11 + (_ + 5) = _
  omega

theorem occursAt_end : OccursAt (endMarker label) (pemEncode der label).toList
    (17 + label.toList.length + (pemLines der).length) := by
  have place : 17 + label.toList.length + (pemLines der).length =
      (beginMarker label ++ '\n' :: pemLines der).length := by
    rw [List.length_append, length_beginMarker, List.length_cons]
    omega
  rw [place, pemEncode_split, ← List.append_assoc]
  exact Text.occursAt_append

theorem find_begin : find (beginMarker label) (pemEncode der label).toList = some 0 := by
  rw [Text.find_eq_some_iff, Text.occursAt_zero, pemEncode_split]
  exact ⟨List.prefix_append _ _, fun earlier less => absurd less (Nat.not_lt_zero _)⟩

theorem find_end (apart : LabelApart der label) :
    find (endMarker label) (pemEncode der label).toList =
      some (17 + label.toList.length + (pemLines der).length) := by
  refine Text.find_eq_some_iff.mpr ⟨occursAt_end, fun earlier less occurs => ?_⟩
  obtain ⟨front, back, split, -, starts⟩ := in_label_of_occursAt occurs less
  exact apart front back split starts

/-! ## The round trip -/

theorem pemDecode_of_apart (apart : LabelApart der label) :
    pemDecode (pemEncode der label) label = .ok (some der) := by
  have inner : Usize.slice (pemEncode der label).toList (0 + (beginMarker label).length)
      (17 + label.toList.length + (pemLines der).length) = .ok ('\n' :: pemLines der) := by
    have start := @length_beginMarker label
    have reach := (@occursAt_end der label).1
    have width : 17 + label.toList.length + (pemLines der).length - (beginMarker label).length =
        ('\n' :: pemLines der).length := by
      rw [List.length_cons]
      omega
    rw [Usize.slice, if_neg (by omega), if_neg (by omega), Nat.zero_add, width, pemEncode_split,
      List.drop_left, List.take_left]
  have stripped : strip (dropNewlines (Text.trim (String.ofList ('\n' :: pemLines der)))) =
      encodeGroups der := by
    rw [strip_dropNewlines, strip_trim, strip, String.toList_ofList,
      List.filter_cons_of_neg (by decide), filter_pemLines]
  rw [pemDecode, find_begin, find_end apart]
  dsimp only
  rw [inner, ← base64Decode_of_strip stripped]
  rfl

/-- An end marker in the label is before the end of the begin marker. -/
theorem pemDecode_of_not_apart (held : ¬ LabelApart der label) :
    pemDecode (pemEncode der label) label = .error .sliceOrder := by
  rw [LabelApart] at held
  push Not at held
  obtain ⟨front, back, split, starts⟩ := held
  obtain ⟨stop, le, found⟩ := Text.find_of_occursAt (occursAt_in_label split starts)
  have length := congrArg List.length split
  rw [List.length_append, List.length_append] at length
  have start := @length_beginMarker label
  rw [pemDecode, find_begin, found]
  dsimp only
  rw [Usize.slice, if_pos (by omega)]
  rfl

/-- Base64 is a round trip, and PEM is one for the labels that hold no end
marker of their own encoding. -/
theorem pemRoundTrip_iff (der : List UInt8) (label : String) :
    base64Decode (base64Encode der) = some der ∧
      (pemDecode (pemEncode der label) label = .ok (some der) ↔ LabelApart der label) := by
  refine ⟨base64Decode_of_strip (strip_base64Encode der), ?_⟩
  by_cases apart : LabelApart der label
  · exact iff_of_true (pemDecode_of_apart apart) apart
  · rw [pemDecode_of_not_apart apart]
    exact iff_of_false nofun apart

/-- A label with an end marker of its own is cut out backwards. -/
theorem not_pemRoundTrip : pemDecode (pemEncode [] "-----\n-----END ") "-----\n-----END " ≠
    .ok (some []) := by
  decide +kernel

end Evergreen.Tls
