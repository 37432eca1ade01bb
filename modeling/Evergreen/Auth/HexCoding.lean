import Evergreen.Auth.Refusals

namespace Evergreen.Auth

/-! # Hexadecimal hashes

`hex_decode` cuts its text into pieces of two bytes, and the integer parser it
gives them to takes a plus sign before a single digit.  The hashes of API keys
and of passwords go through it as they are stored.
-/

def isHexDigit (char : Char) : Bool := (Text.hexValue char).isSome

/-- Pairs of digits, where a plus sign may stand for the first. -/
def SignedPairs : List Char → Prop
  | [] => True
  | [_] => False
  | first :: second :: rest =>
      (first = '+' ∨ isHexDigit first = true) ∧ isHexDigit second = true ∧ SignedPairs rest

/-- The first two bytes end inside a character. -/
def CutsChar : List Char → Prop
  | [] => False
  | [only] => 2 < only.utf8Size
  | first :: second :: _ => 2 < first.utf8Size ∨ first.utf8Size = 1 ∧ second.utf8Size ≠ 1

/-- No piece that is reached ends inside a character. -/
def Sliceable (text : String) : Prop :=
  text.utf8ByteSize % 2 = 0 →
    ∀ front back, text.toList = front ++ back → SignedPairs front → ¬ CutsChar back

/-- No plus sign in a text that is read to its end. -/
def SignFree (text : String) : Prop := SignedPairs text.toList → '+' ∉ text.toList

def lowerHex (text : String) : String := String.ofList (text.toList.map Char.toLower)

/-- The text is decoded as hexadecimal digits are. -/
structure ExactText (text : String) : Prop where
  returns : Text.hexDecodePanics text = false
  accepts : (Text.hexDecode text).isSome = true ↔
    text.utf8ByteSize % 2 = 0 ∧ ∀ char ∈ text.toList, isHexDigit char = true
  encodes : ∀ data, Text.hexDecode text = some data → Text.hexEncode data = lowerHex text

/-- `none` is a panic.  The salt is decoded first. -/
def verifyPassword (crates : Crates) (password stored : String) : Option Bool :=
  match Text.splitOnce ':' stored with
  | none => some false
  | some (salt, hash) =>
      if Text.hexDecodePanics salt then none
      else
        match Text.hexDecode salt with
        | none => some false
        | some salt =>
            if Text.hexDecodePanics hash then none
            else
              match Text.hexDecode hash with
              | none => some false
              | some expected =>
                  match crates.newFromSlice salt with
                  | none => some false
                  | some mac => some (decide (mac (utf8 password) = expected))

/-! ## Digits -/

variable {first second char : Char} {chars : List Char} {text : String}

theorem isHexDigit_plus : isHexDigit '+' = false := by decide

theorem toNat_lt_of_isHexDigit (digit : isHexDigit char = true) : char.toNat < 128 := by
  simp only [isHexDigit, Text.hexValue] at digit
  split_ifs at digit with decimal lower upper
  · exact @Text.toNat_lt_of_le char '9' (by decide) decimal.2
  · exact @Text.toNat_lt_of_le char 'f' (by decide) lower.2
  · exact @Text.toNat_lt_of_le char 'F' (by decide) upper.2
  · cases digit

theorem utf8Size_of_isHexDigit (digit : isHexDigit char = true) : char.utf8Size = 1 := by
  have small := toNat_lt_of_isHexDigit digit
  rw [Char.utf8Size, if_pos]
  exact UInt32.le_iff_toNat_le.mpr (by simpa using Nat.le_of_lt_succ small)

/-- A digit is written in lower case again. -/
theorem hexDigit_of_hexValue {value : Nat} (read : Text.hexValue char = some value) :
    value < 16 ∧ Text.hexDigit value = char.toLower := by
  have small := toNat_lt_of_isHexDigit (by rw [isHexDigit, read]; rfl : isHexDigit char = true)
  have written := @Text.forall_ascii (fun char => (Text.hexValue char).all (fun value =>
    decide (value < 16 ∧ Text.hexDigit value = char.toLower)) = true) (by decide +kernel) char small
  rw [read] at written
  exact of_decide_eq_true written

theorem isSome_hexByte : (Text.hexByte first second).isSome = true ↔
    (first = '+' ∨ isHexDigit first = true) ∧ isHexDigit second = true := by
  rw [Text.hexByte]
  split_ifs with plus
  · simp [plus, isHexDigit]
  · simp only [plus, false_or, isHexDigit]
    cases Text.hexValue first with
    | none => simp
    | some high => simp

theorem isSome_hexPairs : (Text.hexPairs chars).isSome = true ↔ SignedPairs chars := by
  induction chars using SignedPairs.induct with
  | case1 => simp [Text.hexPairs, SignedPairs]
  | case2 only => simp [Text.hexPairs, SignedPairs]
  | case3 first second rest ih =>
      rw [SignedPairs, ← ih, ← and_assoc, ← isSome_hexByte, Text.hexPairs]
      cases Text.hexByte first second with
      | none => simp
      | some byte => simp

/-! ## Slices -/

theorem utf8Size_of_signed (signed : first = '+' ∨ isHexDigit first = true) :
    first.utf8Size = 1 := by
  rcases signed with rfl | digit
  · rfl
  · exact utf8Size_of_isHexDigit digit

/-- A piece that cuts a character is the first one, or comes after a pair. -/
theorem exists_cut_cons_iff {rest : List Char} :
    (∃ front back, first :: second :: rest = front ++ back ∧ SignedPairs front ∧ CutsChar back) ↔
      CutsChar (first :: second :: rest) ∨
        ((first = '+' ∨ isHexDigit first = true) ∧ isHexDigit second = true) ∧
          ∃ front back, rest = front ++ back ∧ SignedPairs front ∧ CutsChar back := by
  constructor
  · rintro ⟨front, back, whole, pairs, cuts⟩
    match front with
    | [] => exact .inl (by rwa [whole])
    | [_] => exact pairs.elim
    | one :: two :: front =>
        obtain ⟨rfl, rfl, rfl⟩ : first = one ∧ second = two ∧ rest = front ++ back := by
          simpa using whole
        exact .inr ⟨⟨pairs.1, pairs.2.1⟩, front, back, rfl, pairs.2.2, cuts⟩
  · rintro (cuts | ⟨⟨one, two⟩, front, back, rfl, pairs, cuts⟩)
    · exact ⟨[], _, rfl, trivial, cuts⟩
    · exact ⟨first :: second :: front, back, rfl, ⟨one, two, pairs⟩, cuts⟩

theorem slicesCutChar_iff : Text.slicesCutChar chars = true ↔
    ∃ front back, chars = front ++ back ∧ SignedPairs front ∧ CutsChar back := by
  induction chars using SignedPairs.induct with
  | case1 =>
      refine iff_of_false (by simp [Text.slicesCutChar]) ?_
      rintro ⟨front, back, whole, -, cuts⟩
      rw [(List.append_eq_nil_iff.mp whole.symm).2] at cuts
      exact cuts
  | case2 only =>
      rw [Text.slicesCutChar, decide_eq_true_iff]
      constructor
      · exact fun wide => ⟨[], [only], rfl, trivial, wide⟩
      · rintro ⟨front, back, whole, pairs, cuts⟩
        rcases List.append_eq_singleton_iff.mp whole.symm with ⟨rfl, rfl⟩ | ⟨rfl, rfl⟩
        · exact cuts
        · exact cuts.elim
  | case3 first second rest ih =>
      rw [exists_cut_cons_iff, ← ih, ← isSome_hexByte, CutsChar, Text.slicesCutChar]
      split_ifs with one two
      · simp [one, two]
      · simp only [true_iff]
        exact .inl (.inr ⟨one, two⟩)
      · simp only [decide_eq_true_eq]
        constructor
        · exact fun wide => .inl (.inl wide)
        · rintro ((wide | narrow) | ⟨read, -⟩)
          · exact wide
          · exact absurd narrow.1 one
          · exact absurd (utf8Size_of_signed (isSome_hexByte.mp read).1) one

/-! ## Texts without a sign -/

theorem SignedPairs.narrow (pairs : SignedPairs chars) : ∀ char ∈ chars, char.utf8Size = 1 := by
  induction chars using SignedPairs.induct with
  | case1 => exact nofun
  | case2 only => exact pairs.elim
  | case3 first second rest ih =>
      obtain ⟨signed, digit, pairs⟩ := pairs
      exact List.forall_mem_cons.mpr ⟨utf8Size_of_signed signed, List.forall_mem_cons.mpr
        ⟨utf8Size_of_isHexDigit digit, ih pairs⟩⟩

theorem SignedPairs.even (pairs : SignedPairs chars) : chars.length % 2 = 0 := by
  induction chars using SignedPairs.induct with
  | case1 => rfl
  | case2 only => exact pairs.elim
  | case3 first second rest ih =>
      have even := ih pairs.2.2
      rw [List.length_cons, List.length_cons]
      omega

theorem signedPairs_iff_of_not_mem (unsigned : '+' ∉ chars) :
    SignedPairs chars ↔ chars.length % 2 = 0 ∧ ∀ char ∈ chars, isHexDigit char = true := by
  induction chars using SignedPairs.induct with
  | case1 => simp [SignedPairs]
  | case2 only => simp [SignedPairs]
  | case3 first second rest ih =>
      have plus : first ≠ '+' := fun same => unsigned (same ▸ List.mem_cons_self)
      have rest := ih fun member =>
        unsigned (List.mem_cons_of_mem _ (List.mem_cons_of_mem _ member))
      rw [SignedPairs, rest, List.forall_mem_cons, List.forall_mem_cons, List.length_cons,
        List.length_cons, Nat.add_assoc, Nat.add_mod_right]
      simp only [plus, false_or]
      exact ⟨fun ⟨one, two, even, all⟩ => ⟨even, one, two, all⟩,
        fun ⟨even, one, two, all⟩ => ⟨one, two, even, all⟩⟩

theorem flatMap_hexDigit {data : List UInt8} (unsigned : '+' ∉ chars)
    (read : Text.hexPairs chars = some data) :
    (data.flatMap fun byte => [Text.hexDigit (byte.toNat / 16), Text.hexDigit (byte.toNat % 16)]) =
      chars.map Char.toLower := by
  induction chars using SignedPairs.induct generalizing data with
  | case1 =>
      cases read
      rfl
  | case2 only => cases read
  | case3 first second rest ih =>
      have plus : first ≠ '+' := fun same => unsigned (same ▸ List.mem_cons_self)
      rw [Text.hexPairs] at read
      obtain ⟨byte, paired, remaining⟩ := Option.bind_eq_some_iff.mp read
      obtain ⟨later, others, rfl⟩ := Option.map_eq_some_iff.mp remaining
      rw [Text.hexByte, if_neg plus] at paired
      obtain ⟨high, first, paired⟩ := Option.bind_eq_some_iff.mp paired
      obtain ⟨low, second, rfl⟩ := Option.map_eq_some_iff.mp paired
      obtain ⟨highSmall, highText⟩ := hexDigit_of_hexValue first
      obtain ⟨lowSmall, lowText⟩ := hexDigit_of_hexValue second
      have whole : (UInt8.ofNat (high * 16 + low)).toNat = high * 16 + low :=
        UInt8.toNat_ofNat_of_lt (show high * 16 + low < 256 by omega)
      have quotient : (high * 16 + low) / 16 = high := by omega
      have remainder : (high * 16 + low) % 16 = low := by omega
      rw [List.flatMap_cons, whole, quotient, remainder, highText, lowText,
        ih (fun member => unsigned (List.mem_cons_of_mem _ (List.mem_cons_of_mem _ member))) others]
      rfl

/-! ## The coding -/

theorem isSome_hexDecode : (Text.hexDecode text).isSome = true ↔ SignedPairs text.toList :=
  isSome_hexPairs

theorem even_of_signedPairs (pairs : SignedPairs text.toList) : text.utf8ByteSize % 2 = 0 := by
  have size := Text.utf8ByteSize_of_narrow pairs.narrow
  rw [String.ofList_toList] at size
  rw [size]
  exact pairs.even

theorem hexDecodePanics_iff : Text.hexDecodePanics text = false ↔ Sliceable text := by
  rw [Text.hexDecodePanics, Bool.and_eq_false_iff, beq_eq_false_iff_ne, Sliceable]
  by_cases even : text.utf8ByteSize % 2 = 0
  · simp only [even, ne_eq, not_true_eq_false, false_or, true_implies]
    rw [← Bool.not_eq_true, slicesCutChar_iff]
    simp only [not_exists, not_and]
  · simp [even]

theorem accepts_iff (signFree : SignFree text) : SignedPairs text.toList ↔
    text.utf8ByteSize % 2 = 0 ∧ ∀ char ∈ text.toList, isHexDigit char = true := by
  constructor
  · intro pairs
    exact ⟨even_of_signedPairs pairs, ((signedPairs_iff_of_not_mem (signFree pairs)).mp pairs).2⟩
  · rintro ⟨even, digits⟩
    have unsigned : '+' ∉ text.toList := fun member => by
      have digit := digits '+' member
      rw [isHexDigit_plus] at digit
      cases digit
    have size := Text.utf8ByteSize_of_narrow fun char member => utf8Size_of_isHexDigit (digits char member)
    rw [String.ofList_toList] at size
    exact (signedPairs_iff_of_not_mem unsigned).mpr ⟨size ▸ even, digits⟩

theorem exactText_iff : ExactText text ↔ Sliceable text ∧ SignFree text := by
  constructor
  · intro exact
    refine ⟨hexDecodePanics_iff.mp exact.returns, fun pairs member => ?_⟩
    have digit := (exact.accepts.mp (isSome_hexDecode.mpr pairs)).2 '+' member
    rw [isHexDigit_plus] at digit
    cases digit
  · rintro ⟨sliceable, signFree⟩
    refine ⟨hexDecodePanics_iff.mpr sliceable, isSome_hexDecode.trans (accepts_iff signFree), ?_⟩
    intro data decoded
    have pairs := isSome_hexDecode.mp (Option.isSome_iff_exists.mpr ⟨data, decoded⟩)
    rw [Text.hexEncode, flatMap_hexDigit (signFree pairs) decoded, lowerHex]

/-- What is encoded decodes, and is exact. -/
theorem exactText_hexEncode (data : List UInt8) : ExactText (Text.hexEncode data) := by
  have pairs : SignedPairs (Text.hexEncode data).toList := by
    rw [← isSome_hexDecode, Text.hexDecode_hexEncode]
    rfl
  have every : ∀ value < 16, Text.hexDigit value ≠ '+' := by decide
  refine exactText_iff.mpr ⟨fun _ front back whole _ cuts => ?_, fun _ member => ?_⟩
  · have narrow : ∀ char ∈ back, char.utf8Size = 1 := fun char member =>
      pairs.narrow char (whole ▸ List.mem_append_right _ member)
    match back with
    | [] => exact cuts
    | [only] =>
        have one := narrow only List.mem_cons_self
        exact absurd cuts (by rw [CutsChar, one]; decide)
    | first :: second :: _ =>
        have one := narrow first List.mem_cons_self
        have two := narrow second (List.mem_cons_of_mem _ List.mem_cons_self)
        exact absurd cuts (by rw [CutsChar, one, two]; decide)
  · rw [Text.hexEncode, String.toList_ofList] at member
    obtain ⟨byte, -, member⟩ := List.mem_flatMap.mp member
    have small := byte.toNat_lt
    rcases List.mem_cons.mp member with same | member
    · exact every _ (by omega) same.symm
    · exact every _ (by omega) (List.mem_singleton.mp member).symm

/-! ## The hashes -/

variable {crates : Crates} {shim : KeyedShim} {keyId providedKey password stored : String}

theorem validateApiKey_returns_iff :
    (shim.validateApiKey crates keyId providedKey).isSome = true ↔
      ∀ key, shim.apiKeys keyId = some key → key.revoked = false → Sliceable key.keyHash := by
  simp only [← hexDecodePanics_iff, KeyedShim.validateApiKey]
  cases shim.apiKeys keyId with
  | none => simp
  | some key =>
      simp only [Option.some.injEq, forall_eq']
      cases key.revoked with
      | true => simp
      | false =>
          cases Text.hexDecodePanics key.keyHash with
          | true => simp
          | false =>
              simp only [Bool.false_eq_true, if_false, true_implies, iff_true]
              split
              · rfl
              · split
                · rfl
                · split <;> rfl

theorem verifyPassword_returns_iff : (verifyPassword crates password stored).isSome = true ↔
    ∀ salt hash, Text.splitOnce ':' stored = some (salt, hash) →
      Sliceable salt ∧ (SignedPairs salt.toList → Sliceable hash) := by
  cases parts : Text.splitOnce ':' stored with
  | none => simp [verifyPassword, parts]
  | some pair =>
      obtain ⟨salt, hash⟩ := pair
      have one : (∀ first second, some (salt, hash) = some (first, second) →
          Sliceable first ∧ (SignedPairs first.toList → Sliceable second)) ↔
            Sliceable salt ∧ (SignedPairs salt.toList → Sliceable hash) := by
        refine ⟨fun all => all salt hash rfl, ?_⟩
        rintro holds _ _ ⟨⟩
        exact holds
      rw [one, ← hexDecodePanics_iff, ← hexDecodePanics_iff, ← isSome_hexDecode, verifyPassword, parts]
      dsimp only
      cases Text.hexDecodePanics salt with
      | true => simp
      | false =>
          cases Text.hexDecode salt with
          | none => simp
          | some salt =>
              cases Text.hexDecodePanics hash with
              | true => simp
              | false =>
                  simp only [Bool.false_eq_true, if_false, implies_true, and_self, iff_true]
                  split
                  · rfl
                  · split <;> rfl

/-- Decoding is exact on texts that are cut between characters and read to their
end without a plus sign, and the validators return on hashes that are cut so. -/
theorem hexCoding_iff (crates : Crates) :
    (∀ data, Text.hexDecode (Text.hexEncode data) = some data ∧
      ExactText (Text.hexEncode data)) ∧
    (∀ text, ExactText text ↔ Sliceable text ∧ SignFree text) ∧
    (∀ shim keyId providedKey,
      (KeyedShim.validateApiKey crates shim keyId providedKey).isSome = true ↔
        ∀ key, shim.apiKeys keyId = some key → key.revoked = false → Sliceable key.keyHash) ∧
    ∀ password stored, (verifyPassword crates password stored).isSome = true ↔
      ∀ salt hash, Text.splitOnce ':' stored = some (salt, hash) →
        Sliceable salt ∧ (SignedPairs salt.toList → Sliceable hash) :=
  ⟨fun data => ⟨Text.hexDecode_hexEncode data, exactText_hexEncode data⟩,
    fun _ => exactText_iff, fun _ _ _ => validateApiKey_returns_iff,
    fun _ _ => verifyPassword_returns_iff⟩

/-- A sign is read as part of a byte, and a character of two bytes is cut. -/
theorem not_exactText : ¬ ExactText "+5" ∧ ¬ ExactText "0é0" := by
  refine ⟨fun exact => ?_, fun exact => ?_⟩
  · have digits := (exact.accepts.mp (by decide)).2 '+' (by decide)
    cases digits
  · have returns := exact.returns
    revert returns
    decide

end Evergreen.Auth
