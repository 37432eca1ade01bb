import Evergreen.Text.Hex
import Evergreen.Text.Parse

namespace Evergreen.Tls

/-! # Base64

Three bytes are four characters.  The decoder takes each group by itself: a
padding character may stand for either of the last two characters of any group.
-/

def base64Chars : String := "ABCDEFGHIJKLMNOPQRSTUVWXYZabcdefghijklmnopqrstuvwxyz0123456789+/"

def base64Char (value : Nat) : Char := base64Chars.toList.getD value '='

def base64CharToVal (char : Char) : Option Nat :=
  if 'A' ≤ char ∧ char ≤ 'Z' then some (char.toNat - 'A'.toNat)
  else if 'a' ≤ char ∧ char ≤ 'z' then some (char.toNat - 'a'.toNat + 26)
  else if '0' ≤ char ∧ char ≤ '9' then some (char.toNat - '0'.toNat + 52)
  else if char = '+' then some 62
  else if char = '/' then some 63
  else none

/-- Six bits of a group of three bytes. -/
def sextet (triple shift : Nat) : Char := base64Char (triple / 2 ^ shift % 64)

/-- Three bytes side by side. -/
def joinBytes (b0 b1 b2 : UInt8) : Nat := b0.toNat * 2 ^ 16 + b1.toNat * 2 ^ 8 + b2.toNat

def encodeGroups : List UInt8 → List Char
  | [] => []
  | [b0] => [sextet (joinBytes b0 0 0) 18, sextet (joinBytes b0 0 0) 12, '=', '=']
  | [b0, b1] => [sextet (joinBytes b0 b1 0) 18, sextet (joinBytes b0 b1 0) 12,
      sextet (joinBytes b0 b1 0) 6, '=']
  | b0 :: b1 :: b2 :: rest =>
      let triple := joinBytes b0 b1 b2
      sextet triple 18 :: sextet triple 12 :: sextet triple 6 :: sextet triple 0 :: encodeGroups rest

def base64Encode (data : List UInt8) : String := String.ofList (encodeGroups data)

/-- A padding character counts as zero. -/
def paddedVal (char : Char) : Option Nat := if char = '=' then some 0 else base64CharToVal char

def byteAt (triple shift : Nat) : UInt8 := UInt8.ofNat (triple / 2 ^ shift % 256)

/-- The bytes of one group. -/
def decodeGroup (c0 c1 c2 c3 : Char) : Option (List UInt8) :=
  (base64CharToVal c0).bind fun v0 => (base64CharToVal c1).bind fun v1 =>
    (paddedVal c2).bind fun v2 => (paddedVal c3).map fun v3 =>
      let triple := v0 * 2 ^ 18 + v1 * 2 ^ 12 + v2 * 2 ^ 6 + v3
      byteAt triple 16 :: ((if c2 = '=' then [] else [byteAt triple 8]) ++
        if c3 = '=' then [] else [byteAt triple 0])

def decodeGroups : List Char → Option (List UInt8)
  | [] => some []
  | c0 :: c1 :: c2 :: c3 :: rest =>
      (decodeGroup c0 c1 c2 c3).bind fun bytes => (decodeGroups rest).map (bytes ++ ·)
  | _ => none

def strip (text : String) : List Char := text.toList.filter fun char => !Text.isWhitespace char

/-- The source takes groups of bytes; none of a wider character is in the
alphabet, so characters come to the same. -/
def base64Decode (input : String) : Option (List UInt8) :=
  let input := strip input
  if (String.ofList input).utf8ByteSize % 4 = 0 then decodeGroups input else none

/-! ## The alphabet -/

variable {char : Char} {chars : List Char} {value : Nat}

theorem val_base64Char (small : value < 64) : base64CharToVal (base64Char value) = some value := by
  have every : ∀ value < 64, base64CharToVal (base64Char value) = some value := by decide +kernel
  exact every value small

def InAlphabet (char : Char) : Prop := (base64CharToVal char).isSome = true

instance (char : Char) : Decidable (InAlphabet char) := inferInstanceAs (Decidable (_ = true))

theorem inAlphabet_sextet (triple shift : Nat) : InAlphabet (sextet triple shift) := by
  rw [InAlphabet, sextet, val_base64Char (Nat.mod_lt _ (by decide))]
  rfl

theorem not_inAlphabet_pad : ¬ InAlphabet '=' := by decide

theorem InAlphabet.ascii (member : InAlphabet char) : char.toNat < 128 := by
  simp only [InAlphabet, base64CharToVal] at member
  split_ifs at member with upper lower digit plus slash
  · exact @Text.toNat_lt_of_le char 'Z' (by decide) upper.2
  · exact @Text.toNat_lt_of_le char 'z' (by decide) lower.2
  · exact @Text.toNat_lt_of_le char '9' (by decide) digit.2
  · subst plus
    decide
  · subst slash
    decide
  · cases member

/-- What the characters of an encoded text are not. -/
theorem InAlphabet.plain (member : InAlphabet char) :
    char.utf8Size = 1 ∧ Text.isWhitespace char = false ∧ char ≠ '-' := by
  have every := @Text.forall_ascii (fun char => InAlphabet char →
    char.utf8Size = 1 ∧ Text.isWhitespace char = false ∧ char ≠ '-') (by decide +kernel)
  exact every char member.ascii member

/-! ## The round trip -/

theorem paddedVal_of_inAlphabet (member : InAlphabet char) :
    paddedVal char = base64CharToVal char ∧ char ≠ '=' := by
  have other : char ≠ '=' := fun same => not_inAlphabet_pad (same ▸ member)
  exact ⟨if_neg other, other⟩

theorem val_sextet (triple shift : Nat) :
    base64CharToVal (sextet triple shift) = some (triple / 2 ^ shift % 64) :=
  val_base64Char (Nat.mod_lt _ (by decide))

/-- The six-bit groups of three bytes, put together again. -/
theorem joinSextets (b0 b1 b2 : UInt8) :
    let triple := joinBytes b0 b1 b2
    triple / 2 ^ 18 % 64 * 2 ^ 18 + triple / 2 ^ 12 % 64 * 2 ^ 12 + triple / 2 ^ 6 % 64 * 2 ^ 6 +
      triple / 2 ^ 0 % 64 = triple := by
  intro triple
  have bound : triple < 2 ^ 24 := by
    have first := b0.toNat_lt
    have second := b1.toNat_lt
    have third := b2.toNat_lt
    simp only [triple, joinBytes]
    omega
  omega

theorem byteAt_joinBytes (b0 b1 b2 : UInt8) : byteAt (joinBytes b0 b1 b2) 16 = b0 ∧
    byteAt (joinBytes b0 b1 b2) 8 = b1 ∧ byteAt (joinBytes b0 b1 b2) 0 = b2 := by
  have first := b0.toNat_lt
  have second := b1.toNat_lt
  have third := b2.toNat_lt
  have byte : ∀ (value : Nat) (byte : UInt8), value % 256 = byte.toNat →
      UInt8.ofNat (value % 256) = byte := fun value byte same => by rw [same, UInt8.ofNat_toNat]
  simp only [byteAt, joinBytes]
  refine ⟨byte _ _ ?_, byte _ _ ?_, byte _ _ ?_⟩
  · omega
  · omega
  · omega

theorem sextet_ne_pad (triple shift : Nat) : sextet triple shift ≠ '=' :=
  (paddedVal_of_inAlphabet (inAlphabet_sextet triple shift)).2

theorem paddedVal_sextet (triple shift : Nat) :
    paddedVal (sextet triple shift) = some (triple / 2 ^ shift % 64) := by
  rw [paddedVal, if_neg (sextet_ne_pad triple shift), val_sextet]

theorem decodeGroup_three (b0 b1 b2 : UInt8) :
    let triple := joinBytes b0 b1 b2
    decodeGroup (sextet triple 18) (sextet triple 12) (sextet triple 6) (sextet triple 0) =
      some [b0, b1, b2] := by
  intro triple
  obtain ⟨first, second, third⟩ := byteAt_joinBytes b0 b1 b2
  simp only [decodeGroup, val_sextet, paddedVal_sextet, Option.bind_some, Option.map_some,
    sextet_ne_pad, if_false]
  rw [joinSextets b0 b1 b2, first, second, third]
  rfl

theorem decodeGroup_two (b0 b1 : UInt8) :
    let triple := joinBytes b0 b1 0
    decodeGroup (sextet triple 18) (sextet triple 12) (sextet triple 6) '=' = some [b0, b1] := by
  intro triple
  obtain ⟨first, second, -⟩ := byteAt_joinBytes b0 b1 0
  have low : triple / 2 ^ 0 % 64 = 0 := by
    have none : (0 : UInt8).toNat = 0 := rfl
    simp only [triple, joinBytes, none]
    omega
  have padded : paddedVal '=' = some (triple / 2 ^ 0 % 64) := by rw [low]; rfl
  simp only [decodeGroup, val_sextet, paddedVal_sextet, padded, Option.bind_some,
    Option.map_some, sextet_ne_pad, if_false, if_true]
  rw [joinSextets b0 b1 0, first, second]
  rfl

theorem decodeGroup_one (b0 : UInt8) :
    let triple := joinBytes b0 0 0
    decodeGroup (sextet triple 18) (sextet triple 12) '=' '=' = some [b0] := by
  intro triple
  obtain ⟨first, -, -⟩ := byteAt_joinBytes b0 0 0
  have none : (0 : UInt8).toNat = 0 := rfl
  have middle : triple / 2 ^ 6 % 64 = 0 := by
    simp only [triple, joinBytes, none]
    omega
  have low : triple / 2 ^ 0 % 64 = 0 := by
    simp only [triple, joinBytes, none]
    omega
  have whole : triple / 2 ^ 18 % 64 * 2 ^ 18 + triple / 2 ^ 12 % 64 * 2 ^ 12 + 0 * 2 ^ 6 + 0 =
      triple := by
    have sextets := joinSextets b0 0 0
    change _ + triple / 2 ^ 6 % 64 * 2 ^ 6 + triple / 2 ^ 0 % 64 = triple at sextets
    rwa [middle, low] at sextets
  have padded : paddedVal '=' = some 0 := rfl
  simp only [decodeGroup, val_sextet, padded, Option.bind_some, Option.map_some, if_true]
  rw [whole, first]
  rfl

theorem decodeGroups_encodeGroups (data : List UInt8) :
    decodeGroups (encodeGroups data) = some data := by
  induction data using encodeGroups.induct with
  | case1 => rfl
  | case2 b0 =>
      rw [encodeGroups, decodeGroups, decodeGroup_one]
      rfl
  | case3 b0 b1 =>
      rw [encodeGroups, decodeGroups, decodeGroup_two]
      rfl
  | case4 b0 b1 b2 rest ih =>
      rw [encodeGroups, decodeGroups, decodeGroup_three, ih]
      rfl

/-- The characters of an encoded text. -/
theorem mem_encodeGroups {data : List UInt8} (member : char ∈ encodeGroups data) :
    InAlphabet char ∨ char = '=' := by
  induction data using encodeGroups.induct with
  | case1 => cases member
  | case2 b0 =>
      simp only [encodeGroups, List.mem_cons, List.not_mem_nil, or_false] at member
      rcases member with rfl | rfl | rfl | rfl
      · exact .inl (inAlphabet_sextet _ _)
      · exact .inl (inAlphabet_sextet _ _)
      · exact .inr rfl
      · exact .inr rfl
  | case3 b0 b1 =>
      simp only [encodeGroups, List.mem_cons, List.not_mem_nil, or_false] at member
      rcases member with rfl | rfl | rfl | rfl
      · exact .inl (inAlphabet_sextet _ _)
      · exact .inl (inAlphabet_sextet _ _)
      · exact .inl (inAlphabet_sextet _ _)
      · exact .inr rfl
  | case4 b0 b1 b2 rest ih =>
      simp only [encodeGroups, List.mem_cons] at member
      rcases member with rfl | rfl | rfl | rfl | member
      · exact .inl (inAlphabet_sextet _ _)
      · exact .inl (inAlphabet_sextet _ _)
      · exact .inl (inAlphabet_sextet _ _)
      · exact .inl (inAlphabet_sextet _ _)
      · exact ih member

theorem plain_of_mem_encodeGroups {data : List UInt8} (member : char ∈ encodeGroups data) :
    char.utf8Size = 1 ∧ Text.isWhitespace char = false ∧ char ≠ '-' := by
  rcases mem_encodeGroups member with inAlphabet | rfl
  · exact inAlphabet.plain
  · decide

theorem strip_base64Encode (data : List UInt8) : strip (base64Encode data) = encodeGroups data := by
  rw [strip, base64Encode, String.toList_ofList]
  refine List.filter_eq_self.mpr fun char member => ?_
  rw [(plain_of_mem_encodeGroups member).2.1]
  rfl

/-! ## What is accepted -/

/-- Groups with two characters of the alphabet and two that may be padding. -/
def LooseGroups : List Char → Prop
  | [] => True
  | c0 :: c1 :: c2 :: c3 :: rest => InAlphabet c0 ∧ InAlphabet c1 ∧ (c2 = '=' ∨ InAlphabet c2) ∧
      (c3 = '=' ∨ InAlphabet c3) ∧ LooseGroups rest
  | _ => False

/-- Whole groups over the alphabet, with at most two padding characters at the end
of the last. -/
def WellPadded (chars : List Char) : Prop :=
  chars.length % 4 = 0 ∧ ∃ body padding, chars = body ++ padding ∧
    (∀ char ∈ body, InAlphabet char) ∧ (padding = [] ∨ padding = ['='] ∨ padding = ['=', '='])

/-- Nothing but padding follows padding. -/
def PadsLast (chars : List Char) : Prop :=
  ∀ front char back, chars = front ++ '=' :: char :: back → char = '='

theorem isSome_paddedVal : (paddedVal char).isSome = true ↔ char = '=' ∨ InAlphabet char := by
  rw [paddedVal]
  split_ifs with pad
  · simp [pad]
  · simp [pad, InAlphabet]

theorem isSome_decodeGroup {c0 c1 c2 c3 : Char} : (decodeGroup c0 c1 c2 c3).isSome = true ↔
    InAlphabet c0 ∧ InAlphabet c1 ∧ (c2 = '=' ∨ InAlphabet c2) ∧ (c3 = '=' ∨ InAlphabet c3) := by
  rw [decodeGroup, ← isSome_paddedVal, ← isSome_paddedVal, InAlphabet, InAlphabet]
  cases base64CharToVal c0 with
  | none => simp
  | some v0 =>
      cases base64CharToVal c1 with
      | none => simp
      | some v1 =>
          cases paddedVal c2 with
          | none => simp
          | some v2 => simp

theorem isSome_decodeGroups : (decodeGroups chars).isSome = true ↔ LooseGroups chars := by
  induction chars using LooseGroups.induct with
  | case1 => simp [decodeGroups, LooseGroups]
  | case2 c0 c1 c2 c3 rest ih =>
      have group := @isSome_decodeGroup c0 c1 c2 c3
      rw [LooseGroups, ← ih, decodeGroups]
      cases decoded : decodeGroup c0 c1 c2 c3 with
      | none =>
          rw [decoded] at group
          simp only [Option.isSome_none, Bool.false_eq_true, false_iff] at group
          simp only [Option.bind_none, Option.isSome_none, Bool.false_eq_true, false_iff]
          exact fun all => group ⟨all.1, all.2.1, all.2.2.1, all.2.2.2.1⟩
      | some bytes =>
          rw [decoded] at group
          obtain ⟨first, second, third, fourth⟩ := group.mp rfl
          simp [first, second, third, fourth]
  | case3 chars nonempty short =>
      rw [LooseGroups, decodeGroups]
      · simp
      · exact nonempty
      · exact short
      · exact nonempty
      · exact short

theorem LooseGroups.narrow (loose : LooseGroups chars) :
    chars.length % 4 = 0 ∧ ∀ char ∈ chars, char.utf8Size = 1 := by
  have pad : ∀ {char : Char}, char = '=' ∨ InAlphabet char → char.utf8Size = 1 := by
    rintro char (rfl | member)
    · rfl
    · exact member.plain.1
  induction chars using LooseGroups.induct with
  | case1 => exact ⟨rfl, nofun⟩
  | case2 c0 c1 c2 c3 rest ih =>
      obtain ⟨first, second, third, fourth, loose⟩ := loose
      obtain ⟨whole, narrow⟩ := ih loose
      refine ⟨?_, ?_⟩
      · simp only [List.length_cons]
        omega
      · simp only [List.forall_mem_cons]
        exact ⟨first.plain.1, second.plain.1, pad third, pad fourth, narrow⟩
  | case3 chars nonempty short =>
      rw [LooseGroups] at loose
      · exact loose.elim
      · exact nonempty
      · exact short

theorem isSome_base64Decode (text : String) :
    (base64Decode text).isSome = true ↔ LooseGroups (strip text) := by
  simp only [base64Decode]
  constructor
  · intro accepted
    split_ifs at accepted
    · exact isSome_decodeGroups.mp accepted
    · cases accepted
  · intro loose
    obtain ⟨whole, narrow⟩ := loose.narrow
    rw [if_pos (by rw [Text.utf8ByteSize_of_narrow narrow, whole])]
    exact isSome_decodeGroups.mpr loose

theorem base64Decode_of_strip {text : String} {data : List UInt8}
    (stripped : strip text = encodeGroups data) : base64Decode text = some data := by
  have decoded := decodeGroups_encodeGroups data
  have loose : LooseGroups (encodeGroups data) := isSome_decodeGroups.mp (by rw [decoded]; rfl)
  obtain ⟨whole, narrow⟩ := loose.narrow
  simp only [base64Decode]
  rw [stripped, if_pos (by rw [Text.utf8ByteSize_of_narrow narrow, whole]), decoded]

theorem PadsLast.tail {c0 : Char} {rest : List Char} (last : PadsLast (c0 :: rest)) :
    PadsLast rest := fun front char back whole =>
  last (c0 :: front) char back (by rw [whole, List.cons_append])

theorem PadsLast.next {char : Char} {rest : List Char} (last : PadsLast ('=' :: char :: rest)) :
    char = '=' := last [] char rest rfl

/-- A group that ends in padding is the last one. -/
theorem eq_nil_of_padsLast {rest : List Char} (loose : LooseGroups rest)
    (last : PadsLast ('=' :: rest)) : rest = [] := by
  cases rest with
  | nil => rfl
  | cons first rest =>
      obtain rfl := last.next
      match rest with
      | [] => exact loose.elim
      | [_] => exact loose.elim
      | [_, _] => exact loose.elim
      | _ :: _ :: _ :: _ => exact absurd loose.1 not_inAlphabet_pad

theorem wellPadded_of_loose (loose : LooseGroups chars) (last : PadsLast chars) :
    WellPadded chars := by
  refine ⟨loose.narrow.1, ?_⟩
  induction chars using LooseGroups.induct with
  | case1 => exact ⟨[], [], rfl, nofun, .inl rfl⟩
  | case2 c0 c1 c2 c3 rest ih =>
      obtain ⟨first, second, third, fourth, loose⟩ := loose
      rcases fourth with rfl | fourth
      · obtain rfl := eq_nil_of_padsLast loose last.tail.tail.tail
        rcases third with rfl | third
        · refine ⟨[c0, c1], ['=', '='], rfl, ?_, .inr (.inr rfl)⟩
          simp [first, second]
        · refine ⟨[c0, c1, c2], ['='], rfl, ?_, .inr (.inl rfl)⟩
          simp [first, second, third]
      · rcases third with rfl | third
        · exact absurd (last.tail.tail.next ▸ fourth) not_inAlphabet_pad
        · obtain ⟨body, padding, rfl, inside, pads⟩ := ih loose last.tail.tail.tail.tail
          refine ⟨c0 :: c1 :: c2 :: c3 :: body, padding, rfl, ?_, pads⟩
          simp only [List.forall_mem_cons]
          exact ⟨first, second, third, fourth, inside⟩
  | case3 chars nonempty short =>
      rw [LooseGroups] at loose
      · exact loose.elim
      · exact nonempty
      · exact short

theorem WellPadded.padsLast (padded : WellPadded chars) : PadsLast chars := by
  obtain ⟨-, body, padding, rfl, inside, pads⟩ := padded
  intro front char back whole
  rcases List.append_eq_append_iff.mp whole with ⟨between, rfl, rest⟩ | ⟨between, rfl, rest⟩
  · -- The padding character lies beyond the body.
    have members : ∀ other ∈ padding, other = '=' := by
      rcases pads with rfl | rfl | rfl
      · exact nofun
      · simp
      · simp
    exact members char (rest ▸ List.mem_append_right _ (List.mem_cons_of_mem _ List.mem_cons_self))
  · cases between with
    | nil =>
        rcases pads with rfl | rfl | rfl
        · cases rest
        · cases rest
        · cases rest
          rfl
    | cons first between =>
        obtain rfl : '=' = first := (List.cons.inj rest).1
        exact absurd (inside '=' (List.mem_append_right _ List.mem_cons_self)) not_inAlphabet_pad

theorem WellPadded.padOrAlphabet (padded : WellPadded chars) :
    ∀ char ∈ chars, char = '=' ∨ InAlphabet char := by
  obtain ⟨-, body, padding, rfl, inside, pads⟩ := padded
  intro char member
  rcases List.mem_append.mp member with member | member
  · exact .inr (inside char member)
  · rcases pads with rfl | rfl | rfl
    · cases member
    · exact .inl (List.mem_singleton.mp member)
    · exact .inl (by simpa using member)

theorem WellPadded.loose (padded : WellPadded chars) : LooseGroups chars := by
  have every := padded.padOrAlphabet
  obtain ⟨whole, body, padding, split, inside, pads⟩ := padded
  have short : padding.length ≤ 2 := by
    rcases pads with rfl | rfl | rfl <;> decide
  induction chars using LooseGroups.induct generalizing body with
  | case1 => trivial
  | case2 c0 c1 c2 c3 rest ih =>
      simp only [List.forall_mem_cons] at every
      obtain ⟨-, -, third, fourth, later⟩ := every
      have lengths := congrArg List.length split
      simp only [List.length_cons, List.length_append] at lengths whole
      match body with
      | [] => simp only [List.length_nil] at lengths; omega
      | [_] => simp only [List.length_cons, List.length_nil] at lengths; omega
      | b0 :: b1 :: body =>
          obtain ⟨rfl, rfl, tail⟩ : c0 = b0 ∧ c1 = b1 ∧ c2 :: c3 :: rest = body ++ padding := by
            simpa using split
          refine ⟨inside c0 (by simp), inside c1 (by simp), third, fourth, ?_⟩
          match body with
          | [] =>
              obtain rfl : rest = [] := by
                have lengths := congrArg List.length tail
                simp only [List.length_cons, List.nil_append] at lengths
                exact List.length_eq_zero_iff.mp (by omega)
              trivial
          | [_] =>
              obtain rfl : rest = [] := by
                have lengths := congrArg List.length tail
                simp only [List.length_cons, List.length_append, List.length_nil] at lengths
                exact List.length_eq_zero_iff.mp (by omega)
              trivial
          | b2 :: b3 :: body =>
              obtain ⟨rfl, rfl, others⟩ : c2 = b2 ∧ c3 = b3 ∧ rest = body ++ padding := by
                simpa using tail
              refine ih later (by omega) body others fun char member => inside char ?_
              exact List.mem_cons_of_mem _ (List.mem_cons_of_mem _
                (List.mem_cons_of_mem _ (List.mem_cons_of_mem _ member)))
  | case3 chars nonempty long =>
      match chars with
      | [] => exact absurd rfl nonempty
      | [_] => cases whole
      | [_, _] => cases whole
      | [_, _, _] => cases whole
      | c0 :: c1 :: c2 :: c3 :: rest => exact absurd rfl (long c0 c1 c2 c3 rest)

/-- A text is accepted as base64 is defined exactly when it is not one of loose
groups with something other than padding after padding. -/
theorem base64Decode_exact_iff (text : String) :
    ((base64Decode text).isSome = true ↔ WellPadded (strip text)) ↔
      (LooseGroups (strip text) → PadsLast (strip text)) := by
  rw [isSome_base64Decode]
  constructor
  · exact fun exact loose => (exact.mp loose).padsLast
  · exact fun last => ⟨fun loose => wellPadded_of_loose loose (last loose), WellPadded.loose⟩

end Evergreen.Tls
