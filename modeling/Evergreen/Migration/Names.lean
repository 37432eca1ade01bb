import Evergreen.Migration.Files
import Evergreen.Migration.Shim
import Mathlib.Data.List.TakeWhile

namespace Evergreen.Migration

/-! # The two readings of a migration's file name

`scan_migrations` splits the name at its first underscore and trims what follows;
`parse_version` and `parse_name` trim the whole name first, and of more.
-/

def downSuffix : List Char := ".down.sql".toList

def baseName (filename : String) : List Char :=
  trimEndMatches downSuffix (trimEndMatches upSuffix filename.toList)

def parseVersion (filename : String) : Except MigrationError Nat :=
  let version := (splitName (baseName filename)).1
  match parseU32 version with
  | some version => .ok version
  | none => .error (.invalidVersion (String.ofList version))

def parseName (filename : String) : String :=
  String.ofList ((splitName (baseName filename)).2.getD [])

/-- The scan lists the entry under this version and name. -/
def MigrationDir.Lists (dir : MigrationDir) (entry : Entry) (version : Nat) (name : String) : Prop :=
  ∃ scanned, dir.scan = .ok scanned ∧ ⟨version, name, entry⟩ ∈ scanned

/-- The scan and the parsers agree about the entry. -/
def NamesAgree (dir : MigrationDir) (entry : Entry) : Prop :=
  ∀ version name, dir.Lists entry version name ↔
    parseVersion entry.name = .ok version ∧ parseName entry.name = name

/-- The suffix, this many times. -/
def repeated (count : Nat) (suffix : List Char) : List Char := (List.replicate count suffix).flatten

/-- No version is followed by suffixes only, and no name after a version and an
underscore ends in the suffix of a down migration. -/
def PlainName (filename : List Char) : Prop :=
  ∀ version, (parseU32 version).isSome = true →
    (∀ downs ups, filename ≠ version ++ repeated downs downSuffix ++ repeated ups upSuffix) ∧
    ∀ name ups, filename ≠ version ++ '_' :: (name ++ downSuffix ++ repeated ups upSuffix)

variable {suffix text front rest : List Char} {separator : Char}

/-! ## Trimming -/

theorem trimEndMatches_go_congr (nonempty : suffix ≠ []) {fuel other : Nat}
    (enough : text.length ≤ fuel) (also : text.length ≤ other) :
    trimEndMatches.go suffix fuel text = trimEndMatches.go suffix other text := by
  have empty : ∀ fuel, trimEndMatches.go suffix fuel [] = [] := by
    intro fuel
    cases fuel with
    | zero => rfl
    | succ fuel => simp [trimEndMatches.go, nonempty]
  induction fuel generalizing other text with
  | zero =>
      obtain rfl := List.length_eq_zero_iff.mp (Nat.le_zero.mp enough)
      rw [empty, empty]
  | succ fuel ih =>
      cases other with
      | zero =>
          obtain rfl := List.length_eq_zero_iff.mp (Nat.le_zero.mp also)
          rw [empty, empty]
      | succ other =>
          have shorter : (text.take (text.length - suffix.length)).length ≤ text.length - 1 := by
            have positive := List.length_pos_iff.mpr nonempty
            rw [List.length_take]
            omega
          rw [trimEndMatches.go, trimEndMatches.go]
          split
          · exact ih (by omega) (by omega)
          · rfl

theorem trimEndMatches_append (nonempty : suffix ≠ []) :
    trimEndMatches suffix (text ++ suffix) = trimEndMatches suffix text := by
  have positive := List.length_pos_iff.mpr nonempty
  rw [trimEndMatches, trimEndMatches_go_congr nonempty (Nat.le_refl _)
    (show _ ≤ text.length + suffix.length - 1 + 1 by rw [List.length_append]; omega)]
  rw [trimEndMatches.go, if_pos (List.isSuffixOf_iff_suffix.mpr (List.suffix_append _ _)),
    List.length_append, Nat.add_sub_cancel, List.take_left]
  exact trimEndMatches_go_congr nonempty (by omega) (Nat.le_refl _)

theorem trimEndMatches_of_not_suffix (plain : ¬ suffix <:+ text) :
    trimEndMatches suffix text = text := by
  rw [trimEndMatches]
  cases text.length with
  | zero => rfl
  | succ length =>
      rw [trimEndMatches.go, if_neg fun ends => plain (List.isSuffixOf_iff_suffix.mp ends)]

theorem repeated_succ (count : Nat) : repeated (count + 1) suffix = repeated count suffix ++ suffix := by
  rw [repeated, repeated, List.replicate_succ', List.flatten_append]
  simp

theorem trimEndMatches_repeated (nonempty : suffix ≠ []) (plain : ¬ suffix <:+ text) (count : Nat) :
    trimEndMatches suffix (text ++ repeated count suffix) = text := by
  induction count with
  | zero =>
      rw [repeated, List.replicate_zero, List.flatten_nil, List.append_nil]
      exact trimEndMatches_of_not_suffix plain
  | succ count ih => rw [repeated_succ, ← List.append_assoc, trimEndMatches_append nonempty, ih]

/-- What is trimmed away is the suffix, some number of times. -/
theorem trimEndMatches_spec (nonempty : suffix ≠ []) (text : List Char) :
    ¬ suffix <:+ trimEndMatches suffix text ∧
      ∃ count, text = trimEndMatches suffix text ++ repeated count suffix := by
  induction length : text.length using Nat.strong_induction_on generalizing text with
  | _ length ih =>
      by_cases ends : suffix <:+ text
      · obtain ⟨shorter, rfl⟩ := ends
        have positive := List.length_pos_iff.mpr nonempty
        rw [List.length_append] at length
        obtain ⟨plain, count, whole⟩ := ih shorter.length (by omega) shorter rfl
        rw [trimEndMatches_append nonempty]
        refine ⟨plain, count + 1, ?_⟩
        rw [repeated_succ, ← List.append_assoc, ← whole]
      · rw [trimEndMatches_of_not_suffix ends]
        exact ⟨ends, 0, (List.append_nil _).symm⟩

theorem suffix_of_suffix_append_cons (absent : separator ∉ suffix)
    (ends : suffix <:+ front ++ separator :: rest) : suffix <:+ rest := by
  rcases List.suffix_or_suffix_of_suffix ends (List.suffix_append front _) with inside | around
  · rcases List.suffix_cons_iff.mp inside with same | inside
    · exact absurd (same ▸ List.mem_cons_self) absent
    · exact inside
  · exact absurd (around.subset List.mem_cons_self) absent

/-- A separator that is not in the suffix stops the trimming. -/
theorem trimEndMatches_append_cons (nonempty : suffix ≠ []) (absent : separator ∉ suffix) :
    trimEndMatches suffix (front ++ separator :: rest) =
      front ++ separator :: trimEndMatches suffix rest := by
  obtain ⟨plain, count, whole⟩ := trimEndMatches_spec nonempty rest
  have text : front ++ separator :: rest =
      (front ++ separator :: trimEndMatches suffix rest) ++ repeated count suffix := by
    rw [List.append_assoc, List.cons_append, ← whole]
  rw [text]
  exact trimEndMatches_repeated nonempty
    (fun ends => plain (suffix_of_suffix_append_cons absent ends)) count

/-! ## Splitting -/

theorem splitName_append (absent : '_' ∉ front) :
    splitName (front ++ '_' :: rest) = (front, some rest) := by
  have other : ∀ char ∈ front, decide (char ≠ '_') = true := by
    intro char member
    exact decide_eq_true fun same => absent (same ▸ member)
  rw [splitName, List.dropWhile_append_of_pos other, List.takeWhile_append_of_pos other]
  simp

theorem splitName_of_not_mem (absent : '_' ∉ text) : splitName text = (text, none) := by
  have other : ∀ char ∈ text, decide (char ≠ '_') = true := by
    intro char member
    exact decide_eq_true fun same => absent (same ▸ member)
  rw [splitName, List.dropWhile_eq_nil_iff.mpr other]

/-- A text is split at its first underscore, or has none. -/
theorem split_cases (text : List Char) :
    '_' ∉ text ∨ ∃ front rest, '_' ∉ front ∧ text = front ++ '_' :: rest := by
  by_cases member : '_' ∈ text
  · obtain ⟨front, rest, whole, absent⟩ := List.eq_append_cons_of_mem member
    exact .inr ⟨front, rest, absent, whole⟩
  · exact .inl member

/-! ## Versions -/

theorem digits_of_foldlM {start value : Nat} (read : text.foldlM (fun value digit =>
      let next := value * 10 + (digit.toNat - '0'.toNat)
      if digit.isDigit ∧ next < 2 ^ 32 then some next else none) start = some value) :
    ∀ digit ∈ text, digit.isDigit = true := by
  induction text generalizing start with
  | nil => exact nofun
  | cons digit rest ih =>
      rw [List.foldlM_cons] at read
      obtain ⟨next, taken, read⟩ := Option.bind_eq_some_iff.mp read
      dsimp only at taken
      split at taken
      · next allowed => exact List.forall_mem_cons.mpr ⟨allowed.1, ih read⟩
      · cases taken

/-- A version has no other characters than digits and a plus sign. -/
theorem versionChars {version : List Char} (parsed : (parseU32 version).isSome = true) :
    ∀ char ∈ version, char = '+' ∨ char.isDigit = true := by
  obtain ⟨value, parsed⟩ := Option.isSome_iff_exists.mp parsed
  unfold parseU32 at parsed
  dsimp only at parsed
  split at parsed
  · next digits =>
    split at parsed
    · cases parsed
    · intro char member
      rcases List.mem_cons.mp member with rfl | member
      · exact .inl rfl
      · exact .inr (digits_of_foldlM parsed char member)
  · split at parsed
    · cases parsed
    · exact fun char member => .inr (digits_of_foldlM parsed char member)

theorem not_mem_version {version : List Char} {char : Char}
    (parsed : (parseU32 version).isSome = true) (sign : char ≠ '+') (digit : char.isDigit = false) :
    char ∉ version := by
  intro member
  rcases versionChars parsed char member with plus | number
  · exact sign plus
  · rw [digit] at number
    cases number

/-! ## The scan -/

variable {entries : List Entry} {entry : Entry} {filename : String}

theorem scanEntry_entry {scanned : Scanned} (found : scanEntry entry = some scanned) :
    scanned.entry = entry := by
  simp only [scanEntry] at found
  split at found
  · obtain ⟨version, -, rfl⟩ := Option.map_eq_some_iff.mp found
    rfl
  · cases found

theorem lists_iff (listed : entry ∈ entries) (version : Nat) (name : String) :
    MigrationDir.Lists ⟨true, .ok entries⟩ entry version name ↔
      scanEntry entry = some ⟨version, name, entry⟩ := by
  constructor
  · rintro ⟨scanned, rfl | rfl, member⟩
    rw [List.mem_insertionSort] at member
    obtain ⟨other, -, found⟩ := List.mem_filterMap.mp member
    obtain rfl : entry = other := scanEntry_entry found
    exact found
  · intro found
    refine ⟨_, rfl, ?_⟩
    rw [List.mem_insertionSort]
    exact List.mem_filterMap.mpr ⟨entry, listed, found⟩

theorem up_ne_nil : upSuffix ≠ [] := by decide

theorem down_ne_nil : downSuffix ≠ [] := by decide

/-- Nothing that ends in the one suffix ends in the other. -/
theorem not_up_suffix_down (text : List Char) : ¬ upSuffix <:+ text ++ downSuffix := by
  intro ends
  have short : upSuffix <:+ downSuffix :=
    List.suffix_of_suffix_length_le ends (List.suffix_append _ _) (by decide)
  revert short
  decide

theorem not_mem_trimmed {char : Char} (absent : char ∉ text) :
    char ∉ trimEndMatches downSuffix (trimEndMatches upSuffix text) := by
  intro member
  obtain ⟨-, ups, whole⟩ := trimEndMatches_spec up_ne_nil text
  obtain ⟨-, downs, trimmed⟩ := trimEndMatches_spec down_ne_nil (trimEndMatches upSuffix text)
  rw [whole, trimmed] at absent
  exact absent (List.mem_append_left _ (List.mem_append_left _ member))

/-! ## Plain names -/

/-- The suffixes come off a version again. -/
theorem trimmed_version {version : List Char} (parsed : (parseU32 version).isSome = true)
    (downs ups : Nat) : trimEndMatches downSuffix (trimEndMatches upSuffix
      (version ++ repeated downs downSuffix ++ repeated ups upSuffix)) = version := by
  have letter : 'l' ∉ version := not_mem_version parsed (by decide) (by decide)
  have plain : ∀ suffix : List Char, 'l' ∈ suffix → ¬ suffix <:+ version := fun suffix member ends =>
    letter (ends.subset member)
  have between : ¬ upSuffix <:+ version ++ repeated downs downSuffix := by
    cases downs with
    | zero =>
        rw [repeated, List.replicate_zero, List.flatten_nil, List.append_nil]
        exact plain _ (by decide)
    | succ downs =>
        rw [repeated_succ, ← List.append_assoc]
        exact not_up_suffix_down _
  rw [trimEndMatches_repeated up_ne_nil between,
    trimEndMatches_repeated down_ne_nil (plain _ (by decide))]

theorem plainName_iff_of_not_mem (absent : '_' ∉ text) : PlainName text ↔
    (parseU32 (trimEndMatches downSuffix (trimEndMatches upSuffix text))).isSome = false := by
  constructor
  · intro plain
    by_contra parsed
    obtain ⟨-, ups, whole⟩ := trimEndMatches_spec up_ne_nil text
    obtain ⟨-, downs, trimmed⟩ := trimEndMatches_spec down_ne_nil (trimEndMatches upSuffix text)
    refine (plain _ (eq_true_of_ne_false parsed)).1 downs ups ?_
    rw [← trimmed, ← whole]
  · rintro unparsed version parsed
    refine ⟨?_, ?_⟩
    · rintro downs ups rfl
      rw [trimmed_version parsed, parsed] at unparsed
      cases unparsed
    · rintro name ups rfl
      exact absent (List.mem_append_right _ List.mem_cons_self)

theorem plainName_append_iff (absent : '_' ∉ front) : PlainName (front ++ '_' :: rest) ↔
    ((parseU32 front).isSome = true → ¬ downSuffix <:+ trimEndMatches upSuffix rest) := by
  constructor
  · rintro plain parsed ⟨name, ends⟩
    obtain ⟨-, ups, whole⟩ := trimEndMatches_spec up_ne_nil rest
    refine (plain front parsed).2 name ups ?_
    rw [ends, ← whole]
  · intro plain version parsed
    have noUnderscore : '_' ∉ version := not_mem_version parsed (by decide) (by decide)
    refine ⟨?_, ?_⟩
    · intro downs ups same
      have member : '_' ∈ version ++ repeated downs downSuffix ++ repeated ups upSuffix :=
        same ▸ List.mem_append_right _ List.mem_cons_self
      have suffixes : ∀ count suffix, '_' ∉ suffix → '_' ∉ repeated count suffix := by
        intro count suffix absent member
        obtain ⟨part, copied, inside⟩ := List.mem_flatten.mp member
        exact absent (List.eq_of_mem_replicate copied ▸ inside)
      rcases List.mem_append.mp member with member | member
      · rcases List.mem_append.mp member with member | member
        · exact noUnderscore member
        · exact suffixes downs downSuffix (by decide) member
      · exact suffixes ups upSuffix (by decide) member
    · intro name ups same
      have halves := congrArg splitName same
      rw [splitName_append absent, splitName_append noUnderscore] at halves
      obtain ⟨rfl, rest⟩ := Prod.mk.inj halves
      refine plain parsed ?_
      rw [Option.some.inj rest, trimEndMatches_repeated up_ne_nil (not_up_suffix_down name)]
      exact List.suffix_append _ _

theorem trimEndMatches_eq_self_iff (nonempty : suffix ≠ []) :
    trimEndMatches suffix text = text ↔ ¬ suffix <:+ text := by
  refine ⟨fun same => ?_, trimEndMatches_of_not_suffix⟩
  have plain := (trimEndMatches_spec nonempty text).1
  rwa [same] at plain

/-! ## The two readings -/

theorem namesAgree_iff_of_not_mem (listed : entry ∈ entries)
    (ends : upSuffix <:+ entry.name.toList) (absent : '_' ∉ entry.name.toList) :
    NamesAgree ⟨true, .ok entries⟩ entry ↔ (parseU32 (baseName entry.name)).isSome = false := by
  have unscanned : scanEntry entry = none := by
    have unparsed : parseU32 entry.name.toList = none := by
      by_contra parsed
      have dotless := @not_mem_version entry.name.toList '.'
        (Option.isSome_iff_ne_none.mpr parsed) (by decide) (by decide)
      exact dotless (ends.subset (by decide))
    simp only [scanEntry, splitName_of_not_mem absent, unparsed, Option.map_none, ite_self]
  simp only [NamesAgree, lists_iff listed, unscanned, parseVersion,
    splitName_of_not_mem (not_mem_trimmed absent), baseName, parseName]
  cases parseU32 (trimEndMatches downSuffix (trimEndMatches upSuffix entry.name.toList)) with
  | none => simp
  | some version => simp

theorem namesAgree_iff_of_split (listed : entry ∈ entries)
    (ends : upSuffix <:+ entry.name.toList) (absent : '_' ∉ front)
    (whole : entry.name.toList = front ++ '_' :: rest) :
    NamesAgree ⟨true, .ok entries⟩ entry ↔
      ((parseU32 front).isSome = true → ¬ downSuffix <:+ trimEndMatches upSuffix rest) := by
  have base : baseName entry.name =
      front ++ '_' :: trimEndMatches downSuffix (trimEndMatches upSuffix rest) := by
    rw [baseName, whole, trimEndMatches_append_cons up_ne_nil (by decide),
      trimEndMatches_append_cons down_ne_nil (by decide)]
  have scanned : scanEntry entry = (parseU32 front).map fun version =>
      ⟨version, String.ofList (trimEndMatches upSuffix rest), entry⟩ := by
    simp only [scanEntry]
    rw [if_pos (List.isSuffixOf_iff_suffix.mpr ends), whole, splitName_append absent]
    rfl
  simp only [NamesAgree, lists_iff listed, scanned, parseVersion, parseName, base,
    splitName_append absent, ← trimEndMatches_eq_self_iff down_ne_nil]
  cases parseU32 front with
  | none => simp
  | some version =>
      simp only [Option.map_some, Option.some.injEq, Scanned.mk.injEq, and_true,
        Except.ok.injEq, Option.getD_some, Option.isSome_some, true_implies]
      constructor
      · intro same
        exact String.ofList_inj.mp ((same version _).mp ⟨rfl, rfl⟩).2
      · intro same version name
        rw [same]

/-- The scan and the parsers agree about an up migration exactly when its name is
plain. -/
theorem namesAgree_iff (entries : List Entry) (entry : Entry) (listed : entry ∈ entries)
    (ends : upSuffix <:+ entry.name.toList) :
    NamesAgree ⟨true, .ok entries⟩ entry ↔ PlainName entry.name.toList := by
  rcases split_cases entry.name.toList with absent | ⟨front, rest, absent, whole⟩
  · exact (namesAgree_iff_of_not_mem listed ends absent).trans (plainName_iff_of_not_mem absent).symm
  · rw [namesAgree_iff_of_split listed ends absent whole, whole]
    exact (plainName_append_iff absent).symm

def migrationFile (name : String) : Entry := ⟨name, .ok ""⟩

theorem namesAgree_init :
    NamesAgree ⟨true, .ok [migrationFile "1_init.up.sql"]⟩ (migrationFile "1_init.up.sql") ↔
      PlainName "1_init.up.sql".toList :=
  namesAgree_iff _ _ List.mem_cons_self (by decide)

/-- Not listed without an underscore, and parsed as version 5 all the same. -/
theorem not_namesAgree_numbered :
    ¬ NamesAgree ⟨true, .ok [migrationFile "5.up.sql"]⟩ (migrationFile "5.up.sql") := by
  intro agree
  obtain ⟨scanned, same, member⟩ := (agree 5 "").mpr ⟨by decide, by decide⟩
  cases same
  cases member

end Evergreen.Migration
