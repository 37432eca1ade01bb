import Evergreen.Binary64.Unpacked

namespace Evergreen.Binary64

open Float.Model Float.Model.UnpackedFloat

/-! # Ratios of converted naturals

Both sides of a ratio are rounded to 53 bits, and so is their quotient.  The
second rounding does not hide that the ratio is above one.
-/

variable {number mantissa divisor places shift : Nat} {sign : Sign}

/-! ## Conversion -/

theorem roundWithAccuracy_exact {exponent : Int} {rounded : Nat} (long : 52 ≤ mantissa.log2)
    (least : -1074 ≤ exponent) (normal : Normal rounded)
    (value : roundHalfEven mantissa (2 ^ excess mantissa) = rounded) :
    roundWithAccuracy .binary64 sign mantissa exponent .exact =
      .finite sign rounded (exponent + excess mantissa) normal.pos := by
  have rounds := @roundWithAccuracy_normal mantissa 1 exponent sign rounded Nat.one_pos
  simp only [Nat.div_one, Nat.mod_one, Nat.one_mul] at rounds
  exact rounds long least normal value

theorem roundWithAccuracy_exact_carry {exponent : Int} (long : 52 ≤ mantissa.log2)
    (least : -1074 ≤ exponent) (value : roundHalfEven mantissa (2 ^ excess mantissa) = 2 ^ 53) :
    roundWithAccuracy .binary64 sign mantissa exponent .exact =
      .finite sign (2 ^ 52) (exponent + excess mantissa + 1) (by decide) := by
  have rounds := @roundWithAccuracy_carry mantissa 1 exponent sign Nat.one_pos
  simp only [Nat.div_one, Nat.mod_one, Nat.one_mul] at rounds
  exact rounds long least value

/-- A normal number, scaled so that its exponent is a natural number. -/
def Holds (float : UnpackedFloat) (number : Nat) : Prop :=
  ∃ mantissa places : Nat, ∃ normal : Normal mantissa, places ≤ 64 ∧
    float = .finite .positive mantissa (places - 52) normal.pos ∧
    mantissa * 2 ^ places = nearest number * 2 ^ 52

theorem round_natural (number : Nat) : UnpackedFloat.round .binary64 sign number 0 =
    roundWithAccuracy .binary64 sign (number * 2 ^ (52 - number.log2)) (-(52 - number.log2 : Nat))
      .exact := by
  have shift : (-max (number.log2 + 0 - 52 : Int) (-1074)).toNat = 52 - number.log2 := by omega
  simp only [UnpackedFloat.round, targetExponent_eq, decreaseExponent, Nat.shiftLeft_eq,
    Int.zero_sub, shift]

theorem holds_round_short (nonzero : number ≠ 0) (short : number.log2 ≤ 52) :
    Holds (UnpackedFloat.round .binary64 .positive number 0) number := by
  have lower := Nat.log2_self_le nonzero
  have upper := @Nat.lt_log2_self number
  have normal : Normal (number * 2 ^ (52 - number.log2)) := by
    refine ⟨?_, ?_⟩
    · calc 2 ^ 52 = 2 ^ number.log2 * 2 ^ (52 - number.log2) := by
            rw [← Nat.pow_add, show number.log2 + (52 - number.log2) = 52 by omega]
        _ ≤ _ := Nat.mul_le_mul_right _ lower
    · calc number * 2 ^ (52 - number.log2) < 2 ^ (number.log2 + 1) * 2 ^ (52 - number.log2) :=
            Nat.mul_lt_mul_of_pos_right upper (Nat.two_pow_pos _)
        _ = 2 ^ 53 := by
            rw [← Nat.pow_add, show number.log2 + 1 + (52 - number.log2) = 53 by omega]
  have noExcess : excess (number * 2 ^ (52 - number.log2)) = 0 := by rw [excess, normal.log2]
  have exact := @roundHalfEven_mul 1 (number * 2 ^ (52 - number.log2)) Nat.one_pos
  rw [Nat.mul_one] at exact
  refine ⟨_, number.log2, normal, by omega, ?_, ?_⟩
  · rw [round_natural, roundWithAccuracy_exact (by rw [normal.log2]) (by omega) normal
      (by rw [noExcess]; exact exact), noExcess]
    exact finite_congr rfl (by omega)
  · rw [nearest_eq_self ((Nat.log2_lt nonzero).mp (by omega)), Nat.mul_assoc, ← Nat.pow_add,
      show 52 - number.log2 + number.log2 = 52 by omega]

theorem holds_round_long (bounded : number < 2 ^ 64) (long : 52 ≤ number.log2) :
    Holds (UnpackedFloat.round .binary64 .positive number 0) number := by
  have nonzero : number ≠ 0 := by
    rintro rfl
    cases long
  have width : number.log2 < 64 := (Nat.log2_lt nonzero).mpr bounded
  have places : excess number = number.log2 - 52 := rfl
  obtain ⟨lower, upper⟩ := mantissa_bounds long
  have same : UnpackedFloat.round .binary64 .positive number 0 =
      roundWithAccuracy .binary64 .positive number 0 .exact := by
    rw [round_natural, show 52 - number.log2 = 0 by omega, Nat.pow_zero, Nat.mul_one]
    rfl
  rcases Nat.lt_or_eq_of_le upper with fits | carries
  · refine ⟨_, excess number + 52, ⟨lower, fits⟩, by omega, ?_, ?_⟩
    · rw [same, roundWithAccuracy_exact long (by omega) ⟨lower, fits⟩ rfl]
      exact finite_congr rfl (by omega)
    · rw [nearest, Nat.pow_add, Nat.mul_assoc]
  · refine ⟨2 ^ 52, excess number + 53, ⟨Nat.le_refl _, by decide⟩, by omega, ?_, ?_⟩
    · rw [same, roundWithAccuracy_exact_carry long (by omega) carries]
      exact finite_congr rfl (by omega)
    · rw [nearest, carries, Nat.pow_add]
      ring

theorem unpack_pack_of_holds {float : UnpackedFloat} (holds : Holds float number) :
    (Float.Model.pack float).unpack = float := by
  obtain ⟨mantissa, places, normal, bounded, rfl, _⟩ := holds
  exact unpack_pack_normal normal (by omega) (by omega)

theorem holds_ofNat (nonzero : number ≠ 0) (bounded : number < 2 ^ 64) :
    Holds (Float.Model.ofNat number).unpack number := by
  have positive : compare (number : Int) 0 = .gt := Int.compare_eq_gt.mpr (by omega)
  have rounds : UnpackedFloat.ofNat .binary64 number =
      UnpackedFloat.round .binary64 .positive number 0 := by
    simp only [UnpackedFloat.ofNat, UnpackedFloat.ofInt, UnpackedFloat.normalize, positive,
      Int.toNat_natCast]
  have holds : Holds (UnpackedFloat.ofNat .binary64 number) number := by
    rw [rounds]
    rcases Nat.le_total number.log2 52 with short | long
    · exact holds_round_short nonzero short
    · exact holds_round_long bounded long
  rw [Float.Model.ofNat, unpack_pack_of_holds holds]
  exact holds

/-! ## The quotient against one -/

/-- Normal numbers are ordered by exponent and then by mantissa. -/
theorem normal_lt_iff {first second : Nat} (normal : Normal mantissa) (other : Normal divisor) :
    divisor * 2 ^ second < mantissa * 2 ^ first ↔
      second < first ∨ second = first ∧ divisor < mantissa := by
  obtain ⟨lower, upper⟩ := normal
  obtain ⟨otherLower, otherUpper⟩ := other
  have apart : ∀ {small large low high : Nat}, small < large → low < 2 ^ 53 → 2 ^ 52 ≤ high →
      low * 2 ^ small < high * 2 ^ large := by
    intro small large low high below short long
    calc low * 2 ^ small < 2 ^ 53 * 2 ^ small := Nat.mul_lt_mul_of_pos_right short (Nat.two_pow_pos _)
      _ = 2 ^ 52 * 2 ^ (small + 1) := by
        rw [← Nat.pow_add, ← Nat.pow_add, ← Nat.add_assoc, Nat.add_right_comm]
      _ ≤ high * 2 ^ large := Nat.mul_le_mul long (Nat.pow_le_pow_right (by decide) below)
  rcases lt_trichotomy second first with below | rfl | above
  · exact iff_of_true (apart below otherUpper lower) (.inl below)
  · rw [Nat.mul_lt_mul_right (Nat.two_pow_pos _)]
    omega
  · have reversed := apart above upper otherLower
    omega

theorem divCore_normal {first second : Nat} (normal : Normal mantissa) (other : Normal divisor)
    (bounded : second ≤ 64) :
    divCore .binary64 mantissa (first - 52) divisor (second - 52) =
      (mantissa * 2 ^ 53 / divisor, (first : Int) - second - 53,
        accuracyOfFraction (mantissa * 2 ^ 53 % divisor) divisor) := by
  have target : Format.binary64.targetExponent (totalExponent mantissa (first - 52) -
      totalExponent divisor (second - 52)) = (first : Int) - second - 53 := by
    simp only [Format.targetExponent, totalExponent, normal.log2, other.log2, Format.mantissaBits,
      Format.minExponent]
    norm_num
    omega
  have least : min ((first : Int) - 52 - (second - 52)) (first - second - 53) =
      first - second - 53 := by omega
  have shift : ((first : Int) - 52 - (second - 52) - (first - second - 53)).toNat = 53 := by omega
  simp only [divCore, target, least, shift, Nat.shiftLeft_eq]

theorem div_of_rounded {first second rounded : Nat} (normal : Normal mantissa)
    (other : Normal divisor) (bounded : second ≤ 64) (fits : Normal rounded)
    (long : 52 ≤ (mantissa * 2 ^ 53 / divisor).log2)
    (value : roundHalfEven (mantissa * 2 ^ 53)
      (divisor * 2 ^ excess (mantissa * 2 ^ 53 / divisor)) = rounded) :
    UnpackedFloat.div .binary64 (.finite .positive mantissa (first - 52) normal.pos)
        (.finite .positive divisor (second - 52) other.pos) =
      .finite .positive rounded
        ((first : Int) - second - 53 + excess (mantissa * 2 ^ 53 / divisor)) fits.pos := by
  simp only [UnpackedFloat.div, divCore_normal normal other bounded]
  exact roundWithAccuracy_normal other.pos long (by omega) fits value

/-- A quotient below one has 53 bits, and rounds to more than their least value. -/
theorem quotient_below (normal : Normal mantissa) (other : Normal divisor)
    (below : mantissa < divisor) : (mantissa * 2 ^ 53 / divisor).log2 = 52 ∧
      2 ^ 52 < roundHalfEven (mantissa * 2 ^ 53) divisor ∧
        roundHalfEven (mantissa * 2 ^ 53) divisor < 2 ^ 53 := by
  have positive := other.pos
  obtain ⟨lower, upper⟩ := normal
  obtain ⟨otherLower, otherUpper⟩ := other
  have least : 2 ^ 52 ≤ mantissa * 2 ^ 53 / divisor :=
    (Nat.le_div_iff_mul_le positive).mpr (by omega)
  have most : mantissa * 2 ^ 53 / divisor < 2 ^ 53 := (Nat.div_lt_iff_lt_mul positive).mpr (by omega)
  refine ⟨(Nat.log2_eq_iff (by omega)).mpr ⟨least, most⟩, lt_roundHalfEven positive (by omega), ?_⟩
  exact Nat.lt_of_le_of_lt (@roundHalfEven_le _ _ (2 ^ 53 - 1) positive (by omega)) (by decide)

/-- A quotient of one and more has 54 bits, and rounds to the least value of 53
only if it is one. -/
theorem quotient_above (normal : Normal mantissa) (other : Normal divisor)
    (above : divisor ≤ mantissa) : (mantissa * 2 ^ 53 / divisor).log2 = 53 ∧
      Normal (roundHalfEven (mantissa * 2 ^ 53) (divisor * 2)) ∧
        (2 ^ 52 < roundHalfEven (mantissa * 2 ^ 53) (divisor * 2) ↔ divisor < mantissa) := by
  have positive := other.pos
  obtain ⟨lower, upper⟩ := normal
  obtain ⟨otherLower, otherUpper⟩ := other
  have least : 2 ^ 53 ≤ mantissa * 2 ^ 53 / divisor :=
    (Nat.le_div_iff_mul_le positive).mpr (by omega)
  have most : mantissa * 2 ^ 53 / divisor < 2 ^ 54 := (Nat.div_lt_iff_lt_mul positive).mpr (by omega)
  refine ⟨(Nat.log2_eq_iff (by omega)).mpr ⟨least, most⟩, ⟨?_, ?_⟩, fun more => ?_, fun more => ?_⟩
  · exact le_roundHalfEven (by omega) (by omega)
  · exact Nat.lt_of_le_of_lt (@roundHalfEven_le _ _ (2 ^ 53 - 1) (by omega) (by omega)) (by decide)
  · by_contra same
    have least := @roundHalfEven_le (mantissa * 2 ^ 53) (divisor * 2) (2 ^ 52) (by omega) (by omega)
    omega
  · exact lt_roundHalfEven (by omega) (by omega)

/-- The quotient is a normal number, above one when the dividend is above the
divisor. -/
theorem div_normal {first second : Nat} (normal : Normal mantissa) (other : Normal divisor)
    (near : first ≤ 64) (bounded : second ≤ 64) :
    ∃ (rounded : Nat) (exponent : Int) (fits : Normal rounded),
      UnpackedFloat.div .binary64 (.finite .positive mantissa (first - 52) normal.pos)
        (.finite .positive divisor (second - 52) other.pos) =
          .finite .positive rounded exponent fits.pos ∧
      -1074 ≤ exponent ∧ exponent ≤ 971 ∧
      (-52 < exponent ∨ -52 = exponent ∧ 2 ^ 52 < rounded ↔
        second < first ∨ second = first ∧ divisor < mantissa) := by
  rcases Nat.lt_or_ge mantissa divisor with below | above
  · obtain ⟨width, least, most⟩ := quotient_below normal other below
    have noExcess : excess (mantissa * 2 ^ 53 / divisor) = 0 := by rw [excess, width]
    have fits : Normal (roundHalfEven (mantissa * 2 ^ 53) divisor) := ⟨Nat.le_of_lt least, most⟩
    refine ⟨_, _, fits, div_of_rounded normal other bounded fits (by omega)
      (by rw [noExcess, Nat.pow_zero, Nat.mul_one]), ?_⟩
    rw [noExcess]
    omega
  · obtain ⟨width, fits, strict⟩ := quotient_above normal other above
    have oneExcess : excess (mantissa * 2 ^ 53 / divisor) = 1 := by rw [excess, width]
    refine ⟨_, _, fits, div_of_rounded normal other bounded fits (by omega)
      (by rw [oneExcess, Nat.pow_one]), ?_⟩
    rw [oneExcess, strict]
    omega

theorem one_unpack : (1.0 : Float).toModel.unpack = .finite .positive (2 ^ 52) (-52) (by decide) := rfl

theorem one_lt_iff {model : Float.Model} : 1.0 < Float.ofModel model ↔
    UnpackedFloat.compare (.finite .positive (2 ^ 52) (-52) (by decide)) model.unpack = some .lt := by
  rw [← one_unpack]
  change decide ((1.0 : Float).toModel < model) = true ↔ _
  rw [decide_eq_true_iff]
  change (UnpackedFloat.compare _ _ == some Ordering.lt) = true ↔ _
  rw [beq_iff_eq]

theorem one_lt_normal_iff {model : Float.Model} {exponent : Int} {positive : 0 < mantissa}
    (unpacked : model.unpack = .finite .positive mantissa exponent positive) :
    1.0 < Float.ofModel model ↔ -52 < exponent ∨ -52 = exponent ∧ 2 ^ 52 < mantissa := by
  rw [one_lt_iff, unpacked]
  change some ((compare (-52) exponent).then (compare (2 ^ 52) mantissa)) = some .lt ↔ _
  rw [Option.some.injEq, Ordering.then_eq_lt, Int.compare_eq_lt, Int.compare_eq_eq, Nat.compare_eq_lt]

theorem zero_unpack : (Float.Model.ofNat 0).unpack = .zero .positive := rfl

theorem not_one_lt_zero : ¬ 1.0 < Float.ofModel (.pack (.zero .positive)) := by decide

theorem not_one_lt_notANumber : ¬ 1.0 < Float.ofModel (.pack .notANumber) := by decide

theorem one_lt_infinity : 1.0 < Float.ofModel (.pack (.infinity .positive)) := by decide

/-- A ratio of converted naturals is above one exactly when their nearest
doubles are in that order; over zero it is so of everything but zero. -/
theorem one_lt_ratio_iff {used limit : Nat} (usedBounded : used < 2 ^ 64)
    (limitBounded : limit < 2 ^ 64) :
    1.0 < Float.ofModel (.ofNat used) / Float.ofModel (.ofNat limit) ↔
      nearest limit < nearest used := by
  change 1.0 < Float.ofModel (.pack (.div .binary64 (Float.Model.ofNat used).unpack
    (Float.Model.ofNat limit).unpack)) ↔ _
  by_cases nothing : used = 0
  · rw [nothing, zero_unpack]
    refine iff_of_false ?_ (Nat.not_lt_zero _)
    by_cases unlimited : limit = 0
    · rw [unlimited, zero_unpack]
      exact not_one_lt_notANumber
    · obtain ⟨divisor, second, other, _, otherUnpacked, _⟩ := holds_ofNat unlimited limitBounded
      rw [otherUnpacked]
      exact not_one_lt_zero
  · obtain ⟨mantissa, first, normal, near, unpacked, value⟩ := holds_ofNat nothing usedBounded
    by_cases unlimited : limit = 0
    · rw [unlimited, zero_unpack, unpacked]
      refine iff_of_true one_lt_infinity ?_
      exact Nat.lt_of_lt_of_le (Nat.two_pow_pos _) (nearest_between nothing).1
    · obtain ⟨divisor, second, other, bounded, otherUnpacked, otherValue⟩ :=
        holds_ofNat unlimited limitBounded
      obtain ⟨rounded, exponent, fits, quotient, least, most, above⟩ :=
        div_normal normal other near bounded
      rw [unpacked, otherUnpacked, quotient, one_lt_normal_iff (unpack_pack_normal fits least most),
        above, ← normal_lt_iff normal other, value, otherValue,
        Nat.mul_lt_mul_right (Nat.two_pow_pos 52)]

end Evergreen.Binary64
