import Evergreen.Binary64.Rounding
import Mathlib

namespace Evergreen.Binary64

open Float.Model Float.Model.UnpackedFloat

/-! # Unpacked doubles

Lean's model of `Float` shifts mantissas to 53 bits and keeps two bits of what
falls off.  Here these steps are read as one rounding of a quotient, and packing
is shown to lose nothing of a normal number.
-/

variable {num den mantissa : Nat} {exponent : Int} {extended : ExtendedMantissa} {sign : Sign}

/-- The integer part of `num / den`, whether the rest is at least a half, and
whether it is neither nothing nor the half. -/
structure Describes (extended : ExtendedMantissa) (num den : Nat) : Prop where
  mantissa : extended.mantissa = num / den
  roundBit : extended.roundBit = true ↔ den ≤ 2 * (num % den)
  stickyBit : extended.stickyBit = true ↔ 2 * (num % den) ≠ 0 ∧ 2 * (num % den) ≠ den

theorem Describes.roundedMantissa (positive : 0 < den) (describes : Describes extended num den) :
    extended.roundedMantissa = roundHalfEven num den := by
  obtain ⟨integer, roundBit, stickyBit⟩ := extended
  obtain ⟨rfl, round, sticky⟩ := describes
  simp only at round sticky
  have cases := roundHalfEven_cases num den
  cases roundBit <;> cases stickyBit <;>
    simp only [Bool.false_eq_true, false_iff, true_iff] at round sticky
  case false.false =>
      change num / den = _
      omega
  case false.true =>
      change num / den = _
      omega
  case true.false =>
      change num / den + num / den % 2 = _
      omega
  case true.true =>
      change num / den + 1 = _
      omega

theorem Describes.shiftRightOne (positive : 0 < den) (describes : Describes extended num den) :
    Describes extended.shiftRightOne num (den * 2) := by
  obtain ⟨integer, roundBit, stickyBit⟩ := extended
  obtain ⟨rfl, round, sticky⟩ := describes
  have split : num % (den * 2) = num % den + den * (num / den % 2) := Nat.mod_mul
  have remainder := Nat.mod_lt num positive
  have low : num / den % 2 = 0 ∨ num / den % 2 = 1 := by omega
  refine ⟨Nat.div_div_eq_div_mul .., ?_, ?_⟩
  · simp only [ExtendedMantissa.shiftRightOne, bne_iff_ne]
    rw [split]
    rcases low with even | odd
    · rw [even]
      omega
    · rw [odd]
      omega
  · simp only [ExtendedMantissa.shiftRightOne, Bool.or_eq_true]
    simp only at round sticky
    rw [round, sticky, split]
    rcases low with even | odd
    · rw [even]
      omega
    · rw [odd]
      omega

theorem Describes.shiftRight (positive : 0 < den) (describes : Describes extended num den)
    (places : Nat) : Describes (extended >>> places) num (den * 2 ^ places) := by
  induction places with
  | zero => rwa [Nat.pow_zero, Nat.mul_one]
  | succ places ih =>
      rw [Nat.pow_succ, ← Nat.mul_assoc]
      exact ih.shiftRightOne (Nat.mul_pos positive (Nat.two_pow_pos places))

theorem describes_quotient (positive : 0 < den) :
    Describes (.ofMantissaAndAccuracy (num / den) (accuracyOfFraction (num % den) den)) num den := by
  have remainder := Nat.mod_lt num positive
  by_cases exact : num % den = 0
  · rw [accuracyOfFraction, if_pos exact]
    exact ⟨rfl, ⟨nofun, fun half => by omega⟩, ⟨nofun, fun off => by omega⟩⟩
  · rw [accuracyOfFraction, if_neg exact]
    rcases lt_trichotomy (2 * (num % den)) den with below | middle | above
    · rw [Nat.compare_eq_lt.mpr below]
      exact ⟨rfl, ⟨nofun, fun half => by omega⟩, ⟨fun _ => by omega, fun _ => rfl⟩⟩
    · rw [Nat.compare_eq_eq.mpr middle]
      exact ⟨rfl, ⟨fun _ => by omega, fun _ => rfl⟩, ⟨nofun, fun off => by omega⟩⟩
    · rw [Nat.compare_eq_gt.mpr above]
      exact ⟨rfl, ⟨fun _ => by omega, fun _ => rfl⟩, ⟨fun _ => by omega, fun _ => rfl⟩⟩

/-! ## One rounding -/

theorem targetExponent_eq (mantissa : Nat) (exponent : Int) :
    Format.binary64.targetExponent (totalExponent mantissa exponent) =
      max (mantissa.log2 + exponent - 52) (-1074) := by
  simp only [Format.targetExponent, totalExponent, Format.mantissaBits, Format.minExponent]
  norm_num
  omega

theorem shiftToTargetExponent_eq {accuracy : Accuracy} (long : 52 ≤ mantissa.log2)
    (least : -1074 ≤ exponent) :
    shiftToTargetExponent .binary64 mantissa exponent accuracy =
      (ExtendedMantissa.ofMantissaAndAccuracy mantissa accuracy >>> excess mantissa,
        exponent + excess mantissa) := by
  have shift : (max (mantissa.log2 + exponent - 52) (-1074) - exponent).toNat = excess mantissa := by
    rw [excess]
    omega
  simp only [shiftToTargetExponent, shiftToExponent, targetExponent_eq, shift]

/-- A mantissa of 53 bits. -/
def Normal (mantissa : Nat) : Prop :=
  2 ^ 52 ≤ mantissa ∧ mantissa < 2 ^ 53

theorem Normal.pos (normal : Normal mantissa) : 0 < mantissa :=
  Nat.lt_of_lt_of_le (by decide) normal.1

theorem Normal.log2 (normal : Normal mantissa) : mantissa.log2 = 52 :=
  (Nat.log2_eq_iff (Nat.ne_of_gt normal.pos)).mpr normal

/-- The first shift of a long quotient rounds it to 53 bits. -/
theorem roundedMantissa_quotient (positive : 0 < den) :
    (ExtendedMantissa.ofMantissaAndAccuracy (num / den) (accuracyOfFraction (num % den) den) >>>
        excess (num / den)).roundedMantissa = roundHalfEven num (den * 2 ^ excess (num / den)) :=
  ((describes_quotient positive).shiftRight positive _).roundedMantissa
    (Nat.mul_pos positive (Nat.two_pow_pos _))

/-- The shift to the target, the rounding, and the shift after a carry. -/
theorem roundWithAccuracy_of_shifts {accuracy : Accuracy} {first last : ExtendedMantissa × Int}
    (shifted : shiftToTargetExponent .binary64 mantissa exponent accuracy = first)
    (carried : shiftToTargetExponent .binary64 first.1.roundedMantissa first.2 .exact = last)
    (positive : 0 < last.1.mantissa) :
    roundWithAccuracy .binary64 sign mantissa exponent accuracy =
      .finite sign last.1.mantissa last.2 positive := by
  subst shifted carried
  exact dif_neg (Nat.ne_of_gt positive)

theorem roundWithAccuracy_normal {rounded : Nat} (positive : 0 < den) (long : 52 ≤ (num / den).log2)
    (least : -1074 ≤ exponent) (normal : Normal rounded)
    (value : roundHalfEven num (den * 2 ^ excess (num / den)) = rounded) :
    roundWithAccuracy .binary64 sign (num / den) exponent (accuracyOfFraction (num % den) den) =
      .finite sign rounded (exponent + excess (num / den)) normal.pos := by
  have width := normal.log2
  have noExcess : excess rounded = 0 := by rw [excess, width]
  refine @roundWithAccuracy_of_shifts _ _ _ _ _ (⟨rounded, false, false⟩, _)
    (shiftToTargetExponent_eq long least) ?_ normal.pos
  rw [roundedMantissa_quotient positive, value, shiftToTargetExponent_eq (by omega) (by omega),
    noExcess]
  simp only [Int.natCast_zero, Int.add_zero]
  rfl

theorem roundWithAccuracy_carry (positive : 0 < den) (long : 52 ≤ (num / den).log2)
    (least : -1074 ≤ exponent)
    (value : roundHalfEven num (den * 2 ^ excess (num / den)) = 2 ^ 53) :
    roundWithAccuracy .binary64 sign (num / den) exponent (accuracyOfFraction (num % den) den) =
      .finite sign (2 ^ 52) (exponent + excess (num / den) + 1) (by decide) := by
  have width : (2 ^ 53).log2 = 53 := Nat.log2_two_pow
  refine @roundWithAccuracy_of_shifts _ _ _ _ _ (⟨2 ^ 52, false, false⟩, _)
    (shiftToTargetExponent_eq long least) ?_ (Nat.two_pow_pos 52)
  rw [roundedMantissa_quotient positive, value, shiftToTargetExponent_eq (by omega) (by omega)]
  rfl

/-! ## Packing -/

theorem toNat_implicitBit (bits : BitVec 52) :
    (1#1 ++ bits).toNat = 2 ^ 52 + bits.toNat := by
  rw [BitVec.toNat_append, ← Nat.shiftLeft_add_eq_or_of_lt bits.isLt]
  rfl

theorem finite_congr {other : Nat} {same : Int} {positive : 0 < mantissa}
    (mantissas : mantissa = other) (exponents : exponent = same) : UnpackedFloat.finite sign mantissa exponent positive =
      .finite sign other same (mantissas ▸ positive) := by
  subst mantissas exponents
  rfl

theorem exponentBias_eq : Format.binary64.exponentBias = 1023 := rfl

theorem pack_normal {positive : 0 < mantissa} (normal : Normal mantissa) {biased : Nat}
    (most : biased < 2047) :
    UnpackedFloat.pack .binary64 (.finite sign mantissa (biased - 1075) positive) =
      packComponents .binary64 sign (BitVec.ofNat 11 biased) (BitVec.ofNat 52 mantissa) := by
  have field : ((biased : Int) - 1075 + (1023 : Nat) + (52 : Nat)).toNat = biased := by omega
  have fits : ¬ 2 ^ 11 ≤ biased + 1 := by omega
  simp only [UnpackedFloat.pack, normal.log2, exponentBias_eq, field, if_neg fits]
  exact if_pos rfl

theorem unpack_pack_normal {positive : 0 < mantissa} (normal : Normal mantissa)
    (least : -1074 ≤ exponent) (most : exponent ≤ 971) :
    (Float.Model.pack (.finite sign mantissa exponent positive)).unpack =
      .finite sign mantissa exponent positive := by
  have upper := normal.2
  have lower := normal.1
  obtain ⟨biased, rfl⟩ : ∃ biased : Nat, exponent = biased - 1075 :=
    ⟨(exponent + 1075).toNat, by omega⟩
  have stored : (BitVec.ofNat 11 biased).toNat = biased := by
    rw [BitVec.toNat_ofNat, Nat.mod_eq_of_lt (by omega)]
  have nonzero : BitVec.ofNat 11 biased ≠ 0#11 := fun same => by
    rw [same] at stored
    change 0 = biased at stored
    omega
  have finite : BitVec.ofNat 11 biased ≠ -1#11 := fun same => by
    rw [same] at stored
    change 2047 = biased at stored
    omega
  change UnpackedFloat.unpack .binary64 (UnpackedFloat.pack .binary64 _) = _
  rw [pack_normal normal (by omega)]
  simp only [UnpackedFloat.unpack, unpackExponent_packComponents, unpackMantissa_packComponents,
    unpackSign_packComponents, Sign.ofBitVec_toBitVec]
  rw [if_neg finite, if_neg nonzero]
  refine finite_congr ?_ ?_
  · rw [toNat_implicitBit, BitVec.toNat_ofNat]
    omega
  · rw [stored, exponentBias_eq]
    omega

end Evergreen.Binary64
