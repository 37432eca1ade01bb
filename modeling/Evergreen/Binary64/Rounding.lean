import Mathlib.Algebra.Order.Ring.Nat
import Mathlib.Tactic.Linarith

namespace Evergreen.Binary64

/-! # Rounding to the nearest, ties to even

Quotients of natural numbers are rounded to integers, and natural numbers to the
53 bits of a double's mantissa.
-/

variable {num den other bound : Nat}

/-- `num / den`, rounded to the nearest integer, or to the even one of two. -/
def roundHalfEven (num den : Nat) : Nat :=
  match compare (2 * (num % den)) den with
  | .lt => num / den
  | .eq => num / den + num / den % 2
  | .gt => num / den + 1

theorem roundHalfEven_cases (num den : Nat) :
    2 * (num % den) < den ∧ roundHalfEven num den = num / den ∨
    2 * (num % den) = den ∧ roundHalfEven num den = num / den + num / den % 2 ∨
    den < 2 * (num % den) ∧ roundHalfEven num den = num / den + 1 := by
  rcases lt_trichotomy (2 * (num % den)) den with below | middle | above
  · exact .inl ⟨below, by rw [roundHalfEven, Nat.compare_eq_lt.mpr below]⟩
  · exact .inr (.inl ⟨middle, by rw [roundHalfEven, Nat.compare_eq_eq.mpr middle]⟩)
  · exact .inr (.inr ⟨above, by rw [roundHalfEven, Nat.compare_eq_gt.mpr above]⟩)

/-- An integer above the half is not passed. -/
theorem lt_roundHalfEven (positive : 0 < den) (above : (2 * bound + 1) * den < 2 * num) :
    bound < roundHalfEven num den := by
  have split := Nat.div_add_mod num den
  have remainder := Nat.mod_lt num positive
  by_contra low
  have floor : num / den ≤ bound := by
    rcases roundHalfEven_cases num den with ⟨_, same⟩ | ⟨_, same⟩ | ⟨_, same⟩ <;> omega
  have product : den * (num / den) ≤ den * bound := Nat.mul_le_mul_left den floor
  rcases roundHalfEven_cases num den with ⟨near, same⟩ | ⟨near, same⟩ | ⟨near, same⟩
  · nlinarith
  · nlinarith
  · have strict : den * (num / den + 1) ≤ den * bound := Nat.mul_le_mul_left den (by omega)
    nlinarith

theorem le_roundHalfEven (positive : 0 < den) (above : bound * den ≤ num) :
    bound ≤ roundHalfEven num den := by
  have floor : bound ≤ num / den := (Nat.le_div_iff_mul_le positive).mpr above
  rcases roundHalfEven_cases num den with ⟨_, same⟩ | ⟨_, same⟩ | ⟨_, same⟩ <;> omega

theorem roundHalfEven_le (positive : 0 < den) (below : num ≤ bound * den) :
    roundHalfEven num den ≤ bound := by
  have floor : num / den ≤ bound := Nat.div_le_of_le_mul (by rwa [Nat.mul_comm])
  rcases Nat.lt_or_eq_of_le floor with strict | exact
  · rcases roundHalfEven_cases num den with ⟨_, same⟩ | ⟨_, same⟩ | ⟨_, same⟩ <;> omega
  · -- the quotient is the bound itself, and nothing remains
    have split := Nat.div_add_mod num den
    rw [exact, Nat.mul_comm] at split
    have nothing : num % den = 0 := by omega
    rcases roundHalfEven_cases num den with ⟨_, same⟩ | ⟨half, _⟩ | ⟨half, _⟩ <;> omega

theorem roundHalfEven_mono (positive : 0 < den) (ordered : num ≤ other) :
    roundHalfEven num den ≤ roundHalfEven other den := by
  have floors : num / den ≤ other / den := Nat.div_le_div_right ordered
  rcases Nat.lt_or_eq_of_le floors with strict | same
  · have reached : (num / den + 1) * den ≤ other :=
      (Nat.mul_le_mul_right den strict).trans (Nat.div_mul_le_self other den)
    refine le_trans ?_ (le_roundHalfEven positive reached)
    rcases roundHalfEven_cases num den with ⟨_, same⟩ | ⟨_, same⟩ | ⟨_, same⟩ <;> omega
  · have first := Nat.div_add_mod num den
    have second := Nat.div_add_mod other den
    rw [← same] at second
    rcases roundHalfEven_cases num den with ⟨_, low⟩ | ⟨_, low⟩ | ⟨_, low⟩ <;>
      rcases roundHalfEven_cases other den with ⟨_, high⟩ | ⟨_, high⟩ | ⟨_, high⟩ <;>
      rw [low, high, ← same] <;> omega

theorem roundHalfEven_mul (positive : 0 < den) : roundHalfEven (bound * den) den = bound :=
  le_antisymm (roundHalfEven_le positive (Nat.le_refl _)) (le_roundHalfEven positive (Nat.le_refl _))

/-! ## The nearest double of a natural number -/

/-- The bits of a number behind the 53 that a mantissa holds. -/
def excess (number : Nat) : Nat :=
  number.log2 - 52

/-- The number that the mantissa of 53 bits stands for. -/
def nearest (number : Nat) : Nat :=
  roundHalfEven number (2 ^ excess number) * 2 ^ excess number

theorem nearest_eq_self {number : Nat} (small : number < 2 ^ 53) : nearest number = number := by
  have noExcess : excess number = 0 := by
    rcases Nat.eq_zero_or_pos number with rfl | positive
    · rfl
    · have short := (Nat.log2_lt (Nat.ne_of_gt positive)).mpr small
      rw [excess]
      omega
  have exact := @roundHalfEven_mul 1 number Nat.one_pos
  rw [Nat.mul_one] at exact
  rw [nearest, noExcess, Nat.pow_zero, exact, Nat.mul_one]

/-- With 53 bits and more the mantissa has 53, or carries into the next power. -/
theorem mantissa_bounds {number : Nat} (long : 52 ≤ number.log2) :
    2 ^ 52 ≤ roundHalfEven number (2 ^ excess number) ∧
      roundHalfEven number (2 ^ excess number) ≤ 2 ^ 53 := by
  have nonzero : number ≠ 0 := by
    rintro rfl
    cases long
  have width : number.log2 = 52 + excess number := by rw [excess]; omega
  refine ⟨le_roundHalfEven (Nat.two_pow_pos _) ?_, roundHalfEven_le (Nat.two_pow_pos _) ?_⟩
  · rw [← Nat.pow_add, ← width]
    exact Nat.log2_self_le nonzero
  · rw [← Nat.pow_add, show 53 + excess number = number.log2 + 1 by omega]
    exact Nat.le_of_lt Nat.lt_log2_self

theorem nearest_between {number : Nat} (nonzero : number ≠ 0) :
    2 ^ number.log2 ≤ nearest number ∧ nearest number ≤ 2 ^ (number.log2 + 1) := by
  by_cases long : 52 ≤ number.log2
  · obtain ⟨lower, upper⟩ := mantissa_bounds long
    have width : number.log2 = 52 + excess number := by rw [excess]; omega
    refine ⟨?_, ?_⟩
    · calc 2 ^ number.log2 = 2 ^ 52 * 2 ^ excess number := by rw [← Nat.pow_add, ← width]
        _ ≤ nearest number := Nat.mul_le_mul_right _ lower
    · calc nearest number ≤ 2 ^ 53 * 2 ^ excess number := Nat.mul_le_mul_right _ upper
        _ = 2 ^ (number.log2 + 1) := by
          rw [← Nat.pow_add, show 53 + excess number = number.log2 + 1 by omega]
  · have small : number < 2 ^ 53 := (Nat.log2_lt nonzero).mp (by omega)
    rw [nearest_eq_self small]
    exact ⟨Nat.log2_self_le nonzero, Nat.le_of_lt Nat.lt_log2_self⟩

theorem nearest_mono {number larger : Nat} (ordered : number ≤ larger) :
    nearest number ≤ nearest larger := by
  rcases Nat.eq_zero_or_pos number with rfl | positive
  · exact Nat.zero_le _
  · have widths : number.log2 ≤ larger.log2 := by
      rw [Nat.le_log2 (by omega)]
      exact (Nat.log2_self_le (by omega)).trans ordered
    rcases Nat.lt_or_eq_of_le widths with shorter | same
    · calc nearest number ≤ 2 ^ (number.log2 + 1) := (nearest_between (by omega)).2
        _ ≤ 2 ^ larger.log2 := Nat.pow_le_pow_right (by decide) shorter
        _ ≤ nearest larger := (nearest_between (by omega)).1
    · rw [nearest, nearest, excess, excess, same]
      exact Nat.mul_le_mul_right _ (roundHalfEven_mono (Nat.two_pow_pos _) ordered)

end Evergreen.Binary64
