import Mathlib.Order.Monotone.Basic
import Mathlib.Algebra.Order.Ring.Nat

namespace Evergreen.Backoff

/-! # Delays that double up to a maximum

Products and powers of `u64`, which overflow to an error in a build with checks
and wrap in one without, and what is expected of a delay computed with them.
-/

universe u

variable {Error : Type u} {checks : Bool} {left right base exponent : Nat}

inductive Overflow where
  | pow
  | mul
deriving DecidableEq, Repr

def mul (checks : Bool) (left right : Nat) : Except Overflow Nat :=
  if left * right < 2 ^ 64 then .ok (left * right)
  else if checks then .error .mul
  else .ok (left * right % 2 ^ 64)

/-- `2u64.pow(exponent)`. -/
def pow (checks : Bool) (exponent : Nat) : Except Overflow Nat :=
  if 2 ^ exponent < 2 ^ 64 then .ok (2 ^ exponent)
  else if checks then .error .pow
  else .ok (2 ^ exponent % 2 ^ 64)

theorem mul_of_lt (fits : left * right < 2 ^ 64) : mul checks left right = .ok (left * right) := by
  rw [mul, if_pos fits]

theorem pow_of_lt (fits : 2 ^ exponent < 2 ^ 64) : pow checks exponent = .ok (2 ^ exponent) := by
  rw [pow, if_pos fits]

theorem mul_checked {value : Nat} : mul true left right = .ok value ↔
    left * right < 2 ^ 64 ∧ value = left * right := by
  unfold mul
  split
  · next fits =>
      exact ⟨fun same => ⟨fits, (Except.ok.inj same).symm⟩, fun same => congrArg _ same.2.symm⟩
  · next overflows =>
      rw [if_pos rfl]
      exact iff_of_false (fun same => by cases same) fun fits => overflows fits.1

theorem pow_checked {value : Nat} : pow true exponent = .ok value ↔
    2 ^ exponent < 2 ^ 64 ∧ value = 2 ^ exponent := by
  unfold pow
  split
  · next fits =>
      exact ⟨fun same => ⟨fits, (Except.ok.inj same).symm⟩, fun same => congrArg _ same.2.symm⟩
  · next overflows =>
      rw [if_pos rfl]
      exact iff_of_false (fun same => by cases same) fun fits => overflows fits.1

theorem mul_unchecked : mul false left right = .ok (left * right % 2 ^ 64) := by
  unfold mul
  split
  · next fits => rw [Nat.mod_eq_of_lt fits]
  · rfl

/-- A delay for each possible attempt, computed without an error, never beyond
the maximum and never shorter for a later attempt. -/
structure Sound (delay : Nat → Except Error Nat) (possible : Nat → Prop) (maximum : Nat) : Prop where
  computed : ∀ attempt, possible attempt → ∃ value, delay attempt = .ok value
  bounded : ∀ attempt value, possible attempt → delay attempt = .ok value → value ≤ maximum
  growing : ∀ earlier later first second, earlier ≤ later → possible earlier → possible later →
    delay earlier = .ok first → delay later = .ok second → first ≤ second

theorem sound_of_values {delay : Nat → Except Error Nat} {possible : Nat → Prop} {maximum : Nat}
    (value : Nat → Nat) (computed : ∀ attempt, possible attempt → delay attempt = .ok (value attempt))
    (bounded : ∀ attempt, value attempt ≤ maximum) (growing : Monotone value) :
    Sound delay possible maximum := by
  constructor
  · exact fun attempt possible => ⟨value attempt, computed attempt possible⟩
  · intro attempt found possible same
    rw [computed attempt possible] at same
    cases same
    exact bounded attempt
  · intro earlier later first second ordered possible also one two
    rw [computed earlier possible] at one
    rw [computed later also] at two
    cases one
    cases two
    exact growing ordered

def capped (base maximum exponent : Nat) : Nat := min (base * 2 ^ exponent) maximum

theorem capped_le {maximum : Nat} : capped base maximum exponent ≤ maximum := min_le_right _ _

theorem capped_mono {maximum : Nat} : Monotone (capped base maximum) := by
  intro lesser greater ordered
  exact min_le_min_right _ (Nat.mul_le_mul_left _ (Nat.pow_le_pow_right (by decide) ordered))

/-- No delay before the first attempt, and the doubled one before the others. -/
def delayed (base maximum attempt : Nat) : Nat :=
  if attempt = 0 then 0 else capped base maximum (attempt - 1)

theorem delayed_le {maximum attempt : Nat} : delayed base maximum attempt ≤ maximum := by
  unfold delayed
  split
  · exact Nat.zero_le _
  · exact capped_le

theorem delayed_mono {maximum : Nat} : Monotone (delayed base maximum) := by
  intro lesser greater ordered
  unfold delayed
  split
  · exact Nat.zero_le _
  · next later =>
      rw [if_neg (by omega)]
      exact capped_mono (Nat.sub_le_sub_right ordered 1)

end Evergreen.Backoff
