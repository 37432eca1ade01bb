import Mathlib.Algebra.Order.Ring.Int

namespace Evergreen

/-! # Durations as the code compares them

A difference of two UTC clock readings is signed.  The shims read it with
`num_seconds() as u64`, which truncates towards zero and then wraps.
-/

/-- `num_seconds() as u64` of a duration in nanoseconds. -/
def secondsAsU64 (nanoseconds : Int) : Nat :=
  (nanoseconds.tdiv 1000000000 % 2 ^ 64).toNat

/-- A number of seconds under the reading has passed, unless the clock was a
second behind. -/
theorem lt_of_lt_secondsAsU64 {nanoseconds : Int} {seconds : Nat}
    (ahead : -10 ^ 9 < nanoseconds) (passed : seconds < secondsAsU64 nanoseconds) :
    ((seconds : Int) + 1) * 10 ^ 9 ≤ nanoseconds := by
  rw [secondsAsU64] at passed
  rcases Int.le_total 0 nanoseconds with positive | negative
  · rw [Int.tdiv_eq_ediv_of_nonneg positive] at passed
    omega
  · have none : (-nanoseconds).tdiv 1000000000 = 0 := by
      rw [Int.tdiv_eq_ediv_of_nonneg (by omega)]
      omega
    rw [← Int.neg_neg nanoseconds, Int.neg_tdiv, none] at passed
    omega

end Evergreen
