import Evergreen.Failover.JointState

namespace Evergreen.Failover

/-! # When a promotion is attempted

The loop's counter is to be the number of failed checks in a row since the
start, the last successful check and the last successful promotion.  It is that
number modulo 2^32, so the attempts are due and made together until the count
of failures in a row no longer fits.
-/

/-- The loop with its history: the failed checks in a row since the latest of
its start, a successful check and a successful promotion. -/
structure Streak where
  monitor : Monitor
  failures : Nat
deriving DecidableEq, Repr

namespace FailoverShim

variable (shim : FailoverShim)

def streakTick (streak : Streak) (input : TickInput) : Streak where
  monitor := (shim.tick streak.monitor input).1
  failures :=
    if shim.checkFailed input then
      if (shim.tickCall streak.monitor input).any (·.succeeded) then 0 else streak.failures + 1
    else 0

def streaks : Machine Streak TickInput := .ofFunction shim.streakTick

def streakInitial : Streak := ⟨shim.initial, 0⟩

/-- `trigger_failover` is called exactly at a failed check that makes the row
long enough. -/
def AttemptsWhenDue (streak : Streak) (input : TickInput) : Prop :=
  (shim.tickCall streak.monitor input).isSome ↔
    shim.checkFailed input = true ∧ max 1 shim.failureThreshold ≤ streak.failures + 1

/-- The failed checks in a row stay below 2^32, unless every one of them is due. -/
def RowFits (streak : Streak) (input : TickInput) : Prop :=
  shim.checkFailed input = true → shim.failureThreshold = 0 ∨ streak.failures + 1 < 2 ^ 32

/-- The counter is the length of the row, modulo 2^32. -/
structure Counting (streak : Streak) : Prop where
  counter : streak.monitor.shared.consecutiveFailures = streak.failures % 2 ^ 32
  fits : shim.failureThreshold = 0 ∨ streak.failures < 2 ^ 32

end FailoverShim

open FailoverShim

variable {shim : FailoverShim} {streak : Streak} {input : TickInput}

theorem incrementU32_mod (counter : Nat) :
    incrementU32 (counter % 2 ^ 32) = (counter + 1) % 2 ^ 32 := by
  unfold incrementU32
  omega

theorem tickCall_isSome {monitor : Monitor} : (shim.tickCall monitor input).isSome ↔
    shim.checkFailed input = true ∧
      shim.failureThreshold ≤ incrementU32 monitor.shared.consecutiveFailures := by
  unfold tickCall
  split <;> simp_all

/-- Within the invariant an attempt is made when due exactly if the row fits. -/
theorem FailoverShim.Counting.attemptsWhenDue_iff (counting : shim.Counting streak)
    (threshold : shim.failureThreshold < 2 ^ 32) :
    shim.AttemptsWhenDue streak input ↔ shim.RowFits streak input := by
  have counter : incrementU32 streak.monitor.shared.consecutiveFailures =
      (streak.failures + 1) % 2 ^ 32 := by
    rw [counting.counter, incrementU32_mod]
  have fits := counting.fits
  unfold AttemptsWhenDue RowFits
  rw [tickCall_isSome, counter]
  constructor
  · intro exact failed
    have due := exact.mpr
    by_cases always : shim.failureThreshold = 0
    · exact .inl always
    · right
      by_contra wraps
      have called := (due ⟨failed, by omega⟩).2
      omega
  · intro fitting
    constructor
    · rintro ⟨failed, reached⟩
      refine ⟨failed, ?_⟩
      have := fitting failed
      omega
    · rintro ⟨failed, reached⟩
      refine ⟨failed, ?_⟩
      have := fitting failed
      omega

theorem FailoverShim.Counting.tick (counting : shim.Counting streak)
    (fitting : shim.RowFits streak input) : shim.Counting (shim.streakTick streak input) := by
  have counter : incrementU32 streak.monitor.shared.consecutiveFailures =
      (streak.failures + 1) % 2 ^ 32 := by
    rw [counting.counter, incrementU32_mod]
  cases failed : shim.checkFailed input with
  | false =>
      have passed : Passed shim streak.monitor (shim.tick streak.monitor input).1 input :=
        tick_passed failed
      constructor
      · simp [streakTick, failed, passed.consecutiveFailures]
      · exact .inr (by simp [streakTick, failed])
  | true =>
      have fits := fitting failed
      have shared : shim.tick streak.monitor input = _ := tick_failed failed
      by_cases due : shim.failureThreshold ≤
          incrementU32 streak.monitor.shared.consecutiveFailures
      · have called : shim.tickCall streak.monitor input =
            some ⟨streak.monitor.shared.currentPrimary, shim.replica, input.attempt.result⟩ := by
          simp [tickCall, failed, due]
        rw [recordFailedCheck_calls due] at shared
        cases promoted : input.attempt.result with
        | true =>
            constructor
            · simp [streakTick, failed, called, promoted, shared, triggerFailover]
            · exact .inr (by simp [streakTick, failed, called, promoted])
        | false =>
            constructor
            · simp [streakTick, failed, called, promoted, shared, triggerFailover, counter]
            · simpa [streakTick, failed, called, promoted] using fits
      · have uncalled : shim.tickCall streak.monitor input = none := by
          simp [tickCall, due]
        rw [recordFailedCheck_counts due] at shared
        constructor
        · simp [streakTick, failed, uncalled, shared, counter]
        · simpa [streakTick, failed, uncalled] using fits

theorem FailoverShim.Counting.initial : shim.Counting shim.streakInitial :=
  ⟨rfl, .inr (Nat.two_pow_pos 32)⟩

theorem FailoverShim.Counting.along_iff {inputs : List TickInput}
    (counting : shim.Counting streak) (threshold : shim.failureThreshold < 2 ^ 32) :
    shim.streaks.Along shim.AttemptsWhenDue streak inputs ↔
      shim.streaks.Along shim.RowFits streak inputs := by
  apply Machine.along_ofFunction_iff_along shim.Counting ?_ ?_ counting
  · intro streak input counting
    exact counting.attemptsWhenDue_iff threshold
  · intro streak input counting fitting
    exact counting.tick fitting

theorem streakTick_refused (streak : Streak) :
    ((pairedShim .tcp).streakTick streak refusedInput).failures = streak.failures + 1 := by
  have refused : ((pairedShim .tcp).tickCall streak.monitor refusedInput).any (·.succeeded) =
      false := by
    cases called : (pairedShim .tcp).tickCall streak.monitor refusedInput with
    | none => rfl
    | some call =>
        obtain ⟨_, _, rfl⟩ := tickCall_eq_some called
        rfl
  simp only [streakTick, refused]
  rfl

/-- A row that fits throughout refused promotions is short. -/
theorem refused_rowFits {checks : Nat}
    (along : (pairedShim .tcp).streaks.Along (pairedShim .tcp).RowFits streak
      (List.replicate (checks + 1) refusedInput)) : streak.failures + checks + 1 < 2 ^ 32 := by
  induction checks generalizing streak with
  | zero =>
      obtain ⟨fits, _⟩ := along _ rfl
      exact (fits rfl).resolve_left (by decide)
  | succ checks ih =>
      obtain ⟨_, rest⟩ := along _ rfl
      have short := ih rest
      rw [streakTick_refused] at short
      omega

end Evergreen.Failover
