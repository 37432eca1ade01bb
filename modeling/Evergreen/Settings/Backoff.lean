import Evergreen.Backup.Outcome
import Evergreen.Queue.Jobs
import Evergreen.Scheduler.Loop
import Evergreen.Word.Backoff

namespace Evergreen

/-! # The delays between retries

Four shims double a configured delay.  Two saturate the power and multiply
without, two compute the power and the product plainly; what is capped is the
product.
-/

open Backoff

/-! ## The proxy -/

/-- What `retry_delay_ms` reads of the proxy's state. -/
structure Proxy.RetrySettings where
  retryAttempts : Nat
  retryBaseMs : Nat
deriving DecidableEq, Repr

namespace Proxy.RetrySettings

variable (delayForAttempt : Nat → Nat → Nat → Nat) (checks : Bool) (settings : RetrySettings)

/-- `delayForAttempt` is the library's, of the initial delay and the maximum. -/
def retryDelayMs (attempt : Nat) : Except Overflow Nat :=
  if attempt = 0 then .ok 0
  else do
    let factor ← pow checks settings.retryAttempts
    let maxDelay ← mul checks settings.retryBaseMs factor
    return delayForAttempt settings.retryBaseMs maxDelay (attempt - 1) % 2 ^ 64

def maximum : Nat := settings.retryBaseMs * 2 ^ settings.retryAttempts

def BackoffFits : Prop :=
  2 ^ settings.retryAttempts < 2 ^ 64 ∧ settings.retryBaseMs * 2 ^ settings.retryAttempts < 2 ^ 64

end Proxy.RetrySettings

/-! ## The queue and the scheduler -/

def saturatingDelay (checks : Bool) (base maximum attempt : Nat) : Except Overflow Nat :=
  (mul checks base (min (2 ^ min attempt 31) (2 ^ 32 - 1))).map (min · maximum)

/-- The product of the last exponent is a `u64`. -/
def SaturatingFits (base : Nat) : Prop := base * 2 ^ 31 < 2 ^ 64

instance (base : Nat) : Decidable (SaturatingFits base) := inferInstanceAs (Decidable (_ < _))

/-- `QueueShim::retry_delay` with the overflow checks of the build. -/
def Queue.QueueShim.checkedDelay (checks : Bool) (shim : Queue.QueueShim) (attempt : Nat) :
    Except Overflow Nat :=
  saturatingDelay checks shim.retryBaseSecs shim.retryMaxSecs attempt

/-- `SchedulerShim::retry_delay` with the overflow checks of the build, up to the
jitter. -/
def Scheduler.RetryConfig.checkedDelay (checks : Bool) (config : Scheduler.RetryConfig)
    (attempt : Nat) : Except Overflow Nat :=
  saturatingDelay checks config.baseDelaySecs config.maxDelaySecs attempt

theorem Queue.QueueShim.checkedDelay_release (shim : Queue.QueueShim) (attempt : Nat) :
    shim.checkedDelay false attempt = .ok (shim.retryDelay attempt) := by
  rw [Queue.QueueShim.checkedDelay, saturatingDelay, mul_unchecked]
  rfl

theorem Scheduler.RetryConfig.checkedDelay_release (config : Scheduler.RetryConfig) (attempt : Nat) :
    config.checkedDelay false attempt = .ok (Scheduler.retryDelay attempt config 0) := by
  have word : config.baseDelaySecs * min (2 ^ min attempt 31) (2 ^ 32 - 1) % 2 ^ 64 < 2 ^ 64 :=
    Nat.mod_lt _ (by decide)
  rw [Scheduler.RetryConfig.checkedDelay, saturatingDelay, mul_unchecked, Scheduler.retryDelay,
    Nat.zero_min, Nat.add_zero, Nat.mod_eq_of_lt ((min_le_left _ _).trans_lt word)]
  rfl

/-! ## The backup -/

def Backup.BackupShim.BackoffFits (shim : Backup.BackupShim) : Prop :=
  shim.retryMaxAttempts = 0 ∨
    2 ^ (shim.retryMaxAttempts - 1) < 2 ^ 64 ∧
      shim.retryBaseDelayMs * 2 ^ (shim.retryMaxAttempts - 1) < 2 ^ 64

/-! ## When they are sound -/

def IsU32 (attempt : Nat) : Prop := attempt < 2 ^ 32

instance (attempt : Nat) : Decidable (IsU32 attempt) := inferInstanceAs (Decidable (_ < _))

variable {delayForAttempt : Nat → Nat → Nat → Nat} {checks : Bool}

theorem Proxy.RetrySettings.sound_iff {settings : RetrySettings}
    (documented : ∀ initial maximum attempt,
      delayForAttempt initial maximum attempt = min (initial * 2 ^ attempt) maximum) :
    (∀ checks, Sound (settings.retryDelayMs delayForAttempt checks) IsU32 settings.maximum) ↔
      settings.BackoffFits := by
  constructor
  · intro sound
    obtain ⟨value, computed⟩ := (sound true).computed 1 (by decide)
    rw [retryDelayMs, if_neg (by decide)] at computed
    cases power : pow true settings.retryAttempts with
    | error overflow =>
        rw [power] at computed
        cases computed
    | ok factor =>
        rw [power] at computed
        obtain ⟨small, rfl⟩ := pow_checked.mp power
        cases product : mul true settings.retryBaseMs (2 ^ settings.retryAttempts) with
        | error overflow =>
            simp only [bind, Except.bind, product] at computed
            cases computed
        | ok maxDelay => exact ⟨small, (mul_checked.mp product).1⟩
  · rintro ⟨small, fits⟩ checks
    apply sound_of_values (delayed settings.retryBaseMs settings.maximum)
    · intro attempt _
      unfold retryDelayMs delayed
      split
      · rfl
      · have word : capped settings.retryBaseMs settings.maximum (attempt - 1) < 2 ^ 64 :=
          capped_le.trans_lt fits
        rw [pow_of_lt small]
        simp only [bind, Except.bind, mul_of_lt fits, documented]
        exact congrArg Except.ok (Nat.mod_eq_of_lt word)
    · exact fun attempt => delayed_le
    · exact delayed_mono

theorem saturatingDelay_sound_iff {base maximum : Nat} :
    (∀ checks, Sound (saturatingDelay checks base maximum) IsU32 maximum) ↔ SaturatingFits base := by
  have factor : ∀ attempt, min (2 ^ min attempt 31) (2 ^ 32 - 1) = 2 ^ min attempt 31 := by
    intro attempt
    have small : 2 ^ min attempt 31 ≤ 2 ^ 31 := Nat.pow_le_pow_right (by decide) (min_le_right _ _)
    exact min_eq_left (small.trans (by decide))
  constructor
  · intro sound
    obtain ⟨value, computed⟩ := (sound true).computed 31 (by decide)
    cases product : mul true base (2 ^ 31) with
    | error overflow =>
        rw [saturatingDelay, factor, min_self, product] at computed
        cases computed
    | ok delay => exact (mul_checked.mp product).1
  · intro fits checks
    apply sound_of_values fun attempt => capped base maximum (min attempt 31)
    · intro attempt _
      have most : 2 ^ min attempt 31 ≤ 2 ^ 31 := Nat.pow_le_pow_right (by decide) (min_le_right _ _)
      rw [saturatingDelay, factor, mul_of_lt ((Nat.mul_le_mul_left base most).trans_lt fits)]
      rfl
    · exact fun attempt => capped_le
    · exact fun earlier later ordered => capped_mono (min_le_min_right 31 ordered)

theorem Backup.BackupShim.sound_iff {shim : BackupShim} :
    (∀ checks, Sound (shim.delayMs checks) (· ≤ shim.retryMaxAttempts) shim.retryMaxDelayMs) ↔
      shim.BackoffFits := by
  constructor
  · intro sound
    by_cases never : shim.retryMaxAttempts = 0
    · exact .inl never
    · have computed := (sound true).computed shim.retryMaxAttempts le_rfl
      exact .inr (delayMs_eq_ok_iff.mp computed rfl never)
  · intro fits checks
    apply sound_of_values (delayed shim.retryBaseDelayMs shim.retryMaxDelayMs)
    · intro attempt possible
      by_cases first : attempt = 0
      · simp [delayMs, delayed, first]
      · obtain ⟨power, product⟩ := fits.resolve_left fun never => first (by omega)
        have most : 2 ^ (attempt - 1) ≤ 2 ^ (shim.retryMaxAttempts - 1) :=
          Nat.pow_le_pow_right (by decide) (Nat.sub_le_sub_right possible 1)
        have small : 2 ^ (attempt - 1) < 2 ^ 64 := most.trans_lt power
        have word : shim.retryBaseDelayMs * 2 ^ (attempt - 1) < 2 ^ 64 :=
          (Nat.mul_le_mul_left _ most).trans_lt product
        have noPow : ¬(checks ∧ 2 ^ 64 ≤ 2 ^ (attempt - 1)) :=
          fun exceeded => exceeded.2.not_gt small
        have noMul : ¬(checks ∧ 2 ^ 64 ≤ shim.retryBaseDelayMs * 2 ^ (attempt - 1)) :=
          fun exceeded => exceeded.2.not_gt word
        simp only [delayMs, delayed, if_neg first, if_neg noPow, Nat.mod_eq_of_lt small,
          if_neg noMul, Nat.mod_eq_of_lt word]
        rfl
    · exact fun attempt => delayed_le
    · exact delayed_mono

/-- With and without overflow checks, and for every attempt, the four delays are
computed without overflow, grow with the attempt and stay within their maximum
exactly when the product of each that has the greatest exponent is a `u64`. -/
theorem backoffs_sound_iff
    (documented : ∀ initial maximum attempt,
      delayForAttempt initial maximum attempt = min (initial * 2 ^ attempt) maximum)
    (proxy : Proxy.RetrySettings) (queue : Queue.QueueShim) (scheduler : Scheduler.RetryConfig)
    (backup : Backup.BackupShim) :
    (∀ checks, Sound (proxy.retryDelayMs delayForAttempt checks) IsU32 proxy.maximum ∧
      Sound (queue.checkedDelay checks) IsU32 queue.retryMaxSecs ∧
      Sound (scheduler.checkedDelay checks) IsU32 scheduler.maxDelaySecs ∧
      Sound (backup.delayMs checks) (· ≤ backup.retryMaxAttempts) backup.retryMaxDelayMs) ↔
    proxy.BackoffFits ∧ SaturatingFits queue.retryBaseSecs ∧
      SaturatingFits scheduler.baseDelaySecs ∧ backup.BackoffFits := by
  rw [← Proxy.RetrySettings.sound_iff documented, ← saturatingDelay_sound_iff,
    ← saturatingDelay_sound_iff, ← Backup.BackupShim.sound_iff, ← forall_and, ← forall_and,
    ← forall_and]
  rfl

/-- The library's delay, as it is documented. -/
def documentedDelay (initial maximum attempt : Nat) : Nat := min (initial * 2 ^ attempt) maximum

theorem backoffs_sound_default :
    Sound (Proxy.RetrySettings.retryDelayMs documentedDelay true ⟨3, 100⟩) IsU32 800 ∧
      Sound ((Queue.QueueShim.new 4 3 5 300 3600).checkedDelay true) IsU32 300 ∧
      Sound (Scheduler.RetryConfig.default.checkedDelay true) IsU32 300 ∧
      Sound (Backup.BackupShim.delayMs true {}) (· ≤ 3) 30000 := by
  apply (backoffs_sound_iff (fun _ _ _ => rfl) ⟨3, 100⟩ (.new 4 3 5 300 3600) .default {}).mpr
  refine ⟨⟨?_, ?_⟩, ?_, ?_, .inr ⟨?_, ?_⟩⟩ <;> decide

/-- With a base of 2^33 seconds the product before attempt 31 is 2^64: the delay
is 0 after one of 300 seconds. -/
theorem not_backoffs_sound :
    ¬∀ (delayForAttempt : Nat → Nat → Nat → Nat),
      (∀ initial maximum attempt,
        delayForAttempt initial maximum attempt = min (initial * 2 ^ attempt) maximum) →
      ∀ (proxy : Proxy.RetrySettings) (queue : Queue.QueueShim) (scheduler : Scheduler.RetryConfig)
        (backup : Backup.BackupShim) (checks : Bool),
        Sound (proxy.retryDelayMs delayForAttempt checks) IsU32 proxy.maximum ∧
          Sound (queue.checkedDelay checks) IsU32 queue.retryMaxSecs ∧
          Sound (scheduler.checkedDelay checks) IsU32 scheduler.maxDelaySecs ∧
          Sound (backup.delayMs checks) (· ≤ backup.retryMaxAttempts) backup.retryMaxDelayMs := by
  intro claimed
  obtain ⟨_, sound, _⟩ := claimed documentedDelay (fun _ _ _ => rfl) ⟨3, 100⟩
    (.new 4 3 (2 ^ 33) 300 3600) .default {} false
  have grows := sound.growing 30 31 _ _ (by decide) (by decide) (by decide)
    (Queue.QueueShim.checkedDelay_release _ 30) (Queue.QueueShim.checkedDelay_release _ 31)
  exact absurd grows (by decide)

end Evergreen
