import Evergreen.Migration.Lock

namespace Evergreen.Migration

/-! # When a lock counts as stale

`is_stale` compares the age of a lock as an unsigned number.  The age on a clock
that is behind the one that made the lock is negative, and wraps.
-/

/-- The lock is not called stale at an age under the threshold, nor before the
instant at which it was made. -/
def MigrationLock.StaleInTime (lock : MigrationLock) (info : LockInfo) (now : Int) : Prop :=
  lock.isStale now (some (.json info)) = true →
    info.createdAt ≤ now ∧ (lock.staleThresholdSecs : Int) * 10 ^ 9 ≤ now - info.createdAt

/-- The clock is less than a second behind that of the lock, or the threshold is
not under what the negative age becomes. -/
def MigrationLock.ReadsInTime (lock : MigrationLock) (info : LockInfo) (now : Int) : Prop :=
  info.createdAt < now + 10 ^ 9 ∨ secondsAsU64 (now - info.createdAt) ≤ lock.staleThresholdSecs

theorem MigrationLock.isStale_json {lock : MigrationLock} {info : LockInfo} {now : Int} :
    lock.isStale now (some (.json info)) = true ↔
      lock.staleThresholdSecs < secondsAsU64 (now - info.createdAt) := by
  rw [isStale, decide_eq_true_iff]

/-- A lock is stale in time exactly when it is read on a clock that is not a
second behind, or under a threshold that no negative age passes. -/
theorem staleInTime_iff (lock : MigrationLock) (info : LockInfo) (now : Int) :
    lock.StaleInTime info now ↔ lock.ReadsInTime info now := by
  rw [MigrationLock.StaleInTime, MigrationLock.ReadsInTime, MigrationLock.isStale_json]
  constructor
  · intro inTime
    by_contra late
    obtain ⟨behind, passes⟩ := not_or.mp late
    have made := (inTime (not_le.mp passes)).1
    omega
  · rintro (near | under) passed
    · have elapsed := lt_of_lt_secondsAsU64 (by omega) passed
      omega
    · omega

/-- Made by a host whose clock is five seconds ahead, and stale at once. -/
theorem not_staleInTime_ahead :
    ¬ MigrationLock.new.StaleInTime ⟨4711, "other", 5 * 10 ^ 9⟩ 0 := by
  intro inTime
  have made := (inTime rfl).1
  cases made

end Evergreen.Migration
