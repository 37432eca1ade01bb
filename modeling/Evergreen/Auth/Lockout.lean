import Evergreen.Auth.Shim

namespace Evergreen.Auth

/-! # Lockouts

Failed logins are counted until the next successful one.  A lockout that has
expired leaves the count where it is, so that the next failure starts another.
-/

structure LockingShim extends AuthShim where
  maxFailedLogins : Nat
  lockoutSecs : Nat
  failedAttempts : String → Option Nat := fun _ => none
  lockedUsers : String → Option Int := fun _ => none

namespace LockingShim

/-- The counter is a `u32`. -/
def recordFailedLogin (shim : LockingShim) (user : String) (now : Int) : LockingShim × Bool :=
  let attempts := ((shim.failedAttempts user).getD 0 + 1) % 2 ^ 32
  let counted := { shim with failedAttempts := Function.update shim.failedAttempts user (some attempts) }
  if shim.maxFailedLogins ≤ attempts then
    ({ counted with lockedUsers := Function.update shim.lockedUsers user (some now) }, true)
  else
    (counted, false)

def isLockedOut (shim : LockingShim) (user : String) (now : Int) : Bool :=
  match shim.lockedUsers user with
  | some lockedAt => decide ((now - lockedAt).tdiv 1000000000 < asI64 shim.lockoutSecs)
  | none => false

def clearFailedAttempts (shim : LockingShim) (user : String) : LockingShim :=
  { shim with
    failedAttempts := Function.update shim.failedAttempts user none
    lockedUsers := Function.update shim.lockedUsers user none }

end LockingShim

/-! ## The history of a user -/

/-- What a user's history says: the failed logins since the last clear and since
the last lockout expired, the time of the last one, and the lockout that has not
been seen to expire. -/
structure Ledger where
  sinceClear : Nat := 0
  sinceExpiry : Nat := 0
  last : Option Int := none
  lockout : Option Int := none
deriving DecidableEq

namespace Ledger

/-- The history at an instant, when the lockout may have expired. -/
def asOf (ledger : Ledger) (lockoutSecs : Nat) (now : Int) : Ledger :=
  if ∃ lockedAt ∈ ledger.lockout, lockoutSecs * 1000000000 ≤ now - lockedAt then
    { ledger with sinceExpiry := 0, lockout := none }
  else ledger

def failed (ledger : Ledger) (now : Int) (locks : Bool) : Ledger where
  sinceClear := ledger.sinceClear + 1
  sinceExpiry := ledger.sinceExpiry + 1
  last := some now
  lockout := if locks then some now else ledger.lockout

end Ledger

structure Watched where
  shim : LockingShim
  ledgers : String → Ledger := fun _ => {}
  clock : Int

inductive Operation where
  | recordFailedLogin (user : String)
  | isLockedOut (user : String)
  | clearFailedAttempts (user : String)
deriving DecidableEq, Repr

structure Timed where
  now : Int
  operation : Operation
deriving DecidableEq, Repr

namespace Watched

def ledgerAt (watched : Watched) (user : String) (now : Int) : Ledger :=
  (watched.ledgers user).asOf watched.shim.lockoutSecs now

def perform (watched : Watched) (now : Int) : Operation → Watched
  | .recordFailedLogin user =>
      let (shim, locks) := watched.shim.recordFailedLogin user now
      { shim
        ledgers := Function.update watched.ledgers user ((watched.ledgerAt user now).failed now locks)
        clock := now }
  | .isLockedOut _ => { watched with clock := now }
  | .clearFailedAttempts user =>
      { shim := watched.shim.clearFailedAttempts user
        ledgers := Function.update watched.ledgers user {}
        clock := now }

/-- Whoever is reported locked out has used up the attempts since the last
clear and the last expiry, and the last of them is recent. -/
def Lawful (watched : Watched) : Prop :=
  ∀ user now, watched.clock ≤ now → watched.shim.isLockedOut user now = true →
    watched.shim.maxFailedLogins ≤ (watched.ledgerAt user now).sinceExpiry ∧
      ∃ last, (watched.ledgerAt user now).last = some last ∧
        now - last < watched.shim.lockoutSecs * 1000000000

/-- A failed login that brings the count since the last clear to the limit is
also that many failures after the last expiry. -/
def Spares (watched : Watched) (timed : Timed) : Prop :=
  ∀ user, timed.operation = .recordFailedLogin user → 0 < asI64 watched.shim.lockoutSecs →
    watched.shim.maxFailedLogins ≤ ((watched.ledgers user).sinceClear + 1) % 2 ^ 32 →
      watched.shim.maxFailedLogins ≤ (watched.ledgerAt user timed.now).sinceExpiry + 1

end Watched

/-- Time does not go back. -/
def lockouts : Machine Watched Timed where
  step watched timed :=
    if watched.clock ≤ timed.now then some (watched.perform timed.now timed.operation) else none

/-! ## One lockout after another -/

variable {shim : LockingShim} {ledger : Ledger} {watched : Watched} {user : String}
variable {now later clock lockedAt : Int} {secs : Nat}

theorem asI64_le (value : Nat) : asI64 value ≤ value := by
  unfold asI64
  split <;> omega

theorem LockingShim.isLockedOut_iff : shim.isLockedOut user now = true ↔
    ∃ lockedAt, shim.lockedUsers user = some lockedAt ∧
      (now - lockedAt).tdiv 1000000000 < asI64 shim.lockoutSecs := by
  unfold isLockedOut
  cases shim.lockedUsers user with
  | none => simp
  | some lockedAt => simp

/-- A lockout that is reported has not expired. -/
theorem not_expired (after : lockedAt ≤ now) (reported : (now - lockedAt).tdiv 1000000000 < asI64 secs) :
    now - lockedAt < secs * 1000000000 := by
  have bound := asI64_le secs
  rw [Int.tdiv_eq_ediv_of_nonneg (by omega)] at reported
  omega

namespace Ledger

theorem asOf_running (held : ledger.lockout = some lockedAt)
    (running : now - lockedAt < secs * 1000000000) : ledger.asOf secs now = ledger := by
  refine if_neg ?_
  rintro ⟨other, member, expired⟩
  obtain rfl : lockedAt = other := Option.some.inj (held.symm.trans member)
  omega

theorem sinceClear_asOf : (ledger.asOf secs now).sinceClear = ledger.sinceClear := by
  unfold asOf
  split <;> rfl

theorem last_asOf : (ledger.asOf secs now).last = ledger.last := by
  unfold asOf
  split <;> rfl

theorem lockout_asOf (held : (ledger.asOf secs now).lockout = some lockedAt) :
    ledger.lockout = some lockedAt ∧ ledger.asOf secs now = ledger := by
  unfold asOf at held ⊢
  split at held
  case isTrue expired => cases held
  case isFalse running => exact ⟨held, if_neg running⟩

end Ledger

/-- What the shim keeps of a user is what the user's history says, but for a
lockout that has expired.  A lockout that has not was earned. -/
structure Tracks (shim : LockingShim) (user : String) (ledger : Ledger) (clock : Int) : Prop where
  counted : (shim.failedAttempts user).getD 0 = ledger.sinceClear % 2 ^ 32
  locked : ∀ lockedAt, ledger.lockout = some lockedAt → shim.lockedUsers user = some lockedAt
  stale : ∀ lockedAt, shim.lockedUsers user = some lockedAt → ledger.lockout = some lockedAt ∨
    shim.lockoutSecs * 1000000000 ≤ clock - lockedAt
  earned : ∀ lockedAt, ledger.lockout = some lockedAt →
    asI64 shim.lockoutSecs ≤ 0 ∨ shim.maxFailedLogins ≤ ledger.sinceExpiry
  recent : ∀ lockedAt, ledger.lockout = some lockedAt →
    ∃ last, ledger.last = some last ∧ lockedAt ≤ last ∧ lockedAt ≤ clock

theorem Tracks.asOf (tracks : Tracks shim user ledger clock) (ordered : clock ≤ now) :
    Tracks shim user (ledger.asOf shim.lockoutSecs now) now where
  counted := by rw [tracks.counted, Ledger.sinceClear_asOf]
  locked lockedAt held := tracks.locked lockedAt (Ledger.lockout_asOf held).1
  stale lockedAt kept := by
    rcases tracks.stale lockedAt kept with held | old
    · by_cases expired : shim.lockoutSecs * 1000000000 ≤ now - lockedAt
      · exact .inr expired
      · exact .inl (by rw [Ledger.asOf_running held (by omega)]; exact held)
    · exact .inr (by omega)
  earned lockedAt held := by
    obtain ⟨before, same⟩ := Ledger.lockout_asOf held
    rw [same]
    exact tracks.earned lockedAt before
  recent lockedAt held := by
    obtain ⟨last, recorded, after, past⟩ := tracks.recent lockedAt (Ledger.lockout_asOf held).1
    exact ⟨last, Ledger.last_asOf.trans recorded, after, past.trans ordered⟩

/-- One more failed login, earned if it locks. -/
theorem Tracks.failed (tracks : Tracks shim user ledger now)
    (spared : 0 < asI64 shim.lockoutSecs → shim.maxFailedLogins ≤ (ledger.sinceClear + 1) % 2 ^ 32 →
      shim.maxFailedLogins ≤ ledger.sinceExpiry + 1) :
    Tracks (shim.recordFailedLogin user now).1 user
      (ledger.failed now (shim.recordFailedLogin user now).2) now := by
  have attempts : ((shim.failedAttempts user).getD 0 + 1) % 2 ^ 32 = (ledger.sinceClear + 1) % 2 ^ 32 := by
    rw [tracks.counted]
    omega
  simp only [LockingShim.recordFailedLogin, attempts]
  split
  case isTrue reached =>
      refine ⟨by simp [Ledger.failed], by simp [Ledger.failed], by simp [Ledger.failed], ?_, ?_⟩
      · intro lockedAt held
        rcases Int.lt_or_le 0 (asI64 shim.lockoutSecs) with positive | never
        · exact .inr (spared positive reached)
        · exact .inl never
      · rintro lockedAt ⟨⟩
        exact ⟨now, rfl, Int.le_refl now, Int.le_refl now⟩
  case isFalse below =>
      refine ⟨by simp [Ledger.failed], tracks.locked, tracks.stale, ?_, ?_⟩
      · intro lockedAt held
        rcases tracks.earned lockedAt held with never | enough
        · exact .inl never
        · exact .inr (enough.trans (Nat.le_succ _))
      · intro lockedAt held
        obtain ⟨last, _, _, past⟩ := tracks.recent lockedAt held
        exact ⟨now, rfl, past, past⟩

theorem Tracks.reported (tracks : Tracks shim user ledger clock) (ordered : clock ≤ now)
    (reported : shim.isLockedOut user now = true) :
    shim.maxFailedLogins ≤ (ledger.asOf shim.lockoutSecs now).sinceExpiry ∧
      ∃ last, (ledger.asOf shim.lockoutSecs now).last = some last ∧
        now - last < shim.lockoutSecs * 1000000000 := by
  obtain ⟨lockedAt, kept, running⟩ := LockingShim.isLockedOut_iff.mp reported
  have current := tracks.asOf ordered
  rcases current.stale lockedAt kept with held | old
  · obtain ⟨last, recorded, after, past⟩ := current.recent lockedAt held
    have bound := not_expired past running
    refine ⟨?_, last, recorded, by omega⟩
    rcases current.earned lockedAt held with never | enough
    · have elapsed : 0 ≤ (now - lockedAt).tdiv 1000000000 := Int.tdiv_nonneg (by omega) (by omega)
      omega
    · exact enough
  · have young := not_expired (by omega) running
    omega

/-! ## Every history -/

/-- A user whose entries are as they were is tracked as before. -/
theorem Tracks.of_same {other : LockingShim} (tracks : Tracks shim user ledger clock)
    (ordered : clock ≤ now) (limit : other.maxFailedLogins = shim.maxFailedLogins)
    (secs : other.lockoutSecs = shim.lockoutSecs)
    (attempts : other.failedAttempts user = shim.failedAttempts user)
    (locked : other.lockedUsers user = shim.lockedUsers user) : Tracks other user ledger now where
  counted := by rw [attempts, tracks.counted]
  locked := by rw [locked]; exact tracks.locked
  stale lockedAt kept := by
    rw [locked] at kept
    rw [secs]
    exact (tracks.stale lockedAt kept).imp id (fun old => by omega)
  earned := by rw [limit, secs]; exact tracks.earned
  recent lockedAt held := by
    obtain ⟨last, recorded, after, past⟩ := tracks.recent lockedAt held
    exact ⟨last, recorded, after, past.trans ordered⟩

theorem recordFailedLogin_fixed : (shim.recordFailedLogin user now).1.maxFailedLogins =
    shim.maxFailedLogins ∧ (shim.recordFailedLogin user now).1.lockoutSecs = shim.lockoutSecs := by
  simp only [LockingShim.recordFailedLogin]
  split <;> exact ⟨rfl, rfl⟩

theorem recordFailedLogin_of_ne {other : String} (differs : other ≠ user) :
    (shim.recordFailedLogin user now).1.failedAttempts other = shim.failedAttempts other ∧
      (shim.recordFailedLogin user now).1.lockedUsers other = shim.lockedUsers other := by
  simp only [LockingShim.recordFailedLogin]
  split <;> simp [differs]

namespace Watched

def Kept (watched : Watched) : Prop :=
  ∀ user, Tracks watched.shim user (watched.ledgers user) watched.clock

theorem Kept.lawful (kept : watched.Kept) : watched.Lawful :=
  fun user _ ordered reported => (kept user).reported ordered reported

theorem Kept.perform {operation : Operation} (kept : watched.Kept) (ordered : watched.clock ≤ now)
    (spared : watched.Spares ⟨now, operation⟩) : (watched.perform now operation).Kept := by
  intro other
  cases operation with
  | recordFailedLogin user =>
      by_cases same : other = user
      · subst same
        have current := (kept other).asOf ordered
        have failed := current.failed fun positive reached =>
          spared other rfl positive (by rwa [Ledger.sinceClear_asOf] at reached)
        simpa [Watched.perform, ledgerAt] using failed
      · obtain ⟨attempts, locked⟩ := @recordFailedLogin_of_ne watched.shim user now other same
        obtain ⟨limit, secs⟩ := @recordFailedLogin_fixed watched.shim user now
        have frame := (kept other).of_same ordered limit secs attempts locked
        simpa [Watched.perform, same] using frame
  | isLockedOut user => exact (kept other).of_same ordered rfl rfl rfl rfl
  | clearFailedAttempts user =>
      by_cases same : other = user
      · subst same
        constructor <;> simp [Watched.perform, LockingShim.clearFailedAttempts]
      · have frame : Tracks (watched.shim.clearFailedAttempts user) other (watched.ledgers other) now :=
          (kept other).of_same ordered rfl rfl (by simp [LockingShim.clearFailedAttempts, same])
            (by simp [LockingShim.clearFailedAttempts, same])
        simpa [Watched.perform, same] using frame

/-- A failed login that is not spared locks the user out at once. -/
theorem Kept.not_lawful {timed : Timed} (kept : watched.Kept) (unspared : ¬ watched.Spares timed) :
    ¬ (watched.perform timed.now timed.operation).Lawful := by
  simp only [Spares, not_forall] at unspared
  obtain ⟨user, records, positive, reached, few⟩ := unspared
  have attempts : ((watched.shim.failedAttempts user).getD 0 + 1) % 2 ^ 32 =
      ((watched.ledgers user).sinceClear + 1) % 2 ^ 32 := by
    rw [(kept user).counted]
    omega
  have locks : watched.shim.recordFailedLogin user timed.now =
      ({ watched.shim with
          failedAttempts := Function.update watched.shim.failedAttempts user
            (some (((watched.ledgers user).sinceClear + 1) % 2 ^ 32))
          lockedUsers := Function.update watched.shim.lockedUsers user (some timed.now) }, true) := by
    simp only [LockingShim.recordFailedLogin, attempts]
    exact if_pos reached
  intro lawful
  rw [records] at lawful
  obtain ⟨enough, _⟩ := lawful user timed.now (Int.le_refl _)
    (LockingShim.isLockedOut_iff.mpr ⟨timed.now, by simp [Watched.perform, locks],
      by simpa [Watched.perform, locks] using positive⟩)
  have bound := asI64_le watched.shim.lockoutSecs
  have failed : ((watched.perform timed.now (.recordFailedLogin user)).ledgers user) =
      (watched.ledgerAt user timed.now).failed timed.now true := by
    simp [Watched.perform, locks]
  have locked : ((watched.ledgerAt user timed.now).failed timed.now true).lockout = some timed.now := rfl
  rw [ledgerAt, failed, Ledger.asOf_running locked (by simp [Watched.perform, locks]; omega)] at enough
  exact few (by simpa [Watched.perform, locks, Ledger.failed] using enough)

/-- A shim nobody has failed to log in to. -/
def start (shim : AuthShim) (maxFailedLogins lockoutSecs : Nat) (clock : Int) : Watched where
  shim := { shim with maxFailedLogins, lockoutSecs }
  clock := clock

theorem kept_start (shim : AuthShim) (maxFailedLogins lockoutSecs : Nat) (clock : Int) :
    (start shim maxFailedLogins lockoutSecs clock).Kept := by
  intro user
  constructor <;> simp [start]

end Watched

/-- Nobody is locked out but for as many failures since the last expiry as are
allowed, exactly when no failure after an expiry locks before that. -/
theorem lockouts_lawful_iff (shim : AuthShim) (maxFailedLogins lockoutSecs : Nat) (clock : Int)
    (timed : List Timed) :
    lockouts.Always Watched.Lawful (.start shim maxFailedLogins lockoutSecs clock) timed ↔
      lockouts.Along Watched.Spares (.start shim maxFailedLogins lockoutSecs clock) timed := by
  apply Machine.always_iff_along Watched.Kept (fun watched kept => kept.lawful) ?_ ?_
    (Watched.kept_start shim maxFailedLogins lockoutSecs clock)
  · intro watched timed next kept spared taken
    obtain ⟨ordered, rfl⟩ : watched.clock ≤ timed.now ∧ watched.perform timed.now timed.operation = next := by
      simpa [lockouts] using taken
    exact kept.perform ordered spared
  · intro watched timed next kept unspared taken
    obtain ⟨_, rfl⟩ : watched.clock ≤ timed.now ∧ watched.perform timed.now timed.operation = next := by
      simpa [lockouts] using taken
    exact kept.not_lawful unspared

def second (count : Nat) (operation : Operation) : Timed where
  now := count * 1000000000
  operation := operation

/-- Three failed logins, the end of the lockout five minutes later, and one more. -/
def relapse : List Timed :=
  [second 0 (.recordFailedLogin "alice"), second 1 (.recordFailedLogin "alice"),
    second 2 (.recordFailedLogin "alice"), second 302 (.isLockedOut "alice"),
    second 303 (.recordFailedLogin "alice"), second 303 (.isLockedOut "alice")]

theorem locked_out_by_one_failure : ¬ lockouts.Always Watched.Lawful
    (.start { tokenExpirySecs := 3600, hmacKey := [] } 3 300 0) relapse := by
  intro always
  have lawful := always.last rfl
  obtain ⟨enough, _⟩ := lawful "alice" (303 * 1000000000) (by decide) (by decide)
  exact absurd enough (by decide)

end Evergreen.Auth
