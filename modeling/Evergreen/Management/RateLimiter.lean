import Mathlib.Algebra.Order.Ring.Nat
import Mathlib.Data.List.Basic
import Mathlib.Data.List.TakeWhile
import Mathlib.Logic.Function.Basic

namespace Evergreen.Management

/-! # The request limit of the management API

A limiter keeps the times of the requests it has admitted and forgets those at
the front that are older than its window.  It forgets only when it is asked, so
what it holds between two calls is not the window of either; pruning at the next
call makes it that window, as the times are sorted.
-/

structure RateLimiterInner where
  timestamps : List Nat
  maxRequests : Nat
  window : Nat
deriving DecidableEq

namespace RateLimiterInner

/-- Times and durations are in nanoseconds. -/
def new (maxRequestsPerMinute : Nat) : RateLimiterInner where
  timestamps := []
  maxRequests := maxRequestsPerMinute
  window := 60 * 10 ^ 9

def expired (limiter : RateLimiterInner) (now timestamp : Nat) : Bool :=
  decide (limiter.window < now - timestamp)

def allow (limiter : RateLimiterInner) (now : Nat) : RateLimiterInner × Bool :=
  let timestamps := limiter.timestamps.dropWhile (limiter.expired now)
  if limiter.maxRequests ≤ timestamps.length then
    ({ limiter with timestamps }, false)
  else
    ({ limiter with timestamps := timestamps ++ [now] }, true)

variable {limiter : RateLimiterInner} {now : Nat}

theorem expired_iff {timestamp : Nat} :
    limiter.expired now timestamp = true ↔ limiter.window < now - timestamp := decide_eq_true_iff

@[simp] theorem allow_maxRequests : (limiter.allow now).1.maxRequests = limiter.maxRequests := by
  simp only [allow]
  split <;> rfl

@[simp] theorem allow_window : (limiter.allow now).1.window = limiter.window := by
  simp only [allow]
  split <;> rfl

end RateLimiterInner

/-- A limiter is a handle on a state that it shares with its clones. -/
structure RateLimiter where
  inner : Nat
deriving DecidableEq

def RateLimiter.clone (limiter : RateLimiter) : RateLimiter := limiter

/-- A call of `allow` through one of the handles. -/
structure Call where
  limiter : RateLimiter
  now : Nat
deriving DecidableEq

/-- The shared states, with the calls that were admitted so far. -/
structure Service where
  inner : Nat → RateLimiterInner
  admitted : List Call

namespace Service

def new (limits : Nat → Nat) : Service where
  inner address := .new (limits address)
  admitted := []

def allows (service : Service) (call : Call) : Bool :=
  ((service.inner call.limiter.inner).allow call.now).2

def allow (service : Service) (call : Call) : Service where
  inner := Function.update service.inner call.limiter.inner
    ((service.inner call.limiter.inner).allow call.now).1
  admitted := if service.allows call then service.admitted ++ [call] else service.admitted

def after (limits : Nat → Nat) (calls : List Call) : Service :=
  calls.foldl allow (new limits)

/-- The times at which a shared state admitted a call. -/
def times (service : Service) (address : Nat) : List Nat :=
  (service.admitted.filter fun call => call.limiter.inner = address).map Call.now

end Service

/-- The times that lie at most a window before the instant. -/
def within (window now : Nat) (times : List Nat) : List Nat :=
  times.filter fun time => now - time ≤ window

/-! ## What a limiter holds -/

theorem dropWhile_eq_filter {α : Type} {drops : α → Bool} {items : List α}
    (antitone : items.Pairwise fun first second => drops second = true → drops first = true) :
    items.dropWhile drops = items.filter fun item => !drops item := by
  induction items with
  | nil => rfl
  | cons item rest ih =>
      obtain ⟨head, tail⟩ := List.pairwise_cons.mp antitone
      cases dropped : drops item with
      | true => simp [dropped, ih tail]
      | false =>
          have kept : ∀ other ∈ rest, drops other = false := by
            intro other member
            cases later : drops other with
            | false => rfl
            | true => exact absurd (head other member later) (by simp [dropped])
          rw [List.dropWhile_cons_of_neg (by simp [dropped]), List.filter_cons_of_pos (by simp [dropped]),
            List.filter_eq_self.mpr fun other member => by simp [kept other member]]

/-- The limiter holds the end of what it admitted, and what it has forgotten had
left the window by the time of the last call. -/
structure Holds (limiter : RateLimiterInner) (admitted : List Nat) (last : Nat) : Prop where
  sorted : admitted.Pairwise (· ≤ ·)
  past : ∀ time ∈ admitted, time ≤ last
  suffix : ∃ forgotten, admitted = forgotten ++ limiter.timestamps ∧
    ∀ time ∈ forgotten, limiter.expired last time = true

variable {limiter : RateLimiterInner} {admitted : List Nat} {last now : Nat}

theorem expired_mono {time later : Nat} (ordered : now ≤ later)
    (expired : limiter.expired now time = true) : limiter.expired later time = true := by
  rw [RateLimiterInner.expired_iff] at expired ⊢
  omega

/-- At a call the limiter is left with the admitted calls of the window. -/
theorem Holds.pruned (holds : Holds limiter admitted last) (ordered : last ≤ now) :
    limiter.timestamps.dropWhile (limiter.expired now) = within limiter.window now admitted := by
  obtain ⟨forgotten, split, old⟩ := holds.suffix
  have sorted : limiter.timestamps.Pairwise (· ≤ ·) :=
    holds.sorted.sublist (split ▸ List.sublist_append_right forgotten limiter.timestamps)
  have antitone : limiter.timestamps.Pairwise fun first second =>
      limiter.expired now second = true → limiter.expired now first = true := by
    refine sorted.imp fun {first second} before expired => ?_
    rw [RateLimiterInner.expired_iff] at expired ⊢
    omega
  have none : forgotten.filter (fun time => decide (now - time ≤ limiter.window)) = [] := by
    refine List.filter_eq_nil_iff.mpr fun time member => ?_
    have expired := RateLimiterInner.expired_iff.mp (expired_mono ordered (old time member))
    simpa using expired.not_ge
  rw [dropWhile_eq_filter antitone, within, split, List.filter_append, none, List.nil_append]
  refine List.filter_congr fun time _ => ?_
  rw [RateLimiterInner.expired, ← decide_not, decide_eq_decide]
  exact not_lt

theorem Holds.allow_iff (holds : Holds limiter admitted last) (ordered : last ≤ now) :
    (limiter.allow now).2 = true ↔
      (within limiter.window now admitted).length < limiter.maxRequests := by
  simp only [RateLimiterInner.allow, holds.pruned ordered]
  split
  case isTrue full => simpa using full
  case isFalse room => simpa using room

theorem Holds.later (holds : Holds limiter admitted last) (ordered : last ≤ now) :
    Holds limiter admitted now := by
  obtain ⟨forgotten, split, old⟩ := holds.suffix
  exact ⟨holds.sorted, fun time member => (holds.past time member).trans ordered,
    forgotten, split, fun time member => expired_mono ordered (old time member)⟩

theorem Holds.allow (holds : Holds limiter admitted last) (ordered : last ≤ now) :
    Holds (limiter.allow now).1 (if (limiter.allow now).2 then admitted ++ [now] else admitted) now := by
  obtain ⟨sorted, past, forgotten, split, old⟩ := holds.later ordered
  have pruned : ∃ dropped, admitted =
      dropped ++ limiter.timestamps.dropWhile (limiter.expired now) ∧
        ∀ time ∈ dropped, limiter.expired now time = true := by
    refine ⟨forgotten ++ limiter.timestamps.takeWhile (limiter.expired now), ?_, ?_⟩
    · rw [List.append_assoc, List.takeWhile_append_dropWhile, split]
    · intro time member
      rcases List.mem_append.mp member with forgot | taken
      · exact old time forgot
      · exact List.mem_takeWhile_imp taken
  obtain ⟨dropped, joined, gone⟩ := pruned
  simp only [RateLimiterInner.allow]
  split
  case isTrue full => exact ⟨sorted, past, dropped, joined, gone⟩
  case isFalse room =>
      refine ⟨?_, ?_, dropped, ?_, gone⟩
      · exact List.pairwise_append.mpr ⟨sorted, List.pairwise_singleton _ now,
          fun time member other same => by simpa [List.mem_singleton.mp same] using past time member⟩
      · intro time member
        rcases List.mem_append.mp member with earlier | same
        · exact past time earlier
        · exact (List.mem_singleton.mp same).le
      · change admitted ++ [now] =
          dropped ++ (limiter.timestamps.dropWhile (limiter.expired now) ++ [now])
        rw [← List.append_assoc, ← joined]

/-! ## Runs of calls -/

/-- No window of the limiter's length holds more calls than its limit. -/
def Limited (limiter : RateLimiterInner) (admitted : List Nat) : Prop :=
  ∀ begins, (admitted.filter fun time => begins ≤ time ∧ time ≤ begins + limiter.window).length ≤
    limiter.maxRequests

theorem Limited.allow (holds : Holds limiter admitted last) (ordered : last ≤ now)
    (limited : Limited limiter admitted) : Limited (limiter.allow now).1
      (if (limiter.allow now).2 then admitted ++ [now] else admitted) := by
  intro begins
  rw [RateLimiterInner.allow_maxRequests, RateLimiterInner.allow_window]
  cases answer : (limiter.allow now).2 with
  | false => exact limited begins
  | true =>
      have room := (holds.allow_iff ordered).mp answer
      rw [if_pos rfl, List.filter_append, List.length_append]
      by_cases inside : begins ≤ now ∧ now ≤ begins + limiter.window
      · -- Whatever shares a window with the newest call is in the window before it.
        have shared : (admitted.filter fun time =>
            decide (begins ≤ time ∧ time ≤ begins + limiter.window)).length ≤
              (within limiter.window now admitted).length := by
          refine (List.monotone_filter_right admitted fun time among => ?_).length_le
          simp only [decide_eq_true_eq] at among ⊢
          omega
        have one : ([now].filter fun time =>
            decide (begins ≤ time ∧ time ≤ begins + limiter.window)).length = 1 := by
          simp [inside]
        omega
      · simpa [inside] using limited begins

/-- A shared state keeps account of its own calls. -/
structure Service.Accounts (limits : Nat → Nat) (address last : Nat) (service : Service) : Prop where
  limit : (service.inner address).maxRequests = limits address
  minute : (service.inner address).window = 60 * 10 ^ 9
  holds : Holds (service.inner address) (service.times address) last
  limited : Limited (service.inner address) (service.times address)

variable {limits : Nat → Nat} {address : Nat} {service : Service} {call : Call} {calls : List Call}

theorem Service.times_allow : (service.allow call).times address =
    if service.allows call ∧ call.limiter.inner = address then
      service.times address ++ [call.now] else service.times address := by
  unfold times allow
  by_cases allowed : service.allows call <;> by_cases own : call.limiter.inner = address <;>
    simp [allowed, own]

theorem Service.Accounts.allow (accounts : service.Accounts limits address last)
    (ordered : last ≤ call.now) : (service.allow call).Accounts limits address call.now := by
  have times := @Service.times_allow address service call
  by_cases own : call.limiter.inner = address
  · subst own
    have inner : (service.allow call).inner call.limiter.inner =
        ((service.inner call.limiter.inner).allow call.now).1 := Function.update_self ..
    simp only [and_true] at times
    refine ⟨?_, ?_, ?_, ?_⟩
    · rw [inner, RateLimiterInner.allow_maxRequests, accounts.limit]
    · rw [inner, RateLimiterInner.allow_window, accounts.minute]
    · rw [inner, times]
      exact accounts.holds.allow ordered
    · rw [inner, times]
      exact accounts.limited.allow accounts.holds ordered
  · have inner : (service.allow call).inner address = service.inner address :=
      Function.update_of_ne (Ne.symm own) ..
    rw [if_neg (by simp [own])] at times
    refine ⟨inner ▸ accounts.limit, inner ▸ accounts.minute, ?_, ?_⟩
    · rw [inner, times]
      exact accounts.holds.later ordered
    · rw [inner, times]
      exact accounts.limited

theorem Service.Accounts.foldl (accounts : service.Accounts limits address last)
    (ordered : (last :: calls.map Call.now).Pairwise (· ≤ ·)) :
    ∃ final, (calls.foldl Service.allow service).Accounts limits address final ∧
      ∀ now, (∀ call ∈ calls, call.now ≤ now) → last ≤ now → final ≤ now := by
  induction calls generalizing service last with
  | nil => exact ⟨last, accounts, fun now _ reached => reached⟩
  | cons call rest ih =>
      obtain ⟨first, ordered⟩ := List.pairwise_cons.mp ordered
      obtain ⟨final, kept, least⟩ := ih (accounts.allow (first call.now (by simp))) ordered
      refine ⟨final, kept, fun now all _ => least now ?_ (all call (by simp))⟩
      exact fun other member => all other (List.mem_cons_of_mem call member)

theorem Service.accounts_new : (Service.new limits).Accounts limits address 0 where
  limit := rfl
  minute := rfl
  holds := ⟨.nil, by simp [times, new], [], rfl, by simp⟩
  limited _ := Nat.zero_le _

theorem Service.accounts_after (ordered : (calls.map Call.now).Pairwise (· ≤ ·)) :
    ∃ final, (Service.after limits calls).Accounts limits address final ∧
      ∀ now, (∀ call ∈ calls, call.now ≤ now) → final ≤ now := by
  have fresh : (Service.new limits).Accounts limits address 0 := accounts_new
  obtain ⟨final, accounts, least⟩ :=
    fresh.foldl (List.pairwise_cons.mpr ⟨fun _ _ => Nat.zero_le _, ordered⟩)
  exact ⟨final, accounts, fun now all => least now all (Nat.zero_le now)⟩

/-- A call through any clone is admitted exactly when fewer calls than the limit
were admitted in the minute before it, and no minute holds more than the limit. -/
theorem allows_iff_window (limits : Nat → Nat) (calls : List Call)
    (ordered : (calls.map Call.now).Pairwise (· ≤ ·)) :
    (∀ before call rest, calls = before ++ call :: rest →
      ((Service.after limits before).allows call = true ↔
        (within (60 * 10 ^ 9) call.now
          ((Service.after limits before).times call.limiter.inner)).length <
            limits call.limiter.inner)) ∧
      ∀ address begins, (((Service.after limits calls).times address).filter fun time =>
        begins ≤ time ∧ time ≤ begins + 60 * 10 ^ 9).length ≤ limits address := by
  constructor
  · intro before call rest split
    rw [split, List.map_append, List.map_cons, List.pairwise_append] at ordered
    obtain ⟨earlier, _, across⟩ := ordered
    obtain ⟨final, accounts, least⟩ :=
      @Service.accounts_after limits call.limiter.inner before earlier
    have reached : final ≤ call.now := least call.now fun other member =>
      across other.now (List.mem_map_of_mem member) call.now List.mem_cons_self
    have allowed := accounts.holds.allow_iff reached
    rw [accounts.limit, accounts.minute] at allowed
    exact allowed
  · intro address begins
    obtain ⟨final, accounts, _⟩ :=
      @Service.accounts_after limits address calls ordered
    have limited := accounts.limited begins
    rw [accounts.limit, accounts.minute] at limited
    exact limited

/-- Two requests a minute, asked by a limiter and its clone. -/
def minute : List Call :=
  let limiter : RateLimiter := ⟨0⟩
  [⟨limiter, 0⟩, ⟨limiter.clone, 30 * 10 ^ 9⟩, ⟨limiter, 60 * 10 ^ 9⟩, ⟨limiter.clone, 61 * 10 ^ 9⟩]

theorem allows_iff_window_minute :
    (∀ before call rest, minute = before ++ call :: rest →
      ((Service.after (fun _ => 2) before).allows call = true ↔
        (within (60 * 10 ^ 9) call.now
          ((Service.after (fun _ => 2) before).times call.limiter.inner)).length < 2)) ∧
      ∀ address begins, (((Service.after (fun _ => 2) minute).times address).filter fun time =>
        begins ≤ time ∧ time ≤ begins + 60 * 10 ^ 9).length ≤ 2 :=
  allows_iff_window (fun _ => 2) minute (by decide)

end Evergreen.Management
