import Mathlib.Data.List.Dedup
import Mathlib.Data.List.Flatten

namespace Evergreen.Retry

/-! # Attempts at targets

A round at a target is a number of attempts that ends with the first success or
when the limit is reached.  Targets that never get more than the limit, and none
after a success, have one round each.
-/

universe u

/-- The outcomes of a round whose first attempt has the number `first`. -/
def attempts (succeeds : Nat → Bool) : Nat → Nat → List Bool
  | 0, _ => []
  | limit + 1, first =>
      if succeeds first then [true] else false :: attempts succeeds limit (first + 1)

/-- Nothing comes after a success. -/
def Stops (outcomes : List Bool) : Prop := outcomes.Pairwise fun earlier _ => earlier = false

structure Settled (limit : Nat) (outcomes : List Bool) : Prop where
  attempted : outcomes ≠ []
  bounded : outcomes.length ≤ limit
  stops : Stops outcomes
  exhausted : true ∉ outcomes → outcomes.length = limit

variable {succeeds : Nat → Bool} {limit first : Nat}

theorem settled_attempts (positive : 0 < limit) : Settled limit (attempts succeeds limit first) := by
  induction limit generalizing first with
  | zero => exact absurd positive (Nat.lt_irrefl 0)
  | succ limit ih =>
      unfold attempts
      cases succeeds first with
      | true => exact ⟨by simp, by simp, List.pairwise_singleton _ _, by simp⟩
      | false =>
          rcases Nat.eq_zero_or_pos limit with rfl | more
          · exact ⟨by simp, by simp [attempts], List.pairwise_singleton _ _, by simp [attempts]⟩
          · obtain ⟨attempted, bounded, stops, exhausted⟩ := @ih (first + 1) more
            refine ⟨by simp, by simpa using bounded, List.pairwise_cons.mpr ⟨by simp, stops⟩, ?_⟩
            intro failed
            simpa using exhausted (by simpa using failed)

theorem mem_attempts_iff : true ∈ attempts succeeds limit first ↔
    ∃ number < limit, succeeds (first + number) = true := by
  induction limit generalizing first with
  | zero => simp [attempts]
  | succ limit ih =>
      unfold attempts
      cases start : succeeds first with
      | true => exact iff_of_true List.mem_cons_self ⟨0, Nat.succ_pos _, start⟩
      | false =>
          rw [if_neg (by simp), List.mem_cons, ih]
          constructor
          · rintro (impossible | ⟨number, less, later⟩)
            · cases impossible
            · exact ⟨number + 1, Nat.succ_lt_succ less, by rwa [Nat.add_comm number, ← Nat.add_assoc]⟩
          · rintro ⟨number, less, later⟩
            cases number with
            | zero => exact Bool.noConfusion (start.symm.trans later)
            | succ number =>
                refine .inr ⟨number, Nat.lt_of_succ_lt_succ less, ?_⟩
                rwa [Nat.add_assoc, Nat.add_comm 1]

theorem length_attempts_of_first {failures : Nat}
    (failed : ∀ number < failures, succeeds (first + number) = false)
    (succeeded : succeeds (first + failures) = true) :
    (attempts succeeds limit first).length = min (failures + 1) limit := by
  induction limit generalizing first failures with
  | zero => simp [attempts]
  | succ limit ih =>
      unfold attempts
      cases failures with
      | zero =>
          rw [Nat.add_zero] at succeeded
          simp [succeeded]
      | succ failures =>
          have start := failed 0 (Nat.succ_pos _)
          rw [Nat.add_zero] at start
          have shift : ∀ number, first + 1 + number = first + (number + 1) := by omega
          have rest := @ih (first + 1) failures
            (fun number less => by rw [shift]; exact failed _ (Nat.succ_lt_succ less))
            (by rw [shift]; exact succeeded)
          rw [start, if_neg (by simp), List.length_cons, rest, Nat.succ_min_succ]

theorem length_attempts_of_none (failed : ∀ number, succeeds number = false) :
    (attempts succeeds limit first).length = limit := by
  induction limit generalizing first with
  | zero => rfl
  | succ limit ih => simp [attempts, failed, ih]

/-! ## Rounds -/

variable {Target : Type u} [DecidableEq Target] {target : Target} {outcomes : List Bool}
variable {rounds : List (Target × List Bool)}

/-- Everything that was attempted at a target, in order. -/
def outcomesAt (rounds : List (Target × List Bool)) (target : Target) : List Bool :=
  ((rounds.filter (·.1 = target)).map Prod.snd).flatten

theorem outcomesAt_absent (absent : target ∉ rounds.map Prod.fst) :
    outcomesAt rounds target = [] := by
  have none : rounds.filter (·.1 = target) = [] := by
    refine List.filter_eq_nil_iff.mpr fun round member same => absent ?_
    exact List.mem_map.mpr ⟨round, member, of_decide_eq_true same⟩
  rw [outcomesAt, none]
  rfl

theorem outcomesAt_of_mem (distinct : (rounds.map Prod.fst).Nodup)
    (member : (target, outcomes) ∈ rounds) : outcomesAt rounds target = outcomes := by
  induction rounds with
  | nil => cases member
  | cons round rounds ih =>
      obtain ⟨fresh, distinct⟩ := List.nodup_cons.mp distinct
      rcases List.mem_cons.mp member with rfl | member
      · have rest := outcomesAt_absent fresh
        simpa [outcomesAt] using rest
      · have other : round.1 ≠ target := fun same =>
          fresh (same ▸ List.mem_map.mpr ⟨(target, outcomes), member, rfl⟩)
        have rest := ih distinct member
        simpa [outcomesAt, other] using rest

theorem sublist_outcomesAt {earlier later : Target × List Bool}
    (ordered : [earlier, later].Sublist rounds) (same : earlier.1 = later.1) :
    (earlier.2 ++ later.2).Sublist (outcomesAt rounds later.1) := by
  have both := ((ordered.filter (·.1 = later.1)).map Prod.snd).flatten
  simpa [same, outcomesAt] using both

/-- Two rounds at a target are either too many attempts or go on after a success. -/
theorem distinct_of_settled (settled : ∀ round ∈ rounds, Settled limit round.2)
    (bounded : ∀ target, (outcomesAt rounds target).length ≤ limit)
    (stops : ∀ target, Stops (outcomesAt rounds target)) :
    (rounds.map Prod.fst).Nodup := by
  apply List.pairwise_map.mpr
  apply List.pairwise_of_forall_sublist
  intro earlier later ordered same
  obtain ⟨_, _, _, exhausted⟩ := settled earlier (ordered.subset List.mem_cons_self)
  obtain ⟨attempted, _, _, _⟩ :=
    settled later (ordered.subset (List.mem_cons_of_mem _ List.mem_cons_self))
  have both := sublist_outcomesAt ordered same
  by_cases success : true ∈ earlier.2
  · obtain ⟨next, more⟩ := List.exists_mem_of_ne_nil _ attempted
    have failed := (List.pairwise_append.mp ((stops later.1).sublist both)).2.2 true success next more
    exact Bool.noConfusion failed
  · have length := both.length_le
    have some := List.length_pos_iff.mpr attempted
    have most := bounded later.1
    rw [List.length_append, exhausted success] at length
    omega

theorem outcomesAt_ne_nil_iff (settled : ∀ round ∈ rounds, Settled limit round.2) :
    outcomesAt rounds target ≠ [] ↔ target ∈ rounds.map Prod.fst := by
  constructor
  · intro attempted
    by_contra absent
    exact attempted (outcomesAt_absent absent)
  · intro listed none
    obtain ⟨round, member, rfl⟩ := List.mem_map.mp listed
    have own : round.2 ∈ (rounds.filter (·.1 = round.1)).map Prod.snd :=
      List.mem_map_of_mem (List.mem_filter.mpr ⟨member, decide_eq_true rfl⟩)
    exact (settled round member).attempted (List.flatten_eq_nil_iff.mp none _ own)

/-- One round each keeps to the limit and stops after a success. -/
theorem bounded_of_distinct (distinct : (rounds.map Prod.fst).Nodup)
    (settled : ∀ round ∈ rounds, Settled limit round.2) (target : Target) :
    (outcomesAt rounds target).length ≤ limit ∧ Stops (outcomesAt rounds target) := by
  by_cases listed : target ∈ rounds.map Prod.fst
  · obtain ⟨round, member, rfl⟩ := List.mem_map.mp listed
    rw [outcomesAt_of_mem distinct member]
    exact ⟨(settled round member).bounded, (settled round member).stops⟩
  · rw [outcomesAt_absent listed]
    exact ⟨Nat.zero_le _, .nil⟩

/-- With one round each, the targets are counted by their rounds. -/
theorem countP_dedup (distinct : (rounds.map Prod.fst).Nodup) (counts : List Bool → Bool) :
    (rounds.map Prod.fst).dedup.countP (fun target => counts (outcomesAt rounds target)) =
      rounds.countP (fun round => counts round.2) := by
  rw [List.dedup_eq_self.mpr distinct, List.countP_map]
  refine List.countP_congr fun round member => ?_
  rw [Function.comp_apply, outcomesAt_of_mem distinct member]

end Evergreen.Retry
