import Mathlib.Algebra.Order.Ring.Rat
import Mathlib.Tactic.Linarith

namespace Evergreen

/-! # Events that a budget pays for

A potential that never exceeds a cap, grows at most at a rate, and pays one unit
for every spending event bounds how many of them a window of time can hold.
Gaining events add to the potential.
-/

universe u v

variable {State : Type u} {Label : Type v}

/-- How often an event happens along the run of the labels. -/
def count (update : State → Label → State) (event : State → Label → Bool) :
    State → List Label → Nat
  | _, [] => 0
  | state, label :: rest =>
      (if event state label then 1 else 0) + count update event (update state label) rest

/-- The event at an instant of the window. -/
def during (clock : Label → ℚ) (start finish : ℚ) (event : State → Label → Bool)
    (state : State) (label : Label) : Bool :=
  decide (start ≤ clock label ∧ clock label ≤ finish) && event state label

structure Budget (update : State → Label → State) (clock : Label → ℚ)
    (spends gains : State → Label → Bool) (invariant : State → Prop) (potential : State → ℚ → ℚ)
    (cap rate gain : ℚ) : Prop where
  kept : ∀ state label, invariant state → invariant (update state label)
  nonneg : ∀ state now, invariant state → 0 ≤ potential state now
  capped : ∀ state now, invariant state → potential state now ≤ cap
  accrues : ∀ state earlier later, invariant state → earlier ≤ later →
    potential state later ≤ potential state earlier + rate * (later - earlier)
  pays : ∀ state label, invariant state →
    (if spends state label then 1 else 0) + potential (update state label) (clock label) ≤
      potential state (clock label) + if gains state label then gain else 0

variable {update : State → Label → State} {clock : Label → ℚ} {event : State → Label → Bool}
variable {start finish now : ℚ} {state : State} {label : Label} {labels : List Label}

theorem during_inside (lower : start ≤ clock label) (upper : clock label ≤ finish) :
    during clock start finish event state label = event state label := by
  simp [during, lower, upper]

theorem during_outside (outside : ¬ (start ≤ clock label ∧ clock label ≤ finish)) :
    during clock start finish event state label = false := by
  simp [during, outside]

theorem count_during_late (late : ∀ label ∈ labels, finish < clock label) :
    count update (during clock start finish event) state labels = 0 := by
  induction labels generalizing state with
  | nil => rfl
  | cons label rest ih =>
      have outside : ¬ (start ≤ clock label ∧ clock label ≤ finish) := fun inside =>
        absurd (late label List.mem_cons_self) (not_lt.mpr inside.2)
      rw [count, during_outside outside, ih fun label member => late label (List.mem_cons_of_mem _ member)]
      rfl

namespace Budget

variable {spends gains : State → Label → Bool} {invariant : State → Prop}
variable {potential : State → ℚ → ℚ} {cap rate gain : ℚ}

/-- From an instant of the window on, the potential there and what accrues until
the end pay for everything. -/
theorem count_from_le (budget : Budget update clock spends gains invariant potential cap rate gain)
    (holds : invariant state) (ordered : labels.Pairwise fun first second => clock first ≤ clock second)
    (later : ∀ label ∈ labels, now ≤ clock label) (lower : start ≤ now) (upper : now ≤ finish) :
    (count update (during clock start finish spends) state labels : ℚ) ≤
      potential state now + rate * (finish - now) +
        gain * count update (during clock start finish gains) state labels := by
  have solvent : 0 ≤ potential state now + rate * (finish - now) :=
    (budget.nonneg state finish holds).trans (budget.accrues state now finish holds upper)
  induction labels generalizing state now with
  | nil => simpa [count] using solvent
  | cons label rest ih =>
      obtain ⟨first, ordered⟩ := List.pairwise_cons.mp ordered
      have reached := later label List.mem_cons_self
      by_cases inside : clock label ≤ finish
      · have paid := budget.pays state label holds
        have accrued := budget.accrues state now (clock label) holds reached
        have still := budget.kept state label holds
        have remaining := ih still ordered first (lower.trans reached) inside
          ((budget.nonneg _ finish still).trans (budget.accrues _ _ _ still inside))
        rw [count, count, during_inside (lower.trans reached) inside,
          during_inside (lower.trans reached) inside]
        push_cast
        split_ifs at paid ⊢ <;> linarith
      · have late : ∀ other ∈ label :: rest, finish < clock other := by
          intro other member
          rcases List.mem_cons.mp member with rfl | member
          · exact not_le.mp inside
          · exact (not_le.mp inside).trans_le (first other member)
        rw [count_during_late late, count_during_late late]
        simpa using solvent

theorem count_le (budget : Budget update clock spends gains invariant potential cap rate gain)
    (holds : invariant state) (ordered : labels.Pairwise fun first second => clock first ≤ clock second)
    (window : start ≤ finish) :
    (count update (during clock start finish spends) state labels : ℚ) ≤
      cap + rate * (finish - start) +
        gain * count update (during clock start finish gains) state labels := by
  induction labels generalizing state with
  | nil =>
      have solvent := (budget.nonneg state finish holds).trans
        (budget.accrues state start finish holds window)
      have capped := budget.capped state start holds
      simp only [count, Nat.cast_zero, mul_zero, add_zero]
      linarith
  | cons label rest ih =>
      obtain ⟨first, rest_ordered⟩ := List.pairwise_cons.mp ordered
      by_cases early : clock label < start
      · have outside : ¬ (start ≤ clock label ∧ clock label ≤ finish) := fun inside =>
          absurd inside.1 (not_le.mpr early)
        rw [count, count, during_outside outside, during_outside outside]
        simpa using ih (budget.kept state label holds) rest_ordered
      · have later : ∀ other ∈ label :: rest, start ≤ clock other := by
          intro other member
          rcases List.mem_cons.mp member with rfl | member
          · exact not_lt.mp early
          · exact (not_lt.mp early).trans (first other member)
        have spent := budget.count_from_le holds ordered later (le_refl start) window
        have capped := budget.capped state start holds
        linarith

end Budget

end Evergreen
