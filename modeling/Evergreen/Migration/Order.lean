import Mathlib.Data.List.Sort
import Mathlib.Logic.Function.Basic
import Mathlib.Algebra.Order.Ring.Nat

namespace Evergreen.Migration

/-! # Working through numbered files

What the versions alone decide: a file is accepted by its version, and takes
effect if it also works.  The files come in the order of their versions, and
several may have the same one.
-/

structure Progress where
  current : Nat
  recorded : Nat → Bool

structure File where
  version : Nat
  works : Bool
deriving DecidableEq, Repr

/-- A version and whether it was applied. -/
abbrev Outcome := Nat × Bool

namespace Progress

def accepts (progress : Progress) (version : Nat) : Bool :=
  !progress.recorded version &&
    (version = (progress.current + 1) % 2 ^ 32 || progress.current = 0)

def record (progress : Progress) (version : Nat) : Progress where
  current := version
  recorded := Function.update progress.recorded version true

def outcomes : Progress → List File → List Outcome
  | _, [] => []
  | progress, file :: rest =>
      if progress.accepts file.version && file.works then
        (file.version, true) :: (progress.record file.version).outcomes rest
      else (file.version, false) :: progress.outcomes rest

/-- The progress once the other files of a failed version have had their turn:
one that works is recorded if the version was acceptable. -/
def settled (progress : Progress) (failed : Nat) (rest : List File) : Progress :=
  if progress.accepts failed && rest.any (fun file => file.version = failed && file.works) then
    progress.record failed
  else progress

/-- Every later file with a higher version that works is refused. -/
def Blocked (progress : Progress) (failed : Nat) (rest : List File) : Prop :=
  ∀ file ∈ rest, failed < file.version → file.works = true →
    (progress.settled failed rest).accepts file.version = false

/-- From the first file that fails on, the higher versions are blocked. -/
def Stops : Progress → List File → Prop
  | _, [] => True
  | progress, file :: rest =>
      if progress.accepts file.version && file.works then
        (progress.record file.version).Stops rest
      else progress.Blocked file.version rest

end Progress

/-- No applied version is above a failed one. -/
def AppliedPrefix (outcomes : List Outcome) : Prop :=
  ∀ failed applied, (failed, false) ∈ outcomes → (applied, true) ∈ outcomes → applied ≤ failed

open Progress

variable {progress : Progress} {failed : Nat} {file : File} {rest : List File}

theorem mem_outcomes_version {outcome : Outcome} (member : outcome ∈ progress.outcomes rest) :
    ∃ file ∈ rest, file.version = outcome.1 := by
  induction rest generalizing progress with
  | nil => cases member
  | cons file rest ih =>
      unfold Progress.outcomes at member
      split at member
      · rcases List.mem_cons.mp member with rfl | later
        · exact ⟨file, List.mem_cons_self, rfl⟩
        · obtain ⟨other, held, same⟩ := ih later
          exact ⟨other, List.mem_cons_of_mem _ held, same⟩
      · rcases List.mem_cons.mp member with rfl | later
        · exact ⟨file, List.mem_cons_self, rfl⟩
        · obtain ⟨other, held, same⟩ := ih later
          exact ⟨other, List.mem_cons_of_mem _ held, same⟩

theorem le_outcomes (above : ∀ file ∈ rest, failed ≤ file.version) {outcome : Outcome}
    (member : outcome ∈ progress.outcomes rest) : failed ≤ outcome.1 := by
  obtain ⟨file, held, same⟩ := mem_outcomes_version member
  exact same ▸ above file held

/-! ## The first outcome -/

theorem appliedPrefix_applied {version : Nat} {later : List Outcome}
    (above : ∀ outcome ∈ later, version ≤ outcome.1) :
    AppliedPrefix ((version, true) :: later) ↔ AppliedPrefix later := by
  constructor
  · intro all failed applied missed done
    exact all failed applied (List.mem_cons_of_mem _ missed) (List.mem_cons_of_mem _ done)
  · intro rest failed applied missed done
    have missedLater : (failed, false) ∈ later := by simpa using missed
    rcases List.mem_cons.mp done with first | doneLater
    · obtain rfl := (Prod.mk.inj first).1
      exact above _ missedLater
    · exact rest failed applied missedLater doneLater

theorem appliedPrefix_failed {later : List Outcome}
    (above : ∀ outcome ∈ later, failed ≤ outcome.1) :
    AppliedPrefix ((failed, false) :: later) ↔
      ∀ applied, (applied, true) ∈ later → applied ≤ failed := by
  constructor
  · intro all applied done
    exact all failed applied List.mem_cons_self (List.mem_cons_of_mem _ done)
  · intro bounded other applied missed done
    have doneLater : (applied, true) ∈ later := by simpa using done
    have small := bounded applied doneLater
    rcases List.mem_cons.mp missed with first | missedLater
    · obtain rfl := (Prod.mk.inj first).1
      exact small
    · exact Nat.le_trans small (above _ missedLater)

/-! ## After a failure -/

theorem settled_record (rest : List File) :
    (progress.record failed).settled failed rest = progress.record failed := by
  have refused : (progress.record failed).accepts failed = false := by
    simp [Progress.accepts, Progress.record]
  simp [Progress.settled, refused]

theorem settled_cons_other
    (other : ¬ (progress.accepts failed = true ∧ file.version = failed ∧ file.works = true)) :
    progress.settled failed (file :: rest) = progress.settled failed rest := by
  cases accepted : progress.accepts failed with
  | false => simp [Progress.settled, accepted]
  | true =>
      have idle : ¬ (file.version = failed ∧ file.works = true) :=
        fun works => other ⟨accepted, works⟩
      simp [Progress.settled, accepted, idle]

theorem settled_above (above : ∀ file ∈ rest, failed < file.version) :
    progress.settled failed rest = progress := by
  have none : rest.any (fun file => file.version = failed && file.works) = false := by
    rw [List.any_eq_false]
    intro file member
    have differs := above file member
    simp only [Bool.and_eq_true, decide_eq_true_eq]
    omega
  simp [Progress.settled, none]

/-- Among the files in order after a failure, none with a higher version is
applied exactly when the higher versions are blocked. -/
theorem applied_le_iff_blocked (sorted : rest.Pairwise (·.version ≤ ·.version))
    (above : ∀ file ∈ rest, failed ≤ file.version) :
    (∀ applied, (applied, true) ∈ progress.outcomes rest → applied ≤ failed) ↔
      progress.Blocked failed rest := by
  induction rest generalizing progress with
  | nil => simp [Progress.outcomes, Progress.Blocked]
  | cons file rest ih =>
      obtain ⟨after, sorted⟩ := List.pairwise_cons.mp sorted
      have later : ∀ other ∈ rest, failed ≤ other.version :=
        fun other member => above other (List.mem_cons_of_mem _ member)
      have own : failed ≤ file.version := above file List.mem_cons_self
      by_cases taken : progress.accepts file.version = true ∧ file.works = true
      · have applied : (progress.accepts file.version && file.works) = true := by simp [taken]
        rw [Progress.outcomes, if_pos applied]
        by_cases same : file.version = failed
        · subst same
          have settled : progress.settled file.version (file :: rest) =
              (progress.record file.version).settled file.version rest := by
            rw [settled_record]
            simp [Progress.settled, taken]
          have blocked : progress.Blocked file.version (file :: rest) ↔
              (progress.record file.version).Blocked file.version rest := by
            simp only [Progress.Blocked, settled, List.forall_mem_cons, Nat.lt_irrefl,
              false_implies, true_and]
          rw [blocked, ← ih sorted later]
          simp
        · have higher : failed < file.version := by omega
          constructor
          · intro bounded
            have small := bounded file.version List.mem_cons_self
            omega
          · intro blocked
            have steady : progress.settled failed (file :: rest) = progress := by
              apply settled_above
              intro other member
              rcases List.mem_cons.mp member with rfl | member
              · exact higher
              · exact Nat.lt_of_lt_of_le higher (after other member)
            have refused := blocked file List.mem_cons_self higher taken.2
            rw [steady, taken.1] at refused
            cases refused
      · have missed : (progress.accepts file.version && file.works) = false := by
          simpa using taken
        rw [Progress.outcomes, missed]
        have others : (∀ applied, (applied, true) ∈ (file.version, false) :: progress.outcomes rest →
            applied ≤ failed) ↔ progress.Blocked failed rest := by
          rw [← ih sorted later]
          simp
        have idle : ¬ (progress.accepts failed = true ∧ file.version = failed ∧
            file.works = true) := by
          rintro ⟨accepted, rfl, works⟩
          exact taken ⟨accepted, works⟩
        rw [if_neg Bool.false_ne_true, others]
        simp only [Progress.Blocked, settled_cons_other idle, List.forall_mem_cons]
        constructor
        · intro blocked
          refine ⟨fun higher works => ?_, blocked⟩
          have steady : progress.settled failed rest = progress :=
            settled_above fun other member => Nat.lt_of_lt_of_le higher (after other member)
          rw [steady]
          simpa [works] using missed
        · exact And.right

/-- The files in order are applied as a prefix exactly when nothing gets past
the first failure. -/
theorem appliedPrefix_outcomes_iff (sorted : rest.Pairwise (·.version ≤ ·.version)) :
    AppliedPrefix (progress.outcomes rest) ↔ progress.Stops rest := by
  induction rest generalizing progress with
  | nil => simp [Progress.outcomes, Progress.Stops, AppliedPrefix]
  | cons file rest ih =>
      obtain ⟨after, sorted⟩ := List.pairwise_cons.mp sorted
      rw [Progress.outcomes, Progress.Stops]
      cases taken : progress.accepts file.version && file.works with
      | true =>
          rw [if_pos rfl, if_pos rfl, appliedPrefix_applied fun outcome => le_outcomes after]
          exact ih sorted
      | false =>
          rw [if_neg Bool.false_ne_true, if_neg Bool.false_ne_true,
            appliedPrefix_failed fun outcome => le_outcomes after]
          exact applied_le_iff_blocked sorted after

end Evergreen.Migration
