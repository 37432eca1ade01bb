import Evergreen.Migration.Lock

namespace Evergreen.Migration

/-! # At most one holder

The lock excludes as long as no process removes, as stale, a file whose creator
has not given it up: then every such creator's file is the one the name denotes,
and there is one of them.  `is_stale` alone does not see to that, because a lock
is empty between its creation and its writing.
-/

def AtMostOneHolder (directory : Directory) : Prop :=
  ∀ first second, (directory.phase first).holds = true → (directory.phase second).holds = true →
    first = second

/-- A stale lock is removed only when no process is still using it. -/
def SparesOwned (directory : Directory) (step : Step) : Prop :=
  directory.phase step.process = .stale → step.action = .removeStale none →
    ∀ owner own, (directory.phase owner).own? = some own → directory.files.path ≠ some own

/-- The file of a process that has created one is the one in place, and only one
process has created one. -/
structure Owned (directory : Directory) : Prop where
  placed : ∀ owner own, (directory.phase owner).own? = some own → directory.files.path = some own
  single : ∀ first second, ((directory.phase first).own?).isSome → ((directory.phase second).own?).isSome →
    first = second

theorem Phase.own_of_holds {phase : Phase} (holds : phase.holds = true) : phase.own?.isSome := by
  cases phase <;> first | rfl | cases holds

theorem Owned.atMostOneHolder {directory : Directory} (owned : Owned directory) :
    AtMostOneHolder directory :=
  fun first second holds also => owned.single first second (Phase.own_of_holds holds) (Phase.own_of_holds also)

theorem Owned.quiet (left : Option LockText) : Owned (.quiet left) where
  placed _ _ own := by cases own
  single _ _ own := by cases own

/-! ## What one process can do to the name and to its own file -/

/-- A step of one process, seen from its own file and from the name. -/
inductive Footprint (lock : MigrationLock) (files after : FileSystem) (phase next : Phase)
    (action : Action) : Prop where
  | keep (path : after.path = files.path) (own : next.own? = phase.own?)
  | giveUp (path : after.path = files.path) (own : next.own? = none)
  | create (free : files.path = none) (path : after.path = next.own?) (own : next.own?.isSome)
  | unlink (own : phase.own?.isSome) (path : after.path = none) (gone : next.own? = none)
  | removeStale (stale : phase = .stale) (removed : action = .removeStale none)
      (path : after.path = none) (own : next.own? = none)
  | reopen (own : phase.own?.isSome) (path : files.path = none) (kept : next.own? = phase.own?)

variable {lock : MigrationLock} {files after : FileSystem} {phase next : Phase} {action : Action}
variable {pid : Nat}

theorem path_removeFile {removed : FileSystem} (unlinked : files.removeFile = some removed) :
    removed.path = none := by
  unfold FileSystem.removeFile at unlinked
  split at unlinked <;> cases unlinked
  rfl

theorem path_createNew {created : FileSystem} {own : Nat} (fresh : files.createNew = some (created, own)) :
    files.path = none ∧ created.path = some own := by
  unfold FileSystem.createNew at fresh
  split at fresh
  · cases fresh
  · rename_i free
    cases fresh
    exact ⟨free, rfl⟩

theorem advance_footprint (taken : lock.advance pid files phase action = some (after, next)) :
    Footprint lock files after phase next action := by
  unfold MigrationLock.advance at taken
  -- One case for each arm of `advance`, in the order of its `match`.
  split at taken
  case h_1 => cases taken; exact .keep rfl rfl
  case h_2 => cases taken; exact .keep rfl rfl
  case h_3 => cases taken; exact .keep rfl (by split <;> rfl)
  case h_4 =>
    split at taken
    · cases taken; exact .keep rfl (by split <;> rfl)
    · cases taken; exact .keep rfl rfl
  case h_5 inode error now =>
    cases taken
    refine .keep rfl ?_
    cases lock.isStale now (if error then none else some (files.text inode)) <;> rfl
  case h_6 =>
    obtain ⟨removed, unlinked, done⟩ := Option.map_eq_some_iff.mp taken
    cases done
    exact .removeStale rfl rfl (path_removeFile unlinked) rfl
  case h_7 => cases taken; exact .keep rfl rfl
  case h_8 => cases taken; exact .keep rfl rfl
  case h_9 =>
    obtain ⟨⟨created, own⟩, fresh, done⟩ := Option.map_eq_some_iff.mp taken
    cases done
    obtain ⟨free, path⟩ := path_createNew fresh
    exact .create free path rfl
  case h_10 => cases taken; exact .keep rfl rfl
  case h_11 =>
    cases taken
    cases named : files.path with
    | some inode => exact .keep (by simp [named]) rfl
    | none => exact .reopen rfl named rfl
  case h_12 => cases taken; exact .giveUp rfl rfl
  case h_13 => cases taken; exact .keep rfl rfl
  case h_14 => cases taken; exact .keep rfl rfl
  case h_15 => cases taken; exact .giveUp rfl rfl
  case h_16 => cases taken; exact .keep rfl rfl
  case h_17 =>
    cases taken
    split
    · exact .keep rfl rfl
    · exact .giveUp rfl rfl
  case h_18 =>
    obtain ⟨removed, unlinked, done⟩ := Option.map_eq_some_iff.mp taken
    cases done
    exact .unlink rfl (path_removeFile unlinked) rfl
  case h_19 => cases taken; exact .giveUp rfl rfl
  case h_20 => cases taken; exact .giveUp rfl rfl
  case h_21 => cases taken

/-! ## Steps of all processes -/

variable {directory result : Directory} {step : Step}

theorem step_cases (taken : (machine lock).step directory step = some result) :
    ∃ files phase, lock.advance step.process directory.files (directory.phase step.process)
        step.action = some (files, phase) ∧
      result = ⟨files, Function.update directory.phase step.process phase⟩ := by
  obtain ⟨⟨files, phase⟩, advanced, rfl⟩ := Option.map_eq_some_iff.mp taken
  exact ⟨files, phase, advanced, rfl⟩

theorem Owned.of_sole {process : Nat} {files : FileSystem} {phases : Nat → Phase} {phase : Phase}
    (others : ∀ other, other ≠ process → (phases other).own? = none)
    (own : ∀ own, phase.own? = some own → files.path = some own) :
    Owned ⟨files, Function.update phases process phase⟩ := by
  have only : ∀ other, ((Function.update phases process phase) other).own?.isSome → other = process := by
    intro other owns
    by_contra different
    rw [Function.update_of_ne different, others other different] at owns
    cases owns
  constructor
  · intro owner mine owns
    obtain rfl := only owner (owns ▸ rfl)
    dsimp only at owns
    rw [Function.update_self] at owns
    exact own mine owns
  · intro first second owns also
    exact (only first owns).trans (only second also).symm

theorem Owned.update (owned : Owned directory) {process : Nat} {files : FileSystem} {phase : Phase}
    (path : files.path = directory.files.path)
    (own : phase.own? = (directory.phase process).own? ∨ phase.own? = none) :
    Owned ⟨files, Function.update directory.phase process phase⟩ := by
  have before : ∀ other mine, ((Function.update directory.phase process phase) other).own? = some mine →
      (directory.phase other).own? = some mine := by
    intro other mine owns
    by_cases same : other = process
    · subst same
      rw [Function.update_self] at owns
      rcases own with kept | gone
      · exact kept ▸ owns
      · rw [gone] at owns
        cases owns
    · rwa [Function.update_of_ne same] at owns
  constructor
  · intro owner mine owns
    rw [path]
    exact owned.placed owner mine (before owner mine owns)
  · intro first second owns also
    obtain ⟨mine, owns⟩ := Option.isSome_iff_exists.mp owns
    obtain ⟨yours, also⟩ := Option.isSome_iff_exists.mp also
    apply owned.single first second
    · exact before first mine owns ▸ rfl
    · exact before second yours also ▸ rfl

theorem Owned.none_of_free (owned : Owned directory) (free : directory.files.path = none) (owner : Nat) :
    (directory.phase owner).own? = none := by
  cases owns : (directory.phase owner).own? with
  | none => rfl
  | some own =>
      have placed := owned.placed owner own owns
      rw [free] at placed
      cases placed

theorem Owned.kept (owned : Owned directory) (spares : SparesOwned directory step)
    (taken : (machine lock).step directory step = some result) : Owned result := by
  obtain ⟨files, phase, advanced, rfl⟩ := step_cases taken
  cases advance_footprint advanced with
  | keep path own => exact owned.update path (.inl own)
  | giveUp path own => exact owned.update path (.inr own)
  | create free path own =>
      apply Owned.of_sole
      · exact fun other _ => owned.none_of_free free other
      · exact fun own owns => path.trans owns
  | unlink own path gone =>
      apply Owned.of_sole
      · intro other different
        by_contra owns
        exact different (owned.single other step.process (Option.isSome_iff_ne_none.mpr owns) own)
      · intro own owns
        rw [gone] at owns
        cases owns
  | removeStale stale removed path own =>
      apply Owned.of_sole
      · intro other _
        cases owns : (directory.phase other).own? with
        | none => rfl
        | some mine =>
            exact absurd (owned.placed other mine owns) (spares stale removed other mine owns)
      · intro mine owns
        rw [own] at owns
        cases owns
  | reopen own free kept =>
      rw [owned.none_of_free free step.process] at own
      cases own

theorem sparesOwned_of_action (kept : step.action ≠ .removeStale none) : SparesOwned directory step :=
  fun _ removed => absurd removed kept

end Evergreen.Migration
