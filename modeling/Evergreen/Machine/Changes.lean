import Mathlib.Logic.Function.Basic

namespace Evergreen

/-! # Change logs of partial maps

A change says what it finds, so it can be replayed only where it was recorded.
A store that is read key by key is followed by the `differences` its readings
make.  What is not read is not followed: the log ends at the store overwritten
by the readings, which is the store that was read only if no key is gone.
-/

universe u v

variable {Key : Type u} {Value : Type v}

inductive Change (Key : Type u) (Value : Type v) where
  | insert (key : Key) (value : Value)
  | update (key : Key) (before after : Value)
  | delete (key : Key)
deriving DecidableEq, Repr

section Stores

variable [DecidableEq Key] {store : Key → Option Value} {key : Key}

/-- The store with the readings taken over, the last one of a key last. -/
def overwrite (store : Key → Option Value) (readings : List (Key × Value)) : Key → Option Value :=
  readings.foldl (fun store reading => Function.update store reading.1 (some reading.2)) store

@[simp] theorem overwrite_nil : overwrite store [] = store := rfl

@[simp] theorem overwrite_cons {reading : Key × Value} {readings : List (Key × Value)} :
    overwrite store (reading :: readings) =
      overwrite (Function.update store reading.1 (some reading.2)) readings := rfl

theorem overwrite_append {first second : List (Key × Value)} :
    overwrite store (first ++ second) = overwrite (overwrite store first) second :=
  List.foldl_append

/-- The store that was read. -/
def readStore (readings : List (Key × Value)) : Key → Option Value :=
  overwrite (fun _ => none) readings

theorem overwrite_apply (readings : List (Key × Value)) :
    overwrite store readings key = (readStore readings key).or (store key) := by
  unfold readStore
  induction readings generalizing store with
  | nil => rfl
  | cons reading readings ih =>
      rw [overwrite_cons, overwrite_cons, ih, @ih (Function.update _ _ _), Option.or_assoc]
      by_cases same : key = reading.1
      · subst same
        simp
      · simp [Function.update_of_ne same]

/-- Nothing but a vanished key separates the two. -/
theorem overwrite_eq_readStore_iff {readings : List (Key × Value)} :
    overwrite store readings = readStore readings ↔
      ∀ key, store key ≠ none → readStore readings key ≠ none := by
  constructor
  · intro same key held gone
    have value := congrFun same key
    rw [overwrite_apply, gone, Option.none_or] at value
    exact held value
  · intro retained
    funext key
    rw [overwrite_apply]
    cases read : readStore readings key with
    | some value => rfl
    | none =>
        rw [Option.none_or]
        by_contra held
        exact retained key held read

variable [DecidableEq Value]

def Change.apply (store : Key → Option Value) : Change Key Value → Option (Key → Option Value)
  | .insert key value =>
      if store key = none then some (Function.update store key (some value)) else none
  | .update key before after =>
      if store key = some before then some (Function.update store key (some after)) else none
  | .delete key => if store key = none then none else some (Function.update store key none)

def replay (store : Key → Option Value) (changes : List (Change Key Value)) :
    Option (Key → Option Value) :=
  changes.foldlM Change.apply store

@[simp] theorem replay_nil : replay store [] = some store := rfl

theorem replay_append {first second : List (Change Key Value)} :
    replay store (first ++ second) =
      (replay store first).bind fun store => replay store second :=
  List.foldlM_append

/-- What one reading shows to have changed. -/
def difference (store : Key → Option Value) (key : Key) (value : Value) : Option (Change Key Value) :=
  match store key with
  | none => some (.insert key value)
  | some before => if before = value then none else some (.update key before value)

def differences (store : Key → Option Value) : List (Key × Value) → List (Change Key Value)
  | [] => []
  | reading :: readings =>
      (difference store reading.1 reading.2).toList ++
        differences (Function.update store reading.1 (some reading.2)) readings

theorem differences_append {first second : List (Key × Value)} :
    differences store (first ++ second) =
      differences store first ++ differences (overwrite store first) second := by
  induction first generalizing store with
  | nil => rfl
  | cons reading first ih =>
      rw [List.cons_append, differences, differences, overwrite_cons, ih, List.append_assoc]

theorem replay_difference (value : Value) :
    replay store (difference store key value).toList =
      some (Function.update store key (some value)) := by
  unfold difference
  cases held : store key with
  | none => simp [replay, Change.apply, held]
  | some before =>
      by_cases same : before = value
      · subst same
        simp [← held]
      · simp [same, replay, Change.apply, held]

/-- The recorded differences lead from the store to the store overwritten. -/
theorem replay_differences (readings : List (Key × Value)) :
    replay store (differences store readings) = some (overwrite store readings) := by
  induction readings generalizing store with
  | nil => rfl
  | cons reading readings ih =>
      rw [differences, replay_append, replay_difference, Option.bind_some, ih, overwrite_cons]

end Stores

end Evergreen
