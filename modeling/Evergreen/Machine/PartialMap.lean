import Mathlib.Logic.Function.Basic

namespace Evergreen

/-! # Partial maps that may forget

A store that evicts is related to the map of what was written by `Within`: it
may know less, never something else.
-/

universe u v

variable {Key : Type u} {Value : Type v}

/-- Whatever `store` holds, `written` holds as well. -/
def Within (store written : Key → Option Value) : Prop :=
  ∀ key value, store key = some value → written key = some value

namespace Within

variable {store later written : Key → Option Value}

theorem refl : Within store store := fun _ _ held => held

theorem trans (first : Within later store) (second : Within store written) :
    Within later written :=
  fun key value held => second key value (first key value held)

/-- Only the keys that `written` forgets have to be gone from the store. -/
theorem filter {gone : Key → Prop} [DecidablePred gone] (within : Within store written)
    (absent : ∀ key, gone key → store key = none) :
    Within store (fun key => if gone key then none else written key) := by
  intro key value found
  have kept : ¬ gone key := fun dropped => by simp [absent key dropped] at found
  simpa [kept] using within key value found

variable [DecidableEq Key]

theorem update (within : Within store written) (key : Key) (value : Option Value) :
    Within (Function.update store key value) (Function.update written key value) := by
  intro other held found
  by_cases same : other = key
  · subst same
    simpa using found
  · rw [Function.update_of_ne same] at found ⊢
    exact within other held found

end Within

end Evergreen
