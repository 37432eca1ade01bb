import Mathlib.Data.List.Basic

namespace Evergreen

/-! # Registers and first comers

What a fold over writes ends at: the last write where each replaces what was
there, the first one where every write leaves alone what a write has made.
-/

universe u v

variable {Value : Type u} {Write : Type v} {start : Value} {writes : List Write}

/-- What a register holds after the writes, some of which store a value. -/
theorem foldl_lastWrite {held : Option Value} (stored : Write → Option Value) :
    writes.foldl (fun held write => (stored write).or held) held =
      (writes.filterMap stored).getLast?.or held := by
  induction writes generalizing held with
  | nil => rfl
  | cons write rest ih =>
      rw [List.foldl_cons, ih]
      cases found : stored write with
      | none => simp [found]
      | some value =>
          rw [List.filterMap_cons_some found, List.getLast?_cons]
          cases (rest.filterMap stored).getLast? <;> rfl

theorem getLast?_filterMap_concat {write : Write} (stored : Write → Option Value) :
    ((writes ++ [write]).filterMap stored).getLast? =
      (stored write).or (writes.filterMap stored).getLast? := by
  rw [List.filterMap_append]
  cases found : stored write with
  | none => simp [found]
  | some value => simp [found]

/-- Writes that absorb each other leave what the first one made. -/
theorem foldl_firstWrite {apply : Value → Write → Value}
    (absorbs : ∀ value first second, apply (apply value first) second = apply value first) :
    writes.foldl apply start = writes.head?.elim start (apply start) := by
  cases writes with
  | nil => rfl
  | cons write rest =>
      have kept : ∀ rest : List Write, rest.foldl apply (apply start write) = apply start write := by
        intro rest
        induction rest with
        | nil => rfl
        | cons second rest ih => rw [List.foldl_cons, absorbs, ih]
      exact kept rest

end Evergreen
