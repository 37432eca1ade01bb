import Mathlib.Algebra.Order.Ring.Nat

namespace Evergreen.Usize

/-! # Arithmetic and slices of `usize`

Values are `Nat`s below `2 ^ 64`.  `checks` is the overflow check of the build:
with it an overflow panics, without it the result wraps.  Slicing panics in
every build.
-/

universe u

variable {Item : Type u} {checks : Bool} {left right start stop : Nat} {data source : List Item}

inductive Panic where
  | addOverflow
  | subOverflow
  | sliceOrder
  | sliceEnd
  | copyLength
deriving DecidableEq, Repr

/-- `value as usize` of an `i32` extends the sign. -/
def ofI32 (value : Int32) : Nat :=
  (value.toInt % 2 ^ 64).toNat

def add (checks : Bool) (left right : Nat) : Except Panic Nat :=
  if left + right < 2 ^ 64 then .ok (left + right)
  else if checks then .error .addOverflow
  else .ok ((left + right) % 2 ^ 64)

def sub (checks : Bool) (left right : Nat) : Except Panic Nat :=
  if right ≤ left then .ok (left - right)
  else if checks then .error .subOverflow
  else .ok (left + 2 ^ 64 - right)

/-- `data[start..stop]`. -/
def slice (data : List Item) (start stop : Nat) : Except Panic (List Item) :=
  if stop < start then .error .sliceOrder
  else if data.length < stop then .error .sliceEnd
  else .ok ((data.drop start).take (stop - start))

/-- `data[start..stop].copy_from_slice(source)`. -/
def copyFromSlice (data : List Item) (start stop : Nat) (source : List Item) :
    Except Panic (List Item) :=
  if stop < start then .error .sliceOrder
  else if data.length < stop then .error .sliceEnd
  else if source.length = stop - start then .ok (data.take start ++ source ++ data.drop stop)
  else .error .copyLength

/-! ## Panics in sequence -/

@[simp] theorem ok_bind {Value : Type u} {Result : Type u} (value : Value)
    (next : Value → Except Panic Result) : (Except.ok value >>= next) = next value := rfl

@[simp] theorem error_bind {Value : Type u} {Result : Type u} (panic : Panic)
    (next : Value → Except Panic Result) : (Except.error panic >>= next) = .error panic := rfl

@[simp] theorem pure_eq_ok {Value : Type u} (value : Value) :
    (pure value : Except Panic Value) = .ok value := rfl

theorem bind_eq_ok {Value : Type u} {Result : Type u} {first : Except Panic Value}
    {next : Value → Except Panic Result} {result : Result} :
    (first >>= next) = .ok result ↔ ∃ value, first = .ok value ∧ next value = .ok result := by
  cases first with
  | error panic => simp
  | ok value => simp

/-! ## Each operation inside and outside its range -/

theorem ofI32_cases (value : Int32) :
    (0 ≤ value.toInt ∧ (ofI32 value : Int) = value.toInt) ∨
      (value.toInt < 0 ∧ (ofI32 value : Int) = value.toInt + 2 ^ 64) := by
  have lower := value.le_toInt
  have upper := value.toInt_lt
  simp only [ofI32]
  omega

theorem add_of_lt (fits : left + right < 2 ^ 64) : add checks left right = .ok (left + right) := by
  rw [add, if_pos fits]

theorem add_of_le (overflows : 2 ^ 64 ≤ left + right) :
    add checks left right =
      if checks then .error .addOverflow else .ok ((left + right) % 2 ^ 64) := by
  rw [add, if_neg (Nat.not_lt.mpr overflows)]

theorem sub_of_le (fits : right ≤ left) : sub checks left right = .ok (left - right) := by
  rw [sub, if_pos fits]

theorem slice_of_le (ordered : start ≤ stop) (within : stop ≤ data.length) :
    slice data start stop = .ok ((data.drop start).take (stop - start)) := by
  rw [slice, if_neg (Nat.not_lt.mpr ordered), if_neg (Nat.not_lt.mpr within)]

theorem copyFromSlice_of_le (ordered : start ≤ stop) (within : stop ≤ data.length)
    (width : source.length = stop - start) :
    copyFromSlice data start stop source =
      .ok (data.take start ++ source ++ data.drop stop) := by
  rw [copyFromSlice, if_neg (Nat.not_lt.mpr ordered), if_neg (Nat.not_lt.mpr within),
    if_pos width]

theorem copyFromSlice_ok {copied : List Item}
    (success : copyFromSlice data start stop source = .ok copied) :
    start + source.length = stop ∧ stop ≤ data.length ∧ copied.length = data.length := by
  simp only [copyFromSlice] at success
  split at success
  · cases success
  · split at success
    · cases success
    · split at success
      · next width =>
        cases success
        simp only [List.length_append, List.length_take, List.length_drop]
        omega
      · cases success

end Evergreen.Usize
