import Mathlib.Data.List.Basic

namespace Evergreen.Search

/-! # Binary search

The search that keeps a window of candidates and halves it without looking for
an early hit.  An element is `.lt`, `.eq` or `.gt` by where it stands to what is
searched for.
-/

universe u

variable {Element : Type u}

/-- The window shrinks to its lower or its upper half until one index is left. -/
def narrow (order : Element → Ordering) (elements : List Element) (base size : Nat) : Nat :=
  if 1 < size then
    let half := size / 2
    let mid := base + half
    narrow order elements (if elements[mid]?.map order = some .gt then base else mid) (size - half)
  else base
termination_by size

/-- The index of an equal element, or the index where one could be inserted. -/
def binarySearchBy (order : Element → Ordering) (elements : List Element) : Except Nat Nat :=
  if elements.isEmpty then .error 0
  else
    let base := narrow order elements 0 elements.length
    match elements[base]?.map order with
    | some .eq => .ok base
    | some .lt => .error (base + 1)
    | _ => .error base

/-- Past an element that is not less, everything is greater. -/
def Ascending (order : Element → Ordering) (elements : List Element) : Prop :=
  elements.Pairwise fun first second => order first ≠ .lt → order second = .gt

variable {order : Element → Ordering} {elements : List Element} {base size index : Nat}

/-- Everything outside the window is decided. -/
structure Window (order : Element → Ordering) (elements : List Element) (base size : Nat) : Prop where
  positive : 0 < size
  inside : base + size ≤ elements.length
  below : ∀ index (bound : index < elements.length), index < base → order elements[index] = .lt
  above : ∀ index (bound : index < elements.length), base + size ≤ index → order elements[index] = .gt

theorem Ascending.gt_of_not_lt (ascending : Ascending order elements) {first second : Nat}
    (before : first < second) (bound : second < elements.length)
    (reached : order (elements[first]) ≠ .lt) : order elements[second] = .gt :=
  List.pairwise_iff_getElem.mp ascending first second _ bound before reached

theorem Window.halve (window : Window order elements base size) (ascending : Ascending order elements)
    (wide : 1 < size) :
    Window order elements
      (if elements[base + size / 2]?.map order = some .gt then base else base + size / 2)
      (size - size / 2) := by
  have inside := window.inside
  have bound : base + size / 2 < elements.length := by omega
  simp only [List.getElem?_eq_getElem bound, Option.map_some, Option.some.injEq]
  by_cases greater : order elements[base + size / 2] = .gt
  · rw [if_pos greater]
    refine ⟨by omega, by omega, window.below, fun index inBounds beyond => ?_⟩
    rcases Nat.lt_or_ge (base + size / 2) index with after | upTo
    · exact ascending.gt_of_not_lt after inBounds (by rw [greater]; decide)
    · have middle : index = base + size / 2 := by omega
      subst middle
      exact greater
  · rw [if_neg greater]
    refine ⟨by omega, by omega, fun index inBounds before => ?_, fun index inBounds beyond => ?_⟩
    · by_contra reached
      exact greater (ascending.gt_of_not_lt before bound reached)
    · exact window.above index inBounds (by omega)

theorem Window.narrow (window : Window order elements base size)
    (ascending : Ascending order elements) :
    Window order elements (narrow order elements base size) 1 := by
  fun_induction Search.narrow order elements base size with
  | case1 base size wide half mid ih => exact ih (window.halve ascending wide)
  | case2 base size single =>
      have positive := window.positive
      obtain rfl : size = 1 := by omega
      exact window

theorem window_all (some : elements ≠ []) : Window order elements 0 elements.length where
  positive := List.length_pos_iff.mpr some
  inside := by omega
  below index bound before := absurd before (Nat.not_lt_zero index)
  above index bound beyond := by omega

/-- The index that is left decides. -/
theorem binarySearchBy_eq (ascending : Ascending order elements) (listed : elements ≠ []) :
    ∃ base, ∃ bound : base < elements.length, Window order elements base 1 ∧
      binarySearchBy order elements = match order elements[base] with
        | .eq => .ok base
        | .lt => .error (base + 1)
        | .gt => .error base := by
  have window := (@window_all _ order elements listed).narrow ascending
  have inside := window.inside
  have bound : Search.narrow order elements 0 elements.length < elements.length := by omega
  refine ⟨_, bound, window, ?_⟩
  rw [binarySearchBy, if_neg (by simpa using listed)]
  simp only [List.getElem?_eq_getElem bound, Option.map_some]
  cases order elements[Search.narrow order elements 0 elements.length] <;> rfl

theorem binarySearchBy_ok (ascending : Ascending order elements)
    (found : binarySearchBy order elements = .ok index) :
    ∃ bound : index < elements.length, order elements[index] = .eq := by
  have listed : elements ≠ [] := by
    rintro rfl
    cases found
  obtain ⟨base, bound, _, result⟩ := binarySearchBy_eq ascending listed
  rw [result] at found
  cases compared : order elements[base] with
  | eq =>
      rw [compared] at found
      cases found
      exact ⟨bound, compared⟩
  | lt =>
      rw [compared] at found
      cases found
  | gt =>
      rw [compared] at found
      cases found

theorem binarySearchBy_error (ascending : Ascending order elements)
    (missing : binarySearchBy order elements = .error index) :
    index ≤ elements.length ∧
      (∀ before (bound : before < elements.length), before < index → order elements[before] = .lt) ∧
      ∀ after (bound : after < elements.length), index ≤ after → order elements[after] = .gt := by
  by_cases listed : elements = []
  · subst listed
    cases missing
    exact ⟨Nat.le_refl 0, fun before bound => absurd bound (Nat.not_lt_zero before),
      fun after bound => absurd bound (Nat.not_lt_zero after)⟩
  · obtain ⟨base, bound, window, result⟩ := binarySearchBy_eq ascending listed
    rw [result] at missing
    cases compared : order elements[base] with
    | eq =>
        rw [compared] at missing
        cases missing
    | lt =>
        rw [compared] at missing
        cases missing
        refine ⟨bound, fun before inBounds earlier => ?_, window.above⟩
        rcases Nat.lt_or_eq_of_le (Nat.lt_succ_iff.mp earlier) with below | rfl
        · exact window.below before inBounds below
        · exact compared
    | gt =>
        rw [compared] at missing
        cases missing
        refine ⟨Nat.le_of_lt bound, window.below, fun after inBounds later => ?_⟩
        rcases Nat.lt_or_eq_of_le later with beyond | rfl
        · exact window.above after inBounds beyond
        · exact compared

end Evergreen.Search
