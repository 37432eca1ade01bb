import Mathlib.Data.List.Infix

namespace Evergreen.Text

/-! # The first occurrence of a piece

Over any alphabet: `find` tells where a piece first occurs, and `chunks` cuts a
list into pieces of one length.
-/

universe u

variable {Item : Type u}

def find [DecidableEq Item] (piece : List Item) : List Item → Option Nat
  | [] => if piece = [] then some 0 else none
  | item :: rest =>
      if piece.isPrefixOf (item :: rest) then some 0 else (find piece rest).map (· + 1)

/-- The piece stands at this place. -/
def OccursAt (piece text : List Item) (place : Nat) : Prop :=
  place ≤ text.length ∧ piece <+: text.drop place

variable {piece text before after : List Item} {place : Nat}

theorem occursAt_zero : OccursAt piece text 0 ↔ piece <+: text := by
  rw [OccursAt, List.drop_zero, and_iff_right (Nat.zero_le _)]

theorem occursAt_cons_succ {item : Item} {rest : List Item} :
    OccursAt piece (item :: rest) (place + 1) ↔ OccursAt piece rest place := by
  rw [OccursAt, OccursAt, List.length_cons, Nat.add_le_add_iff_right, List.drop_succ_cons]

theorem find_eq_some_iff [DecidableEq Item] : find piece text = some place ↔
    OccursAt piece text place ∧ ∀ earlier < place, ¬ OccursAt piece text earlier := by
  induction text generalizing place with
  | nil =>
      rw [find]
      split_ifs with empty
      · subst empty
        simp only [Option.some.injEq, OccursAt, List.length_nil, Nat.le_zero, List.nil_prefix,
          and_true]
        exact ⟨fun same => ⟨same.symm, fun earlier less => by omega⟩, fun both => both.1.symm⟩
      · simp only [false_iff, not_and]
        intro occurs
        rw [OccursAt, List.drop_nil, List.prefix_nil] at occurs
        exact absurd occurs.2 empty
  | cons item rest ih =>
      rw [find]
      split_ifs with here
      · have start : OccursAt piece (item :: rest) 0 :=
          occursAt_zero.mpr (List.isPrefixOf_iff_prefix.mp here)
        constructor
        · rintro ⟨⟩
          exact ⟨start, fun earlier less => absurd less (Nat.not_lt_zero _)⟩
        · rintro ⟨-, first⟩
          rcases Nat.eq_zero_or_pos place with rfl | later
          · rfl
          · exact absurd start (first 0 later)
      · have elsewhere : ¬ OccursAt piece (item :: rest) 0 := fun occurs =>
          here (List.isPrefixOf_iff_prefix.mpr (occursAt_zero.mp occurs))
        cases place with
        | zero => simp [elsewhere]
        | succ place =>
            rw [Option.map_eq_some_iff]
            simp only [Nat.add_right_cancel_iff, exists_eq_right, ih, occursAt_cons_succ]
            refine and_congr_right fun _ => ⟨fun first earlier less => ?_, fun first earlier less => ?_⟩
            · cases earlier with
              | zero => exact elsewhere
              | succ earlier =>
                  rw [occursAt_cons_succ]
                  exact first earlier (by omega)
            · exact fun occurs => first (earlier + 1) (by omega) (occursAt_cons_succ.mpr occurs)

theorem occursAt_append : OccursAt piece (before ++ (piece ++ after)) before.length := by
  refine ⟨by rw [List.length_append]; exact Nat.le_add_right _ _, ?_⟩
  rw [List.drop_left]
  exact List.prefix_append _ _

/-- A piece that occurs is found, there or earlier. -/
theorem find_of_occursAt [DecidableEq Item] (occurs : OccursAt piece text place) :
    ∃ first ≤ place, find piece text = some first := by
  induction place using Nat.strong_induction_on with
  | _ place ih =>
      by_cases earlier : ∃ other < place, OccursAt piece text other
      · obtain ⟨other, less, found⟩ := earlier
        obtain ⟨first, le, found⟩ := ih other less found
        exact ⟨first, le.trans less.le, found⟩
      · refine ⟨place, le_rfl, find_eq_some_iff.mpr ⟨occurs, fun other less found => ?_⟩⟩
        exact earlier ⟨other, less, found⟩

/-! ## Chunks -/

variable {size : Nat}

def chunks (size : Nat) (items : List Item) : List (List Item) := go items.length items
where
  go : Nat → List Item → List (List Item)
    | 0, _ => []
    | fuel + 1, items =>
        if items = [] then [] else items.take size :: go fuel (items.drop size)

theorem flatten_chunks (positive : 0 < size) (items : List Item) :
    (chunks size items).flatten = items := by
  have enough : ∀ fuel (items : List Item), items.length ≤ fuel →
      (chunks.go size fuel items).flatten = items := by
    intro fuel
    induction fuel with
    | zero =>
        intro items short
        rw [List.length_eq_zero_iff.mp (Nat.le_zero.mp short)]
        rfl
    | succ fuel ih =>
        intro items short
        rw [chunks.go]
        split_ifs with empty
        · rw [empty]
          rfl
        · have nonempty := List.length_pos_iff.mpr empty
          rw [List.flatten_cons, ih _ (by rw [List.length_drop]; omega), List.take_append_drop]
  exact enough items.length items le_rfl

end Evergreen.Text
