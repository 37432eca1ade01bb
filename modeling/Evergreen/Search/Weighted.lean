import Mathlib.Algebra.Order.Ring.Nat
import Mathlib.Data.List.Rotate
import Mathlib.Data.List.Nodup

namespace Evergreen.Search

/-! # Choosing by weight

Each entry of a list holds as many consecutive positions as it weighs.  A
position that goes round once, from wherever it stands, comes upon every entry
as often as its weight says.
-/

universe u

variable {Label : Type u} {entries : List (Label × Nat)} {label : Label} {weight position : Nat}

def totalWeight (entries : List (Label × Nat)) : Nat := (entries.map Prod.snd).sum

@[simp] theorem totalWeight_cons (entry : Label × Nat) (entries : List (Label × Nat)) :
    totalWeight (entry :: entries) = entry.2 + totalWeight entries := by
  simp [totalWeight]

/-- The entry that holds a position. -/
def pick : List (Label × Nat) → Nat → Option Label
  | [], _ => none
  | (label, weight) :: rest, position =>
      if position < weight then some label else pick rest (position - weight)

theorem pick_isSome_of_lt (inside : position < totalWeight entries) :
    (pick entries position).isSome := by
  induction entries generalizing position with
  | nil => exact absurd inside (Nat.not_lt_zero _)
  | cons entry entries ih =>
      unfold pick
      split
      · rfl
      · rw [totalWeight_cons] at inside
        exact ih (by omega)

theorem pick_mem (picked : pick entries position = some label) :
    ∃ weight, (label, weight) ∈ entries := by
  induction entries generalizing position with
  | nil => cases picked
  | cons entry entries ih =>
      unfold pick at picked
      split at picked
      · cases picked
        exact ⟨entry.2, List.mem_cons_self⟩
      · obtain ⟨weight, member⟩ := ih picked
        exact ⟨weight, List.mem_cons_of_mem _ member⟩

/-- The positions of the first entry come first, the others follow in order. -/
theorem map_pick_range (entries : List (Label × Nat)) :
    (List.range (totalWeight entries)).map (pick entries) =
      entries.flatMap fun entry => List.replicate entry.2 (some entry.1) := by
  induction entries with
  | nil => rfl
  | cons entry entries ih =>
      have first : (List.range entry.2).map (pick (entry :: entries)) =
          List.replicate entry.2 (some entry.1) := by
        refine List.eq_replicate_iff.mpr ⟨by simp, fun picked member => ?_⟩
        obtain ⟨position, inside, rfl⟩ := List.mem_map.mp member
        exact if_pos (List.mem_range.mp inside)
      have later : (List.range (totalWeight entries)).map
          (pick (entry :: entries) ∘ (entry.2 + ·)) =
            (List.range (totalWeight entries)).map (pick entries) := by
        refine List.map_congr_left fun position _ => ?_
        have past : ¬ entry.2 + position < entry.2 := by omega
        simp only [Function.comp_apply, pick, if_neg past, Nat.add_sub_cancel_left]
      rw [totalWeight_cons, List.range_add, List.map_append, List.map_map, first, later, ih,
        List.flatMap_cons]

theorem perm_window (start size : Nat) :
    ((List.range size).map fun turn => (start + turn) % size).Perm (List.range size) := by
  have rotated : (List.range size).map (fun turn => (start + turn) % size) =
      (List.range size).rotate start := by
    refine List.ext_getElem (by simp) fun turn _ _ => ?_
    simp [List.getElem_rotate, Nat.add_comm]
  rw [rotated]
  exact List.rotate_perm _ _

section Count

variable [DecidableEq Label]

theorem count_flatMap_replicate (distinct : (entries.map Prod.fst).Nodup)
    (member : (label, weight) ∈ entries) :
    (entries.flatMap fun entry => List.replicate entry.2 (some entry.1)).count (some label) =
      weight := by
  induction entries with
  | nil => cases member
  | cons entry entries ih =>
      obtain ⟨fresh, distinct⟩ := List.nodup_cons.mp distinct
      rw [List.flatMap_cons, List.count_append, List.count_replicate]
      rcases List.mem_cons.mp member with rfl | member
      · have absent : (entries.flatMap fun entry => List.replicate entry.2 (some entry.1)).count
            (some label) = 0 := by
          refine List.count_eq_zero.mpr fun found => fresh ?_
          obtain ⟨other, held, copied⟩ := List.mem_flatMap.mp found
          exact List.mem_map.mpr ⟨other, held, (Option.some.inj (List.eq_of_mem_replicate copied)).symm⟩
        simp [absent]
      · have differs : entry.1 ≠ label := fun same => fresh (same ▸ List.mem_map_of_mem member)
        simp [differs, ih distinct member]

theorem count_pick_window (start : Nat) (distinct : (entries.map Prod.fst).Nodup)
    (member : (label, weight) ∈ entries) :
    ((List.range (totalWeight entries)).map fun turn =>
      pick entries ((start + turn) % totalWeight entries)).count (some label) = weight := by
  have turned := (perm_window start (totalWeight entries)).map (pick entries)
  rw [List.map_map] at turned
  rw [← count_flatMap_replicate distinct member, ← map_pick_range]
  exact turned.count_eq _

end Count

end Evergreen.Search
