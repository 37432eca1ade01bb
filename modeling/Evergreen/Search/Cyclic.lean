import Mathlib.Data.Prod.Lex
import Evergreen.Search.Binary

namespace Evergreen.Search

/-! # The next point of a ring

On a ring of keys the next point from a target is the least one that is not
before it, and past the greatest one the search goes on at the least.  Which
point that is does not change when others are taken away.
-/

universe u v

variable {Key : Type u} [LinearOrder Key] {Point : Type v}

/-- Where a key stands on the way round from the target. -/
def turn (target key : Key) : Bool ×ₗ Key := toLex (decide (key < target), key)

def IsNext (key : Point → Key) (target : Key) (ring : List Point) (point : Point) : Prop :=
  point ∈ ring ∧ ∀ other ∈ ring, turn target (key point) ≤ turn target (key other)

variable {key : Point → Key} {target : Key} {ring larger : List Point} {point other : Point}

theorem turn_injective (target : Key) : Function.Injective (turn target) := by
  intro first second same
  exact congrArg Prod.snd (toLex.injective same)

/-- Taking other points away leaves the next one where it is. -/
theorem IsNext.of_subset (next : IsNext key target larger point) (fewer : ring ⊆ larger)
    (kept : point ∈ ring) : IsNext key target ring point :=
  ⟨kept, fun other member => next.2 other (fewer member)⟩

theorem IsNext.unique (distinct : ∀ first ∈ ring, ∀ second ∈ ring, key first = key second → first = second)
    (one : IsNext key target ring point) (two : IsNext key target ring other) : point = other := by
  have same := le_antisymm (one.2 other two.1) (two.2 point one.1)
  exact distinct point one.1 other two.1 (turn_injective target same)

theorem turn_le_of_ahead {first second : Key} (ahead : target ≤ first)
    (ordered : target ≤ second → first ≤ second) : turn target first ≤ turn target second := by
  rw [turn, turn, Prod.Lex.toLex_le_toLex]
  by_cases behind : second < target
  · left
    simp [not_lt.mpr ahead, behind]
  · right
    simp [not_lt.mpr ahead, behind, ordered (not_lt.mp behind)]

theorem turn_le_of_behind {first second : Key} (behind : second < target) (ordered : first ≤ second) :
    turn target first ≤ turn target second := by
  rw [turn, turn, Prod.Lex.toLex_le_toLex]
  right
  simp [behind, ordered.trans_lt behind, ordered]

/-- The next point in so many words: the least one that is not before the target,
or the least of all where every one is before it. -/
theorem isNext_iff : IsNext key target ring point ↔ point ∈ ring ∧
    ((target ≤ key point ∧ ∀ other ∈ ring, target ≤ key other → key point ≤ key other) ∨
      ((∀ other ∈ ring, key other < target) ∧ ∀ other ∈ ring, key point ≤ key other)) := by
  refine and_congr_right fun member => ⟨fun least => ?_, fun found other also => ?_⟩
  · simp only [turn, Prod.Lex.toLex_le_toLex, Bool.lt_iff, decide_eq_false_iff_not, not_lt,
      decide_eq_true_eq, decide_eq_decide] at least
    by_cases ahead : target ≤ key point
    · refine .inl ⟨ahead, fun other also reached => ?_⟩
      rcases least other also with ⟨_, behind⟩ | ⟨_, ordered⟩
      · exact absurd reached (not_le.mpr behind)
      · exact ordered
    · have behind := not_le.mp ahead
      refine .inr ⟨fun other also => ?_, fun other also => ?_⟩
      · rcases least other also with ⟨reached, _⟩ | ⟨same, _⟩
        · exact absurd reached ahead
        · exact same.mp behind
      · rcases least other also with ⟨reached, _⟩ | ⟨_, ordered⟩
        · exact absurd reached ahead
        · exact ordered
  · rcases found with ⟨ahead, ordered⟩ | ⟨behind, ordered⟩
    · exact turn_le_of_ahead ahead (ordered other also)
    · exact turn_le_of_behind (behind other also) (ordered other also)

/-! ## Searching a sorted ring -/

/-- The index that a search for the target ends at, past the last back at the first. -/
def nextIndex (key : Point → Key) (target : Key) (ring : List Point) : Nat :=
  match binarySearchBy (fun point => compare (key point) target) ring with
  | .ok index => index
  | .error index => index % ring.length

theorem ascending_of_sorted (sorted : ring.Pairwise fun first second => key first < key second) :
    Ascending (fun point => compare (key point) target) ring := by
  refine sorted.imp fun {first second} ordered reached => ?_
  rw [compare_gt_iff_gt]
  exact (not_lt.mp (mt compare_lt_iff_lt.mpr reached)).trans_lt ordered

theorem isNext_nextIndex (sorted : ring.Pairwise fun first second => key first < key second)
    (listed : ring ≠ []) :
    ∃ bound : nextIndex key target ring < ring.length,
      IsNext key target ring ring[nextIndex key target ring] := by
  have ascending := @ascending_of_sorted _ _ _ key target ring sorted
  have ordered := List.pairwise_iff_getElem.mp sorted
  have positive := List.length_pos_iff.mpr listed
  unfold nextIndex
  cases searched : binarySearchBy (fun point => compare (key point) target) ring with
  | ok index =>
      obtain ⟨bound, equal⟩ := binarySearchBy_ok ascending searched
      have found := compare_eq_iff_eq.mp equal
      refine ⟨bound, List.getElem_mem bound, fun other _ => ?_⟩
      exact turn_le_of_ahead found.ge fun ahead => found.le.trans ahead
  | error index =>
      obtain ⟨upTo, below, above⟩ := binarySearchBy_error ascending searched
      have behind : ∀ before (bound : before < ring.length), before < index →
          key ring[before] < target :=
        fun before bound earlier => compare_lt_iff_lt.mp (below before bound earlier)
      have least : ∀ first (bound : first < ring.length) later (bounded : later < ring.length),
          first ≤ later → key ring[first] ≤ key ring[later] := by
        intro first bound later bounded order
        rcases Nat.lt_or_eq_of_le order with before | rfl
        · exact (ordered first later bound bounded before).le
        · exact le_refl _
      dsimp only
      rcases Nat.lt_or_eq_of_le upTo with inside | past
      · -- The point at the index is the first one beyond the target.
        refine ⟨by rwa [Nat.mod_eq_of_lt inside], ?_⟩
        simp only [Nat.mod_eq_of_lt inside]
        have ahead := compare_gt_iff_gt.mp (above index inside (Nat.le_refl index))
        refine ⟨List.getElem_mem inside, fun other member => ?_⟩
        obtain ⟨position, bound, rfl⟩ := List.mem_iff_getElem.mp member
        apply turn_le_of_ahead ahead.le
        intro also
        rcases Nat.lt_or_ge position index with earlier | later
        · exact absurd also (not_le.mpr (behind position bound earlier))
        · exact least index inside position bound later
      · -- Every point is behind the target, and the search starts over.
        subst past
        refine ⟨by rwa [Nat.mod_self], ?_⟩
        simp only [Nat.mod_self]
        refine ⟨List.getElem_mem positive, fun other member => ?_⟩
        obtain ⟨position, bound, rfl⟩ := List.mem_iff_getElem.mp member
        exact turn_le_of_behind (behind position bound bound) (least 0 positive position bound (Nat.zero_le _))

end Evergreen.Search
