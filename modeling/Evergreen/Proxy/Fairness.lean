import Evergreen.Proxy.Balancer
import Mathlib.Data.List.Count
import Mathlib.Data.Option.Basic

namespace Evergreen.Proxy

/-! # Weighted round-robin is fair

`rr_index` goes round the positions of the weights one at a time, so as many
selections as the weights sum to come upon each of them once, wherever they
start.
-/

namespace Balancer

/-- Selections in a row, `none` where one of them panics. -/
def selects (checks : Bool) : Nat → Balancer → Option (List Choice × Balancer)
  | 0, balancer => some ([], balancer)
  | turns + 1, balancer =>
      (balancer.selectBackend checks).bind fun (choice, next) =>
        (selects checks turns next).map fun (choices, last) => (choice :: choices, last)

/-- The selections are shared out by weight: the loop returns each healthy entry as
often as it weighs and no other one, and nothing is left for after the loop. -/
structure Shares (balancer : Balancer) (choices : List Choice) : Prop where
  length : choices.length = Search.totalWeight balancer.healthy
  inLoop : ∀ choice ∈ choices, ∃ index entry, choice = .inLoop index ∧
    balancer.backends[index]? = some entry ∧ entry.healthy = true
  count : ∀ index entry, balancer.backends[index]? = some entry →
    choices.count (.inLoop index) = if entry.healthy then entry.weight else 0

variable {balancer next : Balancer} {checks : Bool} {choices : List Choice}

theorem healthy_of_backends (same : next.backends = balancer.backends) :
    next.healthy = balancer.healthy := by
  rw [healthy, healthy, same]

theorem selects_eq (checks : Bool) (fits : Search.totalWeight balancer.healthy < 2 ^ 32)
    (positive : 0 < Search.totalWeight balancer.healthy) (turns : Nat) :
    ∃ (indices : List Nat) (last : Balancer),
      balancer.selects checks turns = some (indices.map .inLoop, last) ∧
      last.backends = balancer.backends ∧
        indices.map some = (List.range turns).map fun turn => Search.pick balancer.healthy
          ((balancer.rrIndex + turn) % Search.totalWeight balancer.healthy) := by
  induction turns generalizing balancer with
  | zero => exact ⟨[], balancer, rfl, rfl, rfl⟩
  | succ turns ih =>
      obtain ⟨index, next, chosen, picked, same, moved⟩ := choose_of_total checks fits positive
      have kept := healthy_of_backends same
      obtain ⟨indices, last, selected, unchanged, later⟩ :=
        @ih next (by rw [kept]; exact fits) (by rw [kept]; exact positive)
      refine ⟨index :: indices, last, ?_, unchanged.trans same, ?_⟩
      · simp only [selects, selectBackend, chosen, Option.bind_some, selected, Option.map_some,
          List.map_cons]
      · rw [List.range_succ_eq_map, List.map_cons, List.map_cons, List.map_map, Nat.add_zero,
          picked, later, kept, moved]
        refine congrArg _ (List.map_congr_left fun turn _ => ?_)
        rw [Function.comp_apply, Nat.mod_add_mod, Nat.succ_eq_add_one, Nat.add_assoc,
          Nat.add_comm 1 turn]

theorem selects_listed {indices : List Nat} {turns : Nat}
    (picked : indices.map some = (List.range turns).map fun turn => Search.pick balancer.healthy
      ((balancer.rrIndex + turn) % Search.totalWeight balancer.healthy)) :
    ∀ choice ∈ indices.map Choice.inLoop, ∃ index entry, choice = .inLoop index ∧
      balancer.backends[index]? = some entry ∧ entry.healthy = true := by
  intro choice chosen
  obtain ⟨index, member, rfl⟩ := List.mem_map.mp chosen
  have found := @List.mem_map_of_mem _ _ _ _ some member
  rw [picked] at found
  obtain ⟨turn, _, held⟩ := List.mem_map.mp found
  obtain ⟨weight, listed⟩ := Search.pick_mem held
  obtain ⟨entry, present, healthy, _⟩ := mem_healthy.mp listed
  exact ⟨index, entry, rfl, present, healthy⟩

/-- Once round the weights, from any `rr_index`, the selections are shared out by
weight. -/
theorem selects_shares (checks : Bool) (balancer : Balancer)
    (positive : 1 ≤ Search.totalWeight balancer.healthy)
    (fits : Search.totalWeight balancer.healthy < 2 ^ 32) :
    ∃ choices last, balancer.selects checks (Search.totalWeight balancer.healthy) =
      some (choices, last) ∧ balancer.Shares choices := by
  obtain ⟨indices, last, selected, _, picked⟩ :=
    selects_eq checks fits positive (Search.totalWeight balancer.healthy)
  have listed := selects_listed picked
  refine ⟨_, last, selected, ⟨?_, listed, ?_⟩⟩
  · have turns := congrArg List.length picked
    simpa using turns
  · intro index entry present
    cases healthy : entry.healthy with
    | true =>
        have held : (index, entry.weight) ∈ balancer.healthy :=
          mem_healthy.mpr ⟨entry, present, healthy, rfl⟩
        calc (indices.map Choice.inLoop).count (.inLoop index)
            = indices.count index :=
              List.count_map_of_injective _ _ (fun _ _ same => Choice.inLoop.inj same) _
          _ = (indices.map some).count (some index) :=
              (List.count_map_of_injective _ _ (Option.some_injective _) _).symm
          _ = entry.weight := by
              rw [picked]
              exact Search.count_pick_window _ (healthy_nodup balancer) held
    | false =>
        refine List.count_eq_zero.mpr fun chosen => ?_
        obtain ⟨other, found, same, there, fit⟩ := listed _ chosen
        cases same
        cases present.symm.trans there
        exact Bool.noConfusion (healthy.symm.trans fit)

/-- Two backends that weigh 2 and 1, with an unhealthy one between them, from where
a larger set of backends left the index. -/
theorem selects_shares_three :
    1 ≤ Search.totalWeight (healthy ⟨[⟨"a", 2, true⟩, ⟨"b", 5, false⟩, ⟨"c", 1, true⟩], 7, by decide⟩) ∧
    ∃ choices last, selects false 3
        ⟨[⟨"a", 2, true⟩, ⟨"b", 5, false⟩, ⟨"c", 1, true⟩], 7, by decide⟩ = some (choices, last) ∧
      Shares ⟨[⟨"a", 2, true⟩, ⟨"b", 5, false⟩, ⟨"c", 1, true⟩], 7, by decide⟩ choices :=
  ⟨by decide, selects_shares false
    ⟨[⟨"a", 2, true⟩, ⟨"b", 5, false⟩, ⟨"c", 1, true⟩], 7, by decide⟩ (by decide) (by decide)⟩

end Balancer

end Evergreen.Proxy
