import Evergreen.Machine.Run
import Evergreen.Sharding.Routing
import Evergreen.Text.Parse

namespace Evergreen.Sharding

/-! # Routing by range

A shard takes whatever range it is given, next to those of the other shards, and
a value goes to the first healthy shard of the map whose range holds it.  So the
order of the map does not matter as long as no two ranges meet.
-/

/-- The value lies in the shard's half-open range, if it has one. -/
def ShardMapping.owns (shard : ShardMapping) (value : Int) : Bool :=
  match shard.rangeStart, shard.rangeEnd with
  | some start, some stop => start ≤ value && value < stop
  | _, _ => false

def ShardMapping.ranged (start stop : Int) (shard : ShardMapping) : ShardMapping :=
  { shard with rangeStart := some start, rangeEnd := some stop }

/-- `get_mut`, with a change that leaves the id alone. -/
def ShardMap.modify (shards : ShardMap) (shardId : Nat) (change : ShardMapping → ShardMapping)
    (keeps : ∀ shard, (change shard).shardId = shard.shardId) : ShardMap where
  listed := shards.listed.map fun shard => if shard.shardId = shardId then change shard else shard
  distinct := by
    have same : ∀ shard : ShardMapping,
        (if shard.shardId = shardId then change shard else shard).shardId = shard.shardId := by
      intro shard
      split
      · exact keeps shard
      · rfl
    simpa [List.map_map, Function.comp_def, same] using shards.distinct

namespace ShardingShim

def routeRange (shim : ShardingShim) (key : String) : Except String (Nat × String) :=
  match Text.parseI64 key with
  | none => .error s!"Range strategy requires numeric keys, got: {key}"
  | some value =>
      match shim.shards.listed.find? fun shard => shard.healthy && shard.owns value with
      | some shard => .ok (shard.shardId, shard.address)
      | none => .error s!"No shard found for range value: {value}"

def setRange (shim : ShardingShim) (shardId : Nat) (start stop : Int) :
    ShardingShim × Except String Unit :=
  if (shim.shards.get shardId).isSome then
    ({ shim with shards := shim.shards.modify shardId (ShardMapping.ranged start stop) fun _ => rfl },
      .ok ())
  else (shim, .error s!"Shard {shardId} not found")

def setShardHealth (shim : ShardingShim) (shardId : Nat) (healthy : Bool) : ShardingShim × Bool :=
  if (shim.shards.get shardId).isSome then
    ({ shim with
        shards := shim.shards.modify shardId (fun shard => { shard with healthy }) fun _ => rfl },
      true)
  else (shim, false)

end ShardingShim

inductive RangeCall where
  | setRange (shardId : Nat) (start stop : Int)
  | setShardHealth (shardId : Nat) (healthy : Bool)
deriving DecidableEq, Repr

namespace ShardingShim

/-- A call that is not accepted changes nothing. -/
def call (shim : ShardingShim) : RangeCall → ShardingShim
  | .setRange shardId start stop => (shim.setRange shardId start stop).1
  | .setShardHealth shardId healthy => (shim.setShardHealth shardId healthy).1

def accepts (shim : ShardingShim) : RangeCall → Bool
  | .setRange shardId start stop => (shim.setRange shardId start stop).2.isOk
  | .setShardHealth shardId healthy => (shim.setShardHealth shardId healthy).2

def OwnedOnce (shim : ShardingShim) : Prop :=
  ∀ value, ∀ first ∈ shim.shards.listed, ∀ second ∈ shim.shards.listed,
    first.owns value = true → second.owns value = true → first = second

/-- Any other order of the same map gives every key the same answer. -/
def OrderFree (shim : ShardingShim) : Prop :=
  ∀ other : ShardingShim, other.shards.listed.Perm shim.shards.listed →
    ∀ key, other.routeRange key = shim.routeRange key

def MeetsNone (shim : ShardingShim) : RangeCall → Prop
  | .setRange shardId start stop => ∀ shard ∈ shim.shards.listed, shard.shardId ≠ shardId →
      ∀ value, start ≤ value → value < stop → shard.owns value = false
  | .setShardHealth _ _ => True

end ShardingShim

open ShardingShim

def rangeCalls : Machine ShardingShim RangeCall where
  step shim call := if shim.accepts call then some (shim.call call) else none

variable {shim : ShardingShim} {shards : ShardMap} {shard : ShardMapping} {shardId : Nat}
variable {start stop : Int}

/-! ## At most one owner -/

theorem find?_eq_of_perm {Item : Type} {items others : List Item} {wanted : Item → Bool}
    (perm : others.Perm items)
    (single : ∀ first ∈ items, ∀ second ∈ items, wanted first = true → wanted second = true →
      first = second) : others.find? wanted = items.find? wanted := by
  cases found : items.find? wanted with
  | none =>
      refine List.find?_eq_none.mpr fun item member => ?_
      exact List.find?_eq_none.mp found item (perm.mem_iff.mp member)
  | some item =>
      have member := List.mem_of_find?_eq_some found
      cases other : others.find? wanted with
      | none =>
          exact absurd (List.find?_some found)
            (List.find?_eq_none.mp other item (perm.mem_iff.mpr member))
      | some rival =>
          have held := perm.mem_iff.mp (List.mem_of_find?_eq_some other)
          rw [single rival held item member (List.find?_some other) (List.find?_some found)]

theorem ShardingShim.OwnedOnce.orderFree (once : shim.OwnedOnce) : shim.OrderFree := by
  intro other perm key
  unfold routeRange
  cases Text.parseI64 key with
  | none => rfl
  | some value =>
      have same : (other.shards.listed.find? fun shard => shard.healthy && shard.owns value) =
          shim.shards.listed.find? fun shard => shard.healthy && shard.owns value := by
        refine find?_eq_of_perm perm fun first one second two owns also => ?_
        exact once value first one second two (Bool.and_eq_true_iff.mp owns).2
          (Bool.and_eq_true_iff.mp also).2
      dsimp only
      rw [same]

section Modify

variable {change : ShardMapping → ShardMapping}

theorem ShardMap.mem_modify_self (keeps : ∀ shard, (change shard).shardId = shard.shardId)
    (listed : shard ∈ shards.listed) (named : shard.shardId = shardId) :
    change shard ∈ (shards.modify shardId change keeps).listed :=
  List.mem_map.mpr ⟨shard, listed, if_pos named⟩

theorem ShardMap.mem_modify_other (keeps : ∀ shard, (change shard).shardId = shard.shardId)
    (listed : shard ∈ shards.listed) (other : shard.shardId ≠ shardId) :
    shard ∈ (shards.modify shardId change keeps).listed :=
  List.mem_map.mpr ⟨shard, listed, if_neg other⟩

/-- A change that leaves the ranges as they are leaves the owners as they are. -/
theorem ShardingShim.OwnedOnce.modify (once : shim.OwnedOnce)
    {keeps : ∀ shard, (change shard).shardId = shard.shardId}
    (same : ∀ shard value, (change shard).owns value = shard.owns value) :
    ShardingShim.OwnedOnce { shim with shards := shim.shards.modify shardId change keeps } := by
  intro value first one second two owns also
  obtain ⟨before, listed, rfl⟩ := List.mem_map.mp one
  obtain ⟨other, held, rfl⟩ := List.mem_map.mp two
  have kept : ∀ shard : ShardMapping,
      (if shard.shardId = shardId then change shard else shard).owns value = shard.owns value := by
    intro shard
    split
    · exact same shard value
    · rfl
  rw [kept] at owns also
  rw [once value before listed other held owns also]

end Modify

theorem owns_ranged {value : Int} :
    (shard.ranged start stop).owns value = true ↔ start ≤ value ∧ value < stop := by
  simp [ShardMapping.owns, ShardMapping.ranged]

theorem exists_of_known (known : (shim.shards.get shardId).isSome = true) :
    ∃ shard ∈ shim.shards.listed, shard.shardId = shardId := by
  obtain ⟨shard, found⟩ := Option.isSome_iff_exists.mp known
  unfold ShardMap.get at found
  exact ⟨shard, List.mem_of_find?_eq_some found, by simpa using List.find?_some found⟩

theorem ShardingShim.OwnedOnce.setRange_iff (once : shim.OwnedOnce)
    (known : (shim.shards.get shardId).isSome = true) :
    (shim.setRange shardId start stop).1.OwnedOnce ↔
      shim.MeetsNone (.setRange shardId start stop) := by
  rw [ShardingShim.setRange, if_pos known]
  constructor
  · intro after shard listed other value reached before
    by_contra owned
    obtain ⟨ranged, held, named⟩ := exists_of_known known
    have keeps : ∀ shard, (ShardMapping.ranged start stop shard).shardId = shard.shardId :=
      fun _ => rfl
    have same := after value _ (ShardMap.mem_modify_self keeps held named) _
      (ShardMap.mem_modify_other keeps listed other) (owns_ranged.mpr ⟨reached, before⟩)
      ((Bool.not_eq_false _).mp owned)
    exact other ((congrArg ShardMapping.shardId same).symm.trans named)
  · intro meetsNone value first one second two owns also
    obtain ⟨before, listed, rfl⟩ := List.mem_map.mp one
    obtain ⟨other, held, rfl⟩ := List.mem_map.mp two
    by_cases named : before.shardId = shardId
    · by_cases alike : other.shardId = shardId
      · rw [List.inj_on_of_nodup_map shim.shards.distinct listed held (named.trans alike.symm)]
      · rw [if_pos named, owns_ranged] at owns
        rw [if_neg alike, meetsNone other held alike value owns.1 owns.2] at also
        cases also
    · by_cases alike : other.shardId = shardId
      · rw [if_pos alike, owns_ranged] at also
        rw [if_neg named, meetsNone before listed named value also.1 also.2] at owns
        cases owns
      · rw [if_neg named] at owns ⊢
        rw [if_neg alike] at also ⊢
        exact once value before listed other held owns also

theorem ShardingShim.OwnedOnce.call_iff (once : shim.OwnedOnce) {call : RangeCall}
    (accepted : shim.accepts call = true) : (shim.call call).OwnedOnce ↔ shim.MeetsNone call := by
  cases call with
  | setRange shardId start stop =>
      refine once.setRange_iff ?_
      by_contra unknown
      simp [accepts, ShardingShim.setRange, unknown, Except.isOk, Except.toBool] at accepted
  | setShardHealth shardId healthy =>
      refine iff_of_true ?_ trivial
      simp only [ShardingShim.call, ShardingShim.setShardHealth]
      split
      · exact once.modify fun _ _ => rfl
      · exact once

/-- In every run of accepted calls no value ever has two owners, and no answer
depends on the order of the map, exactly when each range that is set meets none
of the others. -/
theorem always_ownedOnce_iff (shim : ShardingShim) (once : shim.OwnedOnce) (calls : List RangeCall) :
    rangeCalls.Always (fun shim => shim.OwnedOnce ∧ shim.OrderFree) shim calls ↔
      rangeCalls.Along ShardingShim.MeetsNone shim calls := by
  apply Machine.always_iff_along ShardingShim.OwnedOnce
  · exact fun shim once => ⟨once, once.orderFree⟩
  · intro shim call next once meetsNone taken
    simp only [rangeCalls, Option.ite_none_right_eq_some] at taken
    obtain ⟨accepted, ⟨⟩⟩ := taken
    exact (once.call_iff accepted).mpr meetsNone
  · intro shim call next once meets taken after
    simp only [rangeCalls, Option.ite_none_right_eq_some] at taken
    obtain ⟨accepted, ⟨⟩⟩ := taken
    exact meets ((once.call_iff accepted).mp after.1)
  · exact once

theorem always_ownedOnce_apart :
    rangeCalls.Always (fun shim => shim.OwnedOnce ∧ shim.OrderFree) twoShards
      [.setRange 0 0 100, .setShardHealth 0 false, .setRange 1 100 200] :=
  (always_ownedOnce_iff twoShards (fun value first one _ _ owns => by
      rcases List.mem_pair.mp one with rfl | rfl <;> cases owns) _).mpr (by
    refine .cons rfl ?_ (.cons rfl trivial (.cons rfl ?_ trivial))
    · intro shard listed _ value _ _
      rcases List.mem_pair.mp listed with rfl | rfl <;> rfl
    · intro shard listed other value reached _
      rcases List.mem_pair.mp listed with rfl | rfl
      · exact absurd rfl other
      · have past : ¬ value < 100 := Int.not_lt.mpr reached
        change (decide (0 ≤ value) && decide (value < 100)) = false
        simp [past])

/-- Both calls are accepted, and the value 75 goes to whichever shard the map
lists first. -/
theorem not_always_ownedOnce :
    ¬ rangeCalls.Always (fun shim => shim.OwnedOnce ∧ shim.OrderFree) twoShards
      [.setRange 0 0 100, .setRange 1 50 150] := by
  intro always
  obtain ⟨final, ran⟩ : ∃ final, rangeCalls.run twoShards
      [.setRange 0 0 100, .setRange 1 50 150] = some final := ⟨_, rfl⟩
  have orderFree := (always.last ran).2
  cases ran
  have same := orderFree ⟨2, ⟨[⟨0, "a:1", some 0, some 100, true⟩, ⟨1, "b:1", some 50, some 150, true⟩],
    by decide⟩, []⟩ (.swap _ _ _) "75"
  exact absurd same (by decide)

end Evergreen.Sharding
