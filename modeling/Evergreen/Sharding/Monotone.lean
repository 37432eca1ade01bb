import Evergreen.Sharding.Shim

namespace Evergreen.Sharding

/-! # A new shard only takes keys

A key belongs to the shard of the next point of the ring.  The points of a new
shard do not move the old ones, so a key stays where it is unless the new shard
takes it.
-/

namespace ShardingShim

variable {shim smaller larger : ShardingShim} {shard : ShardMapping} {point : HashRingPoint}
variable {key : String}

/-- The ring before it is sorted. -/
def allPoints (shim : ShardingShim) : List HashRingPoint :=
  shim.shards.listed.flatMap (points shim.vnodes)

/-- No two virtual nodes have the same hash. -/
def Distinct (shim : ShardingShim) : Prop := (shim.allPoints.map (·.hash)).Nodup

/-- The same shards and one more, in any order. -/
structure Grows (smaller larger : ShardingShim) (shard : ShardMapping) : Prop where
  vnodes : larger.vnodes = smaller.vnodes
  added : larger.shards.listed.Perm (shard :: smaller.shards.listed)

/-- What `route_hash` makes of the point it finds. -/
def answer (shim : ShardingShim) (point : HashRingPoint) : Except String (Nat × String) :=
  match shim.shards.get point.shardId with
  | none =>
      let shardId := point.shardId
      .error s!"Shard {shardId} not found"
  | some shard =>
      if shard.healthy then .ok (shard.shardId, shard.address)
      else
        let shardId := point.shardId
        .error s!"Shard {shardId} is unhealthy"

/-! ## The ring and its shards -/

theorem mem_buildHashRing : point ∈ shim.buildHashRing.hashRing ↔ point ∈ shim.allPoints :=
  List.mem_insertionSort _

theorem Distinct.sorted (distinct : shim.Distinct) :
    shim.buildHashRing.hashRing.Pairwise fun first second => first.hash < second.hash := by
  have ordered : shim.buildHashRing.hashRing.Pairwise fun first second => first.hash ≤ second.hash :=
    List.pairwise_insertionSort _ _
  have different : (shim.buildHashRing.hashRing.map (·.hash)).Nodup :=
    ((List.perm_insertionSort _ shim.allPoints).map HashRingPoint.hash).nodup_iff.mpr distinct
  exact (ordered.and (List.pairwise_map.mp different)).imp fun both => lt_of_le_of_ne both.1 both.2

theorem shardId_of_mem_points {vnodes : Nat} (member : point ∈ points vnodes shard) :
    point.shardId = shard.shardId := by
  obtain ⟨i, _, rfl⟩ := List.mem_map.mp member
  rfl

theorem get_of_mem {shards : ShardMap} (member : shard ∈ shards.listed) :
    shards.get shard.shardId = some shard := by
  cases found : shards.get shard.shardId with
  | none =>
      have absent := List.find?_eq_none.mp found shard member
      simp at absent
  | some other =>
      have same : other.shardId = shard.shardId := by simpa using List.find?_some found
      rw [List.inj_on_of_nodup_map shards.distinct (List.mem_of_find?_eq_some found) member same]

/-- On a sorted ring the key goes to the next point, if there is a point at all. -/
theorem routeHash_ring (sorted : shim.hashRing.Pairwise fun first second => first.hash < second.hash)
    (key : String) :
    (shim.hashRing = [] ∧ shim.routeHash key = .error "No shards available in hash ring") ∨
      ∃ point, Search.IsNext (·.hash) (hashKey key) shim.hashRing point ∧
        shim.routeHash key = shim.answer point := by
  by_cases listed : shim.hashRing = []
  · exact .inl ⟨listed, by simp [routeHash, listed]⟩
  · right
    obtain ⟨bound, next⟩ := @Search.isNext_nextIndex _ _ _ HashRingPoint.hash (hashKey key) _
      sorted listed
    refine ⟨_, next, ?_⟩
    have found : shim.hashRing[Search.nextIndex HashRingPoint.hash (hashKey key) shim.hashRing]? =
        _ := List.getElem?_eq_getElem bound
    unfold routeHash
    rw [if_neg (by simpa using listed)]
    dsimp only
    split
    · rename_i missing
      cases missing.symm.trans found
    · rename_i point present
      obtain rfl := Option.some.inj (present.symm.trans found)
      rfl

theorem routeHash_eq (distinct : shim.Distinct) (key : String) :
    (shim.allPoints = [] ∧
        shim.buildHashRing.routeHash key = .error "No shards available in hash ring") ∨
      ∃ point, Search.IsNext (·.hash) (hashKey key) shim.allPoints point ∧
        shim.buildHashRing.routeHash key = shim.answer point := by
  rcases routeHash_ring distinct.sorted key with ⟨empty, unavailable⟩ | ⟨point, next, routed⟩
  · left
    refine ⟨List.eq_nil_iff_forall_not_mem.mpr fun point member => ?_, unavailable⟩
    simpa [empty] using mem_buildHashRing.mpr member
  · exact .inr ⟨point, ⟨mem_buildHashRing.mp next.1,
      fun other also => next.2 other (mem_buildHashRing.mpr also)⟩, routed⟩

/-! ## One shard more -/

theorem mem_allPoints : point ∈ shim.allPoints ↔
    ∃ shard ∈ shim.shards.listed, point ∈ points shim.vnodes shard :=
  List.mem_flatMap

theorem Grows.mem_cases (grows : Grows smaller larger shard) (member : point ∈ larger.allPoints) :
    point ∈ points larger.vnodes shard ∨ point ∈ smaller.allPoints := by
  obtain ⟨other, listed, owned⟩ := mem_allPoints.mp member
  rcases List.mem_cons.mp (grows.added.mem_iff.mp listed) with rfl | before
  · exact .inl owned
  · exact .inr (mem_allPoints.mpr ⟨other, before, grows.vnodes ▸ owned⟩)

theorem Grows.subset (grows : Grows smaller larger shard) : smaller.allPoints ⊆ larger.allPoints := by
  intro point member
  obtain ⟨other, listed, owned⟩ := mem_allPoints.mp member
  exact mem_allPoints.mpr
    ⟨other, grows.added.mem_iff.mpr (List.mem_cons_of_mem shard listed), grows.vnodes ▸ owned⟩

theorem Grows.distinct (grows : Grows smaller larger shard) (distinct : larger.Distinct) :
    smaller.Distinct := by
  have points : (larger.allPoints).Perm (points larger.vnodes shard ++ smaller.allPoints) := by
    rw [allPoints, allPoints, ← grows.vnodes]
    exact grows.added.flatMap_right _
  have both := (points.map HashRingPoint.hash).nodup_iff.mp distinct
  rw [List.map_append] at both
  exact (List.nodup_append.mp both).2.1

theorem Distinct.injective (distinct : shim.Distinct) : ∀ first ∈ shim.allPoints,
    ∀ second ∈ shim.allPoints, first.hash = second.hash → first = second :=
  fun _ one _ two same => List.inj_on_of_nodup_map distinct one two same

/-- An old point means the same shard to both. -/
theorem Grows.answer_eq (grows : Grows smaller larger shard) (member : point ∈ smaller.allPoints) :
    larger.answer point = smaller.answer point := by
  obtain ⟨other, listed, owned⟩ := mem_allPoints.mp member
  have before := get_of_mem listed
  have after := get_of_mem (grows.added.mem_iff.mpr (List.mem_cons_of_mem shard listed))
  rw [answer, answer, shardId_of_mem_points owned, before, after]

theorem Grows.answer_new (grows : Grows smaller larger shard) (healthy : shard.healthy = true)
    (owned : point ∈ points larger.vnodes shard) :
    larger.answer point = .ok (shard.shardId, shard.address) := by
  have found := get_of_mem (grows.added.mem_iff.mpr List.mem_cons_self)
  rw [answer, shardId_of_mem_points owned, found]
  exact if_pos healthy

/-- With one shard more, every key goes where it went or to the new shard. -/
theorem routeHash_monotone (smaller larger : ShardingShim) (shard : ShardMapping)
    (grows : Grows smaller larger shard) (distinct : larger.Distinct)
    (healthy : ∀ other ∈ larger.shards.listed, other.healthy = true) (key : String) :
    larger.buildHashRing.routeHash key = smaller.buildHashRing.routeHash key ∨
      larger.buildHashRing.routeHash key = .ok (shard.shardId, shard.address) := by
  have fewer := grows.distinct distinct
  rcases routeHash_eq distinct key with ⟨empty, unavailable⟩ | ⟨point, next, routed⟩
  · rcases routeHash_eq fewer key with ⟨_, also⟩ | ⟨other, next, _⟩
    · exact .inl (unavailable.trans also.symm)
    · have member := grows.subset next.1
      simp [empty] at member
  · rcases grows.mem_cases next.1 with owned | kept
    · have well := healthy shard (grows.added.mem_iff.mpr List.mem_cons_self)
      exact .inr (routed.trans (grows.answer_new well owned))
    · left
      rcases routeHash_eq fewer key with ⟨empty, _⟩ | ⟨other, also, before⟩
      · simp [empty] at kept
      · -- The point found on the larger ring is the next one of the smaller ring too.
        have same := (next.of_subset grows.subset kept).unique fewer.injective also
        rw [routed, before, grows.answer_eq kept, same]

def node (shardId : Nat) (address : String) : ShardMapping := ⟨shardId, address, none, none, true⟩

def oneShard : ShardingShim := ⟨2, ⟨[node 0 "a:1"], by decide⟩, []⟩

/-- The map lists the new shard first. -/
def twoShards : ShardingShim := ⟨2, ⟨[node 1 "b:1", node 0 "a:1"], by decide⟩, []⟩

theorem routeHash_monotone_second :
    twoShards.buildHashRing.routeHash "user:123" = oneShard.buildHashRing.routeHash "user:123" ∨
      twoShards.buildHashRing.routeHash "user:123" = .ok (1, "b:1") :=
  routeHash_monotone oneShard twoShards (node 1 "b:1") ⟨rfl, .refl _⟩
    (show (List.map _ _).Nodup by decide +kernel) (by decide) "user:123"

end ShardingShim

end Evergreen.Sharding
