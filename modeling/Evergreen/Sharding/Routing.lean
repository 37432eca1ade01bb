import Evergreen.Sharding.Monotone

namespace Evergreen.Sharding

/-! # The owner of a key

A key belongs to the shard with the smallest hash from the key's own on, or with
the smallest of all.  The ring is built from the map in whatever order the map
lists its shards; after that only healths and ranges change.
-/

def ShardMapping.answer (shard : ShardMapping) : Except String (Nat × String) :=
  if shard.healthy then .ok (shard.shardId, shard.address)
  else
    let shardId := shard.shardId
    .error s!"Shard {shardId} is unhealthy"

theorem ShardMapping.answer_ne (shard : ShardMapping) : shard.answer ≠ .error "index out of bounds" := by
  unfold ShardMapping.answer
  split
  · exact nofun
  · intro same
    have texts := congrArg String.toList (Except.error.inj same)
    simp [toString, String.toList_append] at texts

namespace ShardingShim

variable {shim built : ShardingShim} {shard : ShardMapping} {point : HashRingPoint}
variable {key : String} {hash : Nat}

/-- The ring was built from the same shards, listed in any order, whatever their
healths and ranges were then. -/
structure RingOf (shim built : ShardingShim) : Prop where
  ring : shim.hashRing = built.buildHashRing.hashRing
  vnodes : shim.vnodes = built.vnodes
  shards : (shim.shards.listed.map fun shard => (shard.shardId, shard.address)).Perm
    (built.shards.listed.map fun shard => (shard.shardId, shard.address))

/-- A point of the shard has the smallest hash that is not below the given one,
or the smallest of all where every hash is below it. -/
def Owns (shim : ShardingShim) (hash : Nat) (shard : ShardMapping) : Prop :=
  ∃ point ∈ points shim.vnodes shard,
    (hash ≤ point.hash ∧
        ∀ other ∈ shim.allPoints, hash ≤ other.hash → point.hash ≤ other.hash) ∨
      ((∀ other ∈ shim.allPoints, other.hash < hash) ∧
        ∀ other ∈ shim.allPoints, point.hash ≤ other.hash)

/-! ## The ring in any order -/

theorem allPoints_eq (shim : ShardingShim) : shim.allPoints =
    (shim.shards.listed.map fun shard => (shard.shardId, shard.address)).flatMap fun named =>
      points shim.vnodes ⟨named.1, named.2, none, none, true⟩ := by
  rw [allPoints, List.flatMap_map]
  rfl

theorem RingOf.allPoints_perm (ring : RingOf shim built) : shim.allPoints.Perm built.allPoints := by
  rw [allPoints_eq, allPoints_eq, ring.vnodes]
  exact ring.shards.flatMap_right _

theorem RingOf.perm (ring : RingOf shim built) : shim.hashRing.Perm shim.allPoints := by
  rw [ring.ring]
  exact (List.perm_insertionSort _ _).trans ring.allPoints_perm.symm

theorem RingOf.sorted (ring : RingOf shim built) (distinct : shim.Distinct) :
    shim.hashRing.Pairwise fun first second => first.hash < second.hash := by
  have same : (built.allPoints.map (·.hash)).Nodup :=
    (ring.allPoints_perm.map HashRingPoint.hash).nodup_iff.mp distinct
  rw [ring.ring]
  exact Distinct.sorted same

theorem owns_iff (listed : shard ∈ shim.shards.listed) : shim.Owns hash shard ↔
    ∃ point ∈ points shim.vnodes shard, Search.IsNext (·.hash) hash shim.allPoints point := by
  refine exists_congr fun point => and_congr_right fun owned => ?_
  rw [Search.isNext_iff, and_iff_right (mem_allPoints.mpr ⟨shard, listed, owned⟩)]

theorem answer_of_mem_points (listed : shard ∈ shim.shards.listed)
    (owned : point ∈ points shim.vnodes shard) : shim.answer point = shard.answer := by
  rw [answer, shardId_of_mem_points owned, get_of_mem listed]
  rfl

/-! ## What a key is answered with -/

/-- The owner answers the key: its id and address when it is healthy, an error
when it is not.  There is one owner as soon as there is a point on the ring, and
the index of its point lies on the ring. -/
theorem routeHash_spec (shim built : ShardingShim) (ring : RingOf shim built)
    (distinct : shim.Distinct) (key : String) :
    (shim.allPoints = [] → shim.routeHash key = .error "No shards available in hash ring") ∧
      (shim.allPoints ≠ [] → ∃ shard ∈ shim.shards.listed, shim.Owns (hashKey key) shard) ∧
      (∀ shard ∈ shim.shards.listed, shim.Owns (hashKey key) shard →
        shim.routeHash key = shard.answer) ∧
      shim.routeHash key ≠ .error "index out of bounds" := by
  rcases routeHash_ring (ring.sorted distinct) key with ⟨empty, unavailable⟩ | ⟨point, next, routed⟩
  · have none : shim.allPoints = [] := List.nil_perm.mp (empty ▸ ring.perm)
    refine ⟨fun _ => unavailable, fun some => absurd none some, fun shard listed owns => ?_, ?_⟩
    · obtain ⟨point, owned, _⟩ := owns
      have member := mem_allPoints.mpr ⟨shard, listed, owned⟩
      simp [none] at member
    · rw [unavailable]
      decide
  · have next : Search.IsNext (·.hash) (hashKey key) shim.allPoints point :=
      ⟨ring.perm.mem_iff.mp next.1, fun other also => next.2 other (ring.perm.mem_iff.mpr also)⟩
    obtain ⟨owner, listed, owned⟩ := mem_allPoints.mp next.1
    refine ⟨fun empty => ?_, fun _ => ⟨owner, listed, (owns_iff listed).mpr ⟨point, owned, next⟩⟩,
      fun shard known owns => ?_, ?_⟩
    · have member := next.1
      simp [empty] at member
    · -- Distinct hashes leave one next point, so the shard owns the point that was found.
      obtain ⟨other, held, also⟩ := (owns_iff known).mp owns
      obtain rfl := also.unique distinct.injective next
      rw [routed, answer_of_mem_points known held]
    · rw [routed, answer_of_mem_points listed owned]
      exact owner.answer_ne

/-- The ring of `twoShards`, with the shards listed the other way round and one
of them down. -/
def oneDown : ShardingShim :=
  ⟨2, ⟨[{ node 0 "a:1" with healthy := false }, node 1 "b:1"], by decide⟩,
    twoShards.buildHashRing.hashRing⟩

example : oneDown.routeHash "user:123" = .error "Shard 0 is unhealthy" := by decide +kernel

theorem routeHash_spec_oneDown : oneDown.routeHash "user:123" ≠ .error "index out of bounds" :=
  (routeHash_spec oneDown twoShards ⟨rfl, rfl, .swap _ _ _⟩
    (show (List.map _ _).Nodup by decide +kernel) "user:123").2.2.2

end ShardingShim

end Evergreen.Sharding
