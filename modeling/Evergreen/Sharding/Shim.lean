import Evergreen.Search.Cyclic
import Mathlib.Algebra.Order.Ring.Nat
import Mathlib.Data.List.Sort

namespace Evergreen.Sharding

/-! # Routing by consistent hashing

The part of `ShardingShim` that the hash strategy uses.  The shards are in the
order in which their `HashMap` happens to list them, each under its own
`shard_id`.
-/

structure ShardMapping where
  shardId : Nat
  address : String
  rangeStart : Option Int
  rangeEnd : Option Int
  healthy : Bool
deriving DecidableEq, Repr

structure HashRingPoint where
  hash : Nat
  shardId : Nat
deriving DecidableEq, Repr

structure ShardMap where
  listed : List ShardMapping
  distinct : (listed.map (·.shardId)).Nodup

def ShardMap.get (shards : ShardMap) (shardId : Nat) : Option ShardMapping :=
  shards.listed.find? fun shard => shard.shardId = shardId

structure ShardingShim where
  vnodes : Nat
  shards : ShardMap
  hashRing : List HashRingPoint

/-- FNV-1a over the bytes of the key, in 64 bits. -/
def hashKey (key : String) : Nat :=
  key.toUTF8.data.toList.foldl
    (fun hash byte => (hash ^^^ byte.toNat) * 0x100000001b3 % 2 ^ 64) 0xcbf29ce484222325

namespace ShardingShim

variable (shim : ShardingShim)

/-- The virtual nodes of one shard. -/
def points (vnodes : Nat) (shard : ShardMapping) : List HashRingPoint :=
  (List.range vnodes).map fun i =>
    let address := shard.address
    ⟨hashKey s!"{address}:vnode:{i}", shard.shardId⟩

/-- The sort is stable, as `sort_by_key` is. -/
def buildHashRing : ShardingShim :=
  { shim with
    hashRing := (shim.shards.listed.flatMap (points shim.vnodes)).insertionSort
      fun first second => first.hash ≤ second.hash }

/-- An index outside the ring would be a panic. -/
def routeHash (key : String) : Except String (Nat × String) :=
  let hash := hashKey key
  if shim.hashRing.isEmpty then .error "No shards available in hash ring"
  else
    let idx := match Search.binarySearchBy (fun point => compare point.hash hash) shim.hashRing with
      | .ok i => i
      | .error i => i % shim.hashRing.length
    match shim.hashRing[idx]? with
    | none => .error "index out of bounds"
    | some point =>
        match shim.shards.get point.shardId with
        | none =>
            let shardId := point.shardId
            .error s!"Shard {shardId} not found"
        | some shard =>
            if shard.healthy then .ok (shard.shardId, shard.address)
            else
              let shardId := point.shardId
              .error s!"Shard {shardId} is unhealthy"

end ShardingShim

end Evergreen.Sharding
