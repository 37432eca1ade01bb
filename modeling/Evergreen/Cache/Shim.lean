import Evergreen.Text.Parse
import Mathlib.Algebra.Order.Ring.Int

namespace Evergreen.Cache

/-! # The query cache

`CacheShim` behind its lock.  Clock readings are nanoseconds since the epoch
and arbitrary.  The map's iteration order, which breaks the ties of the
least-frequently-used strategy, is a `rank` the environment picks.
-/

structure CacheEntry where
  key : String
  value : List UInt8
  sizeBytes : Nat
  createdAt : Int
  expiresAt : Int
  lastAccessed : Int
  accessCount : Nat
deriving DecidableEq, Repr

inductive EvictionStrategy where
  | lru
  | lfu
  | fifo
deriving DecidableEq, Repr

structure CacheInner where
  entries : List (String × CacheEntry) := []
  accessOrder : List String := []
  insertOrder : List String := []
  hits : Nat := 0
  misses : Nat := 0
  evictions : Nat := 0
  sizeBytes : Nat := 0
deriving DecidableEq, Repr

structure CacheShim where
  ttlSecs : Nat := 300
  maxSize : Nat := 1073741824
  maxEntries : Nat := 10000
  strategy : EvictionStrategy := .lru
  cachePrefix : String := "shim:"
deriving DecidableEq, Repr

def incrementU64 (count : Nat) : Nat := (count + 1) % 2 ^ 64

def subtractU64 (total part : Nat) : Nat := (total + (2 ^ 64 - part % 2 ^ 64)) % 2 ^ 64

namespace CacheInner

def find? (inner : CacheInner) (fullKey : String) : Option CacheEntry :=
  inner.entries.lookup fullKey

/-- `entries.remove`, and the bookkeeping every caller does when it removed something. -/
def remove (inner : CacheInner) (fullKey : String) : CacheInner :=
  match inner.find? fullKey with
  | none => inner
  | some entry =>
      { inner with
        entries := inner.entries.filter (·.1 ≠ fullKey)
        accessOrder := inner.accessOrder.filter (· ≠ fullKey)
        insertOrder := inner.insertOrder.filter (· ≠ fullKey)
        sizeBytes := subtractU64 inner.sizeBytes entry.sizeBytes }

def removeAll (inner : CacheInner) (fullKeys : List String) : CacheInner :=
  fullKeys.foldl remove inner

/-- A hit: new access time and count, and the key moves to the recent end. -/
def touch (inner : CacheInner) (fullKey : String) (now : Int) : CacheInner :=
  { inner with
    entries := inner.entries.map fun (key, entry) =>
      (key, if key = fullKey then
        { entry with lastAccessed := now, accessCount := incrementU64 entry.accessCount }
      else entry)
    accessOrder := inner.accessOrder.filter (· ≠ fullKey) ++ [fullKey]
    hits := incrementU64 inner.hits }

def insert (inner : CacheInner) (fullKey : String) (entry : CacheEntry) : CacheInner :=
  { inner with
    entries := (fullKey, entry) :: inner.entries.filter (·.1 ≠ fullKey)
    accessOrder := inner.accessOrder ++ [fullKey]
    insertOrder := inner.insertOrder ++ [fullKey] }

/-- `min_by_key` of the access counts: the first minimum in iteration order. -/
def leastUsed (rank : String → Nat) : List (String × CacheEntry) → Option (String × CacheEntry)
  | [] => none
  | entry :: rest =>
      match leastUsed rank rest with
      | none => some entry
      | some best =>
          if best.2.accessCount < entry.2.accessCount ∨
              best.2.accessCount = entry.2.accessCount ∧ rank best.1 < rank entry.1 then
            some best
          else some entry

def expiredKeys (inner : CacheInner) (now : Int) : List String :=
  (inner.entries.filter (·.2.expiresAt < now)).map Prod.fst

end CacheInner

/-- `now + Duration::seconds(ttl as i64)`, `none` where one of the two panics:
the duration is counted in milliseconds and the date ends with the year 262142. -/
def expiry (ttlSecs : Nat) (now : Int) : Option Int :=
  let seconds : Int := if ttlSecs % 2 ^ 64 < 2 ^ 63 then (ttlSecs % 2 ^ 64 : Nat)
    else (ttlSecs % 2 ^ 64 : Nat) - 2 ^ 64
  let expires := now + seconds * 1000000000
  if -9223372036854775 ≤ seconds ∧ seconds ≤ 9223372036854775 ∧
      -8334601228800 * 1000000000 ≤ expires ∧ expires < 8210266876800 * 1000000000 then
    some expires
  else none

namespace CacheShim

variable (shim : CacheShim)

def fullKey (key : String) : String := shim.cachePrefix ++ key

def get (inner : CacheInner) (key : String) (now touched : Int) :
    Option (List UInt8) × CacheInner :=
  match inner.find? (shim.fullKey key) with
  | none => (none, { inner with misses := incrementU64 inner.misses })
  | some entry =>
      if entry.expiresAt < now then
        let removed := inner.remove (shim.fullKey key)
        (none, { removed with misses := incrementU64 removed.misses })
      else (some entry.value, inner.touch (shim.fullKey key) touched)

/-- `none` when there is nothing to evict. -/
def evictOneInner (rank : String → Nat) (inner : CacheInner) : Option CacheInner :=
  if inner.entries = [] then none
  else
    let victimKey := match shim.strategy with
      | .lru => inner.accessOrder.head?
      | .fifo => inner.insertOrder.head?
      | .lfu => (CacheInner.leastUsed rank inner.entries).map Prod.fst
    victimKey.map fun key =>
      let removed := inner.remove key
      if (inner.find? key).isSome then
        { removed with evictions := incrementU64 removed.evictions }
      else removed

/-- Evicts while `exceeds` says so.  Each round takes an entry, so there are never
more rounds than entries. -/
def evictWhile (rank : String → Nat) (exceeds : CacheInner → Bool) : Nat → CacheInner → CacheInner
  | 0, inner => inner
  | rounds + 1, inner =>
      if exceeds inner then
        match shim.evictOneInner rank inner with
        | some evicted => evictWhile rank exceeds rounds evicted
        | none => inner
      else inner

/-- The room for a value: by size, then by count. -/
def makeRoom (rank : String → Nat) (inner : CacheInner) (valueSize : Nat) : CacheInner :=
  let grown := { inner with sizeBytes := (inner.sizeBytes + valueSize) % 2 ^ 64 }
  let fitting := shim.evictWhile rank (fun inner => shim.maxSize < inner.sizeBytes)
    grown.entries.length grown
  shim.evictWhile rank (fun inner => shim.maxEntries ≤ inner.entries.length)
    fitting.entries.length fitting

/-- The result is `none` when the expiry date overflows and the call panics. -/
def set (rank : String → Nat) (inner : CacheInner) (key : String) (value : List UInt8)
    (now : Int) : Option Bool × CacheInner :=
  if shim.maxSize < value.length then (some false, inner)
  else
    let room := shim.makeRoom rank (inner.remove (shim.fullKey key)) value.length
    match expiry shim.ttlSecs now with
    | none => (none, room)
    | some expiresAt => (some true, room.insert (shim.fullKey key)
        { key := key, value := value, sizeBytes := value.length, createdAt := now,
          expiresAt := expiresAt, lastAccessed := now, accessCount := 0 })

def invalidate (inner : CacheInner) (key : String) : Bool × CacheInner :=
  ((inner.find? (shim.fullKey key)).isSome, inner.remove (shim.fullKey key))

def invalidatePrefix (inner : CacheInner) (start : String) : Nat × CacheInner :=
  let keysToRemove := (inner.entries.map Prod.fst).filter (Text.startsWith (shim.fullKey start))
  (keysToRemove.length, inner.removeAll keysToRemove)

def purgeExpired (inner : CacheInner) (now : Int) : Nat × CacheInner :=
  let purged := inner.removeAll (inner.expiredKeys now)
  (inner.entries.length - purged.entries.length, purged)

def clear (inner : CacheInner) : CacheInner :=
  { inner with entries := [], accessOrder := [], insertOrder := [], sizeBytes := 0 }

def sweepExpired (inner : CacheInner) (now : Int) : CacheInner :=
  inner.removeAll (inner.expiredKeys now)

end CacheShim

/-- What can happen to the cache; every call holds the lock from its first
reading of the entries to its end. -/
inductive Call where
  | get (key : String) (now touched : Int)
  | set (rank : String → Nat) (key : String) (value : List UInt8) (now : Int)
  | invalidate (key : String)
  | invalidatePrefix (start : String)
  | purgeExpired (now : Int)
  | clear
  | sweepExpired (now : Int)

def CacheShim.call (shim : CacheShim) (inner : CacheInner) : Call → CacheInner
  | .get key now touched => (shim.get inner key now touched).2
  | .set rank key value now => (shim.set rank inner key value now).2
  | .invalidate key => (shim.invalidate inner key).2
  | .invalidatePrefix start => (shim.invalidatePrefix inner start).2
  | .purgeExpired now => (CacheShim.purgeExpired inner now).2
  | .clear => CacheShim.clear inner
  | .sweepExpired now => CacheShim.sweepExpired inner now

end Evergreen.Cache
