import Evergreen.Cache.Accounting
import Mathlib.Data.List.Basic

namespace Evergreen.Cache

/-! # What is evicted first

The order lists against the history of the calls: which keys were last read or
set, and which last set.  A `set` evicts the oldest entries by that history,
and no more of them than it has to.
-/

variable {shim : CacheShim} {inner : CacheInner} {rank : String → Nat}

/-! ## The history -/

/-- The cache with the keys of the successful `get` and `set` calls and those of
the successful `set` calls, the latest ones first. -/
structure History where
  inner : CacheInner := {}
  used : List String := []
  stored : List String := []

namespace CacheShim

variable (shim)

def storedKey (inner : CacheInner) : Call → Option String
  | .set rank key value now =>
      if (shim.set rank inner key value now).1 = some true then some (shim.fullKey key) else none
  | _ => none

def usedKey (inner : CacheInner) : Call → Option String
  | .get key now touched =>
      if (shim.get inner key now touched).1.isSome then some (shim.fullKey key) else none
  | call => shim.storedKey inner call

def histories : Machine History Call where
  step history call :=
    (shim.process.step history.inner call).map fun next =>
      { inner := next
        used := (shim.usedKey history.inner call).toList ++ history.used
        stored := (shim.storedKey history.inner call).toList ++ history.stored }

/-- The keys that a `set` evicts, in that order. -/
def evicted (rank : String → Nat) (inner : CacheInner) (key : String) (valueSize : Nat) :
    List String :=
  (shim.roomEvictions rank ((inner.remove (shim.fullKey key)).grow valueSize)).map Prod.snd

end CacheShim

/-- The part of the history that the strategy goes by. -/
def History.log (history : History) : EvictionStrategy → Option (List String)
  | .lru => some history.used
  | .fifo => some history.stored
  | .lfu => none

/-- The first key comes up longer ago than the second one. -/
def Older (log : List String) (first second : String) : Prop :=
  log.idxOf second < log.idxOf first

def CacheInner.sizeOf (inner : CacheInner) (key : String) : Nat :=
  ((inner.find? key).map (·.sizeBytes)).getD 0

/-- A further entry keeps both limits beside those of the keys. -/
def LeavesRoom (shim : CacheShim) (inner : CacheInner) (valueSize : Nat) (keys : List String) : Prop :=
  (keys.map inner.sizeOf).sum + valueSize ≤ shim.maxSize ∧
    keys.length + 1 ≤ max 1 shim.maxEntries

/-- The keys are those of the cache but for the one that is set, the oldest ones
first, and the evicted ones are the shortest beginning that leaves a rest that
fits. -/
structure EvictsOldest (shim : CacheShim) (inner : CacheInner) (log : List String) (key : String)
    (valueSize : Nat) (evicted rest : List String) : Prop where
  live : (evicted ++ rest).Perm (inner.keys.filter (· ≠ shim.fullKey key))
  oldestFirst : (evicted ++ rest).Pairwise (Older log)
  room : LeavesRoom shim inner valueSize rest
  shortest : ∀ fewer < evicted.length, ¬ LeavesRoom shim inner valueSize ((evicted ++ rest).drop fewer)

/-- A `set` that is not refused evicts the oldest entries, and when it returns the
others are left beside its own. -/
def KeepsRecent (shim : CacheShim) (history : History) : Prop :=
  ∀ log, history.log shim.strategy = some log → ∀ rank key value now,
    Addressable history.inner (.set rank key value now) → value.length ≤ shim.maxSize →
      ∃ rest, EvictsOldest shim history.inner log key value.length
          (shim.evicted rank history.inner key value.length) rest ∧
        ((shim.set rank history.inner key value now).1 = some true →
          (shim.set rank history.inner key value now).2.keys.Perm (shim.fullKey key :: rest))

/-! ## The order lists -/

theorem pairwise_older_use {log order : List String} (key : String)
    (sorted : order.Pairwise (Older log)) :
    (order.filter (· ≠ key) ++ [key]).Pairwise (Older (key :: log)) := by
  have later : ∀ other, other ≠ key → (key :: log).idxOf other = log.idxOf other + 1 :=
    fun other differs => List.idxOf_cons_ne _ (Ne.symm differs)
  refine List.pairwise_append.mpr ⟨?_, List.pairwise_singleton _ _, ?_⟩
  · refine (sorted.filter _).imp_of_mem fun first second older => ?_
    have one : _ ≠ key := of_decide_eq_true (List.mem_filter.mp first).2
    have two : _ ≠ key := of_decide_eq_true (List.mem_filter.mp second).2
    unfold Older at older ⊢
    rw [later _ one, later _ two]
    exact Nat.succ_lt_succ older
  · intro other member last same
    rw [List.mem_singleton.mp same, Older, List.idxOf_cons_self,
      later other (of_decide_eq_true (List.mem_filter.mp member).2)]
    exact Nat.succ_pos _

/-- Both lists run from the oldest key to the youngest. -/
structure Sorted (history : History) : Prop where
  accessed : history.inner.accessOrder.Pairwise (Older history.used)
  inserted : history.inner.insertOrder.Pairwise (Older history.stored)

theorem Sorted.removes {history next : History} (sorted : Sorted history)
    (used : next.used = history.used) (stored : next.stored = history.stored)
    (accessed : next.inner.accessOrder.Sublist history.inner.accessOrder)
    (inserted : next.inner.insertOrder.Sublist history.inner.insertOrder) : Sorted next := by
  constructor
  · rw [used]
    exact sorted.accessed.sublist accessed
  · rw [stored]
    exact sorted.inserted.sublist inserted

theorem orders_remove (key : String) :
    (inner.remove key).accessOrder.Sublist inner.accessOrder ∧
      (inner.remove key).insertOrder.Sublist inner.insertOrder := by
  unfold CacheInner.remove
  cases inner.find? key with
  | none => exact ⟨.refl _, .refl _⟩
  | some entry => exact ⟨List.filter_sublist, List.filter_sublist⟩

theorem orders_removeAll (keys : List String) :
    (inner.removeAll keys).accessOrder.Sublist inner.accessOrder ∧
      (inner.removeAll keys).insertOrder.Sublist inner.insertOrder := by
  induction keys generalizing inner with
  | nil => exact ⟨.refl _, .refl _⟩
  | cons key keys ih =>
      have first := @orders_remove inner key
      have rest := @ih (inner.remove key)
      exact ⟨rest.1.trans first.1, rest.2.trans first.2⟩

/-! ## The loops, one victim after the other -/

namespace CacheShim

/-- The list whose front is evicted. -/
def queue (shim : CacheShim) (inner : CacheInner) : List String :=
  match shim.strategy with
  | .lru => inner.accessOrder
  | .fifo => inner.insertOrder
  | .lfu => []

end CacheShim

/-- With an order to go by, the victim is the front of the queue and the rest of it
stays. -/
theorem queue_evict (rank : String → Nat) (listed : Listed inner) (ordered : shim.strategy ≠ .lfu) :
    (shim.queue inner).Perm inner.keys ∧ shim.victim rank inner = (shim.queue inner).head? ∧
      ∀ key ∈ inner.keys, shim.queue (inner.evict key) = (shim.queue inner).filter (· ≠ key) := by
  have present : ∀ key ∈ inner.keys, ∃ entry, inner.find? key = some entry := fun key held =>
    Option.ne_none_iff_exists'.mp fun absent => find?_eq_none_iff.mp absent held
  unfold CacheShim.queue CacheShim.victim
  cases strategy : shim.strategy with
  | lru =>
      refine ⟨listed.accessed, rfl, fun key held => ?_⟩
      obtain ⟨entry, found⟩ := present key held
      simp [CacheInner.evict, CacheInner.remove, found]
  | fifo =>
      refine ⟨listed.inserted, rfl, fun key held => ?_⟩
      obtain ⟨entry, found⟩ := present key held
      simp [CacheInner.evict, CacheInner.remove, found]
  | lfu => exact absurd strategy ordered

/-- The evictions take the queue from its front for as long as what is left of it is
too much. -/
theorem evictWhile_queue (rank : String → Nat) (ordered : shim.strategy ≠ .lfu) {property : CacheInner → Prop}
    {exceeds : CacheInner → Bool} {excess : List String → Prop}
    (kept : ∀ mid key, Listed mid → property mid → property (mid.evict key))
    (exceeds_iff : ∀ mid, Listed mid → property mid →
      (exceeds mid = true ↔ excess (shim.queue mid)))
    {rounds : Nat} (listed : Listed inner) (start : property inner)
    (enough : inner.entries.length ≤ rounds) :
    ∃ rest, shim.queue inner =
        (shim.evictions rank exceeds rounds inner).map Prod.snd ++ rest ∧
      shim.queue (shim.evictWhile rank exceeds rounds inner) = rest ∧
      property (shim.evictWhile rank exceeds rounds inner) ∧
      (∀ fewer < (shim.evictions rank exceeds rounds inner).length,
        excess ((shim.queue inner).drop fewer)) ∧
      (excess rest → rest = []) := by
  have queueEmpty : ∀ mid : CacheInner, Listed mid → mid.entries = [] → shim.queue mid = [] := by
    intro mid listed empty
    refine List.perm_nil.mp ((queue_evict rank listed ordered).1.trans ?_)
    rw [CacheInner.keys, empty]
    exact .refl _
  induction rounds generalizing inner with
  | zero =>
      have empty := queueEmpty inner listed (List.eq_nil_of_length_eq_zero (Nat.le_zero.mp enough))
      exact ⟨[], empty, empty, start, fun _ less => absurd less (Nat.not_lt_zero _), fun _ => rfl⟩
  | succ rounds ih =>
      unfold CacheShim.evictWhile CacheShim.evictions
      cases exceeded : exceeds inner with
      | false =>
          refine ⟨_, rfl, rfl, start, fun _ less => absurd less (Nat.not_lt_zero _), fun excess => ?_⟩
          exact Bool.noConfusion (exceeded.symm.trans ((exceeds_iff inner listed start).mpr excess))
      | true =>
          by_cases occupied : inner.entries = []
          · have empty := queueEmpty inner listed occupied
            simp only [CacheShim.evictOneInner, if_pos occupied, if_true]
            exact ⟨[], empty, empty, start, fun _ less => absurd less (Nat.not_lt_zero _),
              fun _ => rfl⟩
          · obtain ⟨key, held, chosen, taken⟩ := listed.evictOneInner shim rank occupied
            obtain ⟨listing, victim, evicts⟩ := queue_evict rank listed ordered
            obtain ⟨tail, front⟩ : ∃ tail, shim.queue inner = key :: tail :=
              ⟨_, List.eq_cons_of_mem_head? (victim.symm.trans chosen)⟩
            have distinct : key ∉ tail := by
              have nodup := listing.nodup_iff.mpr listed.nodup
              rw [front] at nodup
              exact (List.nodup_cons.mp nodup).1
            have next : shim.queue (inner.evict key) = tail := by
              rw [evicts key held, front, List.filter_cons_of_neg (by simp), filter_absent distinct]
            have fewer : (inner.evict key).entries.length ≤ rounds :=
              Nat.lt_succ_iff.mp (Nat.lt_of_lt_of_le (length_remove held) enough)
            obtain ⟨rest, split, left, ended, before, last⟩ :=
              ih (listed.evict key) (kept inner key listed start) fewer
            simp only [taken, chosen, if_true]
            refine ⟨rest, ?_, left, ended, ?_, last⟩
            · rw [front, ← next, split]
              rfl
            · intro count less
              cases count with
              | zero => exact (exceeds_iff inner listed start).mp exceeded
              | succ count =>
                  rw [front, List.drop_succ_cons, ← next]
                  exact before count (Nat.lt_of_succ_lt_succ less)

/-! ## The sizes behind the keys -/

/-- The entries are as large as they were when room was to be made. -/
def Measured (size : String → Nat) (inner : CacheInner) : Prop :=
  ∀ entry ∈ inner.entries, entry.2.sizeBytes = size entry.1

theorem lookup_of_mem {Entry : Type} {entries : List (String × Entry)}
    (nodup : (entries.map Prod.fst).Nodup) {entry : String × Entry} (member : entry ∈ entries) :
    entries.lookup entry.1 = some entry.2 := by
  induction entries with
  | nil => cases member
  | cons head rest ih =>
      obtain ⟨fresh, nodup⟩ := List.nodup_cons.mp nodup
      rcases List.mem_cons.mp member with rfl | member
      · exact List.lookup_cons_self
      · have differs : (entry.1 == head.1) = false := by
          refine beq_eq_false_iff_ne.mpr fun same => fresh ?_
          exact List.mem_map.mpr ⟨entry, member, same⟩
        rw [List.lookup_cons, differs]
        exact ih nodup member

theorem measured_sizeOf (listed : Listed inner) : Measured inner.sizeOf inner := by
  intro entry member
  have found : inner.find? entry.1 = some entry.2 := lookup_of_mem listed.nodup member
  rw [CacheInner.sizeOf, found]
  rfl

theorem Measured.evict {size : String → Nat} (measured : Measured size inner) (key : String) :
    Measured size (inner.evict key) := by
  intro entry member
  refine measured entry ?_
  simp only [CacheInner.evict, CacheInner.remove] at member
  cases found : inner.find? key with
  | none =>
      rw [found] at member
      exact member
  | some held =>
      rw [found] at member
      exact (List.mem_filter.mp member).1

theorem Measured.totalBytes {size : String → Nat} (measured : Measured size inner)
    {keys : List String} (listing : keys.Perm inner.keys) :
    inner.totalBytes = (keys.map size).sum := by
  rw [(listing.map size).sum_nat, CacheInner.totalBytes, CacheInner.keys, List.map_map]
  exact congrArg List.sum (List.map_congr_left measured)

/-! ## Making room -/

def TooLarge (shim : CacheShim) (size : String → Nat) (extra : Nat) (queue : List String) : Prop :=
  shim.maxSize < (queue.map size).sum + extra

def TooMany (shim : CacheShim) (queue : List String) : Prop := shim.maxEntries ≤ queue.length

/-- What the evictions of a `set` leave of the queue is what fits. -/
theorem roomEvictions_queue (rank : String → Nat) (ordered : shim.strategy ≠ .lfu) {extra : Nat}
    (listed : Listed inner) (sized : Sized extra inner) (small : extra ≤ shim.maxSize) {size : String → Nat}
    (measured : Measured size inner) :
    ∃ rest, shim.queue inner = (shim.roomEvictions rank inner).map Prod.snd ++ rest ∧
      shim.queue (shim.evictWhile rank shim.overCount (shim.fitting rank inner).entries.length
        (shim.fitting rank inner)) = rest ∧
      ((rest.map size).sum + extra ≤ shim.maxSize ∧ rest.length + 1 ≤ max 1 shim.maxEntries) ∧
      ∀ fewer < (shim.roomEvictions rank inner).length,
        ¬ ((((shim.queue inner).drop fewer).map size).sum + extra ≤ shim.maxSize ∧
          ((shim.queue inner).drop fewer).length + 1 ≤ max 1 shim.maxEntries) := by
  have kept : ∀ mid key, Listed mid → Sized extra mid ∧ Measured size mid →
      Sized extra (mid.evict key) ∧ Measured size (mid.evict key) :=
    fun mid key listed both => ⟨(both.1.evict listed key).1, both.2.evict key⟩
  have overSize_iff : ∀ mid, Listed mid → Sized extra mid ∧ Measured size mid →
      (shim.overSize mid = true ↔ TooLarge shim size extra (shim.queue mid)) := by
    intro mid listed both
    rw [TooLarge, ← both.2.totalBytes (queue_evict rank listed ordered).1, ← both.1.total]
    exact decide_eq_true_iff
  have overCount_iff : ∀ mid, Listed mid → Sized extra mid ∧ Measured size mid →
      (shim.overCount mid = true ↔ TooMany shim (shim.queue mid)) := by
    intro mid listed _
    have length : (shim.queue mid).length = mid.entries.length :=
      (queue_evict rank listed ordered).1.length_eq.trans (List.length_map _)
    rw [TooMany, length]
    exact decide_eq_true_iff
  obtain ⟨middle, first, left, both, tooLarge, fitting⟩ :=
    evictWhile_queue rank ordered kept overSize_iff listed ⟨sized, measured⟩
      (Nat.le_refl _)
  obtain ⟨rest, second, ended, _, tooMany, counted⟩ :=
    evictWhile_queue rank ordered kept overCount_iff (listed.fitting shim rank) both
      (Nat.le_refl _)
  have later : shim.queue (shim.fitting rank inner) = middle := left
  rw [later] at second tooMany
  refine ⟨rest, ?_, ended, ⟨?_, ?_⟩, ?_⟩
  · rw [first, second, CacheShim.roomEvictions, List.map_append, List.append_assoc]
  · by_cases excess : TooLarge shim size extra middle
    · have empty : rest = [] := (List.append_eq_nil_iff.mp (second.symm.trans (fitting excess))).2
      rw [empty]
      simpa using small
    · rw [TooLarge, second, List.map_append, List.sum_append] at excess
      omega
  · by_cases excess : TooMany shim rest
    · rw [counted excess]
      exact Nat.le_max_left 1 _
    · exact Nat.le_trans (Nat.lt_of_not_le excess) (Nat.le_max_right 1 _)
  · intro fewer less
    rintro ⟨fits, room⟩
    rw [CacheShim.roomEvictions, List.length_append] at less
    by_cases early : fewer < (shim.evictions rank shim.overSize inner.entries.length inner).length
    · exact absurd (tooLarge fewer early) (Nat.not_lt.mpr fits)
    · have skipped : (shim.queue inner).drop fewer = middle.drop
          (fewer - (shim.evictions rank shim.overSize inner.entries.length inner).length) := by
        rw [first, List.drop_append, List.drop_eq_nil_of_le (by simpa using Nat.le_of_not_lt early)]
        simp
      have many : shim.maxEntries ≤ (middle.drop (fewer -
          (shim.evictions rank shim.overSize inner.entries.length inner).length)).length :=
        tooMany _ (by omega)
      have length := congrArg List.length second
      rw [List.length_append, List.length_map] at length
      rw [skipped] at room
      rw [List.length_drop] at many room
      omega

/-! ## The calls -/

theorem Sorted.get {history : History} (sorted : Sorted history) (key : String)
    (now touched : Int) :
    Sorted { inner := (shim.get history.inner key now touched).2
             used := (shim.usedKey history.inner (.get key now touched)).toList ++ history.used
             stored := history.stored } := by
  cases found : history.inner.find? (shim.fullKey key) with
  | none =>
      exact sorted.removes (by simp [CacheShim.usedKey, CacheShim.get, found]) rfl
        (by simp [CacheShim.get, found]) (by simp [CacheShim.get, found])
  | some entry =>
      by_cases expired : entry.expiresAt < now
      · obtain ⟨accessed, inserted⟩ := @orders_remove history.inner (shim.fullKey key)
        exact sorted.removes (by simp [CacheShim.usedKey, CacheShim.get, found, expired]) rfl
          (by simpa [CacheShim.get, found, expired]) (by simpa [CacheShim.get, found, expired])
      · -- the key moves to the young end of both the list and the log
        have hit : shim.get history.inner key now touched =
            (some entry.value, history.inner.touch (shim.fullKey key) touched) := by
          simp [CacheShim.get, found, expired]
        have used : shim.usedKey history.inner (.get key now touched) = some (shim.fullKey key) := by
          simp [CacheShim.usedKey, hit]
        rw [hit, used]
        exact ⟨pairwise_older_use _ sorted.accessed, sorted.inserted⟩

theorem orders_makeRoom (shim : CacheShim) (rank : String → Nat) (listed : Listed inner)
    (valueSize : Nat) :
    (shim.makeRoom rank inner valueSize).accessOrder.Sublist inner.accessOrder ∧
      (shim.makeRoom rank inner valueSize).insertOrder.Sublist inner.insertOrder := by
  have kept : ∀ mid key, Listed mid →
      (mid.accessOrder.Sublist inner.accessOrder ∧ mid.insertOrder.Sublist inner.insertOrder) →
      (mid.evict key).accessOrder.Sublist inner.accessOrder ∧
        (mid.evict key).insertOrder.Sublist inner.insertOrder := fun mid key _ within =>
    ⟨(orders_remove key).1.trans within.1, (orders_remove key).2.trans within.2⟩
  have grown := listed.grow valueSize
  have fitting := (grown.evictWhile_rule shim rank kept shim.overSize
    (inner.grow valueSize).entries.length ⟨.refl _, .refl _⟩).1
  exact ((grown.fitting shim rank).evictWhile_rule shim rank kept shim.overCount _ fitting).1

theorem Sorted.set {history : History} (sorted : Sorted history) (listed : Listed history.inner)
    {rank : String → Nat} {key : String} {value : List UInt8} {now : Int} {stored : Bool}
    (returned : (shim.set rank history.inner key value now).1 = some stored) :
    Sorted { inner := (shim.set rank history.inner key value now).2
             used := (shim.usedKey history.inner (.set rank key value now)).toList ++ history.used
             stored :=
               (shim.storedKey history.inner (.set rank key value now)).toList ++ history.stored } := by
  by_cases large : shim.maxSize < value.length
  · have refused : shim.set rank history.inner key value now = (some false, history.inner) :=
      if_pos large
    refine sorted.removes ?_ ?_ ?_ ?_ <;> simp [CacheShim.usedKey, CacheShim.storedKey, refused]
  · cases expires : expiry shim.ttlSecs now with
    | none => simp [CacheShim.set, large, expires] at returned
    | some expiresAt =>
        have absent := absent_makeRoom shim history.inner rank key value.length
        have room := (listed.remove (shim.fullKey key)).makeRoom shim rank value.length
        obtain ⟨accessed, inserted⟩ := orders_makeRoom shim rank
          (listed.remove (shim.fullKey key)) value.length
        have own := @orders_remove history.inner (shim.fullKey key)
        -- the set key is in neither list when it is appended to both
        have unlisted : ∀ order : List String, order.Perm (shim.makeRoom rank
            (history.inner.remove (shim.fullKey key)) value.length).keys →
              order.filter (· ≠ shim.fullKey key) = order :=
          fun order listing => filter_absent fun held => absent (listing.mem_iff.mp held)
        have byAccess := pairwise_older_use (shim.fullKey key)
          (sorted.accessed.sublist (accessed.trans own.1))
        have byInsert := pairwise_older_use (shim.fullKey key)
          (sorted.inserted.sublist (inserted.trans own.2))
        rw [unlisted _ room.accessed] at byAccess
        rw [unlisted _ room.inserted] at byInsert
        constructor <;> simpa [CacheShim.usedKey, CacheShim.storedKey, CacheShim.set, large, expires]

theorem Sorted.step {history next : History} {call : Call} (sorted : Sorted history)
    (listed : Listed history.inner) (taken : shim.histories.step history call = some next) :
    Sorted next := by
  obtain ⟨after, stepped, rfl⟩ := Option.map_eq_some_iff.mp taken
  cases call with
  | get key now touched =>
      cases stepped
      exact sorted.get key now touched
  | set rank key value now =>
      obtain ⟨stored, returned, rfl⟩ := Option.map_eq_some_iff.mp stepped
      exact sorted.set listed returned
  | invalidate key =>
      cases stepped
      exact sorted.removes rfl rfl (orders_remove _).1 (orders_remove _).2
  | invalidatePrefix start =>
      cases stepped
      exact sorted.removes rfl rfl (orders_removeAll _).1 (orders_removeAll _).2
  | purgeExpired now =>
      cases stepped
      exact sorted.removes rfl rfl (orders_removeAll _).1 (orders_removeAll _).2
  | sweepExpired now =>
      cases stepped
      exact sorted.removes rfl rfl (orders_removeAll _).1 (orders_removeAll _).2
  | clear =>
      cases stepped
      exact ⟨.nil, .nil⟩

theorem Sorted.queue {history : History} (sorted : Sorted history) {log : List String}
    (ordered : history.log shim.strategy = some log) (key : String) (valueSize : Nat) :
    (shim.queue ((history.inner.remove key).grow valueSize)).Pairwise (Older log) := by
  obtain ⟨accessed, inserted⟩ := @orders_remove history.inner key
  unfold CacheShim.queue
  cases strategy : shim.strategy with
  | lru =>
      rw [strategy] at ordered
      cases ordered
      exact sorted.accessed.sublist accessed
  | fifo =>
      rw [strategy] at ordered
      cases ordered
      exact sorted.inserted.sublist inserted
  | lfu => exact .nil

theorem keys_set {key : String} {value : List UInt8} {now : Int}
    (stored : (shim.set rank inner key value now).1 = some true) :
    (shim.set rank inner key value now).2.keys = shim.fullKey key ::
      (shim.makeRoom rank (inner.remove (shim.fullKey key)) value.length).keys := by
  have absent := absent_makeRoom shim inner rank key value.length
  unfold CacheShim.set at stored ⊢
  split at stored
  · cases stored
  · rename_i small
    rw [if_neg small]
    cases expires : expiry shim.ttlSecs now with
    | none => simp [expires] at stored
    | some expiresAt => exact keys_insert absent _

theorem Sorted.keepsRecent {history : History} (sorted : Sorted history)
    (settled : Settled shim history.inner) : KeepsRecent shim history := by
  intro log chosen rank key value now addressable small
  have ordered : shim.strategy ≠ .lfu := by
    intro strategy
    rw [strategy] at chosen
    cases chosen
  have replaced := settled.remove (shim.fullKey key)
  have grown := replaced.listed.grow value.length
  obtain ⟨rest, split, left, room, shortest⟩ :=
    roomEvictions_queue rank ordered grown
      (replaced.sized.grow (settled.replace addressable)) small
      ((measured_sizeOf settled.listed).evict (shim.fullKey key))
  have evicted : shim.queue ((history.inner.remove (shim.fullKey key)).grow value.length) =
      shim.evicted rank history.inner key value.length ++ rest := split
  refine ⟨rest, ⟨?_, ?_, room, ?_⟩, fun stored => ?_⟩
  · rw [← evicted, ← keys_remove]
    exact (queue_evict rank grown ordered).1
  · rw [← evicted]
    exact sorted.queue chosen _ _
  · intro fewer less
    rw [← evicted]
    exact shortest fewer (by simpa [CacheShim.evicted] using less)
  · rw [keys_set stored, makeRoom_eq]
    refine List.Perm.cons _ ?_
    have settles := (queue_evict rank (replaced.listed.makeRoom shim rank value.length) ordered).1
    rw [makeRoom_eq, left] at settles
    exact settles.symm

/-! ## The runs -/

/-- In every run a `set` takes the shortest beginning of the keys, the oldest ones
first, that makes both limits hold. -/
theorem always_keepsRecent (shim : CacheShim) (calls : List Call)
    (addressable : shim.histories.Along (fun history => Addressable history.inner) {} calls) :
    shim.histories.Always (KeepsRecent shim) {} calls := by
  refine (Machine.always_of_along (fun history => Settled shim history.inner ∧ Sorted history) ?_
    ⟨Settled.new shim, ⟨.nil, .nil⟩⟩ addressable).imp ?_
  · rintro history call next ⟨settled, sorted⟩ addressable taken
    refine ⟨?_, sorted.step settled.listed taken⟩
    obtain ⟨after, stepped, rfl⟩ := Option.map_eq_some_iff.mp taken
    exact settled.process addressable stepped
  · rintro history ⟨settled, sorted⟩
    exact sorted.keepsRecent settled

/-- A value is read between two sets, so the third one takes the place of the
second. -/
theorem always_keepsRecent_three :
    ({ maxSize := 5 } : CacheShim).histories.Always (KeepsRecent { maxSize := 5 }) {}
      [.set String.length "a" [1, 2] 0, .set String.length "b" [3, 4] 1, .get "a" 2 2,
        .set String.length "c" [5, 6] 3] := by
  refine always_keepsRecent { maxSize := 5 } _ ?_
  refine .cons rfl (by unfold Addressable; decide) ?_
  refine .cons rfl (by unfold Addressable; decide) ?_
  refine .cons rfl trivial ?_
  exact .cons rfl (by unfold Addressable; decide) trivial

end Evergreen.Cache
