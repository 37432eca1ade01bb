import Evergreen.Cache.Coherence

namespace Evergreen.Cache

/-! # The orders and the entries

Both order lists name exactly the keys that have an entry, so whatever key is
chosen as a victim has one, and the loops that make room come to an end.
-/

variable {shim : CacheShim} {inner : CacheInner} {rank : String → Nat}

abbrev CacheInner.keys (inner : CacheInner) : List String := inner.entries.map Prod.fst

structure Listed (inner : CacheInner) : Prop where
  nodup : inner.keys.Nodup
  accessed : inner.accessOrder.Perm inner.keys
  inserted : inner.insertOrder.Perm inner.keys

/-- The counters do not matter. -/
theorem Listed.of_lists {other : CacheInner} (listed : Listed inner)
    (entries : other.entries = inner.entries) (accessed : other.accessOrder = inner.accessOrder)
    (inserted : other.insertOrder = inner.insertOrder) : Listed other := by
  constructor
  · rw [CacheInner.keys, entries]
    exact listed.nodup
  · rw [CacheInner.keys, entries, accessed]
    exact listed.accessed
  · rw [CacheInner.keys, entries, inserted]
    exact listed.inserted

theorem find?_eq_none_iff {fullKey : String} :
    inner.find? fullKey = none ↔ fullKey ∉ inner.keys := by
  simp only [CacheInner.find?, List.lookup_eq_none_iff, List.mem_map, not_exists, not_and]
  constructor
  · intro absent entry held same
    have differs := absent entry held
    simp [same] at differs
  · intro absent entry held
    simpa using Ne.symm (absent entry held)

/-! ## Each change of the entries -/

theorem filter_absent {keys : List String} {key : String} (absent : key ∉ keys) :
    keys.filter (· ≠ key) = keys := by
  apply List.filter_eq_self.mpr
  intro other held
  have differs : other ≠ key := fun same => absent (same ▸ held)
  simpa using differs

theorem filter_key_absent {Entry : Type} {entries : List (String × Entry)} {key : String}
    (absent : key ∉ entries.map Prod.fst) : entries.filter (·.1 ≠ key) = entries := by
  apply List.filter_eq_self.mpr
  intro entry held
  have differs : entry.1 ≠ key := fun same => absent (same ▸ List.mem_map_of_mem held)
  simpa using differs

theorem keys_remove (fullKey : String) :
    (inner.remove fullKey).keys = inner.keys.filter (· ≠ fullKey) := by
  unfold CacheInner.remove
  cases found : inner.find? fullKey with
  | none => exact (filter_absent (find?_eq_none_iff.mp found)).symm
  | some entry => simp [CacheInner.keys, List.filter_map, Function.comp_def]

theorem Listed.remove (listed : Listed inner) (fullKey : String) :
    Listed (inner.remove fullKey) := by
  obtain ⟨nodup, accessed, inserted⟩ := listed
  have kept := @keys_remove inner fullKey
  unfold CacheInner.remove at kept ⊢
  cases found : inner.find? fullKey with
  | none => exact ⟨nodup, accessed, inserted⟩
  | some entry =>
      simp only [found] at kept ⊢
      exact ⟨kept ▸ nodup.filter _, kept ▸ accessed.filter _, kept ▸ inserted.filter _⟩

theorem Listed.removeAll (listed : Listed inner) (fullKeys : List String) :
    Listed (inner.removeAll fullKeys) := by
  induction fullKeys generalizing inner with
  | nil => exact listed
  | cons fullKey fullKeys ih => exact ih (listed.remove fullKey)

theorem keys_touch (fullKey : String) (now : Int) : (inner.touch fullKey now).keys = inner.keys := by
  simp [CacheInner.keys, CacheInner.touch, Function.comp_def]

theorem perm_moveLast {keys : List String} {key : String} (nodup : keys.Nodup) (held : key ∈ keys) :
    (keys.filter (· ≠ key) ++ [key]).Perm keys := by
  have erased : keys.erase key = keys.filter (· ≠ key) := by
    rw [nodup.erase_eq_filter]
    exact List.filter_congr fun other _ => by by_cases same : other = key <;> simp [same]
  rw [← erased]
  exact (List.perm_append_singleton key _).trans (List.perm_cons_erase held).symm

theorem Listed.touch (listed : Listed inner) {fullKey : String} (held : fullKey ∈ inner.keys)
    (now : Int) : Listed (inner.touch fullKey now) := by
  obtain ⟨nodup, accessed, inserted⟩ := listed
  have moved : (inner.touch fullKey now).accessOrder.Perm inner.accessOrder :=
    perm_moveLast (accessed.nodup_iff.mpr nodup) (accessed.mem_iff.mpr held)
  constructor <;> rw [keys_touch]
  · exact nodup
  · exact moved.trans accessed
  · exact inserted

theorem keys_insert {fullKey : String} (absent : fullKey ∉ inner.keys) (entry : CacheEntry) :
    (inner.insert fullKey entry).keys = fullKey :: inner.keys := by
  simp only [CacheInner.keys, CacheInner.insert, filter_key_absent absent, List.map_cons]

theorem Listed.insert (listed : Listed inner) {fullKey : String} (absent : fullKey ∉ inner.keys)
    (entry : CacheEntry) : Listed (inner.insert fullKey entry) := by
  obtain ⟨nodup, accessed, inserted⟩ := listed
  constructor <;> rw [keys_insert absent]
  · exact List.nodup_cons.mpr ⟨absent, nodup⟩
  · exact (List.perm_append_singleton fullKey _).trans (accessed.cons fullKey)
  · exact (List.perm_append_singleton fullKey _).trans (inserted.cons fullKey)

/-! ## Eviction -/

theorem leastUsed_mem {entries : List (String × CacheEntry)} {best : String × CacheEntry}
    (least : CacheInner.leastUsed rank entries = some best) : best ∈ entries := by
  induction entries with
  | nil => cases least
  | cons entry rest ih =>
      simp only [CacheInner.leastUsed] at least
      cases later : CacheInner.leastUsed rank rest with
      | none =>
          simp only [later, Option.some.injEq] at least
          exact least ▸ List.mem_cons_self
      | some other =>
          simp only [later] at least
          split at least
          · cases least
            exact List.mem_cons_of_mem _ (ih later)
          · cases least
            exact List.mem_cons_self

theorem leastUsed_isSome (rank : String → Nat) {entries : List (String × CacheEntry)} (occupied : entries ≠ []) :
    (CacheInner.leastUsed rank entries).isSome := by
  cases entries with
  | nil => exact absurd rfl occupied
  | cons entry rest =>
      simp only [CacheInner.leastUsed]
      cases CacheInner.leastUsed rank rest with
      | none => rfl
      | some best => dsimp only; split <;> rfl

theorem head?_of_perm {order keys : List String} (listed : order.Perm keys) (occupied : keys ≠ []) :
    ∃ key ∈ keys, order.head? = some key := by
  cases order with
  | nil => exact absurd listed.nil_eq.symm occupied
  | cons key order => exact ⟨key, listed.subset List.mem_cons_self, rfl⟩

/-- A removal that is counted. -/
def CacheInner.evict (inner : CacheInner) (key : String) : CacheInner :=
  { inner.remove key with evictions := incrementU64 (inner.remove key).evictions }

theorem Listed.evict (listed : Listed inner) (key : String) : Listed (inner.evict key) :=
  (listed.remove key).of_lists rfl rfl rfl

/-- The key that `evict_one_inner` chooses. -/
def CacheShim.victim (shim : CacheShim) (rank : String → Nat) (inner : CacheInner) : Option String :=
  match shim.strategy with
  | .lru => inner.accessOrder.head?
  | .fifo => inner.insertOrder.head?
  | .lfu => (CacheInner.leastUsed rank inner.entries).map Prod.fst

theorem Listed.victim (listed : Listed inner) (shim : CacheShim) (rank : String → Nat)
    (occupied : inner.entries ≠ []) : ∃ key ∈ inner.keys, shim.victim rank inner = some key := by
  have keyed : inner.keys ≠ [] := by simpa using occupied
  unfold CacheShim.victim
  cases shim.strategy with
  | lru => exact head?_of_perm listed.accessed keyed
  | fifo => exact head?_of_perm listed.inserted keyed
  | lfu =>
      obtain ⟨best, least⟩ := Option.isSome_iff_exists.mp (leastUsed_isSome rank occupied)
      exact ⟨best.1, List.mem_map_of_mem (leastUsed_mem least), by simp [least]⟩

/-- As long as there is an entry there is a victim, and the victim has an entry. -/
theorem Listed.evictOneInner (listed : Listed inner) (shim : CacheShim) (rank : String → Nat)
    (occupied : inner.entries ≠ []) : ∃ key ∈ inner.keys, shim.victim rank inner = some key ∧
      shim.evictOneInner rank inner = some (inner.evict key) := by
  obtain ⟨key, held, chosen⟩ := listed.victim shim rank occupied
  have present : (inner.find? key).isSome := by
    by_contra absent
    exact find?_eq_none_iff.mp (Option.not_isSome_iff_eq_none.mp absent) held
  have evicts : shim.evictOneInner rank inner = (shim.victim rank inner).map fun key =>
      if (inner.find? key).isSome then inner.evict key else inner.remove key := if_neg occupied
  exact ⟨key, held, chosen, by rw [evicts, chosen, Option.map_some, if_pos present]⟩

theorem length_remove {fullKey : String} (held : fullKey ∈ inner.keys) :
    (inner.remove fullKey).entries.length < inner.entries.length := by
  have fewer : (inner.remove fullKey).keys.length < inner.keys.length := by
    rw [keys_remove]
    exact List.length_filter_lt_length_iff_exists.mpr ⟨fullKey, held, by simp⟩
  simpa using fewer

theorem Listed.evictWhile (listed : Listed inner) (exceeds : CacheInner → Bool) (rounds : Nat) :
    Listed (shim.evictWhile rank exceeds rounds inner) := by
  induction rounds generalizing inner with
  | zero => exact listed
  | succ rounds ih =>
      unfold CacheShim.evictWhile
      cases exceeds inner with
      | false => exact listed
      | true =>
          by_cases occupied : inner.entries = []
          · simp only [CacheShim.evictOneInner, if_pos occupied]
            exact listed
          · obtain ⟨key, _, _, taken⟩ := listed.evictOneInner shim rank occupied
            simp only [taken]
            exact ih (listed.evict key)

/-- With a round for each entry the loop ends as the source's does: the limit is
kept, or nothing is left to evict. -/
theorem Listed.evictWhile_ended (listed : Listed inner) (shim : CacheShim) (rank : String → Nat)
    (exceeds : CacheInner → Bool) {rounds : Nat} (enough : inner.entries.length ≤ rounds) :
    exceeds (shim.evictWhile rank exceeds rounds inner) = false ∨
      (shim.evictWhile rank exceeds rounds inner).entries = [] := by
  induction rounds generalizing inner with
  | zero => exact .inr (List.eq_nil_of_length_eq_zero (Nat.le_zero.mp enough))
  | succ rounds ih =>
      unfold CacheShim.evictWhile
      cases exceeded : exceeds inner with
      | false => exact .inl exceeded
      | true =>
          by_cases occupied : inner.entries = []
          · simp only [CacheShim.evictOneInner, if_pos occupied]
            exact .inr occupied
          · obtain ⟨key, held, _, taken⟩ := listed.evictOneInner shim rank occupied
            have fewer : (inner.remove key).entries.length ≤ rounds :=
              Nat.lt_succ_iff.mp (Nat.lt_of_lt_of_le (length_remove held) enough)
            simp only [taken]
            exact ih (listed.evict key) fewer

theorem Listed.makeRoom (listed : Listed inner) (shim : CacheShim) (rank : String → Nat)
    (valueSize : Nat) : Listed (shim.makeRoom rank inner valueSize) := by
  have grown : Listed { inner with sizeBytes := (inner.sizeBytes + valueSize) % 2 ^ 64 } :=
    listed.of_lists rfl rfl rfl
  exact (grown.evictWhile _ _).evictWhile _ _

/-! ## The calls -/

theorem absent_makeRoom (shim : CacheShim) (inner : CacheInner) (rank : String → Nat)
    (key : String) (valueSize : Nat) : shim.fullKey key ∉
      (shim.makeRoom rank (inner.remove (shim.fullKey key)) valueSize).keys := by
  rw [← find?_eq_none_iff]
  have room : content shim (shim.makeRoom rank (inner.remove (shim.fullKey key)) valueSize) key =
      none := by
    by_contra held
    obtain ⟨value, held⟩ := Option.ne_none_iff_exists'.mp held
    have older := within_makeRoom_remove shim inner rank key valueSize key value held
    simp at older
  simpa [content] using room

theorem Listed.get (listed : Listed inner) (key : String) (now touched : Int) :
    Listed (shim.get inner key now touched).2 := by
  unfold CacheShim.get
  cases found : inner.find? (shim.fullKey key) with
  | none => exact listed.of_lists rfl rfl rfl
  | some entry =>
      by_cases expired : entry.expiresAt < now
      · simp only [expired, if_true]
        exact (listed.remove (shim.fullKey key)).of_lists rfl rfl rfl
      · simp only [expired, if_false]
        exact listed.touch (mem_keys_of_find? found) touched

theorem Listed.set (listed : Listed inner) (rank : String → Nat) (key : String)
    (value : List UInt8) (now : Int) : Listed (shim.set rank inner key value now).2 := by
  have room : Listed
      (shim.makeRoom rank (inner.remove (shim.fullKey key)) value.length) :=
    (listed.remove _).makeRoom shim rank value.length
  unfold CacheShim.set
  split
  · exact listed
  · cases expiry shim.ttlSecs now with
    | none => exact room
    | some expiresAt => exact room.insert (absent_makeRoom shim inner rank key value.length) _

theorem Listed.call (listed : Listed inner) (call : Call) : Listed (shim.call inner call) := by
  cases call with
  | get key now touched => exact listed.get key now touched
  | set rank key value now => exact listed.set rank key value now
  | invalidate key => exact listed.remove _
  | invalidatePrefix start => exact listed.removeAll _
  | purgeExpired now => exact listed.removeAll _
  | sweepExpired now => exact listed.removeAll _
  | clear => exact ⟨List.nodup_nil, .refl _, .refl _⟩

theorem always_listed (shim : CacheShim) (calls : List Call) :
    (machine shim).Always (fun session => Listed session.inner) {} calls := by
  have start : Listed {} := ⟨List.nodup_nil, .refl _, .refl _⟩
  apply Machine.always_ofFunction (fun session : Session => Listed session.inner) ?_ start
  intro session call listed
  exact listed.call call

end Evergreen.Cache
