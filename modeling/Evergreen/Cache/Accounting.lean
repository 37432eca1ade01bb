import Evergreen.Cache.Orders

namespace Evergreen.Cache

/-! # The sizes and the limits

`size_bytes` is the sum of the entries' sizes between the calls; within `set`
it is ahead by the value that is to come, until the loops have made room.  A
`set` whose expiry date overflows panics, which ends the process.
-/

variable {shim : CacheShim} {inner : CacheInner} {rank : String → Nat}

def CacheInner.totalBytes (inner : CacheInner) : Nat :=
  (inner.entries.map (·.2.sizeBytes)).sum

/-- What holds of the fields between the calls. -/
structure Represented (shim : CacheShim) (inner : CacheInner) : Prop where
  size : inner.sizeBytes = inner.totalBytes
  limit : inner.sizeBytes ≤ shim.maxSize
  accessed : inner.accessOrder.Nodup ∧ inner.accessOrder.Perm inner.keys
  inserted : inner.insertOrder.Nodup ∧ inner.insertOrder.Perm inner.keys
  count : inner.entries.length ≤ max 1 shim.maxEntries

/-! ## The subtractions -/

namespace CacheShim

variable (shim)

/-- The evictions of a loop: the state each is made in, and its key. -/
def evictions (rank : String → Nat) (exceeds : CacheInner → Bool) :
    Nat → CacheInner → List (CacheInner × String)
  | 0, _ => []
  | rounds + 1, inner =>
      if exceeds inner then
        match shim.evictOneInner rank inner with
        | some evicted =>
            (shim.victim rank inner).toList.map (inner, ·) ++ evictions rank exceeds rounds evicted
        | none => []
      else []

def overSize (inner : CacheInner) : Bool := shim.maxSize < inner.sizeBytes

def overCount (inner : CacheInner) : Bool := shim.maxEntries ≤ inner.entries.length

/-- What the first loop of `set` leaves. -/
def fitting (rank : String → Nat) (inner : CacheInner) : CacheInner :=
  shim.evictWhile rank shim.overSize inner.entries.length inner

def roomEvictions (rank : String → Nat) (inner : CacheInner) : List (CacheInner × String) :=
  shim.evictions rank shim.overSize inner.entries.length inner ++
    shim.evictions rank shim.overCount (shim.fitting rank inner).entries.length
      (shim.fitting rank inner)

end CacheShim

/-- `size_bytes` with the new value, before there is room for it. -/
def CacheInner.grow (inner : CacheInner) (valueSize : Nat) : CacheInner :=
  { inner with sizeBytes := (inner.sizeBytes + valueSize) % 2 ^ 64 }

theorem makeRoom_eq (valueSize : Nat) : shim.makeRoom rank inner valueSize =
    shim.evictWhile rank shim.overCount (shim.fitting rank (inner.grow valueSize)).entries.length
      (shim.fitting rank (inner.grow valueSize)) := rfl

def CacheInner.removalsAll (inner : CacheInner) : List String → List (CacheInner × String)
  | [] => []
  | key :: keys => (inner, key) :: removalsAll (inner.remove key) keys

/-- The removals of a call: the state each is made in, and its key. -/
def CacheShim.removals (shim : CacheShim) (inner : CacheInner) : Call → List (CacheInner × String)
  | .get key now _ =>
      match inner.find? (shim.fullKey key) with
      | some entry => if entry.expiresAt < now then [(inner, shim.fullKey key)] else []
      | none => []
  | .set rank key value _ =>
      if shim.maxSize < value.length then []
      else (inner, shim.fullKey key) ::
        shim.roomEvictions rank ((inner.remove (shim.fullKey key)).grow value.length)
  | .invalidate key => [(inner, shim.fullKey key)]
  | .invalidatePrefix start =>
      inner.removalsAll ((inner.entries.map Prod.fst).filter (Text.startsWith (shim.fullKey start)))
  | .purgeExpired now => inner.removalsAll (inner.expiredKeys now)
  | .clear => []
  | .sweepExpired now => inner.removalsAll (inner.expiredKeys now)

/-- No removal takes more from `size_bytes` than is there. -/
def SubtractsWithin (removals : List (CacheInner × String)) : Prop :=
  ∀ removal ∈ removals, ∀ entry, removal.1.find? removal.2 = some entry →
    entry.sizeBytes ≤ removal.1.sizeBytes

/-- The entries and the value to be set are in memory at the same time, which a
64-bit address space holds. -/
def Addressable (inner : CacheInner) : Call → Prop
  | .set _ _ value _ => inner.totalBytes + value.length < 2 ^ 64
  | _ => True

/-- The calls that return. -/
def CacheShim.process (shim : CacheShim) : Machine CacheInner Call where
  step inner call :=
    match call with
    | .set rank key value now =>
        (shim.set rank inner key value now).1.map fun _ => (shim.set rank inner key value now).2
    | call => some (shim.call inner call)

/-! ## The sum of the sizes -/

/-- `size_bytes` is ahead of the entries by what is still to come. -/
structure Sized (extra : Nat) (inner : CacheInner) : Prop where
  total : inner.sizeBytes = inner.totalBytes + extra
  fits : inner.sizeBytes < 2 ^ 64

theorem sum_filter_key {Entry : Type} (size : Entry → Nat) {entries : List (String × Entry)}
    {key : String} {entry : Entry} (nodup : (entries.map Prod.fst).Nodup)
    (found : entries.lookup key = some entry) :
    ((entries.filter (·.1 ≠ key)).map (size ·.2)).sum + size entry =
      (entries.map (size ·.2)).sum := by
  induction entries with
  | nil => cases found
  | cons head rest ih =>
      obtain ⟨held, other⟩ := head
      obtain ⟨fresh, nodup⟩ := List.nodup_cons.mp nodup
      by_cases same : key = held
      · subst same
        have held : other = entry := by simpa using found
        rw [List.filter_cons_of_neg (by simp), filter_key_absent fresh, List.map_cons, List.sum_cons, held,
          Nat.add_comm]
      · have differs : (key == held) = false := by simpa using same
        simp only [List.lookup_cons, differs] at found
        rw [List.filter_cons_of_pos (by simpa using Ne.symm same), List.map_cons, List.map_cons,
          List.sum_cons, List.sum_cons, Nat.add_assoc, ih nodup found]

theorem totalBytes_remove (listed : Listed inner) {key : String} {entry : CacheEntry}
    (found : inner.find? key = some entry) :
    (inner.remove key).totalBytes + entry.sizeBytes = inner.totalBytes := by
  have removed := sum_filter_key CacheEntry.sizeBytes listed.nodup found
  simpa [CacheInner.totalBytes, CacheInner.remove, found] using removed

theorem subtractU64_eq {total part : Nat} (within : part ≤ total) (fits : total < 2 ^ 64) :
    subtractU64 total part = total - part := by
  unfold subtractU64
  omega

theorem Sized.covers {extra : Nat} (sized : Sized extra inner) (listed : Listed inner)
    {key : String} {entry : CacheEntry} (found : inner.find? key = some entry) :
    entry.sizeBytes ≤ inner.sizeBytes := by
  have removed := totalBytes_remove listed found
  have total := sized.total
  omega

theorem Sized.remove {extra : Nat} (sized : Sized extra inner) (listed : Listed inner)
    (key : String) : Sized extra (inner.remove key) ∧
      (inner.remove key).sizeBytes ≤ inner.sizeBytes := by
  cases found : inner.find? key with
  | none =>
      have same : inner.remove key = inner := by simp [CacheInner.remove, found]
      rw [same]
      exact ⟨sized, Nat.le_refl _⟩
  | some entry =>
      have removed := totalBytes_remove listed found
      have left : (inner.remove key).sizeBytes = inner.sizeBytes - entry.sizeBytes := by
        rw [← subtractU64_eq (sized.covers listed found) sized.fits]
        simp [CacheInner.remove, found]
      have total := sized.total
      have fits := sized.fits
      refine ⟨⟨?_, ?_⟩, ?_⟩ <;> rw [left] <;> omega

/-! ## Making room -/

/-- What every removal of an entry keeps, a loop of evictions keeps, and it holds
in the state of each of them. -/
theorem Listed.evictWhile_rule {property : CacheInner → Prop} (shim : CacheShim)
    (rank : String → Nat) (kept : ∀ mid key, Listed mid → property mid → property (mid.evict key))
    (exceeds : CacheInner → Bool) (rounds : Nat) (listed : Listed inner) (start : property inner) :
    property (shim.evictWhile rank exceeds rounds inner) ∧
      ∀ removal ∈ shim.evictions rank exceeds rounds inner,
        Listed removal.1 ∧ property removal.1 := by
  induction rounds generalizing inner with
  | zero => exact ⟨start, fun _ member => absurd member List.not_mem_nil⟩
  | succ rounds ih =>
      unfold CacheShim.evictWhile CacheShim.evictions
      cases exceeds inner with
      | false => exact ⟨start, fun _ member => absurd member List.not_mem_nil⟩
      | true =>
          by_cases occupied : inner.entries = []
          · simp only [CacheShim.evictOneInner, if_pos occupied]
            exact ⟨start, fun _ member => absurd member List.not_mem_nil⟩
          · obtain ⟨key, _, chosen, taken⟩ := listed.evictOneInner shim rank occupied
            have next := ih (listed.evict key) (kept inner key listed start)
            simp only [taken, chosen, if_true]
            refine ⟨next.1, fun removal member => ?_⟩
            rcases List.mem_cons.mp member with rfl | member
            · exact ⟨listed, start⟩
            · exact next.2 removal member

theorem Sized.evict {extra : Nat} (sized : Sized extra inner) (listed : Listed inner)
    (key : String) : Sized extra (inner.evict key) ∧
      (inner.evict key).sizeBytes ≤ inner.sizeBytes := by
  obtain ⟨removed, smaller⟩ := sized.remove listed key
  exact ⟨⟨removed.total, removed.fits⟩, smaller⟩

theorem Sized.grow {valueSize : Nat} (sized : Sized 0 inner)
    (addressable : inner.totalBytes + valueSize < 2 ^ 64) :
    Sized valueSize (inner.grow valueSize) := by
  have added : (inner.sizeBytes + valueSize) % 2 ^ 64 = inner.totalBytes + valueSize := by
    rw [sized.total, Nat.add_zero, Nat.mod_eq_of_lt addressable]
  exact ⟨added, Nat.lt_of_le_of_lt (Nat.le_of_eq added) addressable⟩

theorem Listed.grow (listed : Listed inner) (valueSize : Nat) : Listed (inner.grow valueSize) :=
  listed.of_lists rfl rfl rfl

theorem Listed.fitting (listed : Listed inner) (shim : CacheShim) (rank : String → Nat) :
    Listed (shim.fitting rank inner) :=
  listed.evictWhile _ _

/-- The first loop brings the size down to the limit, unless it takes everything:
then nothing but the value is left. -/
theorem Sized.fitting {extra : Nat} (sized : Sized extra inner) (listed : Listed inner)
    (rank : String → Nat) (small : extra ≤ shim.maxSize) :
    (Sized extra (shim.fitting rank inner) ∧ (shim.fitting rank inner).sizeBytes ≤ shim.maxSize) ∧
      ∀ removal ∈ shim.evictions rank shim.overSize inner.entries.length inner,
        Listed removal.1 ∧ Sized extra removal.1 := by
  obtain ⟨kept, removals⟩ := listed.evictWhile_rule shim rank
    (fun mid key listed (sized : Sized extra mid) => (sized.evict listed key).1)
    shim.overSize inner.entries.length sized
  refine ⟨⟨kept, ?_⟩, removals⟩
  rcases listed.evictWhile_ended shim rank shim.overSize (Nat.le_refl _) with ended | empty
  · exact Nat.le_of_not_lt (of_decide_eq_false ended)
  · have total : (shim.fitting rank inner).sizeBytes =
        (shim.fitting rank inner).totalBytes + extra := kept.total
    have none : (shim.fitting rank inner).totalBytes = 0 := by
      rw [CacheInner.totalBytes, show (shim.fitting rank inner).entries = [] from empty]
      rfl
    omega

theorem Sized.makeRoom {valueSize : Nat} (sized : Sized 0 inner) (listed : Listed inner)
    (rank : String → Nat) (addressable : inner.totalBytes + valueSize < 2 ^ 64) (small : valueSize ≤ shim.maxSize) :
    (Sized valueSize (shim.makeRoom rank inner valueSize) ∧
      (shim.makeRoom rank inner valueSize).sizeBytes ≤ shim.maxSize) ∧
    ∀ removal ∈ shim.roomEvictions rank (inner.grow valueSize),
      Listed removal.1 ∧ Sized valueSize removal.1 := by
  have grown := listed.grow valueSize
  obtain ⟨fits, bySize⟩ :=
    (sized.grow addressable).fitting grown rank small
  obtain ⟨kept, byCount⟩ := (grown.fitting shim rank).evictWhile_rule shim rank
    (fun mid key listed (both : Sized valueSize mid ∧ mid.sizeBytes ≤ shim.maxSize) =>
      ⟨(both.1.evict listed key).1, Nat.le_trans (both.1.evict listed key).2 both.2⟩)
    shim.overCount (shim.fitting rank (inner.grow valueSize)).entries.length fits
  refine ⟨kept, fun removal member => ?_⟩
  rcases List.mem_append.mp member with member | member
  · exact bySize removal member
  · exact ⟨(byCount removal member).1, (byCount removal member).2.1⟩

theorem length_makeRoom (listed : Listed inner) (shim : CacheShim) (rank : String → Nat)
    (valueSize : Nat) :
    (shim.makeRoom rank inner valueSize).entries.length < max 1 shim.maxEntries := by
  rw [makeRoom_eq]
  rcases ((listed.grow valueSize).fitting shim rank).evictWhile_ended shim rank shim.overCount
    (Nat.le_refl _) with ended | empty
  · have fewer := Nat.lt_of_not_le (of_decide_eq_false ended)
    exact Nat.lt_of_lt_of_le fewer (Nat.le_max_right 1 _)
  · rw [empty]
    exact Nat.lt_of_lt_of_le Nat.one_pos (Nat.le_max_left 1 _)

/-! ## The calls -/

structure Settled (shim : CacheShim) (inner : CacheInner) : Prop where
  listed : Listed inner
  sized : Sized 0 inner
  limit : inner.sizeBytes ≤ shim.maxSize
  count : inner.entries.length ≤ max 1 shim.maxEntries

theorem Settled.represented (settled : Settled shim inner) : Represented shim inner where
  size := settled.sized.total
  limit := settled.limit
  accessed :=
    ⟨settled.listed.accessed.nodup_iff.mpr settled.listed.nodup, settled.listed.accessed⟩
  inserted :=
    ⟨settled.listed.inserted.nodup_iff.mpr settled.listed.nodup, settled.listed.inserted⟩
  count := settled.count

theorem length_remove_le (key : String) :
    (inner.remove key).entries.length ≤ inner.entries.length := by
  have fewer : (inner.remove key).keys.length ≤ inner.keys.length := by
    rw [keys_remove]
    exact List.length_filter_le _ _
  simpa using fewer

theorem Settled.remove (settled : Settled shim inner) (key : String) :
    Settled shim (inner.remove key) where
  listed := settled.listed.remove key
  sized := (settled.sized.remove settled.listed key).1
  limit := Nat.le_trans (settled.sized.remove settled.listed key).2 settled.limit
  count := Nat.le_trans (length_remove_le key) settled.count

theorem Settled.removeAll (settled : Settled shim inner) (keys : List String) :
    Settled shim (inner.removeAll keys) ∧
      ∀ removal ∈ inner.removalsAll keys, Settled shim removal.1 := by
  induction keys generalizing inner with
  | nil => exact ⟨settled, fun _ member => absurd member List.not_mem_nil⟩
  | cons key keys ih =>
      obtain ⟨last, rest⟩ := ih (settled.remove key)
      refine ⟨last, fun removal member => ?_⟩
      rcases List.mem_cons.mp member with rfl | member
      · exact settled
      · exact rest removal member

theorem Settled.get (settled : Settled shim inner) (key : String) (now touched : Int) :
    Settled shim (shim.get inner key now touched).2 := by
  have listed : Listed (shim.get inner key now touched).2 := settled.listed.get key now touched
  unfold CacheShim.get at listed ⊢
  cases found : inner.find? (shim.fullKey key) with
  | none =>
      simp only [found] at listed
      exact ⟨listed, ⟨settled.sized.total, settled.sized.fits⟩, settled.limit, settled.count⟩
  | some entry =>
      simp only [found] at listed
      by_cases expired : entry.expiresAt < now
      · simp only [expired, if_true] at listed ⊢
        have removed := settled.remove (shim.fullKey key)
        exact ⟨listed, ⟨removed.sized.total, removed.sized.fits⟩, removed.limit, removed.count⟩
      · simp only [expired, if_false] at listed ⊢
        have total : (inner.touch (shim.fullKey key) touched).totalBytes = inner.totalBytes := by
          simp only [CacheInner.totalBytes, CacheInner.touch, List.map_map]
          refine congrArg List.sum (List.map_congr_left fun entry _ => ?_)
          dsimp only [Function.comp_apply]
          split <;> rfl
        have count : (inner.touch (shim.fullKey key) touched).entries.length =
            inner.entries.length := List.length_map _
        exact ⟨listed, ⟨settled.sized.total.trans (congrArg (· + 0) total.symm),
          settled.sized.fits⟩, settled.limit, count ▸ settled.count⟩

theorem Sized.insert {fullKey : String} {entry : CacheEntry} {valueSize : Nat}
    (sized : Sized valueSize inner) (same : entry.sizeBytes = valueSize)
    (absent : fullKey ∉ inner.keys) :
    Sized 0 (inner.insert fullKey entry) ∧
      (inner.insert fullKey entry).entries.length = inner.entries.length + 1 := by
  have kept := filter_key_absent absent
  refine ⟨⟨?_, sized.fits⟩, ?_⟩
  · have total : inner.sizeBytes = inner.totalBytes + entry.sizeBytes := same ▸ sized.total
    simp only [CacheInner.insert, CacheInner.totalBytes, kept, List.map_cons, List.sum_cons,
      Nat.add_zero]
    exact total.trans (Nat.add_comm _ _)
  · simp only [CacheInner.insert, kept, List.length_cons]

theorem Settled.replace (settled : Settled shim inner) {key : String} {value : List UInt8}
    (addressable : inner.totalBytes + value.length < 2 ^ 64) :
    (inner.remove key).totalBytes + value.length < 2 ^ 64 := by
  have before := settled.sized.total
  have after := (settled.remove key).sized.total
  have less := (settled.sized.remove settled.listed key).2
  omega

theorem Settled.set (settled : Settled shim inner) {key : String} {value : List UInt8} {now : Int}
    (addressable : inner.totalBytes + value.length < 2 ^ 64) {stored : Bool}
    (returned : (shim.set rank inner key value now).1 = some stored) :
    Settled shim (shim.set rank inner key value now).2 := by
  have listed : Listed (shim.set rank inner key value now).2 :=
    settled.listed.set rank key value now
  unfold CacheShim.set at listed returned ⊢
  by_cases large : shim.maxSize < value.length
  · rw [if_pos large]
    exact settled
  · simp only [large, if_false] at listed returned ⊢
    have replaced := settled.remove (shim.fullKey key)
    obtain ⟨⟨room, limit⟩, _⟩ := replaced.sized.makeRoom
      replaced.listed rank (settled.replace addressable) (Nat.le_of_not_lt large)
    have count := length_makeRoom replaced.listed shim rank value.length
    have absent := absent_makeRoom shim inner rank key value.length
    cases expires : expiry shim.ttlSecs now with
    | none =>
        rw [expires] at returned
        cases returned
    | some expiresAt =>
        simp only [expires] at listed ⊢
        refine ⟨listed, (room.insert rfl absent).1, limit, ?_⟩
        rw [(room.insert rfl absent).2]
        exact count

theorem Settled.new (shim : CacheShim) : Settled shim {} where
  listed := ⟨List.nodup_nil, .refl _, .refl _⟩
  sized := ⟨rfl, by decide⟩
  limit := Nat.zero_le _
  count := Nat.zero_le _

theorem Settled.process (settled : Settled shim inner) {call : Call} {next : CacheInner}
    (addressable : Addressable inner call) (taken : shim.process.step inner call = some next) :
    Settled shim next := by
  cases call with
  | set rank key value now =>
      obtain ⟨stored, returned, rfl⟩ := Option.map_eq_some_iff.mp taken
      exact settled.set addressable returned
  | get key now touched =>
      cases taken
      exact settled.get key now touched
  | invalidate key =>
      cases taken
      exact settled.remove _
  | invalidatePrefix start =>
      cases taken
      exact (settled.removeAll _).1
  | purgeExpired now =>
      cases taken
      exact (settled.removeAll _).1
  | sweepExpired now =>
      cases taken
      exact (settled.removeAll _).1
  | clear =>
      cases taken
      exact ⟨⟨List.nodup_nil, .refl _, .refl _⟩, ⟨rfl, Nat.two_pow_pos 64⟩, Nat.zero_le _,
        Nat.zero_le _⟩

/-! ## The subtractions of a call -/

theorem subtractsWithin_of_sized {removals : List (CacheInner × String)}
    (sized : ∀ removal ∈ removals, ∃ extra, Listed removal.1 ∧ Sized extra removal.1) :
    SubtractsWithin removals := by
  intro removal member entry found
  obtain ⟨extra, listed, sized⟩ := sized removal member
  exact sized.covers listed found

theorem Settled.subtractsWithin (settled : Settled shim inner) (call : Call)
    (addressable : Addressable inner call) : SubtractsWithin (shim.removals inner call) := by
  have own : ∃ extra, Listed inner ∧ Sized extra inner := ⟨0, settled.listed, settled.sized⟩
  have all : ∀ keys, ∀ removal ∈ inner.removalsAll keys,
      ∃ extra, Listed removal.1 ∧ Sized extra removal.1 := fun keys removal member =>
    ⟨0, ((settled.removeAll keys).2 removal member).listed,
      ((settled.removeAll keys).2 removal member).sized⟩
  apply subtractsWithin_of_sized
  intro removal member
  cases call with
  | get key now touched =>
      simp only [CacheShim.removals] at member
      split at member
      · split at member
        · rw [List.mem_singleton.mp member]
          exact own
        · cases member
      · cases member
  | set rank key value now =>
      simp only [CacheShim.removals] at member
      split at member
      · cases member
      · rename_i small
        rcases List.mem_cons.mp member with rfl | member
        · exact own
        · have replaced := settled.remove (shim.fullKey key)
          have room := replaced.sized.makeRoom replaced.listed rank
            (settled.replace addressable) (Nat.le_of_not_lt small)
          exact ⟨value.length, room.2 removal member⟩
  | invalidate key =>
      rw [List.mem_singleton.mp member]
      exact own
  | invalidatePrefix start => exact all _ removal member
  | purgeExpired now => exact all _ removal member
  | sweepExpired now => exact all _ removal member
  | clear => cases member

/-- As long as everything fits into memory, the fields agree after every call that
returns, and no call takes more from `size_bytes` than is there. -/
theorem always_represented (shim : CacheShim) (calls : List Call)
    (addressable : shim.process.Along Addressable {} calls) :
    shim.process.Always (fun inner => Represented shim inner ∧
      ∀ call, Addressable inner call → SubtractsWithin (shim.removals inner call)) {} calls := by
  refine (Machine.always_of_along (Settled shim) ?_ (Settled.new shim) addressable).imp ?_
  · intro inner call next settled addressable taken
    exact settled.process addressable taken
  · intro inner settled
    exact ⟨settled.represented, settled.subtractsWithin⟩

/-- Three values of two bytes in a cache for five: the third one takes the place of
the first. -/
theorem always_represented_three :
    ({ maxSize := 5 } : CacheShim).process.Always (fun inner => Represented { maxSize := 5 } inner ∧
      ∀ call, Addressable inner call →
        SubtractsWithin (({ maxSize := 5 } : CacheShim).removals inner call)) {}
      [.set String.length "a" [1, 2] 0, .set String.length "b" [3, 4] 1,
        .set String.length "c" [5, 6] 2] := by
  refine always_represented { maxSize := 5 } _ ?_
  refine .cons rfl (by unfold Addressable; decide) ?_
  refine .cons rfl (by unfold Addressable; decide) ?_
  exact .cons rfl (by unfold Addressable; decide) trivial

end Evergreen.Cache
