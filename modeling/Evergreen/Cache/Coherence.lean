import Evergreen.Cache.Shim
import Evergreen.Machine.PartialMap
import Evergreen.Machine.Run

namespace Evergreen.Cache

/-! # What a reading says about the past

The history of the calls is kept as the map of what was last written.  The
entries stay within that map until a value too large for the cache is set over
an entry: the early return leaves the older value where it was.
-/

variable {shim : CacheShim} {inner : CacheInner}

/-! ## Looking a key up -/

theorem lookup_filterKey {Entry : Type} (keep : String → Bool) (entries : List (String × Entry))
    (key : String) : (entries.filter fun entry => keep entry.1).lookup key =
      if keep key then entries.lookup key else none := by
  induction entries with
  | nil => simp
  | cons entry entries ih =>
      obtain ⟨held, entry⟩ := entry
      by_cases same : key = held
      · subst same
        cases kept : keep key <;> simp [kept, ih]
      · have differs : (key == held) = false := by simpa using same
        cases kept : keep held <;> simp [kept, ih, List.lookup_cons, differs]

theorem find?_remove (fullKey key : String) :
    (inner.remove fullKey).find? key = if key = fullKey then none else inner.find? key := by
  unfold CacheInner.remove
  cases found : inner.find? fullKey with
  | none =>
      by_cases same : key = fullKey
      · simp [same, found]
      · simp [same]
  | some entry =>
      have filtered := lookup_filterKey (fun held => decide (held ≠ fullKey)) inner.entries key
      simpa [CacheInner.find?, ite_not] using filtered

theorem find?_removeAll (fullKeys : List String) (key : String) :
    (inner.removeAll fullKeys).find? key = if key ∈ fullKeys then none else inner.find? key := by
  induction fullKeys generalizing inner with
  | nil => simp [CacheInner.removeAll]
  | cons fullKey fullKeys ih =>
      have removed : (inner.remove fullKey).removeAll fullKeys =
          inner.removeAll (fullKey :: fullKeys) := rfl
      rw [← removed, ih, find?_remove]
      by_cases first : key = fullKey <;> by_cases later : key ∈ fullKeys <;> simp [first, later]

theorem find?_touch (fullKey key : String) (now : Int) :
    (((inner.touch fullKey now).find? key).map (·.value)) = (inner.find? key).map (·.value) := by
  unfold CacheInner.touch CacheInner.find?
  induction inner.entries with
  | nil => rfl
  | cons entry entries ih =>
      obtain ⟨held, entry⟩ := entry
      by_cases same : key = held
      · subst same
        by_cases touched : key = fullKey <;> simp [touched]
      · have differs : (key == held) = false := by simpa using same
        simpa [List.lookup_cons, differs] using ih

theorem find?_insert (fullKey key : String) (entry : CacheEntry) :
    (inner.insert fullKey entry).find? key =
      if key = fullKey then some entry else inner.find? key := by
  have filtered := lookup_filterKey (fun held => decide (held ≠ fullKey)) inner.entries key
  by_cases same : key = fullKey
  · simp [CacheInner.insert, CacheInner.find?, same]
  · have differs : (key == fullKey) = false := by simpa using same
    simpa [CacheInner.insert, CacheInner.find?, List.lookup_cons, differs, same] using filtered

/-! ## What the cache holds -/

/-- The values behind the keys, expired ones included. -/
def content (shim : CacheShim) (inner : CacheInner) (key : String) : Option (List UInt8) :=
  (inner.find? (shim.fullKey key)).map (·.value)

theorem fullKey_inj {key other : String} :
    shim.fullKey key = shim.fullKey other ↔ key = other := by
  simp [CacheShim.fullKey]

theorem startsWith_fullKey (start key : String) :
    Text.startsWith (shim.fullKey start) (shim.fullKey key) = Text.startsWith start key := by
  rw [Bool.eq_iff_iff]
  simp [Text.startsWith, CacheShim.fullKey, List.prefix_append_right_inj]

theorem within_remove (fullKey : String) :
    Within (content shim (inner.remove fullKey)) (content shim inner) := by
  intro key value held
  unfold content at held ⊢
  rw [find?_remove] at held
  by_cases same : shim.fullKey key = fullKey
  · simp [same] at held
  · simpa [same] using held

theorem content_remove (key : String) : content shim (inner.remove (shim.fullKey key)) =
    Function.update (content shim inner) key none := by
  funext other
  by_cases same : other = key
  · simp [content, find?_remove, same]
  · simp [content, find?_remove, fullKey_inj, same]

theorem within_removeAll (fullKeys : List String) :
    Within (content shim (inner.removeAll fullKeys)) (content shim inner) := by
  intro key value held
  unfold content at held ⊢
  rw [find?_removeAll] at held
  by_cases dropped : shim.fullKey key ∈ fullKeys
  · simp [dropped] at held
  · simpa [dropped] using held

theorem content_insert (key : String) (entry : CacheEntry) :
    content shim (inner.insert (shim.fullKey key) entry) =
      Function.update (content shim inner) key (some entry.value) := by
  funext other
  by_cases same : other = key
  · simp [content, find?_insert, same]
  · simp [content, find?_insert, fullKey_inj, same]

theorem within_evictOneInner {rank : String → Nat} {evicted : CacheInner}
    (taken : shim.evictOneInner rank inner = some evicted) :
    Within (content shim evicted) (content shim inner) := by
  unfold CacheShim.evictOneInner at taken
  by_cases empty : inner.entries = []
  · simp [empty] at taken
  · rw [if_neg empty] at taken
    obtain ⟨key, _, rfl⟩ := Option.map_eq_some_iff.mp taken
    cases present : (inner.find? key).isSome with
    | true => exact within_remove key
    | false => exact within_remove key

theorem within_evictWhile (rank : String → Nat) (exceeds : CacheInner → Bool) (rounds : Nat) :
    Within (content shim (shim.evictWhile rank exceeds rounds inner)) (content shim inner) := by
  induction rounds generalizing inner with
  | zero => exact .refl
  | succ rounds ih =>
      unfold CacheShim.evictWhile
      cases exceeded : exceeds inner with
      | false => simpa using Within.refl
      | true =>
          cases taken : shim.evictOneInner rank inner with
          | none => simpa using Within.refl
          | some evicted => simpa using ih.trans (within_evictOneInner taken)

theorem within_makeRoom (rank : String → Nat) (valueSize : Nat) :
    Within (content shim (shim.makeRoom rank inner valueSize)) (content shim inner) :=
  (within_evictWhile rank _ _).trans (within_evictWhile rank _ _)

theorem within_get (key : String) (now touched : Int) :
    Within (content shim (shim.get inner key now touched).2) (content shim inner) := by
  unfold CacheShim.get
  cases found : inner.find? (shim.fullKey key) with
  | none => exact .refl
  | some entry =>
      by_cases expired : entry.expiresAt < now
      · simp only [expired, if_true]
        exact within_remove (shim.fullKey key)
      · simp only [expired, if_false]
        intro other value held
        simpa [content, find?_touch] using held

theorem get_eq_some_iff {key : String} (touched : Int) {value : List UInt8} :
    (∃ now, (shim.get inner key now touched).1 = some value) ↔
      content shim inner key = some value := by
  unfold CacheShim.get content
  cases found : inner.find? (shim.fullKey key) with
  | none => simp
  | some entry =>
      constructor
      · rintro ⟨now, read⟩
        by_cases expired : entry.expiresAt < now
        · simp [expired] at read
        · simpa [expired] using read
      · intro held
        refine ⟨entry.expiresAt, ?_⟩
        simpa using held

/-! ## The history of the calls -/

/-- The value of each key's latest `set`, when nothing has invalidated it since.
What the calls returned does not matter. -/
def record (written : String → Option (List UInt8)) : Call → String → Option (List UInt8)
  | .set _ key value _ => Function.update written key (some value)
  | .invalidate key => Function.update written key none
  | .invalidatePrefix start => fun key => if Text.startsWith start key then none else written key
  | .clear => fun _ => none
  | .get _ _ _ => written
  | .purgeExpired _ => written
  | .sweepExpired _ => written

structure Session where
  inner : CacheInner := {}
  written : String → Option (List UInt8) := fun _ => none

/-- The cache and, beside it, its history. -/
def machine (shim : CacheShim) : Machine Session Call :=
  .ofFunction fun session call =>
    { inner := shim.call session.inner call, written := record session.written call }

/-- Whenever a key is read, at any clock, the value is the one written last. -/
def Coherent (shim : CacheShim) (session : Session) : Prop :=
  ∀ key now touched value,
    (shim.get session.inner key now touched).1 = some value → session.written key = some value

/-- The call sets no value over the size limit on a key that has an entry. -/
def SparesEntries (shim : CacheShim) (session : Session) : Call → Prop
  | .set _ key value _ => value.length ≤ shim.maxSize ∨ content shim session.inner key = none
  | _ => True

/-- No value in the cache is over the size limit. -/
def Fits (shim : CacheShim) (inner : CacheInner) : Prop :=
  ∀ key value, content shim inner key = some value → value.length ≤ shim.maxSize

theorem Fits.within {later : CacheInner} (fits : Fits shim inner)
    (within : Within (content shim later) (content shim inner)) : Fits shim later :=
  fun key value held => fits key value (within key value held)

structure Kept (shim : CacheShim) (session : Session) : Prop where
  within : Within (content shim session.inner) session.written
  fits : Fits shim session.inner

theorem Kept.coherent {session : Session} (kept : Kept shim session) : Coherent shim session :=
  fun key now _ value read => kept.within key value ((get_eq_some_iff _).mp ⟨now, read⟩)

/-- Room for a value of a key is made after the older value is gone. -/
theorem within_makeRoom_remove (shim : CacheShim) (inner : CacheInner) (rank : String → Nat)
    (key : String) (valueSize : Nat) : Within
    (content shim (shim.makeRoom rank (inner.remove (shim.fullKey key)) valueSize))
    (Function.update (content shim inner) key none) := by
  rw [← content_remove]
  exact within_makeRoom rank valueSize

/-- A value within the limit replaces the older one, whatever is evicted for it
and whether or not its expiry date can be computed. -/
theorem set_within (inner : CacheInner) (rank : String → Nat) (key : String) {value : List UInt8}
    (now : Int) (small : value.length ≤ shim.maxSize) :
    Within (content shim (shim.set rank inner key value now).2)
      (Function.update (content shim inner) key (some value)) := by
  have room := within_makeRoom_remove shim inner rank key value.length
  rw [CacheShim.set, if_neg (Nat.not_lt.mpr small)]
  cases expires : expiry shim.ttlSecs now with
  | none =>
      intro other held found
      by_cases same : other = key
      · subst same
        simpa using room other held found
      · simpa [same] using room other held found
  | some expiresAt =>
      simp only [content_insert]
      simpa using room.update key (some value)

theorem set_oversized {rank : String → Nat} {key : String} {value : List UInt8} {now : Int}
    (large : shim.maxSize < value.length) :
    shim.set rank inner key value now = (some false, inner) := by
  rw [CacheShim.set, if_pos large]

theorem mem_keys_of_find? {fullKey : String} {entry : CacheEntry}
    (found : inner.find? fullKey = some entry) : fullKey ∈ inner.entries.map Prod.fst := by
  obtain ⟨before, after, split, _⟩ := List.lookup_eq_some_iff.mp found
  simp [split]

theorem content_invalidatePrefix {start key : String} (matched : Text.startsWith start key) :
    content shim (shim.invalidatePrefix inner start).2 key = none := by
  unfold CacheShim.invalidatePrefix content
  rw [find?_removeAll]
  cases found : inner.find? (shim.fullKey key) with
  | none => simp
  | some entry =>
      have removed := List.mem_filter.mpr
        ⟨mem_keys_of_find? found, (startsWith_fullKey start key).trans matched⟩
      simp [removed]

theorem Kept.call {session : Session} {call : Call} (kept : Kept shim session)
    (spares : SparesEntries shim session call) :
    Kept shim ⟨shim.call session.inner call, record session.written call⟩ := by
  obtain ⟨within, fits⟩ := kept
  cases call with
  | get key now touched =>
      have read : Within (content shim (shim.get session.inner key now touched).2)
          (content shim session.inner) := within_get key now touched
      exact ⟨read.trans within, fits.within read⟩
  | set rank key value now =>
      rcases Nat.lt_or_ge shim.maxSize value.length with large | small
      · have vacant := spares.resolve_left (Nat.not_le.mpr large)
        simp only [CacheShim.call, set_oversized large, record]
        refine ⟨fun other held found => ?_, fits⟩
        have differs : other ≠ key := by
          rintro rfl
          simp [vacant] at found
        exact (Function.update_of_ne differs _ _).trans (within other held found)
      · have stored := set_within session.inner rank key now small
        refine ⟨stored.trans (within.update key (some value)), fun other held found => ?_⟩
        have fresh := stored other held found
        by_cases same : other = key
        · subst same
          obtain rfl : value = held := by simpa using fresh
          exact small
        · rw [Function.update_of_ne same] at fresh
          exact fits other held fresh
  | invalidate key =>
      refine ⟨?_, fits.within (within_remove (shim.fullKey key))⟩
      simp only [CacheShim.call, CacheShim.invalidate, content_remove]
      exact within.update key none
  | invalidatePrefix start =>
      have removed : Within (content shim (shim.invalidatePrefix session.inner start).2)
          (content shim session.inner) := within_removeAll _
      exact ⟨(removed.trans within).filter fun key matched => content_invalidatePrefix matched,
        fits.within removed⟩
  | purgeExpired now =>
      have purged : Within (content shim (CacheShim.purgeExpired session.inner now).2)
          (content shim session.inner) := within_removeAll _
      exact ⟨purged.trans within, fits.within purged⟩
  | sweepExpired now =>
      have swept : Within (content shim (CacheShim.sweepExpired session.inner now))
          (content shim session.inner) := within_removeAll _
      exact ⟨swept.trans within, fits.within swept⟩
  | clear => exact ⟨fun key value held => (nomatch held), fun key value held => (nomatch held)⟩

/-- The value that stays behind is small, so it is not the one just passed. -/
theorem Kept.not_coherent {session : Session} {call : Call} (kept : Kept shim session)
    (overwrites : ¬ SparesEntries shim session call) :
    ¬ Coherent shim ⟨shim.call session.inner call, record session.written call⟩ := by
  cases call with
  | set rank key value now =>
      simp only [SparesEntries, not_or, Nat.not_le] at overwrites
      obtain ⟨large, occupied⟩ := overwrites
      obtain ⟨older, held⟩ := Option.ne_none_iff_exists'.mp occupied
      intro coherent
      simp only [Coherent, CacheShim.call, set_oversized large, record] at coherent
      obtain ⟨later, read⟩ := (get_eq_some_iff 0).mpr held
      have newest := coherent key later 0 older read
      obtain rfl : value = older := by simpa using newest
      exact Nat.not_le.mpr large (kept.fits key value held)
  | get => exact absurd trivial overwrites
  | invalidate => exact absurd trivial overwrites
  | invalidatePrefix => exact absurd trivial overwrites
  | purgeExpired => exact absurd trivial overwrites
  | clear => exact absurd trivial overwrites
  | sweepExpired => exact absurd trivial overwrites

/-- The cache is coherent throughout if and only if no oversized value is set
on a key that has an entry. -/
theorem always_coherent_iff (shim : CacheShim) (calls : List Call) :
    (machine shim).Always (Coherent shim) {} calls ↔
      (machine shim).Along (SparesEntries shim) {} calls := by
  have start : Kept shim {} :=
    ⟨fun key value held => (nomatch held), fun key value held => (nomatch held)⟩
  apply Machine.always_ofFunction_iff_along (Kept shim) (fun session kept => kept.coherent) ?_ ?_
    start
  · intro session call kept spares
    exact kept.call spares
  · intro session call kept overwrites
    exact kept.not_coherent overwrites

/-- The rejected second value leaves the first one readable. -/
theorem not_always_coherent : ¬ (machine { maxSize := 2 }).Always (Coherent { maxSize := 2 }) {}
    [.set (fun _ => 0) "user" [1] 0, .set (fun _ => 0) "user" [2, 3, 4] 0] := by
  intro always
  have stale := always.last rfl "user" 0 0 [1] (by decide)
  exact absurd stale (by decide)

end Evergreen.Cache
