import Mathlib.Data.List.Nodup

namespace Evergreen.KeyedList

/-! # Lists as maps by a key

A list of items in which no key occurs twice stands for a map: looking a key up,
taking one item out, and changing the item of one key.
-/

universe u v

variable {Item : Type u} {Key : Type v} [DecidableEq Key] {key : Item → Key}
variable {items : List Item} {item : Item} {name : Key}

theorem find?_eq_some (unique : (items.map key).Nodup) :
    items.find? (key · = name) = some item ↔ item ∈ items ∧ key item = name := by
  induction items with
  | nil => simp
  | cons first rest ih =>
      obtain ⟨absent, unique⟩ := List.nodup_cons.mp unique
      by_cases here : key first = name
      · rw [List.find?_cons_of_pos (by simpa using here), Option.some.injEq]
        refine ⟨fun same => ⟨same ▸ List.mem_cons_self, same ▸ here⟩, fun ⟨member, named⟩ => ?_⟩
        rcases List.mem_cons.mp member with rfl | inside
        · rfl
        · exact absurd (List.mem_map_of_mem inside) (named.trans here.symm ▸ absent)
      · rw [List.find?_cons_of_neg (by simpa using here), ih unique, List.mem_cons]
        refine ⟨fun ⟨member, named⟩ => ⟨.inr member, named⟩, fun ⟨member, named⟩ => ?_⟩
        exact ⟨member.resolve_left fun same => here (same ▸ named), named⟩

/-- An item goes to the front of those with other keys. -/
theorem perm_cons_filter (unique : (items.map key).Nodup) (member : item ∈ items) :
    items.Perm (item :: items.filter (fun other => key other ≠ key item)) := by
  induction items with
  | nil => cases member
  | cons first rest ih =>
      obtain ⟨absent, unique⟩ := List.nodup_cons.mp unique
      rcases List.mem_cons.mp member with rfl | member
      · have others : rest.filter (fun other => key other ≠ key item) = rest :=
          List.filter_eq_self.mpr fun other inside =>
            decide_eq_true fun same => absent (same ▸ List.mem_map_of_mem inside)
        rw [List.filter_cons_of_neg (by simp), others]
      · have differs : key first ≠ key item := fun same =>
          absent (same ▸ List.mem_map_of_mem member)
        rw [List.filter_cons_of_pos (by simpa using differs)]
        exact ((ih unique member).cons first).trans (List.Perm.swap item first _)

/-- A key that was taken out changes no lookup of another. -/
theorem find?_filter_ne {other : Key} (differs : other ≠ name) :
    (items.filter (fun item => key item ≠ name)).find? (key · = other) =
      items.find? (key · = other) := by
  rw [List.find?_filter]
  refine congrArg (items.find? ·) (funext fun item => ?_)
  by_cases same : key item = other
  · simp [same, differs]
  · simp [same]

section Change

variable {change : Item → Item}

/-- Changing the items of one key, keys kept. -/
def update (key : Item → Key) (name : Key) (change : Item → Item) (items : List Item) : List Item :=
  items.map fun item => if key item = name then change item else item

theorem filter_update (kept : ∀ item, key (change item) = key item) :
    (update key name change items).filter (fun item => key item ≠ name) =
      items.filter (fun item => key item ≠ name) := by
  induction items with
  | nil => rfl
  | cons first rest ih =>
      rw [update, List.map_cons]
      by_cases here : key first = name
      · rw [if_pos here, List.filter_cons_of_neg (by simp [kept, here]),
          List.filter_cons_of_neg (by simp [here])]
        exact ih
      · rw [if_neg here, List.filter_cons_of_pos (by simp [here]),
          List.filter_cons_of_pos (by simp [here])]
        exact congrArg (first :: ·) ih

theorem find?_update (kept : ∀ item, key (change item) = key item) :
    (update key name change items).find? (key · = name) =
      (items.find? (key · = name)).map change := by
  induction items with
  | nil => rfl
  | cons first rest ih =>
      rw [update, List.map_cons]
      by_cases here : key first = name
      · rw [if_pos here, List.find?_cons_of_pos (by simp [kept, here]),
          List.find?_cons_of_pos (by simp [here]), Option.map_some]
      · rw [if_neg here, List.find?_cons_of_neg (by simp [here]),
          List.find?_cons_of_neg (by simp [here])]
        exact ih

theorem find?_update_of_ne {other : Key} (kept : ∀ item, key (change item) = key item)
    (differs : other ≠ name) :
    (update key name change items).find? (key · = other) = items.find? (key · = other) := by
  induction items with
  | nil => rfl
  | cons first rest ih =>
      rw [update, List.map_cons]
      by_cases here : key first = name
      · rw [if_pos here, List.find?_cons_of_neg (by simpa [kept, here] using differs.symm),
          List.find?_cons_of_neg (by simpa [here] using differs.symm)]
        exact ih
      · rw [if_neg here, List.find?_cons, List.find?_cons, ← ih]
        rfl

/-- Replacing the item of a key, or adding one. -/
def insert (key : Item → Key) (item : Item) (items : List Item) : List Item :=
  items.filter (fun other => key other ≠ key item) ++ [item]

theorem find?_insert_self : (insert key item items).find? (key · = key item) = some item := by
  have gone : (items.filter fun other => key other ≠ key item).find? (key · = key item) = none := by
    rw [List.find?_eq_none]
    exact fun other member => by simpa using (List.mem_filter.mp member).2
  rw [insert, List.find?_append, gone, Option.none_or, List.find?_singleton,
    if_pos (decide_eq_true rfl)]

theorem find?_insert_of_ne {other : Key} (differs : other ≠ key item) :
    (insert key item items).find? (key · = other) = items.find? (key · = other) := by
  rw [insert, List.find?_append, find?_filter_ne differs, List.find?_singleton,
    if_neg (by simpa using differs.symm), Option.or_none]

theorem nodup_insert (unique : (items.map key).Nodup) : ((insert key item items).map key).Nodup := by
  rw [insert, List.map_append, List.map_singleton]
  refine List.Nodup.append (unique.sublist (List.filter_sublist.map key))
    (List.nodup_singleton _) ?_
  intro other kept added
  obtain rfl := List.mem_singleton.mp added
  obtain ⟨found, member, same⟩ := List.mem_map.mp kept
  exact absurd same (by simpa using (List.mem_filter.mp member).2)

/-- What a change does not touch, the update does not. -/
theorem map_update {Value : Type v} {value : Item → Value}
    (kept : ∀ item, value (change item) = value item) :
    (update key name change items).map value = items.map value := by
  rw [update, List.map_map]
  refine List.map_congr_left fun item _ => ?_
  rw [Function.comp_apply]
  split_ifs
  · exact kept item
  · rfl

theorem forall_mem_update {Meets : Item → Prop} (kept : ∀ item, Meets item → Meets (change item))
    (meets : ∀ item ∈ items, Meets item) : ∀ item ∈ update key name change items, Meets item := by
  intro item member
  obtain ⟨before, inside, rfl⟩ := List.mem_map.mp member
  split_ifs
  · exact kept before (meets before inside)
  · exact meets before inside

end Change

end Evergreen.KeyedList
