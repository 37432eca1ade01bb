import Mathlib.Data.List.Sort
import Mathlib.Data.String.Basic

namespace Evergreen.Files

/-! # Line files read back by name

A directory of text files that are only appended to, a line at a time, and the
lines of all of them in the order of the names.
-/

structure LineFile where
  name : String
  lines : List String
deriving DecidableEq, Repr

def extend (name : String) (lines : List String) (file : LineFile) : LineFile :=
  if file.name = name then { file with lines := file.lines ++ lines } else file

/-- The file is opened with `create` and `append`, and the lines are written. -/
def appendLines (files : List LineFile) (name : String) (lines : List String) : List LineFile :=
  if files.any (fun file => file.name == name) then
    files.map (extend name lines)
  else ⟨name, lines⟩ :: files

def NameLe (left right : LineFile) : Prop := left.name ≤ right.name

instance : DecidableRel NameLe := fun left right =>
  inferInstanceAs (Decidable (left.name ≤ right.name))

instance : Std.Total NameLe := ⟨fun left right => le_total left.name right.name⟩

instance : IsTrans LineFile NameLe := ⟨fun _ _ _ first second => le_trans first second⟩

def readAll (files : List LineFile) : List String :=
  (files.insertionSort NameLe).flatMap LineFile.lines

/-- Every file has its own name. -/
def Named (files : List LineFile) : Prop := (files.map LineFile.name).Nodup

variable {files : List LineFile} {name : String} {lines : List String}

theorem name_extend (file : LineFile) : (extend name lines file).name = file.name := by
  rw [extend]
  split
  · rfl
  · rfl

theorem Named.appendLines (named : Named files) : Named (appendLines files name lines) := by
  rw [Files.appendLines]
  split
  · rw [Named, List.map_map]
    have same : LineFile.name ∘ extend name lines = LineFile.name := funext name_extend
    rw [same]
    exact named
  · next missing =>
    refine List.nodup_cons.mpr ⟨fun member => missing ?_, named⟩
    obtain ⟨file, held, same⟩ := List.mem_map.mp member
    exact List.any_eq_true.mpr ⟨file, held, by simpa using same⟩

theorem mem_appendLines {file : LineFile} (member : file ∈ appendLines files name lines) :
    (file ∈ files ∧ file.name ≠ name) ∨ (file.name = name ∧
      ∀ line ∈ file.lines, line ∈ lines ∨ ∃ old ∈ files, old.name = name ∧ line ∈ old.lines) := by
  rw [appendLines] at member
  split at member
  · obtain ⟨old, held, rfl⟩ := List.mem_map.mp member
    by_cases same : old.name = name
    · refine .inr ⟨(name_extend old).trans same, fun line within => ?_⟩
      rw [extend, if_pos same] at within
      exact (List.mem_append.mp within).symm.imp id fun earlier => ⟨old, held, same, earlier⟩
    · rw [extend, if_neg same]
      exact .inl ⟨held, same⟩
  · next missing =>
    rcases List.mem_cons.mp member with rfl | held
    · exact .inr ⟨rfl, fun line within => .inl within⟩
    · exact .inl ⟨held, fun same => missing (List.any_eq_true.mpr ⟨file, held, by simpa using same⟩)⟩

theorem appendLines_holds {line : String} {place : String}
    (held : (place = name ∧ line ∈ lines) ∨ ∃ file ∈ files, file.name = place ∧ line ∈ file.lines) :
    ∃ file ∈ appendLines files name lines, file.name = place ∧ line ∈ file.lines := by
  rw [appendLines]
  split
  · next found =>
    rcases held with ⟨rfl, within⟩ | ⟨file, member, named, within⟩
    · obtain ⟨file, member, same⟩ := List.any_eq_true.mp found
      have named : file.name = place := by simpa using same
      refine ⟨_, List.mem_map_of_mem member, (name_extend file).trans named, ?_⟩
      rw [extend, if_pos named]
      exact List.mem_append_right _ within
    · refine ⟨_, List.mem_map_of_mem member, (name_extend file).trans named, ?_⟩
      rw [extend]
      split
      · exact List.mem_append_left _ within
      · exact within
  · rcases held with ⟨rfl, within⟩ | ⟨file, member, named, within⟩
    · exact ⟨_, List.mem_cons_self, rfl, within⟩
    · exact ⟨file, List.mem_cons_of_mem _ member, named, within⟩

theorem Named.sorted (named : Named files) :
    (files.insertionSort NameLe).Pairwise fun left right => left.name < right.name := by
  have ordered := List.pairwise_insertionSort NameLe files
  have distinct : ((files.insertionSort NameLe).map LineFile.name).Nodup :=
    ((List.perm_insertionSort NameLe files).map LineFile.name).nodup_iff.mpr named
  refine (ordered.and (List.pairwise_map.mp distinct)).imp ?_
  intro left right both
  exact lt_of_le_of_ne both.1 both.2

/-! ## Where appended lines come to stand -/

section Sorted

variable {sorted : List LineFile}

theorem map_extend_of_lt (beyond : ∀ file ∈ sorted, name < file.name) :
    sorted.map (extend name lines) = sorted := by
  refine (List.map_congr_left fun file member => ?_).trans (List.map_id _)
  exact if_neg (ne_of_gt (beyond file member))

theorem flatMap_extend (ordered : sorted.Pairwise fun left right => left.name < right.name)
    (present : ∃ file ∈ sorted, file.name = name) :
    ∃ before after, sorted.flatMap LineFile.lines = before ++ after ∧
      (sorted.map (extend name lines)).flatMap LineFile.lines = before ++ lines ++ after ∧
      ∀ line, line ∈ after ↔ ∃ file ∈ sorted, name < file.name ∧ line ∈ file.lines := by
  induction sorted with
  | nil =>
      obtain ⟨_, member, _⟩ := present
      cases member
  | cons file rest ih =>
      obtain ⟨first, ordered⟩ := List.pairwise_cons.mp ordered
      by_cases same : file.name = name
      · have beyond : ∀ other ∈ rest, name < other.name := fun other member =>
          same ▸ first other member
        refine ⟨file.lines, rest.flatMap LineFile.lines, List.flatMap_cons, ?_, fun line => ?_⟩
        · rw [List.map_cons, List.flatMap_cons, map_extend_of_lt beyond, extend, if_pos same]
        · rw [List.mem_flatMap]
          refine ⟨fun ⟨other, member, held⟩ =>
            ⟨other, List.mem_cons_of_mem _ member, beyond other member, held⟩, ?_⟩
          rintro ⟨other, member, later, held⟩
          rcases List.mem_cons.mp member with rfl | member
          · exact absurd same (ne_of_gt later)
          · exact ⟨other, member, held⟩
      · obtain ⟨found, member, named⟩ := present
        have inRest : found ∈ rest := by
          rcases List.mem_cons.mp member with rfl | member
          · exact absurd named same
          · exact member
        have earlier : file.name < name := named ▸ first found inRest
        obtain ⟨before, after, whole, extended, beyond⟩ := ih ordered ⟨found, inRest, named⟩
        refine ⟨file.lines ++ before, after, ?_, ?_, fun line => (beyond line).trans ?_⟩
        · rw [List.flatMap_cons, whole, List.append_assoc]
        · rw [List.map_cons, List.flatMap_cons, extended, extend, if_neg same]
          simp only [List.append_assoc]
        · refine ⟨fun ⟨other, member, rest⟩ => ⟨other, List.mem_cons_of_mem _ member, rest⟩, ?_⟩
          rintro ⟨other, member, later, held⟩
          rcases List.mem_cons.mp member with rfl | member
          · exact absurd later (lt_asymm earlier)
          · exact ⟨other, member, later, held⟩

theorem flatMap_orderedInsert (ordered : sorted.Pairwise fun left right => left.name < right.name)
    (absent : ∀ file ∈ sorted, file.name ≠ name) :
    ∃ before after, sorted.flatMap LineFile.lines = before ++ after ∧
      (sorted.orderedInsert NameLe ⟨name, lines⟩).flatMap LineFile.lines =
        before ++ lines ++ after ∧
      ∀ line, line ∈ after ↔ ∃ file ∈ sorted, name < file.name ∧ line ∈ file.lines := by
  induction sorted with
  | nil => exact ⟨[], [], rfl, by simp, by simp⟩
  | cons file rest ih =>
      obtain ⟨first, ordered⟩ := List.pairwise_cons.mp ordered
      have different := absent file List.mem_cons_self
      by_cases before : name ≤ file.name
      · have later : name < file.name := lt_of_le_of_ne before (Ne.symm different)
        refine ⟨[], (file :: rest).flatMap LineFile.lines, rfl, ?_, fun line => ?_⟩
        · rw [List.orderedInsert_cons_of_le NameLe rest (show NameLe ⟨name, lines⟩ file from before),
            List.flatMap_cons]
          rfl
        · rw [List.mem_flatMap]
          refine ⟨fun ⟨other, member, held⟩ => ⟨other, member, ?_, held⟩,
            fun ⟨other, member, _, held⟩ => ⟨other, member, held⟩⟩
          rcases List.mem_cons.mp member with rfl | member
          · exact later
          · exact later.trans (first other member)
      · have earlier : file.name < name := not_le.mp before
        obtain ⟨initial, after, whole, inserted, beyond⟩ :=
          ih ordered fun other member => absent other (List.mem_cons_of_mem _ member)
        refine ⟨file.lines ++ initial, after, ?_, ?_, fun line => (beyond line).trans ?_⟩
        · rw [List.flatMap_cons, whole, List.append_assoc]
        · rw [List.orderedInsert_of_not_le NameLe rest (show ¬ NameLe ⟨name, lines⟩ file from before),
            List.flatMap_cons, inserted]
          simp only [List.append_assoc]
        · refine ⟨fun ⟨other, member, rest⟩ => ⟨other, List.mem_cons_of_mem _ member, rest⟩, ?_⟩
          rintro ⟨other, member, later, held⟩
          rcases List.mem_cons.mp member with rfl | member
          · exact absurd later (lt_asymm earlier)
          · exact ⟨other, member, later, held⟩

end Sorted

/-- Appended lines stand before the lines of all files with a greater name, and
after everything else. -/
theorem readAll_appendLines (named : Named files) (name : String) (lines : List String) :
    ∃ before after, readAll files = before ++ after ∧
      readAll (appendLines files name lines) = before ++ lines ++ after ∧
      ∀ line, line ∈ after ↔ ∃ file ∈ files, name < file.name ∧ line ∈ file.lines := by
  have members : ∀ line, (∃ file ∈ files.insertionSort NameLe, name < file.name ∧
      line ∈ file.lines) ↔ ∃ file ∈ files, name < file.name ∧ line ∈ file.lines := by
    simp only [List.mem_insertionSort, implies_true]
  rw [appendLines]
  split
  · next found =>
    obtain ⟨file, held, same⟩ := List.any_eq_true.mp found
    obtain ⟨before, after, whole, extended, beyond⟩ := @flatMap_extend name lines _ named.sorted
      ⟨file, (List.mem_insertionSort NameLe).mpr held, by simpa using same⟩
    refine ⟨before, after, whole, ?_, fun line => (beyond line).trans (members line)⟩
    rw [← extended, readAll]
    refine congrArg _ (List.map_insertionSort NameLe NameLe (extend name lines) files ?_).symm
    intro left _ right _
    rw [NameLe, NameLe, name_extend, name_extend]
  · next missing =>
    obtain ⟨before, after, whole, inserted, beyond⟩ := @flatMap_orderedInsert name lines _
      named.sorted fun file member same => missing (List.any_eq_true.mpr
        ⟨file, (List.mem_insertionSort NameLe).mp member, by simpa using same⟩)
    exact ⟨before, after, whole, inserted, fun line => (beyond line).trans (members line)⟩

end Evergreen.Files
