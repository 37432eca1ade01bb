import Evergreen.Archival.Shim
import Mathlib.Data.List.Nodup

namespace Evergreen.Archival

/-! # Archives keep their names to themselves -/

variable {File : Type}

def Copy.file (paths : Paths File) (copy : Copy) : File :=
  paths.resolve (dest paths.archivePath copy.table (numberOf copy.draw))

/-- No call copies to the destination of an earlier archive, the archives keep
their content, and no two records share an id. -/
structure NeverOverwrites (paths : Paths File) (site : Site File) : Prop where
  fresh : site.copies.Pairwise fun earlier later =>
    earlier.archived ≠ none → later.file paths ≠ earlier.file paths
  kept : ∀ copy ∈ site.copies, ∀ content, copy.archived = some content →
    site.files (copy.file paths) = some content
  distinct : (site.returned.map (·.record.id)).Nodup

/-! ## The condition on a call -/

/-- The call comes to `fs::copy`, if the counter has a number for it. -/
def Call.Copies (call : Call) : Prop :=
  call.directoryMade = true ∧ ∃ source, call.source = some source ∧ source.present = true

def Call.size (call : Call) : Option Nat :=
  if call.directoryMade then
    match call.source with
    | some source => if source.present then source.copied.map List.length else none
    | none => some call.originalSizeBytes
  else none

def ArchivalShim.Returns (checks : Bool) (crates : Crates) (shim : ArchivalShim) (call : Call) :
    Prop :=
  ∃ size, call.size = some size ∧ crates.representable (shim.expiry call) = true ∧
    (shim.totals.add checks call.count (shim.archivedSize crates size)
      (size - shim.archivedSize crates size)).2 = true

/-- An earlier number can come again: it is of an earlier lifetime, or this one
has drawn every number there is. -/
def Site.Recycles (site : Site File) (lifetime : Nat) : Prop :=
  lifetime < site.lifetime ∨ 2 ^ 64 ≤ site.drawn

/-- A build that checks for overflow has a number left. -/
def Site.HasNumber (checks : Bool) (site : Site File) : Prop :=
  checks = true → site.drawn + 1 < 2 ^ 64

/-- The next number of the lifetime is not one that comes again: not that of a
record if the call returns one, not that of an archive at the same path if the
call copies. -/
def Unused (checks : Bool) (crates : Crates) (paths : Paths File) (site : Site File) :
    Label → Prop
  | .archiveBatch call => site.HasNumber checks →
      (call.Copies → ∀ copy ∈ site.copies, site.Recycles copy.lifetime → copy.archived ≠ none →
        paths.resolve (dest paths.archivePath call.table (numberOf (site.drawn + 1))) ≠
          copy.file paths) ∧
      (site.shim.Returns checks crates call → ∀ issued ∈ site.returned,
        site.Recycles issued.lifetime → numberOf issued.draw ≠ numberOf (site.drawn + 1))
  | .addRetentionRule _ => True
  | .restart _ => True

/-! ## What a call does -/

section Call

variable {checks : Bool} {crates : Crates} {archivePath : String} {shim : ArchivalShim}
variable {call : Call} {number size : Nat}

theorem ArchivalShim.complete_counter :
    (shim.complete checks crates archivePath call number size).1.recordCounter =
      shim.recordCounter := by
  unfold ArchivalShim.complete
  split
  · dsimp only
    split <;> rfl
  · rfl

theorem ArchivalShim.complete_id {record : ArchivedRecord}
    (returned : (shim.complete checks crates archivePath call number size).2 = some record) :
    record.id = recordId number := by
  unfold ArchivalShim.complete at returned
  split at returned
  · dsimp only at returned
    split at returned
    · cases returned
      rfl
    · cases returned
  · cases returned

theorem ArchivalShim.complete_isSome_iff :
    (shim.complete checks crates archivePath call number size).2.isSome = true ↔
      crates.representable (shim.expiry call) = true ∧
        (shim.totals.add checks call.count (shim.archivedSize crates size)
          (size - shim.archivedSize crates size)).2 = true := by
  unfold ArchivalShim.complete
  split
  · next representable =>
      dsimp only
      split
      · next added => simp [representable, added]
      · next full => simp [full]
  · next out => simp [out]

theorem ArchivalShim.returns_iff_of_size (recorded : call.size = some size) :
    shim.Returns checks crates call ↔
      crates.representable (shim.expiry call) = true ∧
        (shim.totals.add checks call.count (shim.archivedSize crates size)
          (size - shim.archivedSize crates size)).2 = true := by
  constructor
  · rintro ⟨other, same, completes⟩
    rw [recorded] at same
    cases same
    exact completes
  · exact fun completes => ⟨size, recorded, completes⟩

theorem ArchivalShim.not_returns_of_size (unrecorded : call.size = none) :
    ¬ shim.Returns checks crates call := by
  rintro ⟨size, recorded, _⟩
  rw [unrecorded] at recorded
  cases recorded

theorem Call.copies_iff {source : Source} (made : call.directoryMade = true)
    (found : call.source = some source) : call.Copies ↔ source.present = true := by
  constructor
  · rintro ⟨_, other, same, present⟩
    rw [found] at same
    cases same
    exact present
  · exact fun present => ⟨made, source, found, present⟩

/-- The call of a lifetime that has a number for it: what it copied and what it
returned, under that number. -/
structure Drew (checks : Bool) (crates : Crates) (shim : ArchivalShim) (call : Call) (number : Nat)
    (outcome : Outcome) : Prop where
  number_eq : outcome.number = some number
  counter : outcome.shim.recordCounter = number
  copied : outcome.copied.isSome = true ↔ call.Copies
  id : ∀ record, outcome.record = some record → record.id = recordId number
  returns : outcome.record.isSome = true ↔ shim.Returns checks crates call

theorem ArchivalShim.archiveBatch_cases :
    (shim.archiveBatch checks crates archivePath call = { shim } ∧
      (addU64 checks shim.recordCounter 1 = none ∨
        ¬ call.Copies ∧ ¬ shim.Returns checks crates call)) ∨
    ∃ number, addU64 checks shim.recordCounter 1 = some number ∧
      Drew checks crates shim call number
        (shim.archiveBatch checks crates archivePath call) := by
  unfold ArchivalShim.archiveBatch
  by_cases made : call.directoryMade
  · rw [if_pos made]
    cases found : call.source with
    | none =>
        have size : call.size = some call.originalSizeBytes := by simp [Call.size, made, found]
        have uncopied : ¬ call.Copies := by
          rintro ⟨_, source, present, _⟩
          rw [found] at present
          cases present
        cases drawn : addU64 checks shim.recordCounter 1 with
        | none => exact .inl ⟨rfl, .inl rfl⟩
        | some number =>
            refine .inr ⟨number, rfl, rfl, ArchivalShim.complete_counter, ?_,
              fun record returned => ArchivalShim.complete_id returned,
              ArchivalShim.complete_isSome_iff.trans (ArchivalShim.returns_iff_of_size size).symm⟩
            exact ⟨fun copied => (by cases copied), fun copies => absurd copies uncopied⟩
    | some source =>
        dsimp only
        by_cases present : source.present
        · rw [if_pos present]
          have size : call.size = source.copied.map List.length := by
            simp [Call.size, made, found, present]
          have copies : call.Copies := (Call.copies_iff made found).mpr present
          cases drawn : addU64 checks shim.recordCounter 1 with
          | none => exact .inl ⟨rfl, .inl rfl⟩
          | some number =>
              cases carried : source.copied with
              | none =>
                  rw [carried] at size
                  refine .inr ⟨number, rfl, rfl, rfl, ⟨fun _ => copies, fun _ => rfl⟩, ?_, ?_⟩
                  · intro record returned
                    cases returned
                  · exact ⟨fun returned => (by cases returned),
                      fun returns => absurd returns (ArchivalShim.not_returns_of_size size)⟩
              | some content =>
                  rw [carried] at size
                  exact .inr ⟨number, rfl, rfl, ArchivalShim.complete_counter,
                    ⟨fun _ => copies, fun _ => rfl⟩,
                    fun record returned => ArchivalShim.complete_id returned,
                    ArchivalShim.complete_isSome_iff.trans
                      (ArchivalShim.returns_iff_of_size size).symm⟩
        · rw [if_neg present]
          refine .inl ⟨rfl, .inr ⟨fun copies => ?_, ArchivalShim.not_returns_of_size ?_⟩⟩
          · exact present ((Call.copies_iff made found).mp copies)
          · simp [Call.size, made, found, present]
  · rw [if_neg made]
    refine .inl ⟨rfl, .inr ⟨fun copies => made copies.1, ArchivalShim.not_returns_of_size ?_⟩⟩
    simp [Call.size, made]

end Call

/-! ## The numbers of a lifetime -/

/-- The draw is of an earlier lifetime, or of those made so far. -/
def Site.Covers (site : Site File) (lifetime draw : Nat) : Prop :=
  lifetime ≤ site.lifetime ∧ 0 < draw ∧ (lifetime = site.lifetime → draw ≤ site.drawn)

theorem Site.Covers.numberOf_ne {site : Site File} {lifetime draw : Nat}
    (covers : site.Covers lifetime draw) (current : ¬ site.Recycles lifetime) :
    numberOf draw ≠ numberOf (site.drawn + 1) := by
  obtain ⟨before, positive, within⟩ := covers
  rw [Site.Recycles, not_or, Nat.not_lt, Nat.not_le] at current
  have bound := within (Nat.le_antisymm before current.1)
  have few := current.2
  simp only [numberOf]
  omega

theorem addU64_numberOf {checks : Bool} {site : Site File}
    (bounded : checks = true → site.drawn < 2 ^ 64) :
    (addU64 checks (numberOf site.drawn) 1 = some (numberOf (site.drawn + 1)) ∧
      site.HasNumber checks) ∨
    (addU64 checks (numberOf site.drawn) 1 = none ∧ ¬ site.HasNumber checks) := by
  unfold addU64 Site.HasNumber numberOf
  cases checks with
  | false =>
      refine .inl ⟨?_, by simp⟩
      split
      · exact congrArg some (by omega)
      · exact congrArg some (by omega)
  | true =>
      have few := bounded rfl
      by_cases last : site.drawn + 1 < 2 ^ 64
      · refine .inl ⟨?_, fun _ => last⟩
        rw [if_pos (by omega)]
        exact congrArg some (by omega)
      · refine .inr ⟨?_, fun number => last (number rfl)⟩
        rw [if_neg (by omega)]
        rfl

theorem recordId_injective {number other : Nat} (same : recordId number = recordId other) :
    number = other :=
  Text.padDecimal_injective ((String.append_right_inj _).mp same)

/-! ## What an unused number keeps -/

structure Numbered (checks : Bool) (paths : Paths File) (site : Site File) : Prop where
  counter : site.shim.recordCounter = numberOf site.drawn
  bounded : checks = true → site.drawn < 2 ^ 64
  copies : ∀ copy ∈ site.copies, site.Covers copy.lifetime copy.draw
  returned : ∀ issued ∈ site.returned, site.Covers issued.lifetime issued.draw
  ids : ∀ issued ∈ site.returned, issued.record.id = recordId (numberOf issued.draw)
  safe : NeverOverwrites paths site

theorem Numbered.start {checks : Bool} {paths : Paths File} (settings : Settings)
    (files : File → Option Content) : Numbered checks paths (.start settings files) where
  counter := rfl
  bounded _ := by simp [Site.start]
  copies := by simp [Site.start]
  returned := by simp [Site.start]
  ids := by simp [Site.start]
  safe :=
    { fresh := .nil
      kept := by simp [Site.start]
      distinct := .nil }

theorem Numbered.restart {checks : Bool} {paths : Paths File} {site : Site File}
    (numbered : Numbered checks paths site) (settings : Settings) :
    Numbered checks paths
      { site with
        shim := { settings }
        lifetime := site.lifetime + 1
        drawn := 0 } where
  counter := rfl
  bounded _ := by simp
  copies copy member :=
    have covers := numbered.copies copy member
    ⟨Nat.le_succ_of_le covers.1, covers.2.1, fun same => by
      have before := covers.1
      simp only at same
      omega⟩
  returned issued member :=
    have covers := numbered.returned issued member
    ⟨Nat.le_succ_of_le covers.1, covers.2.1, fun same => by
      have before := covers.1
      simp only at same
      omega⟩
  ids := numbered.ids
  safe := ⟨numbered.safe.fresh, numbered.safe.kept, numbered.safe.distinct⟩

theorem Numbered.destination_ne {checks : Bool} {paths : Paths File} {site : Site File}
    {call : Call} (numbered : Numbered checks paths site) {copy : Copy}
    (member : copy ∈ site.copies) (archived : copy.archived ≠ none)
    (unused : site.Recycles copy.lifetime → copy.archived ≠ none →
      paths.resolve (dest paths.archivePath call.table (numberOf (site.drawn + 1))) ≠
        copy.file paths) :
    paths.resolve (dest paths.archivePath call.table (numberOf (site.drawn + 1))) ≠
      copy.file paths := by
  by_cases recycles : site.Recycles copy.lifetime
  · exact unused recycles archived
  · intro same
    exact (numbered.copies copy member).numberOf_ne recycles (paths.apart _ _ _ _ same).symm

variable [DecidableEq File] {checks : Bool} {crates : Crates} {paths : Paths File}
variable {site : Site File} {call : Call} {outcome : Outcome}

theorem Site.Covers.observe {lifetime draw : Nat} (covers : site.Covers lifetime draw) :
    (site.observe paths call outcome).Covers lifetime draw := by
  unfold Site.observe
  split
  · exact covers
  · exact ⟨covers.1, covers.2.1, fun same => Nat.le_succ_of_le (covers.2.2 same)⟩

theorem mem_copies_observe (drew : outcome.number = some (numberOf (site.drawn + 1))) {copy : Copy}
    (member : copy ∈ (site.observe paths call outcome).copies) :
    copy ∈ site.copies ∨ ∃ content, outcome.copied = some content ∧
      copy = ⟨site.lifetime, site.drawn + 1, call.table, outcome.record.bind fun _ => content⟩ := by
  simp only [Site.observe, drew] at member
  cases copied : outcome.copied with
  | none =>
      rw [copied] at member
      exact .inl member
  | some content =>
      rw [copied] at member
      rcases List.mem_append.mp member with earlier | last
      · exact .inl earlier
      · exact .inr ⟨content, rfl, List.mem_singleton.mp last⟩

theorem mem_returned_observe (drew : outcome.number = some (numberOf (site.drawn + 1)))
    {issued : Issued} (member : issued ∈ (site.observe paths call outcome).returned) :
    issued ∈ site.returned ∨ ∃ record, outcome.record = some record ∧
      issued = ⟨site.lifetime, site.drawn + 1, record⟩ := by
  simp only [Site.observe, drew] at member
  cases returned : outcome.record with
  | none =>
      rw [returned] at member
      exact .inl member
  | some record =>
      rw [returned] at member
      rcases List.mem_append.mp member with earlier | last
      · exact .inl earlier
      · exact .inr ⟨record, rfl, List.mem_singleton.mp last⟩

section Observe

variable (numbered : Numbered checks paths site)
variable (drew : Drew checks crates site.shim call (numberOf (site.drawn + 1)) outcome)

include numbered drew

theorem Numbered.fresh_observe
    (apart : call.Copies → ∀ copy ∈ site.copies, site.Recycles copy.lifetime →
      copy.archived ≠ none →
        paths.resolve (dest paths.archivePath call.table (numberOf (site.drawn + 1))) ≠
          copy.file paths) :
    (site.observe paths call outcome).copies.Pairwise fun earlier later =>
      earlier.archived ≠ none → later.file paths ≠ earlier.file paths := by
  cases copied : outcome.copied with
  | none =>
      simp only [Site.observe, drew.number_eq, copied]
      exact numbered.safe.fresh
  | some content =>
      have copies := drew.copied.mp (by rw [copied]; rfl)
      simp only [Site.observe, drew.number_eq, copied]
      refine List.pairwise_append.mpr ⟨numbered.safe.fresh, List.pairwise_singleton _ _, ?_⟩
      intro copy member last singleton archived
      rw [List.mem_singleton.mp singleton]
      exact numbered.destination_ne member archived (apart copies copy member)

theorem Numbered.kept_observe
    (apart : call.Copies → ∀ copy ∈ site.copies, site.Recycles copy.lifetime →
      copy.archived ≠ none →
        paths.resolve (dest paths.archivePath call.table (numberOf (site.drawn + 1))) ≠
          copy.file paths)
    {copy : Copy} (member : copy ∈ (site.observe paths call outcome).copies) {content : Content}
    (archived : copy.archived = some content) :
    (site.observe paths call outcome).files (copy.file paths) = some content := by
  cases copied : outcome.copied with
  | none =>
      simp only [Site.observe, drew.number_eq, copied] at member ⊢
      exact numbered.safe.kept copy member content archived
  | some written =>
      have copies := drew.copied.mp (by rw [copied]; rfl)
      rcases mem_copies_observe drew.number_eq member with earlier | ⟨other, same, rfl⟩
      · have other := numbered.destination_ne earlier (by rw [archived]; simp)
          (apart copies copy earlier)
        simp only [Site.observe, drew.number_eq, copied]
        rw [Function.update_of_ne other.symm]
        exact numbered.safe.kept copy earlier content archived
      · rw [copied] at same
        cases same
        simp only [Site.observe, drew.number_eq, copied, Copy.file, Function.update_self]
        cases returned : outcome.record with
        | none => simp [returned] at archived
        | some record => simpa [returned] using archived

theorem Numbered.distinct_observe
    (unissued : site.shim.Returns checks crates call → ∀ issued ∈ site.returned,
      site.Recycles issued.lifetime → numberOf issued.draw ≠ numberOf (site.drawn + 1)) :
    ((site.observe paths call outcome).returned.map (·.record.id)).Nodup := by
  cases returned : outcome.record with
  | none =>
      simp only [Site.observe, drew.number_eq, returned]
      exact numbered.safe.distinct
  | some record =>
      have returns := drew.returns.mp (by rw [returned]; rfl)
      simp only [Site.observe, drew.number_eq, returned, List.map_append, List.map_cons,
        List.map_nil]
      refine List.nodup_append.mpr ⟨numbered.safe.distinct, List.nodup_singleton _, ?_⟩
      intro id among last singleton same
      obtain ⟨issued, member, rfl⟩ := List.mem_map.mp among
      rw [List.mem_singleton.mp singleton, numbered.ids issued member,
        drew.id record returned] at same
      have number := recordId_injective same
      by_cases recycles : site.Recycles issued.lifetime
      · exact unissued returns issued member recycles number
      · exact (numbered.returned issued member).numberOf_ne recycles number

theorem Numbered.observe (number : site.HasNumber checks)
    (unused : Unused checks crates paths site (.archiveBatch call)) :
    Numbered checks paths (site.observe paths call outcome) := by
  obtain ⟨apart, unissued⟩ := unused number
  have drawn : (site.observe paths call outcome).drawn = site.drawn + 1 := by
    simp only [Site.observe, drew.number_eq]
  have shim : (site.observe paths call outcome).shim = outcome.shim := by
    simp only [Site.observe, drew.number_eq]
  have lifetime : (site.observe paths call outcome).lifetime = site.lifetime := by
    simp only [Site.observe, drew.number_eq]
  have new : (site.observe paths call outcome).Covers site.lifetime (site.drawn + 1) :=
    ⟨lifetime.ge, Nat.succ_pos _, fun _ => drawn.ge⟩
  refine ⟨?_, ?_, ?_, ?_, ?_, ?_⟩
  · rw [shim, drawn, drew.counter]
  · rw [drawn]
    exact number
  · intro copy member
    rcases mem_copies_observe drew.number_eq member with earlier | ⟨content, _, rfl⟩
    · exact (numbered.copies copy earlier).observe
    · exact new
  · intro issued member
    rcases mem_returned_observe drew.number_eq member with earlier | ⟨record, _, rfl⟩
    · exact (numbered.returned issued earlier).observe
    · exact new
  · intro issued member
    rcases mem_returned_observe drew.number_eq member with earlier | ⟨record, found, rfl⟩
    · exact numbered.ids issued earlier
    · exact drew.id record found
  · exact ⟨numbered.fresh_observe drew apart,
      fun copy member content archived => numbered.kept_observe drew apart member archived,
      numbered.distinct_observe drew unissued⟩

end Observe

theorem Numbered.step (numbered : Numbered checks paths site) {label : Label}
    (unused : Unused checks crates paths site label) :
    Numbered checks paths (site.step checks crates paths label) := by
  cases label with
  | addRetentionRule rule =>
      exact ⟨numbered.counter, numbered.bounded, numbered.copies, numbered.returned, numbered.ids,
        ⟨numbered.safe.fresh, numbered.safe.kept, numbered.safe.distinct⟩⟩
  | restart settings => exact numbered.restart settings
  | archiveBatch call =>
      rcases @ArchivalShim.archiveBatch_cases checks crates paths.archivePath site.shim call with
        ⟨nothing, _⟩ | ⟨number, next, drew⟩
      · rw [Site.step, nothing]
        exact numbered
      · rw [numbered.counter] at next
        rcases addU64_numberOf numbered.bounded with ⟨found, hasNumber⟩ | ⟨found, _⟩
        · rw [found] at next
          cases next
          exact numbered.observe drew hasNumber unused
        · rw [found] at next
          cases next

/-- A number that was used before names a second archive or a second record. -/
theorem Numbered.breaks (numbered : Numbered checks paths site) {label : Label}
    (used : ¬ Unused checks crates paths site label) :
    ¬ NeverOverwrites paths (site.step checks crates paths label) := by
  cases label with
  | addRetentionRule rule => exact absurd trivial used
  | restart settings => exact absurd trivial used
  | archiveBatch call =>
      obtain ⟨hasNumber, used⟩ := Classical.not_imp.mp used
      have found : addU64 checks site.shim.recordCounter 1 = some (numberOf (site.drawn + 1)) := by
        rw [numbered.counter]
        rcases addU64_numberOf numbered.bounded with ⟨found, _⟩ | ⟨_, without⟩
        · exact found
        · exact absurd hasNumber without
      rcases @ArchivalShim.archiveBatch_cases checks crates paths.archivePath site.shim call with
        ⟨_, without | ⟨uncopied, unreturned⟩⟩ | ⟨number, next, drew⟩
      · rw [found] at without
        cases without
      · exact absurd ⟨fun copies => absurd copies uncopied, fun returns => absurd returns unreturned⟩
          used
      · rw [found] at next
        cases next
        intro safe
        refine used ⟨fun copies copy member _ archived same => ?_,
          fun returns issued member _ number => ?_⟩
        · obtain ⟨content, copied⟩ := Option.isSome_iff_exists.mp (drew.copied.mpr copies)
          have fresh := safe.fresh
          simp only [Site.step, Site.observe, drew.number_eq, copied] at fresh
          exact (List.pairwise_append.mp fresh).2.2 copy member _ List.mem_cons_self archived same
        · obtain ⟨record, returned⟩ := Option.isSome_iff_exists.mp (drew.returns.mpr returns)
          have distinct := safe.distinct
          simp only [Site.step, Site.observe, drew.number_eq, returned, List.map_append,
            List.map_cons, List.map_nil] at distinct
          refine (List.nodup_append.mp distinct).2.2 _ (List.mem_map_of_mem member) _
            List.mem_cons_self ?_
          rw [numbered.ids issued member, number, drew.id record returned]

/-- Archives keep their names and records their ids in every state of a run
exactly when each call has an unused number. -/
theorem neverOverwrites_iff (checks : Bool) (crates : Crates) (paths : Paths File)
    (settings : Settings) (files : File → Option Content) (labels : List Label) :
    (machine checks crates paths).Always (NeverOverwrites paths) (.start settings files) labels ↔
      (machine checks crates paths).Along (Unused checks crates paths) (.start settings files)
        labels :=
  Machine.always_ofFunction_iff_along (Numbered checks paths) (fun _ numbered => numbered.safe)
    (fun _ _ numbered unused => numbered.step unused)
    (fun _ _ numbered used => numbered.breaks used) (.start settings files)

/-! ## Paths as texts -/

theorem dest_toList (archivePath table : String) (number : Nat) :
    (dest archivePath table number).toList =
      (archivePath.toList ++ '/' :: (table.toList ++ "/archive".toList)) ++
        '-' :: (Nat.toDigits 10 number ++ ".dat".toList) := by
  have digits : (toString number).toList = Nat.toDigits 10 number := Nat.toList_repr
  simp only [dest, String.toList_append, digits]
  simp [toString]

theorem dest_injective {archivePath table other : String} {number otherNumber : Nat}
    (same : dest archivePath table number = dest archivePath other otherNumber) :
    number = otherNumber := by
  have dashless : ∀ value, '-' ∉ Nat.toDigits 10 value ++ ".dat".toList := by
    intro value member
    rcases List.mem_append.mp member with digit | extension
    · exact absurd (Nat.isDigit_of_mem_toDigits (by decide) (by decide) digit) (by decide)
    · exact absurd extension (by decide)
  have chars := congrArg String.toList same
  rw [dest_toList, dest_toList] at chars
  have digits := List.append_cancel_right (Text.after_last_inj (dashless _) (dashless _) chars)
  have values := congrArg (Nat.ofDigitChars 10 · 0) digits
  simpa only [Nat.ofDigitChars_ten_toDigits] using values

def Paths.literal (archivePath : String) : Paths String where
  archivePath := archivePath
  resolve := id
  apart _ _ _ _ same := dest_injective same

def sampleCrates : Crates where
  toRfc3339 instant := toString instant
  representable _ := true
  scaled size ratio := size * ratio / 100

def ordersBatch (content : Content) : Call where
  table := "orders"
  count := 1
  originalSizeBytes := 0
  source := some { present := true, copied := some content, leaves := none }
  directoryMade := true
  archivedAt := 0
  expiryFrom := 0
  archivalAt := 0

/-- The first archive of the second process takes the place of the first one's. -/
theorem restart_overwrites :
    ¬ (machine true sampleCrates (.literal "/var/lib/archival")).Always
      (NeverOverwrites (.literal "/var/lib/archival")) (.start {} fun _ => none)
      [.archiveBatch (ordersBatch [1]), .restart {}, .archiveBatch (ordersBatch [2])] := by
  intro always
  have kept := (always.last rfl).kept ⟨0, 1, "orders", some [1]⟩ List.mem_cons_self [1] rfl
  revert kept
  decide +kernel

end Evergreen.Archival
