import Evergreen.Archival.Lifecycle
import Evergreen.Machine.Writes
import Mathlib.Data.List.Induction
import Mathlib.Data.List.Perm.Basic

namespace Evergreen.Archival

/-! # What becomes of the archived records

The log against what `archive_batch` returned: retention is settled when a record
is archived, tiers only cool, and nothing leaves the log before its time.
-/

structure ArchivalSummary where
  tablesArchived : String → Option Nat
  totalRecords : Nat
  totalBytesSaved : Nat

/-- A date that does not parse never comes. -/
def isRetentionExpired (parse : String → Option Int) (record : ArchivedRecord) (now : Int) : Bool :=
  (parse record.retentionUntil).any (· < now)

namespace ArchivalShim

/-- `clock` is what the clock shows for the record with this index. -/
def purgeExpired (parse : String → Option Int) (shim : ArchivalShim) (clock : Nat → Int) :
    ArchivalShim × Nat :=
  let kept := (shim.archiveLog.zipIdx.filter fun entry =>
    !isRetentionExpired parse entry.1 (clock entry.2)).map Prod.fst
  ({ shim with archiveLog := kept }, shim.archiveLog.length - kept.length)

/-- Without the ratio of the totals, an `f64`. -/
def summary (shim : ArchivalShim) : ArchivalSummary where
  tablesArchived := shim.archiveLog.foldl (fun tables record =>
    Function.update tables record.table (some ((tables record.table).getD 0 + 1))) fun _ => none
  totalRecords := shim.archiveLog.length
  totalBytesSaved := shim.totals.bytesSaved

end ArchivalShim

inductive Operation where
  | archiveBatch (call : Call)
  | addRetentionRule (rule : RetentionRule)
  | applyLifecycle (clock : Nat → Int)
  | purgeExpired (clock : Nat → Int)

/-- The shim, with the records that were returned and those that were purged, each
with the reading of the clock. -/
structure Archive where
  shim : ArchivalShim
  issued : List (Call × ArchivedRecord) := []
  purged : List (ArchivedRecord × Int) := []

/-- What the archive is made with. -/
structure Premises where
  checks : Bool
  crates : Crates
  archivePath : String
  rules : LifecycleRules
  parse : String → Option Int

def Archive.perform (premises : Premises) (archive : Archive) : Operation → Archive
  | .archiveBatch call =>
      let outcome :=
        archive.shim.archiveBatch premises.checks premises.crates premises.archivePath call
      { archive with
        shim := outcome.shim
        issued := archive.issued ++ outcome.record.toList.map fun record => (call, record) }
  | .addRetentionRule rule => { archive with shim := archive.shim.addRetentionRule rule }
  | .applyLifecycle clock =>
      { archive with shim := (archive.shim.applyLifecycle premises.rules premises.parse clock).1 }
  | .purgeExpired clock =>
      { archive with
        shim := (archive.shim.purgeExpired premises.parse clock).1
        purged := archive.purged ++ (archive.shim.archiveLog.zipIdx.filter fun entry =>
          isRetentionExpired premises.parse entry.1 (clock entry.2)).map fun entry =>
            (entry.1, clock entry.2) }

def Archive.after (premises : Premises) (archive : Archive) (operations : List Operation) : Archive :=
  operations.foldl (Archive.perform premises) archive

def Operation.rule : Operation → Option RetentionRule
  | .addRetentionRule rule => some rule
  | .archiveBatch _ | .applyLifecycle _ | .purgeExpired _ => none

/-- The rule of a table that was added last. -/
def ruleOf (operations : List Operation) (table : String) : Option RetentionRule :=
  (operations.filterMap fun operation => operation.rule.filter (·.table = table)).getLast?

/-- The same record, in no warmer tier. -/
def Cooled (earlier later : ArchivedRecord) : Prop :=
  later = { earlier with storageTier := later.storageTier } ∧
    later.storageTier.warmth ≤ earlier.storageTier.warmth

/-- The totals are sums over the records that were returned.  In a build that
panics, a call may have added to the first two before it did. -/
structure Totalled (checks : Bool) (issued : List (Call × ArchivedRecord)) (totals : Totals) :
    Prop where
  saved : totals.bytesSaved =
    (issued.map fun entry => entry.2.originalSizeBytes - entry.2.archivedSizeBytes).sum % 2 ^ 64
  records : checks = false → totals.recordsArchived = (issued.map (·.1.count)).sum % 2 ^ 64
  bytes : checks = false →
    totals.bytesArchived = (issued.map (·.2.archivedSizeBytes)).sum % 2 ^ 64
  atLeast : checks = true → (issued.map (·.1.count)).sum ≤ totals.recordsArchived ∧
    (issued.map (·.2.archivedSizeBytes)).sum ≤ totals.bytesArchived

/-- Every record is in the log, in order and in no warmer tier, or was purged
after its retention. -/
structure Kept (premises : Premises) (archive : Archive) : Prop where
  fates : ∃ kept gone, (kept ++ gone).Perm (archive.issued.map Prod.snd) ∧
    kept.Sublist (archive.issued.map Prod.snd) ∧
    List.Forall₂ Cooled kept archive.shim.archiveLog ∧
    List.Forall₂ Cooled gone (archive.purged.map Prod.fst)
  expired : ∀ entry ∈ archive.purged, ∃ date, premises.parse entry.1.retentionUntil = some date ∧
    date < entry.2
  totalled : Totalled premises.checks archive.issued archive.shim.totals

/-- `Kept`, where a record has the tier and the retention of the rule of its day,
and the summary counts the log. -/
structure Accounted (premises : Premises) (settings : Settings) (operations : List Operation)
    (archive : Archive) : Prop extends Kept premises archive where
  dated : ∀ before call after record, operations = before ++ .archiveBatch call :: after →
    (((Archive.after premises { shim := { settings } } before).shim.archiveBatch premises.checks
      premises.crates premises.archivePath call).record = some record) →
    record.storageTier = ((ruleOf before call.table).map (·.storageTier)).getD .cold ∧
      record.retentionUntil = premises.crates.toRfc3339 (call.expiryFrom +
        (((ruleOf before call.table).map (·.ageDays)).getD settings.retentionDays) * dayNanos)
  summed : ∀ table, (archive.shim.summary.tablesArchived table).getD 0 =
    archive.shim.archiveLog.countP (·.table = table)

variable {premises : Premises} {settings : Settings} {operations : List Operation}
variable {archive : Archive} {shim : ArchivalShim} {call : Call} {record : ArchivedRecord}
variable {issued : List (Call × ArchivedRecord)} {totals : Totals} {checks : Bool}

/-! ## Records -/

theorem cooled_refl (record : ArchivedRecord) : Cooled record record := ⟨rfl, Nat.le_refl _⟩

theorem Cooled.trans {first second third : ArchivedRecord} (early : Cooled first second)
    (late : Cooled second third) : Cooled first third := by
  refine ⟨?_, late.2.trans early.2⟩
  rw [late.1, early.1]

theorem cooled_transition (rules : LifecycleRules) (parse : String → Option Int) (now : Int) :
    Cooled record (rules.transition parse record now) := by
  refine ⟨?_, warmth_transition record now⟩
  unfold LifecycleRules.transition
  split <;> rfl

theorem forall₂_mapIdx {early late : List ArchivedRecord} {cool : Nat → ArchivedRecord → ArchivedRecord}
    (related : List.Forall₂ Cooled early late) (cools : ∀ index record, Cooled record (cool index record)) :
    List.Forall₂ Cooled early (late.mapIdx cool) := by
  induction related generalizing cool with
  | nil => exact .nil
  | cons first rest ih =>
      rw [List.mapIdx_cons]
      exact .cons (first.trans (cools 0 _)) (ih fun index => cools (index + 1))

/-- A choice among the related items, by item and place, is one among the others. -/
theorem forall₂_choose {early late : List ArchivedRecord} (related : List.Forall₂ Cooled early late)
    (keeps : ArchivedRecord × Nat → Bool) (start : Nat) :
    ∃ kept gone, (kept ++ gone).Perm early ∧ kept.Sublist early ∧
      List.Forall₂ Cooled kept (((late.zipIdx start).filter keeps).map Prod.fst) ∧
      List.Forall₂ Cooled gone (((late.zipIdx start).filter fun entry => !keeps entry).map Prod.fst) := by
  induction related generalizing start with
  | nil => exact ⟨[], [], .nil, .slnil, .nil, .nil⟩
  | @cons first second _ _ cooled rest ih =>
      obtain ⟨kept, gone, perm, sublist, left, right⟩ := ih (start + 1)
      cases keep : keeps (second, start) with
      | true =>
          refine ⟨first :: kept, gone, perm.cons first, sublist.cons_cons first, ?_, ?_⟩
          · rw [List.zipIdx_cons, List.filter_cons_of_pos keep, List.map_cons]
            exact .cons cooled left
          · rw [List.zipIdx_cons, List.filter_cons_of_neg (by simp [keep])]
            exact right
      | false =>
          refine ⟨kept, first :: gone, ?_, sublist.cons first, ?_, ?_⟩
          · exact (List.perm_middle).trans (perm.cons first)
          · rw [List.zipIdx_cons, List.filter_cons_of_neg (by simp [keep])]
            exact left
          · rw [List.zipIdx_cons, List.filter_cons_of_pos (by simp [keep]), List.map_cons]
            exact .cons cooled right

/-! ## Totals -/

theorem addU64_mod {value amount total sum : Nat} (added : addU64 checks value amount = some total)
    (value_eq : value = sum % 2 ^ 64) : total = (sum + amount) % 2 ^ 64 := by
  subst value_eq
  simp only [addU64] at added
  split_ifs at added <;> cases added
  · omega
  · omega

theorem addU64_exact {value amount total : Nat} (checked : checks = true)
    (added : addU64 checks value amount = some total) : total = value + amount := by
  simp only [addU64, checked] at added
  split_ifs at added
  cases added
  rfl

theorem addU64_none {value amount : Nat} (failed : addU64 checks value amount = none) :
    checks = true := by
  simp only [addU64] at failed
  split_ifs at failed with fits checked
  exact checked

/-- A call that panics on the way to the last sum has raised the others at most. -/
theorem Totalled.raise {recordsArchived bytesArchived : Nat} (totalled : Totalled checks issued totals)
    (checked : checks = true) (records : totals.recordsArchived ≤ recordsArchived)
    (bytes : totals.bytesArchived ≤ bytesArchived) :
    Totalled checks issued { totals with recordsArchived, bytesArchived } where
  saved := totalled.saved
  records release := by
    rw [checked] at release
    cases release
  bytes release := by
    rw [checked] at release
    cases release
  atLeast _ :=
    ⟨(totalled.atLeast checked).1.trans records, (totalled.atLeast checked).2.trans bytes⟩

theorem Totalled.add_of_fails {count archived saved : Nat} (totalled : Totalled checks issued totals)
    (fails : (totals.add checks count archived saved).2 = false) :
    Totalled checks issued (totals.add checks count archived saved).1 := by
  unfold Totals.add at fails ⊢
  cases first : addU64 checks totals.recordsArchived count with
  | none => exact totalled
  | some recordsArchived =>
      rw [first] at fails
      cases second : addU64 checks totals.bytesArchived archived with
      | none =>
          have checked := addU64_none second
          have raised := addU64_exact checked first
          exact totalled.raise checked (by omega) (Nat.le_refl _)
      | some bytesArchived =>
          rw [second] at fails
          cases third : addU64 checks totals.bytesSaved saved with
          | none =>
              have checked := addU64_none third
              have raised := addU64_exact checked first
              have grown := addU64_exact checked second
              exact totalled.raise checked (by omega) (by omega)
          | some bytesSaved =>
              rw [third] at fails
              cases fails

theorem Totalled.add (totalled : Totalled checks issued totals)
    (succeeds : (totals.add checks call.count record.archivedSizeBytes
      (record.originalSizeBytes - record.archivedSizeBytes)).2 = true) :
    Totalled checks (issued ++ [(call, record)]) (totals.add checks call.count
      record.archivedSizeBytes (record.originalSizeBytes - record.archivedSizeBytes)).1 := by
  unfold Totals.add at succeeds ⊢
  cases first : addU64 checks totals.recordsArchived call.count with
  | none =>
      rw [first] at succeeds
      cases succeeds
  | some recordsArchived =>
      cases second : addU64 checks totals.bytesArchived record.archivedSizeBytes with
      | none =>
          rw [first, second] at succeeds
          cases succeeds
      | some bytesArchived =>
          cases third : addU64 checks totals.bytesSaved
            (record.originalSizeBytes - record.archivedSizeBytes) with
          | none =>
              rw [first, second, third] at succeeds
              cases succeeds
          | some bytesSaved =>
              constructor
              · simpa using addU64_mod third totalled.saved
              · intro release
                simpa using addU64_mod first (totalled.records release)
              · intro release
                simpa using addU64_mod second (totalled.bytes release)
              · intro checked
                have least := totalled.atLeast checked
                have raised := addU64_exact checked first
                have grown := addU64_exact checked second
                simp only [List.map_append, List.map_cons, List.map_nil, List.sum_append,
                  List.sum_cons, List.sum_nil]
                exact ⟨by omega, by omega⟩

/-! ## Batches -/

/-- What a call of `archive_batch` does to the log and the totals: nothing but what
a panic left in the sums, or a record of the tier and the retention of now. -/
inductive Batch (premises : Premises) (shim : ArchivalShim) (call : Call) (after : ArchivalShim) :
    Option ArchivedRecord → Prop
  | none (log : after.archiveLog = shim.archiveLog)
      (totals : ∀ issued, Totalled premises.checks issued shim.totals →
        Totalled premises.checks issued after.totals) : Batch premises shim call after none
  | some (record : ArchivedRecord) (log : after.archiveLog = shim.archiveLog ++ [record])
      (totals : ∀ issued, Totalled premises.checks issued shim.totals →
        Totalled premises.checks (issued ++ [(call, record)]) after.totals)
      (tier : record.storageTier = shim.tier call.table)
      (retention : record.retentionUntil = premises.crates.toRfc3339 (shim.expiry call)) :
      Batch premises shim call after (some record)

theorem batch_unchanged (counter : Nat) :
    Batch premises shim call { shim with recordCounter := counter } .none :=
  .none rfl fun _ totalled => totalled

theorem batch_complete (counter number size : Nat) :
    let completed := ({ shim with recordCounter := counter } : ArchivalShim).complete premises.checks
      premises.crates premises.archivePath call number size
    Batch premises shim call completed.1 completed.2 ∧
      completed.1.settings = shim.settings ∧ completed.1.retentionRules = shim.retentionRules := by
  simp only [ArchivalShim.complete]
  split_ifs with representable added
  · exact ⟨.some _ rfl (fun _ totalled => totalled.add added) rfl rfl, rfl, rfl⟩
  · exact ⟨.none rfl fun _ totalled => totalled.add_of_fails (Bool.eq_false_iff.mpr added), rfl, rfl⟩
  · exact ⟨batch_unchanged counter, rfl, rfl⟩

theorem archiveBatch_batch (premises : Premises) (shim : ArchivalShim) (call : Call) :
    let outcome := shim.archiveBatch premises.checks premises.crates premises.archivePath call
    Batch premises shim call outcome.shim outcome.record ∧
      outcome.shim.settings = shim.settings ∧ outcome.shim.retentionRules = shim.retentionRules := by
  have unchanged : Batch premises shim call shim .none := .none rfl fun _ totalled => totalled
  unfold ArchivalShim.archiveBatch
  cases call.directoryMade with
  | false => exact ⟨unchanged, rfl, rfl⟩
  | true =>
      cases call.source with
      | none =>
          cases addU64 premises.checks shim.recordCounter 1 with
          | none => exact ⟨unchanged, rfl, rfl⟩
          | some number => exact batch_complete number number call.originalSizeBytes
      | some source =>
          cases present : source.present with
          | false =>
              simp only [present]
              exact ⟨unchanged, rfl, rfl⟩
          | true =>
              simp only [present]
              cases addU64 premises.checks shim.recordCounter 1 with
              | none => exact ⟨unchanged, rfl, rfl⟩
              | some number =>
                  cases copied : source.copied with
                  | none =>
                      exact ⟨batch_unchanged number, rfl, rfl⟩
                  | some content =>
                      exact batch_complete number number content.length

/-! ## Rules and summaries -/

theorem after_concat (operation : Operation) : archive.after premises (operations ++ [operation]) =
    (archive.after premises operations).perform premises operation :=
  List.foldl_concat ..

theorem ruleOf_concat (operation : Operation) (table : String) :
    ruleOf (operations ++ [operation]) table =
      (operation.rule.filter (·.table = table)).or (ruleOf operations table) :=
  getLast?_filterMap_concat _

/-- The rules of a run are those that were added last. -/
theorem settled_after (premises : Premises) (settings : Settings) (operations : List Operation) :
    let after := Archive.after premises { shim := { settings } } operations
    after.shim.settings = settings ∧
      ∀ table, after.shim.retentionRules table = ruleOf operations table := by
  induction operations using List.reverseRecOn with
  | nil => exact ⟨rfl, fun _ => rfl⟩
  | append_singleton operations operation ih =>
      obtain ⟨unchanged, rules⟩ := ih
      simp only [after_concat, ruleOf_concat, ← rules]
      cases operation with
      | archiveBatch call =>
          have batch := (archiveBatch_batch premises (Archive.after premises
            { shim := { settings } } operations).shim call).2
          exact ⟨batch.1.trans unchanged, fun table => congrFun batch.2 table⟩
      | applyLifecycle clock => exact ⟨unchanged, fun _ => rfl⟩
      | purgeExpired clock => exact ⟨unchanged, fun _ => rfl⟩
      | addRetentionRule rule =>
          refine ⟨unchanged, fun table => ?_⟩
          simp only [Archive.perform, ArchivalShim.addRetentionRule, Operation.rule]
          by_cases same : rule.table = table
          · subst same
            simp [Option.filter]
          · simp [Function.update_of_ne (Ne.symm same), Option.filter, same]

theorem foldl_tables (records : List ArchivedRecord) (tables : String → Option Nat) (table : String) :
    ((records.foldl (fun (tables : String → Option Nat) record =>
      Function.update tables record.table (some ((tables record.table).getD 0 + 1))) tables)
        table).getD 0 = (tables table).getD 0 + records.countP (·.table = table) := by
  induction records generalizing tables with
  | nil => rfl
  | cons record rest ih =>
      rw [List.foldl_cons, ih, List.countP_cons]
      by_cases same : record.table = table
      · subst same
        simp only [Function.update_self, Option.getD_some, decide_true, if_true]
        omega
      · simp [Function.update_of_ne (Ne.symm same), same]

/-! ## A run -/

theorem Kept.archiveBatch (keeping : Kept premises archive) (call : Call) :
    Kept premises (archive.perform premises (.archiveBatch call)) := by
  obtain ⟨⟨kept, gone, perm, sublist, left, right⟩, expired, totalled⟩ := keeping
  have batch := (archiveBatch_batch premises archive.shim call).1
  simp only [Archive.perform]
  generalize archive.shim.archiveBatch premises.checks premises.crates premises.archivePath call =
    outcome at batch
  obtain ⟨after, number, copied, returned⟩ := outcome
  cases batch with
  | none log totals =>
      refine ⟨⟨kept, gone, ?_, ?_, ?_, right⟩, expired, ?_⟩
      · simpa using perm
      · simpa using sublist
      · exact log ▸ left
      · simpa using totals _ totalled
  | some record log totals tier retention =>
      refine ⟨⟨kept ++ [record], gone, ?_, ?_, ?_, right⟩, expired, ?_⟩
      · have moved : (kept ++ [record] ++ gone).Perm (kept ++ gone ++ [record]) := by
          rw [List.append_assoc, List.append_assoc]
          exact (List.perm_append_comm).append_left kept
        simpa using moved.trans (perm.append_right [record])
      · simpa using sublist.append (List.Sublist.refl [record])
      · rw [log]
        exact List.rel_append left (.cons (cooled_refl record) .nil)
      · simpa using totals _ totalled

theorem Kept.applyLifecycle (keeping : Kept premises archive) (clock : Nat → Int) :
    Kept premises (archive.perform premises (.applyLifecycle clock)) := by
  obtain ⟨⟨kept, gone, perm, sublist, left, right⟩, expired, totalled⟩ := keeping
  refine ⟨⟨kept, gone, perm, sublist, ?_, right⟩, expired, totalled⟩
  exact forall₂_mapIdx left fun index record => cooled_transition _ _ _

theorem Kept.purgeExpired (keeping : Kept premises archive) (clock : Nat → Int) :
    Kept premises (archive.perform premises (.purgeExpired clock)) := by
  obtain ⟨⟨kept, gone, perm, sublist, left, right⟩, expired, totalled⟩ := keeping
  obtain ⟨stays, leaves, split, shorter, held, dropped⟩ := forall₂_choose left
    (fun entry => !isRetentionExpired premises.parse entry.1 (clock entry.2)) 0
  refine ⟨⟨stays, gone ++ leaves, ?_, shorter.trans sublist, held, ?_⟩, ?_, totalled⟩
  · rw [← List.append_assoc]
    have regrouped : (stays ++ gone ++ leaves).Perm (stays ++ leaves ++ gone) := by
      rw [List.append_assoc, List.append_assoc]
      exact (List.perm_append_comm).append_left stays
    exact (regrouped.trans (split.append_right gone)).trans perm
  · rw [Archive.perform, List.map_append]
    refine List.rel_append right ?_
    simpa only [Bool.not_not, List.map_map, Function.comp_def] using dropped
  · intro entry member
    rcases List.mem_append.mp member with old | new
    · exact expired entry old
    · obtain ⟨found, chosen, rfl⟩ := List.mem_map.mp new
      obtain ⟨date, parsed, past⟩ := (Option.any_eq_true _ _).mp (List.mem_filter.mp chosen).2
      exact ⟨date, parsed, of_decide_eq_true past⟩

end Evergreen.Archival
