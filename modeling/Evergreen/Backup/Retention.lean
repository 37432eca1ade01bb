import Evergreen.Backup.Shim
import Evergreen.Machine.Reactor

namespace Evergreen.Backup

/-! # What the history keeps

Backups are recorded, and a cleanup takes those out of the history that are older
than the retention.  Times are nanoseconds since the epoch.  A cleanup whose
cutoff is before the calendar begins panics, and the next call recovers the lock.
-/

/-- The state with the counter that only a cleanup moves. -/
structure RetentionState extends BackupState where
  backupsExpired : Nat := 0
deriving DecidableEq, Repr

def nanosPerDay : Int := 86400 * 10 ^ 9

/-- The first of January of the year -262143. -/
def earliest : Int := -8334601228800 * 10 ^ 9

def retentionCutoff (retentionDays : Nat) (now : Int) : Option Int :=
  let cutoff := now - retentionDays * nanosPerDay
  if earliest ≤ cutoff then some cutoff else none

namespace RetentionState

def recordBackup (state : RetentionState) (filename : String) (sizeBytes : Nat)
    (checksum : String) (createdAt lastBackup : Int) : RetentionState :=
  { state with
    toBackupState :=
      state.toBackupState.recordBackup filename sizeBytes checksum createdAt lastBackup }

def recordFailure (state : RetentionState) : RetentionState :=
  { state with toBackupState := state.toBackupState.recordFailure }

/-- The files that expire, for the caller to remove; `none` is a panic. -/
def cleanupRetention (state : RetentionState) (retentionDays : Nat) (now : Int) :
    Option (RetentionState × List String) :=
  (retentionCutoff retentionDays now).map fun cutoff =>
    let expired := (state.backupHistory.filter (·.createdAt < cutoff)).map (·.filename)
    let history := state.backupHistory.filter (cutoff ≤ ·.createdAt)
    ({ state with
        backupHistory := history
        backupsExpired := state.backupsExpired + (state.backupHistory.length - history.length)
        backupsRetained := history.length },
      expired)

end RetentionState

inductive RetentionCall where
  | recordBackup (entry : BackupEntry) (lastBackup : Int)
  | recordFailure
  | cleanup (now : Int)

/-- A call, and the files it returns. -/
def RetentionState.perform (retentionDays : Nat) (state : RetentionState) :
    RetentionCall → RetentionState × List String
  | .recordBackup entry lastBackup =>
      (state.recordBackup entry.filename entry.sizeBytes entry.checksum entry.createdAt lastBackup,
        [])
  | .recordFailure => (state.recordFailure, [])
  | .cleanup now => (state.cleanupRetention retentionDays now).getD (state, [])

def RetentionState.after (retentionDays : Nat) (state : RetentionState)
    (calls : List RetentionCall) : RetentionState :=
  calls.foldl (fun state call => (state.perform retentionDays call).1) state

/-- The files that the cleanups of a run return. -/
def RetentionState.expired (retentionDays : Nat) (state : RetentionState)
    (calls : List RetentionCall) : List String :=
  Reactor.outputs (RetentionState.perform retentionDays) state calls

def RetentionCall.recorded : RetentionCall → Option BackupEntry
  | .recordBackup entry _ => some entry
  | _ => none

/-- What the calls record, in order. -/
def recorded (calls : List RetentionCall) : List BackupEntry :=
  calls.flatMap fun call => call.recorded.toList

/-- The call takes the backup out of the history. -/
def RetentionCall.expires (retentionDays : Nat) (entry : BackupEntry) : RetentionCall → Bool
  | .cleanup now => (retentionCutoff retentionDays now).any (entry.createdAt < ·)
  | _ => false

def survives (retentionDays : Nat) (calls : List RetentionCall) (entry : BackupEntry) : Bool :=
  calls.all fun call => !call.expires retentionDays entry

/-- Every backup that is recorded and that no later cleanup takes out. -/
def kept (retentionDays : Nat) : List RetentionCall → List BackupEntry
  | [] => []
  | call :: calls => call.recorded.toList.filter (survives retentionDays calls) ++
      kept retentionDays calls

variable {retentionDays : Nat} {state : RetentionState} {call : RetentionCall}
variable {calls : List RetentionCall} {entry : BackupEntry}

/-! ## One call -/

theorem history_perform : (state.perform retentionDays call).1.backupHistory =
    state.backupHistory.filter (fun entry => !call.expires retentionDays entry) ++
      call.recorded.toList := by
  cases call with
  | recordBackup entry lastBackup =>
      exact congrArg (· ++ [entry]) (List.filter_eq_self.mpr fun _ _ => rfl).symm
  | recordFailure =>
      exact ((List.append_nil _).trans (List.filter_eq_self.mpr fun _ _ => rfl)).symm
  | cleanup now =>
      simp only [RetentionState.perform, RetentionState.cleanupRetention, RetentionCall.expires,
        RetentionCall.recorded, Option.toList_none, List.append_nil]
      cases retentionCutoff retentionDays now with
      | none => exact (List.filter_eq_self.mpr fun _ _ => rfl).symm
      | some cutoff =>
          refine List.filter_congr fun entry _ => ?_
          simp only [Option.any_some, ← decide_not, not_lt]

theorem expired_perform : (state.perform retentionDays call).2 =
    (state.backupHistory.filter (call.expires retentionDays)).map (·.filename) := by
  have none_expires : ∀ entries : List BackupEntry, entries.filter (fun _ => false) = [] :=
    fun entries => List.filter_eq_nil_iff.mpr fun _ _ => Bool.false_ne_true
  cases call with
  | cleanup now =>
      simp only [RetentionState.perform, RetentionState.cleanupRetention, RetentionCall.expires]
      cases retentionCutoff retentionDays now with
      | none => simp [none_expires]
      | some cutoff => rfl
  | _ => simp [RetentionState.perform, RetentionCall.expires, none_expires]

/-- The counters agree with the history and with each other. -/
structure Counted (state : RetentionState) : Prop where
  retained : state.backupsRetained = state.backupHistory.length
  success : state.backupSuccess = state.backupHistory.length + state.backupsExpired

theorem Counted.perform (counted : Counted state) : Counted (state.perform retentionDays call).1 := by
  cases call with
  | recordBackup entry lastBackup =>
      have success := counted.success
      refine ⟨(@List.length_append _ state.backupHistory [entry]).symm, ?_⟩
      simp only [RetentionState.perform, RetentionState.recordBackup, BackupState.recordBackup,
        List.length_append, List.length_singleton]
      omega
  | recordFailure => exact ⟨counted.retained, counted.success⟩
  | cleanup now =>
      simp only [RetentionState.perform, RetentionState.cleanupRetention]
      cases retentionCutoff retentionDays now with
      | none => exact counted
      | some cutoff =>
          refine ⟨rfl, ?_⟩
          have success := counted.success
          have fewer := List.length_filter_le (fun entry => decide (cutoff ≤ entry.createdAt))
            state.backupHistory
          simp only [Option.map_some, Option.getD_some]
          omega

theorem success_perform : (state.perform retentionDays call).1.backupSuccess =
    state.backupSuccess + call.recorded.toList.length := by
  cases call with
  | cleanup now =>
      simp only [RetentionState.perform, RetentionState.cleanupRetention]
      cases retentionCutoff retentionDays now with
      | none => rfl
      | some cutoff => rfl
  | _ => rfl

/-! ## Runs -/

theorem after_cons : state.after retentionDays (call :: calls) =
    (state.perform retentionDays call).1.after retentionDays calls := rfl

theorem survives_cons : survives retentionDays (call :: calls) entry =
    (!call.expires retentionDays entry && survives retentionDays calls entry) := rfl

theorem history_after : (state.after retentionDays calls).backupHistory =
    state.backupHistory.filter (survives retentionDays calls) ++ kept retentionDays calls := by
  induction calls generalizing state with
  | nil =>
      have all : state.backupHistory.filter (survives retentionDays []) = state.backupHistory :=
        List.filter_eq_self.mpr fun _ _ => rfl
      rw [all, kept, List.append_nil]
      rfl
  | cons call calls ih =>
      rw [after_cons, ih, history_perform, List.filter_append, List.filter_filter, kept,
        List.append_assoc]
      congr 1
      refine List.filter_congr fun entry _ => ?_
      rw [survives_cons, Bool.and_comm]

theorem Counted.after (counted : Counted state) (calls : List RetentionCall) :
    Counted (state.after retentionDays calls) := by
  induction calls generalizing state with
  | nil => exact counted
  | cons call calls ih => exact ih counted.perform

theorem recorded_cons : recorded (call :: calls) = call.recorded.toList ++ recorded calls :=
  List.flatMap_cons

theorem success_after : (state.after retentionDays calls).backupSuccess =
    state.backupSuccess + (recorded calls).length := by
  induction calls generalizing state with
  | nil => rfl
  | cons call calls ih =>
      rw [after_cons, ih, success_perform, recorded_cons, List.length_append, Nat.add_assoc]

/-- Every file is in the history or has been returned by one cleanup. -/
theorem files_after : (state.expired retentionDays calls ++
      (state.after retentionDays calls).backupHistory.map (·.filename)).Perm
    ((state.backupHistory ++ recorded calls).map (·.filename)) := by
  induction calls generalizing state with
  | nil =>
      rw [recorded, List.flatMap_nil, List.append_nil]
      rfl
  | cons call calls ih =>
      have parts : ((state.perform retentionDays call).2 ++
          (state.backupHistory.filter (fun entry => !call.expires retentionDays entry)).map
            (·.filename)).Perm (state.backupHistory.map (·.filename)) := by
        rw [expired_perform, ← List.map_append]
        exact (List.filter_append_perm _ _).map _
      have rest := @ih (state.perform retentionDays call).1
      rw [history_perform, List.append_assoc, ← recorded_cons, List.map_append] at rest
      have whole := (rest.append_left (state.perform retentionDays call).2).trans
        (List.append_assoc .. ▸ parts.append_right _)
      rw [← List.append_assoc, ← List.map_append] at whole
      exact whole

/-! ## A clock that does not step back -/

theorem kept_sublist : (kept retentionDays calls).Sublist (recorded calls) := by
  induction calls with
  | nil => exact List.Sublist.slnil
  | cons call calls ih =>
      rw [recorded_cons, kept]
      exact List.filter_sublist.append ih

theorem survives_of_le {later : BackupEntry} (older : entry.createdAt ≤ later.createdAt)
    (survived : survives retentionDays calls entry = true) :
    survives retentionDays calls later = true := by
  rw [survives, List.all_eq_true] at survived ⊢
  intro call made
  have stays := survived call made
  cases call with
  | cleanup now =>
      rw [RetentionCall.expires] at stays ⊢
      cases limit : retentionCutoff retentionDays now with
      | none => rfl
      | some cutoff =>
          rw [limit, Option.any_some, Bool.not_eq_true', decide_eq_false_iff_not, not_lt] at stays
          rw [Option.any_some, Bool.not_eq_true', decide_eq_false_iff_not, not_lt]
          exact stays.trans older
  | _ => rfl

/-- Where one backup survives, so do all that are newer. -/
theorem kept_eq_recorded (survived : survives retentionDays calls entry = true)
    (newer : ∀ later ∈ recorded calls, entry.createdAt ≤ later.createdAt) :
    kept retentionDays calls = recorded calls := by
  induction calls with
  | nil => rfl
  | cons call calls ih =>
      rw [survives_cons, Bool.and_eq_true] at survived
      rw [recorded_cons] at newer ⊢
      rw [kept, ih survived.2 fun later inside => newer later (List.mem_append_right _ inside)]
      congr 1
      refine List.filter_eq_self.mpr fun later inside => ?_
      exact survives_of_le (newer later (List.mem_append_left _ inside)) survived.2

/-- The cleanups take the oldest backups, whatever their order. -/
theorem kept_suffix (ordered : (recorded calls).Pairwise (·.createdAt ≤ ·.createdAt)) :
    kept retentionDays calls <:+ recorded calls := by
  induction calls with
  | nil => exact List.suffix_refl _
  | cons call calls ih =>
      rw [recorded_cons] at ordered ⊢
      have rest := (List.pairwise_append.mp ordered).2
      rw [kept]
      cases first : call.recorded with
      | none => exact ih rest.1
      | some entry =>
          rw [first] at rest
          cases survived : survives retentionDays calls entry with
          | true =>
              have same := kept_eq_recorded survived
                fun later inside => rest.2 entry (Option.mem_toList.mpr rfl) later inside
              rw [same]
              simp [survived]
          | false =>
              simpa [survived] using (ih rest.1).trans (List.suffix_cons entry _)

/-! ## The end of every run -/

/-- The run has lost no backup and keeps what no cleanup since has found too old. -/
structure Accounted (retentionDays : Nat) (calls : List RetentionCall)
    (last : RetentionState) (expired : List String) : Prop where
  history : last.backupHistory = kept retentionDays calls
  counted : Counted last
  success : last.backupSuccess = (recorded calls).length
  files : (expired ++ last.backupHistory.map (·.filename)).Perm
    ((recorded calls).map (·.filename))
  /-- With a clock that does not step back, the history has no holes. -/
  newest : (recorded calls).Pairwise (·.createdAt ≤ ·.createdAt) →
    last.backupHistory <:+ recorded calls

end Evergreen.Backup
