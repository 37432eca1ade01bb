import Evergreen.Machine.Run
import Evergreen.Reload.Shim
import Evergreen.Text.Hex
import Mathlib.Data.List.Basic

namespace Evergreen.Reload

/-! # The child against the file

What an observer keeps beside the shim: whether the child has been told of the
last change, which content was accepted last, and which contents have a failed
reload as their last one.
-/

structure Session where
  shim : ConfigShim
  world : World
  untold : Bool := false
  accepted : Option Bytes := none
  failed : List Bytes := []

inductive Event where
  | write (content : Option Bytes)
  | setChildPid (pid : Nat)
  | reload (answers : Answers)

namespace Session

variable (fileHash : FileHash) (session : Session)

/-- The child is started with the file as it is, and `start` remembers it. -/
def started (shim : ConfigShim) (pid : Nat) (config : Option Bytes) : Session where
  shim := (shim.setChildPid pid).start fileHash { config }
  world := { config }
  accepted := config

def reload (answers : Answers) : Except String ReloadEvent × ConfigShim × World :=
  session.shim.reload fileHash answers session.world

def signalled (answers : Answers) : Bool :=
  (session.reload fileHash answers).2.2.signals ≠ session.world.signals

def observe (session : Session) : Event → Session
  | .write content =>
      { session with
        world := { session.world with config := content }
        untold := session.untold || content ≠ session.world.config }
  | .setChildPid pid => { session with shim := session.shim.setChildPid pid }
  | .reload answers =>
      let returned := (session.reload fileHash answers).1.isOk
      { shim := (session.reload fileHash answers).2.1
        world := (session.reload fileHash answers).2.2
        untold := session.untold && !session.signalled fileHash answers
        accepted := if returned then session.world.config else session.accepted
        failed := if returned then session.failed.filter (some · ≠ session.world.config)
          else session.world.config.toList ++ session.failed }

end Session

def sessions (fileHash : FileHash) : Machine Session Event := .ofFunction (Session.observe fileHash)

/-- A reload that returns `Ok` leaves the child told, one of content whose last
reload failed does not skip it, and one that replaces an accepted version leaves
that version in the backup. -/
structure InStep (fileHash : FileHash) (session : Session) (answers : Answers) : Prop where
  told : (session.reload fileHash answers).1.isOk = true →
    (session.observe fileHash (.reload answers)).untold = false
  retried : ∀ content ∈ session.failed, session.world.config = some content →
    (session.reload fileHash answers).1.isOk = true → session.signalled fileHash answers = true
  backedUp : ∀ content previous, session.world.config = some content →
    session.shim.lastHash ≠ some (fileHash.hash content) → session.accepted = some previous →
      session.shim.keepBackup = true → (session.reload fileHash answers).1.isOk = true →
        (session.observe fileHash (.reload answers)).world.backup = some previous

def KeepsInStep (fileHash : FileHash) (session : Session) : Event → Prop
  | .reload answers => InStep fileHash session answers
  | _ => True

/-- The remembered content is found only by a child that has been told, and with
backups what goes through is the accepted version. -/
structure Spares (fileHash : FileHash) (session : Session) (answers : Answers) : Prop where
  remembered : ∀ content, session.world.config = some content →
    session.shim.lastHash = some (fileHash.hash content) → session.untold = false
  replaced : ∀ content previous, session.world.config = some content →
    session.shim.lastHash ≠ some (fileHash.hash content) → session.accepted = some previous →
      session.shim.keepBackup = true → session.shim.GoesThrough answers → content = previous

def SparesStep (fileHash : FileHash) (session : Session) : Event → Prop
  | .reload answers => Spares fileHash session answers
  | _ => True

/-- The child is there, and once it has been told the shim remembers the file and
the file has not failed. -/
structure Tracked (fileHash : FileHash) (session : Session) : Prop where
  child : ∃ pid, session.shim.childPid = some pid
  remembers : session.untold = false →
    session.shim.lastHash = session.world.config.map fileHash.hash ∧
      ∀ content ∈ session.failed, session.world.config ≠ some content

variable {fileHash : FileHash} {session : Session} {answers : Answers}

/-! ## One reload -/

theorem inStep_of_failed {error : String}
    (failed : (session.reload fileHash answers).1 = .error error) :
    InStep fileHash session answers := by
  have refused : (session.reload fileHash answers).1.isOk = false := by rw [failed]; rfl
  constructor
  · intro returned
    exact Bool.noConfusion (refused.symm.trans returned)
  · intro content _ _ returned
    exact Bool.noConfusion (refused.symm.trans returned)
  · intro content previous _ _ _ _ returned
    exact Bool.noConfusion (refused.symm.trans returned)

theorem untold_reload : (session.observe fileHash (.reload answers)).untold =
    (session.untold && !session.signalled fileHash answers) := rfl

theorem inStep_iff_of_remembered {content : Bytes} (tracked : Tracked fileHash session)
    (found : session.world.config = some content)
    (same : session.shim.lastHash = some (fileHash.hash content)) :
    InStep fileHash session answers ↔ session.untold = false := by
  obtain ⟨event, skipped⟩ := @reload_unchanged fileHash session.shim answers session.world _ found same
  have returned : (session.reload fileHash answers).1.isOk = true := by
    rw [Session.reload, skipped]
    rfl
  have silent : session.signalled fileHash answers = false := by
    rw [Session.signalled, Session.reload, skipped]
    exact decide_eq_false (not_not_intro rfl)
  have untold : (session.observe fileHash (.reload answers)).untold = session.untold := by
    rw [untold_reload, silent, Bool.not_false, Bool.and_true]
  constructor
  · intro inStep
    exact untold.symm.trans (inStep.told returned)
  · intro told
    refine ⟨fun _ => untold.trans told, ?_, ?_⟩
    · intro content failed held
      exact absurd held ((tracked.remembers told).2 content failed)
    · intro other previous held changed
      rw [Option.some.inj (held.symm.trans found)] at changed
      exact absurd same changed

theorem inStep_iff_of_through {content : Bytes} (tracked : Tracked fileHash session)
    (found : session.world.config = some content)
    (changed : session.shim.lastHash ≠ some (fileHash.hash content))
    (through : session.shim.GoesThrough answers) :
    InStep fileHash session answers ↔ ∀ previous, session.accepted = some previous →
      session.shim.keepBackup = true → content = previous := by
  obtain ⟨pid, child⟩ := tracked.child
  obtain ⟨event, next, after, reloaded, _, _, _, signals, copy⟩ :=
    reload_goesThrough child found changed through
  have result : session.reload fileHash answers = (.ok event, next, after) := reloaded
  have returned : (session.reload fileHash answers).1.isOk = true := by
    rw [result]
    rfl
  have signalled : session.signalled fileHash answers = true := by
    rw [Session.signalled, result, signals]
    exact decide_eq_true (List.cons_ne_self _ _)
  have backup : (session.observe fileHash (.reload answers)).world.backup = after.backup := by
    rw [Session.observe, result]
  constructor
  · intro inStep previous accepted keep
    have kept := inStep.backedUp content previous found changed accepted keep returned
    exact Option.some.inj ((copy keep).symm.trans (backup.symm.trans kept))
  · intro replaced
    refine ⟨fun _ => ?_, fun _ _ _ _ => signalled, ?_⟩
    · rw [untold_reload, signalled, Bool.not_true, Bool.and_false]
    · intro other previous held _ accepted keep _
      rw [backup, copy keep, replaced previous accepted keep]

theorem spares_iff {content : Bytes} (found : session.world.config = some content) :
    Spares fileHash session answers ↔
      (session.shim.lastHash = some (fileHash.hash content) → session.untold = false) ∧
      (session.shim.lastHash ≠ some (fileHash.hash content) → ∀ previous,
        session.accepted = some previous → session.shim.keepBackup = true →
          session.shim.GoesThrough answers → content = previous) := by
  have only : ∀ other, session.world.config = some other → content = other := fun other held =>
    Option.some.inj (found.symm.trans held)
  constructor
  · intro spares
    exact ⟨spares.remembered content found, fun changed previous =>
      spares.replaced content previous found changed⟩
  · rintro ⟨remembered, replaced⟩
    constructor
    · intro other held same
      exact remembered (only other held ▸ same)
    · intro other previous held changed accepted keep through
      have equal := only other held
      exact equal ▸ replaced (equal ▸ changed) previous accepted keep through

theorem inStep_iff (tracked : Tracked fileHash session) :
    InStep fileHash session answers ↔ Spares fileHash session answers := by
  obtain ⟨pid, child⟩ := tracked.child
  cases found : session.world.config with
  | none =>
      have failed : (session.reload fileHash answers).1 = _ :=
        congrArg Prod.fst (reload_unreadable found)
      exact iff_of_true (inStep_of_failed failed) ⟨by simp [found], by simp [found]⟩
  | some content =>
      rw [spares_iff found]
      by_cases same : session.shim.lastHash = some (fileHash.hash content)
      · rw [inStep_iff_of_remembered tracked found same]
        constructor
        · intro told
          exact ⟨fun _ => told, fun changed => absurd same changed⟩
        · intro spares
          exact spares.1 same
      · by_cases through : session.shim.GoesThrough answers
        · rw [inStep_iff_of_through tracked found same through]
          constructor
          · intro replaced
            exact ⟨fun remembered => absurd remembered same,
              fun _ previous accepted keep _ => replaced previous accepted keep⟩
          · intro spares previous accepted keep
            exact spares.2 same previous accepted keep through
        · obtain ⟨error, next, after, reloaded, _, _⟩ := reload_fails child found same through
          apply iff_of_true (inStep_of_failed (congrArg Prod.fst reloaded))
          exact ⟨fun remembered => absurd remembered same,
            fun _ previous _ _ goes => absurd goes through⟩

/-! ## The runs -/

/-- A reload that sends no signal and keeps what the shim remembers. -/
theorem Tracked.silent (tracked : Tracked fileHash session) {result : Except String ReloadEvent}
    (reloaded : session.reload fileHash answers = (result, session.shim, session.world))
    (unfailed : result.isOk = true ∨ session.world.config = none) :
    Tracked fileHash (session.observe fileHash (.reload answers)) := by
  have silent : session.signalled fileHash answers = false := by
    rw [Session.signalled, reloaded]
    exact decide_eq_false (not_not_intro rfl)
  rw [Session.observe, silent, reloaded, Bool.not_false, Bool.and_true]
  refine ⟨tracked.child, fun told => ?_⟩
  obtain ⟨remembers, fresh⟩ := tracked.remembers told
  refine ⟨remembers, fun content member => ?_⟩
  cases returned : result.isOk with
  | true =>
      rw [returned, if_pos rfl] at member
      exact fresh content (List.mem_filter.mp member).1
  | false =>
      have missing := unfailed.resolve_left (Bool.not_eq_true _ ▸ returned)
      rw [missing]
      intro held
      cases held

theorem Tracked.reload (tracked : Tracked fileHash session) (answers : Answers) :
    Tracked fileHash (session.observe fileHash (.reload answers)) := by
  obtain ⟨pid, child⟩ := tracked.child
  cases found : session.world.config with
  | none => exact tracked.silent (reload_unreadable found) (.inr found)
  | some content =>
      by_cases same : session.shim.lastHash = some (fileHash.hash content)
      · obtain ⟨event, skipped⟩ :=
          @reload_unchanged fileHash session.shim answers session.world _ found same
        exact tracked.silent skipped (.inl rfl)
      · by_cases through : session.shim.GoesThrough answers
        · obtain ⟨event, next, after, reloaded, childPid, lastHash, config, _, _⟩ :=
            reload_goesThrough child found same through
          have result : session.reload fileHash answers = (.ok event, next, after) := reloaded
          rw [Session.observe, result]
          refine ⟨⟨pid, childPid.trans child⟩, fun _ => ⟨?_, fun other member => ?_⟩⟩
          · exact lastHash.trans (by rw [config, found]; rfl)
          · have differs : some other ≠ session.world.config :=
              of_decide_eq_true (List.mem_filter.mp member).2
            exact fun held => differs (held.symm.trans config)
        · obtain ⟨error, next, after, reloaded, childPid, kept⟩ :=
            reload_fails child found same through
          have result : session.reload fileHash answers = (.error error, next, after) := reloaded
          have silent : session.signalled fileHash answers = false := by
            rw [Session.signalled, result]
            exact decide_eq_false (not_not_intro kept.signals)
          rw [Session.observe, silent, result, Bool.not_false, Bool.and_true]
          refine ⟨⟨pid, childPid.trans child⟩, fun told => ?_⟩
          -- a child that was told has nothing new to be told
          exact absurd ((tracked.remembers told).1.trans (by rw [found]; rfl)) same

theorem Tracked.observe (tracked : Tracked fileHash session) (event : Event) :
    Tracked fileHash (session.observe fileHash event) := by
  cases event with
  | write content =>
      refine ⟨tracked.child, fun told => ?_⟩
      obtain ⟨before, unchanged⟩ := Bool.or_eq_false_iff.mp told
      have same : content = session.world.config := not_not.mp (of_decide_eq_false unchanged)
      rw [Session.observe, same]
      exact tracked.remembers before
  | setChildPid pid => exact ⟨⟨pid, rfl⟩, tracked.remembers⟩
  | reload answers => exact tracked.reload answers

theorem tracked_started (fileHash : FileHash) (shim : ConfigShim) (pid : Nat)
    (config : Option Bytes) : Tracked fileHash (.started fileHash shim pid config) where
  child := ⟨pid, rfl⟩
  remembers := fun _ => ⟨rfl, nofun⟩

/-- The child stays in step exactly when no reload finds the content it remembers
while the child is still to be told of a change, and with backups none goes through
that has to keep another accepted version. -/
theorem keepsInStep_iff (fileHash : FileHash) (shim : ConfigShim) (pid : Nat)
    (config : Option Bytes) (events : List Event) :
    (sessions fileHash).Along (KeepsInStep fileHash) (.started fileHash shim pid config) events ↔
      (sessions fileHash).Along (SparesStep fileHash) (.started fileHash shim pid config)
        events := by
  apply Machine.along_ofFunction_iff_along (Tracked fileHash) ?_ ?_
    (tracked_started fileHash shim pid config)
  · intro session event tracked
    cases event with
    | write content => exact .rfl
    | setChildPid pid => exact .rfl
    | reload answers => exact inStep_iff tracked
  · intro session event tracked _
    exact tracked.observe event

def hexHash : FileHash where
  hash := Text.hexEncode
  injective content other same := by
    have decoded := congrArg Text.hexDecode same
    rwa [Text.hexDecode_hexEncode, Text.hexDecode_hexEncode, Option.some_inj] at decoded

/-- The signal fails once and is not sent when the same content is reloaded. -/
theorem failed_signal_not_resent :
    ¬ (sessions hexHash).Along (KeepsInStep hexHash) (.started hexHash {} 7 (some [1]))
      [.write (some [2]),
        .reload { validation := .finished true "", copying := .done, kill := some "ESRCH", now := 0 },
        .reload { validation := .finished true "", copying := .done, kill := none, now := 1 }] := by
  intro along
  obtain ⟨_, along⟩ := along _ rfl
  obtain ⟨_, along⟩ := along _ rfl
  obtain ⟨inStep, _⟩ := along _ rfl
  have told := inStep.told (by decide)
  revert told
  decide

end Evergreen.Reload
