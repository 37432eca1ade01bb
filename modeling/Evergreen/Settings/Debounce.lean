import Evergreen.Settings.Watch

namespace Evergreen.Settings

/-! # Which changes the watcher loses

After every event it acts on the loop sleeps for the whole debounce interval, so
the next event is never too early.  Only `last_reload` starts at the instant the
loop is entered, and what comes in the interval after that is skipped.
-/

variable {Percent : Type}

namespace Watching

/-- A `Modify` event is in the channel or still to come. -/
def Pending (state : Watching Percent) : Prop :=
  Received.modify ∈ state.queue ∨ 0 < state.unannounced

/-- The loop waits, and nothing that it would act on is left. -/
def Drained (state : Watching Percent) : Prop :=
  state.phase = .receiving ∧ ¬ state.Pending

/-- The shared configuration is what the file parses to. -/
def UpToDate (validator : Validator Percent) (state : Watching Percent) : Prop :=
  ∀ config, state.content = .ok config → validator config = [] → state.watcher.config = config

/-- A `Modify` event taken less than the debounce interval after the start is
followed by another one, or has no news. -/
def SparesLast (debounce : Nat) (validator : Validator Percent) (state : Watching Percent) :
    Label Percent → Prop
  | .recv => ∀ queue, state.queue = .modify :: queue → state.now - state.started < debounce →
      { state with queue }.Pending ∨ state.UpToDate validator
  | _ => True

/-- News is on its way to the shared configuration, or the loop has ended. -/
def Underway (validator : Validator Percent) (state : Watching Percent) : Prop :=
  state.UpToDate validator ∨ state.Pending ∨ state.phase = .sleeping ∨ state.phase = .stopped

structure OnTime (debounce : Nat) (state : Watching Percent) : Prop where
  started : state.started ≤ state.lastReload
  elapsed : state.lastReload ≤ state.now
  settled : state.phase = .receiving →
    state.lastReload = state.started ∨ state.lastReload + debounce ≤ state.now

variable {debounce : Nat} {validator : Validator Percent} {state next : Watching Percent}
variable {label : Label Percent}

theorem Underway.upToDate (underway : state.Underway validator) (drained : state.Drained) :
    state.UpToDate validator := by
  obtain ⟨receiving, quiet⟩ := drained
  rcases underway with current | pending | sleeping | stopped
  · exact current
  · exact absurd pending quiet
  · exact absurd (receiving.symm.trans sleeping) (by decide)
  · exact absurd (receiving.symm.trans stopped) (by decide)

theorem OnTime.early_iff (onTime : state.OnTime debounce) (receiving : state.phase = .receiving) :
    state.elapsed < debounce ↔ state.now - state.started < debounce := by
  have started := onTime.started
  have elapsed := onTime.elapsed
  simp only [Watching.elapsed]
  rcases onTime.settled receiving with first | late
  · rw [first]
  · constructor <;> intro early <;> omega

theorem upToDate_reload {timestamp : Nat} : { state with
    watcher := state.watcher.reload validator timestamp state.content
    phase := .receiving }.UpToDate validator := by
  intro config parsed accepted
  have parsed : state.content = .ok config := parsed
  simp [ConfigWatcher.reload, parsed, accepted]

theorem upToDate_start (content : Content Percent) (metrics : Option ReloadMetrics) (now : Nat) :
    (start content metrics now).UpToDate validator := by
  intro config parsed _
  have parsed : content = .ok config := parsed
  simp [start, ConfigWatcher.new, parsed]

/-! ## One step -/

theorem step_announce {others : Nat}
    (taken : state.step debounce validator (.announce others) = some next) :
    next = { state with
      unannounced := state.unannounced - (others + 1)
      queue := state.queue ++ [.modify] } := by
  obtain ⟨_, same⟩ := Option.ite_none_right_eq_some.mp taken
  exact (Option.some.inj same).symm

theorem step_enter (taken : state.step debounce validator .enter = some next) :
    state.phase = .starting ∧
      next = { state with started := state.now, lastReload := state.now, phase := .receiving } := by
  obtain ⟨starting, same⟩ := Option.ite_none_right_eq_some.mp taken
  exact ⟨starting, (Option.some.inj same).symm⟩

theorem step_reload {timestamp : Nat}
    (taken : state.step debounce validator (.reload timestamp) = some next) :
    debounce ≤ state.now - state.lastReload ∧ next = { state with
      watcher := state.watcher.reload validator timestamp state.content
      phase := .receiving } := by
  obtain ⟨⟨_, slept⟩, same⟩ := Option.ite_none_right_eq_some.mp taken
  exact ⟨slept, (Option.some.inj same).symm⟩

/-- `recv` is the loop's only step that takes from the channel. -/
theorem step_recv (taken : state.step debounce validator .recv = some next) :
    ∃ received queue, state.phase = .receiving ∧ state.queue = received :: queue ∧
      next = { state with queue }.handle debounce received := by
  simp only [step] at taken
  split at taken
  · rename_i received queue receiving waiting
    exact ⟨received, queue, receiving, waiting, (Option.some.inj taken).symm⟩
  · cases taken

theorem OnTime.step (onTime : state.OnTime debounce)
    (taken : state.step debounce validator label = some next) : next.OnTime debounce := by
  obtain ⟨started, elapsed, settled⟩ := onTime
  cases label with
  | modify content =>
      cases taken
      exact ⟨started, elapsed, settled⟩
  | announce others =>
      rw [step_announce taken]
      exact ⟨started, elapsed, settled⟩
  | notify received =>
      cases taken
      exact ⟨started, elapsed, settled⟩
  | pass time =>
      cases taken
      refine ⟨started, Nat.le_add_right_of_le elapsed, fun receiving => ?_⟩
      exact (settled receiving).imp_right fun late => Nat.le_add_right_of_le late
  | enter =>
      rw [(step_enter taken).2]
      exact ⟨Nat.le_refl _, Nat.le_refl _, fun _ => .inl rfl⟩
  | recv =>
      obtain ⟨received, queue, receiving, waiting, rfl⟩ := step_recv taken
      cases received with
      | modify =>
          simp only [handle]
          split
          · exact ⟨started, elapsed, settled⟩
          · exact ⟨started.trans elapsed, Nat.le_refl _, fun receiving => by cases receiving⟩
      | other => exact ⟨started, elapsed, settled⟩
      | watchError => exact ⟨started, elapsed, fun receiving => by cases receiving⟩
      | channelError => exact ⟨started, elapsed, fun receiving => by cases receiving⟩
  | reload timestamp =>
      obtain ⟨slept, rfl⟩ := step_reload taken
      have settled : state.lastReload + debounce ≤ state.now := by omega
      exact ⟨started, elapsed, fun _ => .inr settled⟩

/-- The step that may lose a change is the one that skips an event. -/
theorem Underway.step (underway : state.Underway validator) (onTime : state.OnTime debounce)
    (spared : state.SparesLast debounce validator label)
    (taken : state.step debounce validator label = some next) : next.Underway validator := by
  cases label with
  | modify content =>
      cases taken
      exact .inr (.inl (.inr (Nat.succ_pos _)))
  | announce others =>
      rw [step_announce taken]
      exact .inr (.inl (.inl (by simp)))
  | notify received =>
      cases taken
      refine underway.imp_right (Or.imp_left (Or.imp_left ?_))
      exact List.mem_append_left _
  | pass time =>
      cases taken
      exact underway
  | enter =>
      obtain ⟨starting, rfl⟩ := step_enter taken
      rcases underway with current | pending | sleeping | stopped
      · exact .inl current
      · exact .inr (.inl pending)
      · exact absurd (starting.symm.trans sleeping) (by decide)
      · exact absurd (starting.symm.trans stopped) (by decide)
  | recv =>
      obtain ⟨received, queue, receiving, waiting, rfl⟩ := step_recv taken
      cases received with
      | modify =>
          simp only [handle]
          split
          · rename_i early
            have early : state.elapsed < debounce := early
            have soon := (onTime.early_iff receiving).mp early
            rcases spared queue waiting soon with pending | current
            · exact .inr (.inl pending)
            · exact .inl current
          · exact .inr (.inr (.inl rfl))
      | other =>
          by_cases pending : state.Pending
          · refine .inr (.inl (pending.imp_left fun member => ?_))
            rw [waiting] at member
            exact (List.mem_cons.mp member).resolve_left (by decide)
          · exact .inl (underway.upToDate ⟨receiving, pending⟩)
      | watchError => exact .inr (.inr (.inr rfl))
      | channelError => exact .inr (.inr (.inr rfl))
  | reload timestamp =>
      rw [(step_reload taken).2]
      exact .inl upToDate_reload

/-- An event skipped with nothing after it leaves the change unread. -/
theorem step_stale (onTime : state.OnTime debounce)
    (unspared : ¬ state.SparesLast debounce validator label)
    (taken : state.step debounce validator label = some next) :
    next.Drained ∧ ¬ next.UpToDate validator := by
  cases label with
  | recv =>
      obtain ⟨received, queue, receiving, waiting, rfl⟩ := step_recv taken
      simp only [SparesLast, not_forall, not_or] at unspared
      obtain ⟨rest, same, soon, quiet, stale⟩ := unspared
      obtain ⟨rfl, rfl⟩ := List.cons.inj (waiting.symm.trans same)
      have early : { state with queue }.elapsed < debounce := (onTime.early_iff receiving).mpr soon
      simp only [handle, early, if_true]
      exact ⟨⟨receiving, quiet⟩, stale⟩
  | _ => exact absurd trivial unspared

end Watching

open Watching

/-- A file with a longer timeout, written and announced just after the start. -/
def earlyChange : List (Label Nat) :=
  [.enter, .pass 10, .modify (.ok { health := { timeoutSecs := 7 } }), .announce 0, .recv]

end Evergreen.Settings
