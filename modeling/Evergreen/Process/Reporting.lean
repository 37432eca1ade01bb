import Evergreen.Process.Shutdown

namespace Evergreen.Process

/-! # What a shutdown reports

A session that has sent nothing but SIGTERM and finds no process any more may
report a clean exit.  Every handler reports one in that situation only.
-/

open Session

variable {target : Target} {session : Session target} {state : target.State}
variable {pid timeoutSecs : Nat} {signal : Signal}

theorem not_running (gone : session.isProcessAlive = false) : session.running = false :=
  target.not_running_of_not_found session.state gone

theorem sleep_dead (dead : session.running = false) (ms : Nat) : (session.sleep ms).running = false :=
  target.elapse_dead ms session.state dead

/-- Either the signal reached the process, or there is none any more. -/
theorem send_cases (session : Session target) (signal : Signal) :
    (session.send signal).2 = true ∧
        (session.send signal).1.signalsSent = session.signalsSent + 1 ∧
        (session.send signal).1.delivered = session.delivered ++ [signal] ∨
      (session.send signal).2 = false ∧ (session.send signal).1.running = false ∧
        (session.send signal).1.delivered = session.delivered := by
  by_cases alive : (session.sleep 0).isProcessAlive = true
  · left
    simp only [send, alive, if_true]
    exact ⟨trivial, rfl, rfl⟩
  · right
    simp only [send, alive, Bool.false_eq_true, if_false]
    exact ⟨trivial, not_running (Bool.eq_false_iff.mpr alive), rfl⟩

theorem poll_sent (sleeps : Nat) (session : Session target) :
    (poll sleeps session).1.signalsSent = session.signalsSent ∧
      (poll sleeps session).1.delivered = session.delivered := by
  induction sleeps generalizing session with
  | zero =>
      unfold poll
      split <;> exact ⟨rfl, rfl⟩
  | succ sleeps ih =>
      unfold poll
      split
      · exact ih (session.sleep 100)
      · exact ⟨rfl, rfl⟩

theorem poll_exited {sleeps : Nat} {session : Session target}
    (exited : (poll sleeps session).2 = true) : (poll sleeps session).1.running = false := by
  induction sleeps generalizing session with
  | zero =>
      unfold poll at exited ⊢
      by_cases alive : session.isProcessAlive = true
      · simp [alive] at exited
      · simp only [alive, Bool.false_eq_true, if_false]
        exact sleep_dead (not_running (Bool.eq_false_iff.mpr alive)) 0
  | succ sleeps ih =>
      unfold poll at exited ⊢
      by_cases alive : session.isProcessAlive = true
      · simp only [alive, if_true] at exited ⊢
        exact ih exited
      · simp only [alive, Bool.false_eq_true, if_false]
        exact sleep_dead (not_running (Bool.eq_false_iff.mpr alive)) 0

/-- SIGTERM has been sent, and nothing else. -/
structure Terminating (session : Session target) : Prop where
  signalsSent : session.signalsSent = 1
  delivered : session.delivered = [.sigterm]

namespace Terminating

theorem note (terminating : Terminating session) (line : String) : Terminating (session.note line) :=
  ⟨terminating.signalsSent, terminating.delivered⟩

theorem sleep (terminating : Terminating session) (ms : Nat) : Terminating (session.sleep ms) :=
  ⟨terminating.signalsSent, terminating.delivered⟩

theorem pollFor (terminating : Terminating session) (secs : Nat) :
    Terminating (session.pollFor secs).1 := by
  obtain ⟨signalsSent, delivered⟩ := poll_sent (target.sleepsWithin secs) session
  exact ⟨signalsSent.trans terminating.signalsSent, delivered.trans terminating.delivered⟩

theorem not_killed (terminating : Terminating session) : .sigkill ∉ session.delivered := by
  rw [terminating.delivered]
  decide

end Terminating

/-! ## What an outcome may say -/

/-- A clean exit is reported of a dead process that was sent SIGTERM alone. -/
def CleanAfterSigterm (outcome : Session target × ShutdownResult) : Prop :=
  outcome.2.cleanExit = true →
    outcome.2.signalsSent = 1 ∧ .sigkill ∉ outcome.1.delivered ∧ outcome.1.running = false

/-- The process is dead, or SIGKILL has reached it. -/
def DeadOrKilled (outcome : Session target × ShutdownResult) : Prop :=
  outcome.1.running = false ∨ .sigkill ∈ outcome.1.delivered

/-- SIGKILL is left to the caller, who is told that the process may be alive. -/
def LeavesKillToCaller (outcome : Session target × ShutdownResult) : Prop :=
  .sigkill ∉ outcome.1.delivered ∧
    (outcome.1.running = false ∨ outcome.2.cleanExit = false)

theorem cleanAfterSigterm_unclean {dbType : DatabaseType} :
    CleanAfterSigterm (session.result dbType false) := fun clean => by cases clean

/-- After SIGTERM alone a routine may report whatever is true of the process. -/
theorem Terminating.reports {dbType : DatabaseType} {clean : Bool} {line : String}
    (terminating : Terminating session) (dead : clean = true → session.running = false) :
    CleanAfterSigterm ((session.note line).result dbType clean) ∧
      LeavesKillToCaller ((session.note line).result dbType clean) := by
  refine ⟨fun exited => ⟨terminating.signalsSent, terminating.not_killed, dead exited⟩,
    terminating.not_killed, ?_⟩
  cases clean with
  | false => exact .inr rfl
  | true => exact .inl (dead rfl)

/-- The verdict of a handler that only looks whether the process is still there. -/
theorem running_of_verdict {session : Session target} (clean : (!session.isProcessAlive) = true) :
    session.running = false := not_running (by simpa using clean)

theorem sigterm_cases (state : target.State) (line : String) :
    (((begin state).note line).send .sigterm).2 = true ∧
        Terminating (((begin state).note line).send .sigterm).1 ∨
      (((begin state).note line).send .sigterm).2 = false ∧
        (((begin state).note line).send .sigterm).1.running = false ∧
        .sigkill ∉ (((begin state).note line).send .sigterm).1.delivered := by
  rcases send_cases ((begin state).note line) .sigterm with
    ⟨sent, signalsSent, delivered⟩ | ⟨failed, dead, delivered⟩
  · exact .inl ⟨sent, signalsSent, delivered⟩
  · refine .inr ⟨failed, dead, ?_⟩
    rw [delivered]
    exact List.not_mem_nil

/-! ## The handlers -/

theorem postgresShutdown_reports (state : target.State) (pid timeoutSecs : Nat) :
    CleanAfterSigterm (postgresShutdown state pid timeoutSecs) ∧
      LeavesKillToCaller (postgresShutdown state pid timeoutSecs) := by
  rcases sigterm_cases state s!"[1/4] Sending SIGTERM to PID {pid}" with
    ⟨sent, terminating⟩ | ⟨failed, dead, unkilled⟩
  · simp only [postgresShutdown, sent, if_true]
    split
    · split
      · exact (((((terminating.note _).sleep _).note _).sleep _).note _ |>.pollFor _).reports
          running_of_verdict
      · exact ((((terminating.note _).sleep _).note _).sleep _).reports running_of_verdict
    · rename_i gone
      exact ((terminating.note _).sleep _).reports fun _ => not_running (Bool.eq_false_iff.mpr gone)
  · simp only [postgresShutdown, failed, Bool.false_eq_true, if_false]
    exact ⟨cleanAfterSigterm_unclean, unkilled, .inl dead⟩

theorem redisShutdown_reports (state : target.State) (pid timeoutSecs : Nat) :
    CleanAfterSigterm (redisShutdown state pid timeoutSecs) ∧
      LeavesKillToCaller (redisShutdown state pid timeoutSecs) := by
  rcases sigterm_cases state s!"[1/3] Sending SIGTERM to PID {pid}" with
    ⟨sent, terminating⟩ | ⟨failed, dead, unkilled⟩
  · simp only [redisShutdown, sent, if_true]
    split
    · exact (((terminating.note _).sleep _).note _ |>.pollFor _).reports running_of_verdict
    · rename_i gone
      exact ((terminating.note _).sleep _).reports fun _ => not_running (Bool.eq_false_iff.mpr gone)
  · simp only [redisShutdown, failed, Bool.false_eq_true, if_false]
    exact ⟨cleanAfterSigterm_unclean, unkilled, .inl dead⟩

theorem sigkill_deadOrKilled (session : Session target) :
    (session.send .sigkill).1.running = false ∨ .sigkill ∈ (session.send .sigkill).1.delivered := by
  rcases send_cases session .sigkill with ⟨_, _, delivered⟩ | ⟨_, dead, _⟩
  · right
    rw [delivered]
    exact List.mem_append_right _ (List.mem_singleton_self _)
  · exact .inl dead

theorem genericShutdown_reports (state : target.State) (pid timeoutSecs : Nat) :
    CleanAfterSigterm (genericShutdown state pid timeoutSecs) ∧
      DeadOrKilled (genericShutdown state pid timeoutSecs) := by
  rcases sigterm_cases state s!"[1/3] Sending SIGTERM to PID {pid}" with
    ⟨sent, terminating⟩ | ⟨failed, dead, unkilled⟩
  · simp only [genericShutdown, sent, if_true]
    split
    · refine ⟨cleanAfterSigterm_unclean, ?_⟩
      exact (sigkill_deadOrKilled _).imp (fun dead => sleep_dead dead 500) id
    · rename_i gone
      have dead := not_running (Bool.eq_false_iff.mpr gone)
      exact ⟨((terminating.note _).pollFor _).reports (fun _ => dead) |>.1, .inl dead⟩
  · simp only [genericShutdown, failed, Bool.false_eq_true, if_false]
    exact ⟨cleanAfterSigterm_unclean, .inl dead⟩

theorem gracefulShutdownOf_reports (strategy : ShutdownStrategy) (state : target.State)
    (pid timeoutSecs : Nat) :
    DeadOrKilled (gracefulShutdownOf strategy state pid timeoutSecs) ∧
      ((gracefulShutdownOf strategy state pid timeoutSecs).2.cleanExit = true →
        (gracefulShutdownOf strategy state pid timeoutSecs).1.running = false) := by
  rcases sigterm_cases state s!"[1] Sending SIGTERM to PID {pid} ({strategy.toString})" with
    ⟨sent, terminating⟩ | ⟨failed, dead, unkilled⟩
  · simp only [gracefulShutdownOf, sent, if_true]
    split
    · rename_i gone
      have dead := running_of_verdict gone
      exact ⟨.inl dead, fun _ => dead⟩
    · split
      · rename_i exited
        have dead := poll_exited exited
        exact ⟨.inl dead, fun _ => dead⟩
      · refine ⟨?_, running_of_verdict⟩
        exact (sigkill_deadOrKilled _).imp
          (fun dead => target.elapse_dead _ _ (target.killAndWait_dead _ dead)) id
  · simp only [gracefulShutdownOf, failed, Bool.false_eq_true, if_false]
    exact ⟨.inl dead, fun _ => dead⟩

/-- A process that ignores SIGTERM. -/
def stubborn : Target where
  State := Bool
  found alive := alive
  running alive := alive
  deliver signal alive := if signal = .sigkill then false else alive
  elapse _ alive := alive
  killAndWait _ := false
  elapsedMs _ := 0
  sleepsWithin secs := secs * 10
  not_running_of_not_found _ gone := gone
  deliver_dead _ _ dead := by simp [dead]
  elapse_dead _ _ dead := dead
  killAndWait_dead _ _ := rfl

end Evergreen.Process
