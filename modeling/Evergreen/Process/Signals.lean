import Evergreen.Process.Child

namespace Evergreen.Process

/-! # Whom the signals reach

`ChildProcess` keeps its child as a number.  The number denotes the child, or
nobody, for as long as the kernel does not give it to another process while it
is stored; then every signal reaches the child.
-/

/-- Every SIGTERM and SIGKILL went to the process that `start` spawned. -/
def OnlyOwnChild (system : System) : Prop :=
  ∀ sent ∈ system.sent, sent.signal = .sigterm ∨ sent.signal = .sigkill →
    some sent.target = sent.child

/-- The kernel does not give the stored PID to another process. -/
def SparesPid (system : System) : Label → Prop
  | .environment (.spawnOther pid _) => system.child.pid ≠ some pid
  | _ => True

instance (system : System) (label : Label) : Decidable (SparesPid system label) := by
  unfold SparesPid; split <;> infer_instance

/-- The stored PID denotes the spawned process or nobody. -/
structure Tracks (system : System) : Prop where
  owner : ∀ pid process, system.child.pid = some pid → system.kernel.table pid = some process →
    some process.serial = system.spawned
  valid : system.child.pid ≠ some 0
  stopping : ∀ stopping, system.stopping = some stopping → system.child.pid = some stopping.pid
  sent : OnlyOwnChild system

variable {system next : System} {kernel after : Kernel} {pid : Nat}

theorem Tracks.new (child : ChildProcess) (kernel : Kernel) (unstarted : child.pid = none) :
    Tracks (.new child kernel) where
  owner pid process stored := by
    rw [System.new, unstarted] at stored
    cases stored
  valid := by
    rw [System.new, unstarted]
    exact nofun
  stopping stopping stored := by cases stored
  sent sent member := by cases member

/-! ## What a kernel step leaves of the table -/

/-- No process of the first table was replaced by another one. -/
def KeepsSerials (kernel after : Kernel) : Prop :=
  ∀ pid process, after.table pid = some process →
    ∃ before, kernel.table pid = some before ∧ before.serial = process.serial

theorem keepsSerials_put {slot : Option Process} (same : ∀ process, slot = some process →
    ∃ before, kernel.table pid = some before ∧ before.serial = process.serial) :
    KeepsSerials kernel (kernel.put pid slot) := by
  intro other changed stored
  by_cases here : other = pid
  · subst here
    rw [Kernel.table_put, Function.update_self] at stored
    exact same changed stored
  · rw [Kernel.table_put, Function.update_of_ne here] at stored
    exact ⟨changed, stored, rfl⟩

theorem keepsSerials_replace {before process : Process} (found : kernel.table pid = some before)
    (same : process.serial = before.serial) :
    KeepsSerials kernel (kernel.put pid (some process)) := by
  apply keepsSerials_put
  rintro _ ⟨⟩
  exact ⟨before, found, same.symm⟩

theorem keepsSerials_remove : KeepsSerials kernel (kernel.put pid none) := by
  apply keepsSerials_put
  rintro _ ⟨⟩

theorem keepsSerials_exit {status : WaitStatus} (exited : kernel.exit pid status = some after) :
    KeepsSerials kernel after := by
  unfold Kernel.exit at exited
  split at exited
  · rename_i process found
    split at exited <;> cases exited
    exact keepsSerials_replace found rfl
  · cases exited

theorem keepsSerials_adopt (adopted : kernel.adopt pid = some after) : KeepsSerials kernel after := by
  obtain ⟨process, found, rfl⟩ := Option.map_eq_some_iff.mp adopted
  exact keepsSerials_replace found rfl

theorem keepsSerials_reap {waitable : Bool} (reaped : kernel.reap pid waitable = some after) :
    KeepsSerials kernel after := by
  unfold Kernel.reap at reaped
  split at reaped
  · split at reaped <;> cases reaped
    exact keepsSerials_remove
  · cases reaped

theorem keepsSerials_markSignalled : KeepsSerials kernel (kernel.markSignalled pid) := by
  unfold Kernel.markSignalled
  split
  · rename_i process found
    exact keepsSerials_replace found rfl
  · exact fun _ process stored => ⟨process, stored, rfl⟩

theorem table_spawn {waitable : Bool} {serial : Nat}
    (spawned : kernel.spawn pid waitable = some (after, serial)) :
    after.table = Function.update kernel.table pid (some ⟨serial, none, waitable, false⟩) := by
  unfold Kernel.spawn at spawned
  split at spawned <;> cases spawned
  rfl

theorem table_pidfdOpen {fd : Nat} (opened : kernel.pidfdOpen pid fd = some after) :
    after.table = kernel.table := by
  unfold Kernel.pidfdOpen at opened
  split at opened <;> cases opened
  rfl

/-! ## Steps that keep track of the child -/

theorem Tracks.keep (tracks : Tracks system) (keeps : KeepsSerials system.kernel next.kernel)
    (child : next.child.pid = system.child.pid) (stopping : next.stopping = system.stopping)
    (spawned : next.spawned = system.spawned) (sent : next.sent = system.sent) : Tracks next where
  owner pid process stored found := by
    obtain ⟨before, was, same⟩ := keeps pid process found
    rw [child] at stored
    rw [← same, spawned]
    exact tracks.owner pid before stored was
  valid := by
    rw [child]
    exact tracks.valid
  stopping current stored := by
    rw [child]
    exact tracks.stopping current (stopping ▸ stored)
  sent := by
    unfold OnlyOwnChild
    rw [sent]
    exact tracks.sent

theorem Tracks.spawnOther {waitable : Bool} {serial : Nat} (tracks : Tracks system)
    (spares : system.child.pid ≠ some pid)
    (spawned : system.kernel.spawn pid waitable = some (kernel, serial)) :
    Tracks { system with kernel := kernel } where
  owner other process stored found := by
    have elsewhere : other ≠ pid := fun here => spares (here ▸ stored)
    rw [table_spawn spawned, Function.update_of_ne elsewhere] at found
    exact tracks.owner other process stored found
  valid := tracks.valid
  stopping := tracks.stopping
  sent := tracks.sent

theorem Tracks.environment {event : Environment} (tracks : Tracks system)
    (spares : SparesPid system (.environment event)) (taken : system.environment event = some next) :
    Tracks next := by
  cases event with
  | spawnOther pid waitable =>
      obtain ⟨⟨kernel, serial⟩, spawned, rfl⟩ := Option.map_eq_some_iff.mp taken
      exact tracks.spawnOther spares spawned
  | adopt pid =>
      obtain ⟨kernel, adopted, rfl⟩ := Option.map_eq_some_iff.mp taken
      exact tracks.keep (keepsSerials_adopt adopted) rfl rfl rfl rfl
  | exit pid status =>
      obtain ⟨kernel, exited, rfl⟩ := Option.map_eq_some_iff.mp taken
      exact tracks.keep (keepsSerials_exit exited) rfl rfl rfl rfl
  | reap pid =>
      simp only [System.environment] at taken
      split at taken
      · obtain ⟨kernel, reaped, rfl⟩ := Option.map_eq_some_iff.mp taken
        exact tracks.keep (keepsSerials_reap reaped) rfl rfl rfl rfl
      · cases taken
  | reapElsewhere pid =>
      obtain ⟨kernel, reaped, rfl⟩ := Option.map_eq_some_iff.mp taken
      exact tracks.keep (keepsSerials_reap reaped) rfl rfl rfl rfl

theorem Tracks.adoptChild {serial : Nat} (tracks : Tracks system) (idle : system.stopping = none)
    (valid : pid ≠ 0) (spawned : system.kernel.spawn pid true = some (kernel, serial)) :
    Tracks (system.adoptChild kernel pid serial) where
  owner other process stored found := by
    cases stored
    simp only [System.adoptChild, table_spawn spawned, Function.update_self, Option.some.injEq] at found
    rw [← found]
    rfl
  valid stored := by
    cases stored
    exact valid rfl
  stopping current stored := by
    simp only [System.adoptChild, idle] at stored
    cases stored
  sent := tracks.sent

theorem Tracks.openPidfd {pidfd : Option Nat} (tracks : Tracks system)
    (opened : system.openPidfd pid pidfd = some next) : Tracks next := by
  cases pidfd with
  | none =>
      cases opened
      exact tracks
  | some fd =>
      obtain ⟨kernel, pidfdOpened, rfl⟩ := Option.map_eq_some_iff.mp opened
      refine tracks.keep (fun other process stored => ⟨process, ?_, rfl⟩) rfl rfl rfl rfl
      rw [← table_pidfdOpen pidfdOpened]
      exact stored

theorem Tracks.start {pidfd : Option Nat} {spawned : Except String Nat} {result : Except String Unit}
    (tracks : Tracks system) (idle : system.stopping = none)
    (started : system.start pidfd spawned = some (next, result)) : Tracks next := by
  cases spawned with
  | error error =>
      cases started
      exact tracks
  | ok pid =>
      obtain ⟨⟨kernel, serial⟩, spawned, started⟩ := Option.bind_eq_some_iff.mp started
      dsimp only at started
      split at started
      · rename_i zero
        cases started
        subst zero
        exact tracks.spawnOther tracks.valid spawned
      · rename_i valid
        obtain ⟨opened, pidfd, done⟩ := Option.map_eq_some_iff.mp started
        cases done
        exact (tracks.adoptChild idle valid spawned).openPidfd pidfd

theorem Tracks.kill (tracks : Tracks system) (signal : Signal) (stored : system.child.pid = some pid) :
    Tracks (system.kill signal pid) := by
  cases found : system.kernel.table pid with
  | none =>
      simp only [System.kill, found]
      exact tracks
  | some process =>
      have own : some process.serial = system.spawned := tracks.owner pid process stored found
      have kept : Tracks { system with kernel := system.kernel.markSignalled pid } :=
        tracks.keep keepsSerials_markSignalled rfl rfl rfl rfl
      simp only [System.kill, found]
      refine ⟨kept.owner, kept.valid, kept.stopping, fun sent member kind => ?_⟩
      rcases List.mem_append.mp member with before | now
      · exact tracks.sent sent before kind
      · cases List.mem_singleton.mp now
        exact own

theorem Tracks.moveTo {stopping : Stopping} (tracks : Tracks system)
    (stored : system.child.pid = some stopping.pid) (phase : StopPhase) :
    Tracks (system.moveTo stopping phase) where
  owner := tracks.owner
  valid := tracks.valid
  stopping current moved := by
    cases moved
    exact stored
  sent := tracks.sent

theorem Tracks.finishStop (tracks : Tracks system) : Tracks system.finishStop where
  owner pid process stored := by cases stored
  valid := nofun
  stopping current stored := by cases stored
  sent := tracks.sent

theorem Tracks.stopStep {stopping : Stopping} (tracks : Tracks system)
    (under : system.stopping = some stopping) (answer : System.Answer) :
    Tracks (system.stopStep stopping answer) := by
  have stored := tracks.stopping stopping under
  have sending : ∀ signal phase, Tracks ((system.kill signal stopping.pid).moveTo
      (System.countSignal stopping) phase) := fun signal phase =>
    (tracks.kill signal stored).moveTo (by rw [(System.kill_leaves _ _).1]; exact stored) phase
  cases phase : stopping.phase with
  | sigterm =>
      simp only [System.stopStep, phase]
      split
      · exact sending _ _
      · exact tracks.moveTo stored _
  | settling =>
      simp only [System.stopStep, phase]
      exact tracks.moveTo stored _
  | checkpoint =>
      simp only [System.stopStep, phase]
      exact tracks.moveTo stored _
  | polling =>
      simp only [System.stopStep, phase]
      exact tracks.moveTo stored _
  | verdict =>
      simp only [System.stopStep, phase]
      split
      · exact tracks.moveTo stored _
      · exact tracks.moveTo stored _
  | forcing =>
      simp only [System.stopStep, phase]
      split
      · exact sending _ _
      · exact tracks.moveTo stored _
  | forced =>
      simp only [System.stopStep, phase]
      exact tracks.moveTo stored _
  | returned cleanExit =>
      simp only [System.stopStep, phase]
      exact tracks.moveTo stored _
  | killing =>
      simp only [System.stopStep, phase]
      split
      · exact (tracks.kill .sigkill stored).moveTo (by rw [(System.kill_leaves _ _).1]; exact stored) _
      · exact tracks.moveTo stored _
  | finishing =>
      simp only [System.stopStep, phase]
      exact tracks.finishStop

/-! ## Whole runs -/

theorem Tracks.beginStop (tracks : Tracks system) : Tracks system.beginStop := by
  unfold System.beginStop
  split
  · rename_i pid stored
    refine ⟨tracks.owner, tracks.valid, fun current begun => ?_, tracks.sent⟩
    cases begun
    exact stored
  · exact tracks

theorem Tracks.step {label : Label} (tracks : Tracks system) (spares : SparesPid system label)
    (taken : machine.step system label = some next) : Tracks next := by
  cases label with
  | environment event => exact tracks.environment spares taken
  | start pidfd spawned =>
      cases under : system.stopping with
      | some stopping => simp [machine, System.step, under] at taken
      | none =>
          simp only [machine, System.step, under] at taken
          obtain ⟨⟨after, result⟩, started, rfl⟩ := Option.map_eq_some_iff.mp taken
          exact tracks.start under started
  | stop =>
      cases under : system.stopping with
      | some stopping => simp [machine, System.step, under] at taken
      | none =>
          simp only [machine, System.step, under] at taken
          cases taken
          exact tracks.beginStop
  | stopStep answer =>
      obtain ⟨stopping, under, rfl⟩ := Option.map_eq_some_iff.mp taken
      exact tracks.stopStep under answer
  | signal signal denied =>
      cases under : system.stopping with
      | some stopping => simp [machine, System.step, under] at taken
      | none =>
          cases stored : system.child.pid with
          | none =>
              simp only [machine, System.step, under, stored] at taken
              cases taken
              exact tracks
          | some pid =>
              simp only [machine, System.step, under, stored] at taken
              cases taken
              split
              · exact tracks.kill signal stored
              · exact tracks

/-- Signals reach only the spawned child throughout every run in which the
kernel does not give away a PID that `ChildProcess` still stores. -/
theorem always_onlyOwnChild (child : ChildProcess) (kernel : Kernel) (unstarted : child.pid = none)
    (labels : List Label) (spares : machine.Along SparesPid (.new child kernel) labels) :
    machine.Always OnlyOwnChild (.new child kernel) labels :=
  (Machine.always_of_along Tracks (fun _ _ _ tracks spares taken => tracks.step spares taken)
    (.new child kernel unstarted) spares).imp fun _ tracks => tracks.sent

/-- A child that ignores SIGTERM is killed, and then reaped. -/
theorem always_onlyOwnChild_killed :
    machine.Always OnlyOwnChild (.new (.new 5) .empty)
      [.start none (.ok 7), .stop, .stopStep ⟨false, false⟩, .stopStep ⟨false, true⟩,
        .stopStep ⟨false, false⟩, .stopStep ⟨false, false⟩, .environment (.exit 7 (.signaled 9)),
        .environment (.reap 7)] :=
  always_onlyOwnChild _ _ rfl _ (by decide)

/-- The child exits, the reaper reaps it, its PID goes to another process, and
`stop` sends that process the SIGTERM. -/
theorem not_always_onlyOwnChild :
    ¬ machine.Always OnlyOwnChild (.new (.new 5) .empty)
      [.start none (.ok 7), .environment (.exit 7 (.exited 1)), .environment (.reap 7),
        .environment (.spawnOther 7 true), .stop, .stopStep ⟨false, false⟩] := by
  intro always
  have only := always.last rfl
  have own := only ⟨.sigterm, 1, some 0⟩ (by decide) (.inl rfl)
  cases own

end Evergreen.Process
