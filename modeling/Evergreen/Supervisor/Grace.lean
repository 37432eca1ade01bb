import Evergreen.Supervisor.Monitor

namespace Evergreen.Supervisor

open Evergreen.Process (Environment System)

/-! # The restart within the startup grace

The loop restarts the child once, and goes on polling the descriptor it copied
before.  `stop` has closed that one, so that the copy is the new child's pidfd
only where the kernel gives the number out again.
-/

/-- A step that finds the child gone, with the seconds since the first start. -/
def exitObserved (shim : Shim) : Step → Option Nat
  | .probe elapsed => if shim.process.isRunning then none else some elapsed
  | .select (.readable elapsed) => some elapsed
  | _ => none

def Step.starts : Step → Bool
  | .start _ _ => true
  | _ => false

/-- The shim, its calls of `start` after the first, and the exits it observed. -/
structure Watched where
  shim : Shim
  restarts : Nat := 0
  observed : List Nat := []

def Watched.step (watched : Watched) (step : Step) : Option Watched :=
  (watched.shim.step step).map fun shim =>
    { shim
      restarts := watched.restarts +
        if watched.shim.stage = .graceStart ∧ step.starts = true then 1 else 0
      observed := watched.observed ++ (exitObserved watched.shim step).toList }

def watching : Machine Watched Step where
  step := Watched.step

/-- The child has not been restarted before, and its exit was observed within
the grace. -/
def RestartsInGrace (graceSecs : Nat) (watched : Watched) (step : Step) : Prop :=
  watched.shim.stage = .graceStart → step.starts = true →
    watched.restarts = 0 ∧ ∃ elapsed ∈ watched.observed, elapsed < graceSecs

/-- What `pidfd_readable` is given is the open pidfd of the managed child. -/
def WatchesChild (watched : Watched) : Prop :=
  watched.shim.stage = .selecting → ∀ fd, watched.shim.pidfd = some fd →
    watched.shim.process.child.pidfd = some fd ∧
      ∃ pid serial, watched.shim.process.child.pid = some pid ∧
        watched.shim.process.child.child = some serial ∧
        watched.shim.process.kernel.pidfds fd = some ⟨pid, serial⟩

/-- A restart of a child that is watched by a pidfd gives it the same number. -/
def Reopens (watched : Watched) (step : Step) : Prop :=
  ∀ pidfd pid, watched.shim.stage = .graceStart → step = .start pidfd (.ok pid) → pid ≠ 0 →
    watched.shim.pidfd = none ∨ pidfd = watched.shim.pidfd

theorem exitObserved_eq_some {shim : Shim} {step : Step} {elapsed : Nat}
    (observed : step = .probe elapsed ∧ shim.process.isRunning = false ∨
      step = .select (.readable elapsed)) : exitObserved shim step = some elapsed := by
  rcases observed with ⟨rfl, gone⟩ | rfl
  · rw [exitObserved, gone]
    rfl
  · rfl

/-! ## At most one restart -/

variable {shim next : Shim} {label : Step} {graceSecs : Nat} {watched after : Watched}

theorem startupGraceSecs_beginStop (system : System) :
    system.beginStop.child.startupGraceSecs = system.child.startupGraceSecs := by
  rw [system.beginStop_leaves.1]

/-- The shim may still restart its child if it has not done so, and is about to
only after an exit within the grace. -/
structure InGrace (graceSecs : Nat) (watched : Watched) : Prop where
  grace : watched.shim.process.child.startupGraceSecs = graceSecs
  fresh : watched.shim.graceRetried = false → watched.restarts = 0 ∧
    watched.shim.stage ≠ .graceStop ∧ watched.shim.stage ≠ .graceStart
  pending : watched.shim.stage = .graceStop ∨ watched.shim.stage = .graceStart →
    watched.restarts = 0 ∧ ∃ elapsed ∈ watched.observed, elapsed < graceSecs

theorem InGrace.restartsInGrace (inGrace : InGrace graceSecs watched) :
    RestartsInGrace graceSecs watched label :=
  fun stage _ => inGrace.pending (.inr stage)

/-- A step away from the restart keeps what was counted and observed. -/
theorem InGrace.keep {observed : List Nat} (inGrace : InGrace graceSecs watched)
    (grace : next.process.child.startupGraceSecs = watched.shim.process.child.startupGraceSecs)
    (retried : next.graceRetried = watched.shim.graceRetried)
    (stage : next.stage = watched.shim.stage ∨
      next.stage ≠ .graceStop ∧ next.stage ≠ .graceStart) :
    InGrace graceSecs ⟨next, watched.restarts, watched.observed ++ observed⟩ := by
  refine ⟨grace.trans inGrace.grace, fun unretried => ?_, fun restarting => ?_⟩
  · obtain ⟨unrestarted, apart⟩ := inGrace.fresh (retried.symm.trans unretried)
    rcases stage with same | other
    · exact ⟨unrestarted, same ▸ apart⟩
    · exact ⟨unrestarted, other⟩
  · rcases stage with same | other
    · obtain ⟨unrestarted, elapsed, member, soon⟩ := inGrace.pending (same ▸ restarting)
      exact ⟨unrestarted, elapsed, List.mem_append_left _ member, soon⟩
    · exact (restarting.elim other.1 other.2).elim

theorem InGrace.childExited {elapsed : Nat} (inGrace : InGrace graceSecs watched) :
    InGrace graceSecs
      ⟨watched.shim.childExited elapsed, watched.restarts, watched.observed ++ [elapsed]⟩ := by
  simp only [Shim.childExited]
  split
  case isTrue soon =>
      have unrestarted := (inGrace.fresh soon.2).1
      refine ⟨(startupGraceSecs_beginStop _).trans inGrace.grace, nofun, fun _ =>
        ⟨unrestarted, elapsed, ?_, ?_⟩⟩
      · exact List.mem_append_right _ (List.mem_singleton_self elapsed)
      · exact inGrace.grace ▸ soon.1
  case isFalse late => exact inGrace.keep rfl rfl (.inr ⟨nofun, nofun⟩)

theorem InGrace.restarted {restarts : Nat} {observed : List Nat}
    (inGrace : InGrace graceSecs watched) (restarting : watched.shim.stage = .graceStart)
    (grace : next.process.child.startupGraceSecs = watched.shim.process.child.startupGraceSecs)
    (retried : next.graceRetried = watched.shim.graceRetried)
    (stage : next.stage ≠ .graceStop ∧ next.stage ≠ .graceStart) :
    InGrace graceSecs ⟨next, restarts, observed⟩ where
  grace := grace.trans inGrace.grace
  fresh unretried := absurd restarting (inGrace.fresh (retried.symm.trans unretried)).2.2
  pending restarts := (restarts.elim stage.1 stage.2).elim

theorem InGrace.stopped (inGrace : InGrace graceSecs watched)
    (stage : watched.shim.stage = .graceStop) :
    InGrace graceSecs
      ⟨{ watched.shim with stage := .graceStart }, watched.restarts, watched.observed ++ []⟩ where
  grace := inGrace.grace
  fresh unretried := absurd stage (inGrace.fresh unretried).2.1
  pending _ := by
    rw [List.append_nil]
    exact inGrace.pending (.inl stage)

theorem startupGraceSecs_start {system process : System} {pidfd : Option Nat}
    {spawned : Except String Nat} {result : Except String Unit}
    (began : system.start pidfd spawned = some (process, result)) :
    process.child.startupGraceSecs = system.child.startupGraceSecs := by
  rcases System.start_cases began with ⟨_, _, _, child, _⟩ | ⟨_, _, _, _, _, child, _⟩
  · rw [child]
  · rw [child]

theorem startupGraceSecs_stopStep (system : System) (stopping : Process.Stopping)
    (answer : System.Answer) : (system.stopStep stopping answer).child.startupGraceSecs =
      system.child.startupGraceSecs := by
  rcases system.stopStep_cases stopping answer with finished | ⟨child, _⟩
  · rw [finished]
    rfl
  · rw [child]

theorem InGrace.restart (inGrace : InGrace graceSecs watched)
    (moves : Moves watched.shim label next)
    (stage : watched.shim.stage = .graceStart) (starts : label.starts = true) {restarts : Nat}
    {observed : List Nat} : InGrace graceSecs ⟨next, restarts, observed⟩ := by
  cases moves with
  | environment | stops | stopped | captured | finished | unwound => cases starts
  | started starting | failed starting => cases starting.symm.trans stage
  | restarted _ began | lost _ began =>
      exact inGrace.restarted stage (startupGraceSecs_start began) rfl ⟨nofun, nofun⟩
  | turns loop | exited loop => exact absurd stage (looping_apart (.inl loop)).2.2

theorem InGrace.step (inGrace : InGrace graceSecs watched)
    (taken : watching.step watched label = some after) : InGrace graceSecs after := by
  obtain ⟨next, moved, rfl⟩ := Option.map_eq_some_iff.mp taken
  have moves := moves_of_step moved
  by_cases restarting : watched.shim.stage = .graceStart ∧ label.starts = true
  · exact inGrace.restart moves restarting.1 restarting.2
  · rw [if_neg restarting, Nat.add_zero]
    cases moves with
    | environment _ ran =>
        obtain ⟨child, _⟩ := System.environment_leaves ran
        exact inGrace.keep (congrArg _ child) rfl (.inl rfl)
    | started stage began =>
        exact inGrace.keep (startupGraceSecs_start began) rfl (.inr ⟨nofun, nofun⟩)
    | failed stage began =>
        exact inGrace.keep (startupGraceSecs_start began) rfl (.inr ⟨nofun, nofun⟩)
    | turns loop target => exact inGrace.keep rfl rfl (.inr (looping_apart target).2)
    | exited loop observed =>
        rw [exitObserved_eq_some observed]
        exact inGrace.childExited
    | stops stage running => exact inGrace.keep (startupGraceSecs_stopStep _ _ _) rfl (.inl rfl)
    | stopped stage ended => exact inGrace.stopped stage
    | restarted stage began => exact absurd ⟨stage, rfl⟩ restarting
    | lost stage began => exact absurd ⟨stage, rfl⟩ restarting
    | captured stage =>
        exact inGrace.keep (startupGraceSecs_beginStop _) rfl (.inr ⟨nofun, nofun⟩)
    | finished stage ended => exact inGrace.keep rfl rfl (.inr ⟨nofun, nofun⟩)
    | unwound stage => exact inGrace.keep rfl rfl (.inr ⟨nofun, nofun⟩)

/-! ## The copied descriptor -/

variable {system process : System}

/-- A stored pidfd is open and refers to the stored child. -/
def OwnsPidfd (system : System) : Prop :=
  ∀ fd, system.child.pidfd = some fd → ∃ pid serial, system.child.pid = some pid ∧
    system.child.child = some serial ∧ system.kernel.pidfds fd = some ⟨pid, serial⟩

theorem OwnsPidfd.of_same (owns : OwnsPidfd system)
    (child : process.child = { system.child with state := process.child.state })
    (pidfds : process.kernel.pidfds = system.kernel.pidfds) : OwnsPidfd process := by
  intro fd stored
  rw [child] at stored
  obtain ⟨pid, serial, named, handled, opened⟩ := owns fd stored
  refine ⟨pid, serial, ?_, ?_, ?_⟩
  · rw [child]
    exact named
  · rw [child]
    exact handled
  · rw [pidfds]
    exact opened

/-- There is no pidfd before the first start, and none between a `stop` and the
start after it. -/
structure Settled (shim : Shim) : Prop where
  owns : OwnsPidfd shim.process
  unopened : shim.stage = .starting ∨ shim.stage = .graceStart → shim.process.child.pidfd = none
  stopped : shim.stage = .graceStop → shim.process.stopping = none →
    shim.process.child.pidfd = none

/-- In the loop the copy is the stored pidfd. -/
def Copied (shim : Shim) : Prop :=
  shim.stage.looping = true → shim.pidfd = none ∨ shim.pidfd = shim.process.child.pidfd

theorem watchesChild_of_copied (settled : Settled watched.shim) (copied : Copied watched.shim) :
    WatchesChild watched := by
  intro stage fd given
  rcases copied (by rw [stage]; rfl) with none | same
  · cases given.symm.trans none
  · have stored := same.symm.trans given
    exact ⟨stored, settled.owns fd stored⟩

theorem OwnsPidfd.start {pidfd : Option Nat} {spawned : Except String Nat}
    {result : Except String Unit} (owns : OwnsPidfd system) (unopened : system.child.pidfd = none)
    (began : system.start pidfd spawned = some (process, result)) : OwnsPidfd process := by
  rcases System.start_cases began with
    ⟨_, _, _, child, pidfds⟩ | ⟨pid, serial, _, _, _, child, _, opened⟩
  · exact owns.of_same (by rw [child]) pidfds
  · intro fd stored
    rw [child, unopened, Option.or_none] at stored
    exact ⟨pid, serial, by rw [child], by rw [child], opened fd stored⟩

theorem OwnsPidfd.stopStep (owns : OwnsPidfd system) (stopping : Process.Stopping)
    (answer : System.Answer) : OwnsPidfd (system.stopStep stopping answer) := by
  rcases system.stopStep_cases stopping answer with finished | ⟨child, pidfds, _⟩
  · rw [finished]
    exact nofun
  · exact owns.of_same (by rw [child]) pidfds

theorem OwnsPidfd.beginStop (owns : OwnsPidfd system) : OwnsPidfd system.beginStop := by
  obtain ⟨child, kernel, _⟩ := system.beginStop_leaves
  exact owns.of_same child (congrArg _ kernel)

/-- A `stop` that has nothing to do leaves no pidfd either. -/
theorem OwnsPidfd.closed (owns : OwnsPidfd system) (ended : system.beginStop.stopping = none) :
    system.beginStop.child.pidfd = none := by
  obtain ⟨child, _, unstarted⟩ := system.beginStop_leaves
  rw [child]
  cases stored : system.child.pidfd with
  | none => rfl
  | some fd =>
      obtain ⟨pid, serial, named, _⟩ := owns fd stored
      cases (unstarted ended).symm.trans named

theorem pidfd_stopStep_of_ended {stopping : Process.Stopping} {answer : System.Answer}
    (ended : (system.stopStep stopping answer).stopping = none) :
    (system.stopStep stopping answer).child.pidfd = none := by
  rcases system.stopStep_cases stopping answer with finished | ⟨_, _, running⟩
  · rw [finished]
    rfl
  · exact absurd ended running

/-- Away from the restart nothing but the stored pidfd matters. -/
theorem Settled.of_owns (owns : OwnsPidfd next.process) (started : next.stage ≠ .starting)
    (stopped : next.stage ≠ .graceStop) (restarted : next.stage ≠ .graceStart) : Settled next where
  owns := owns
  unopened unopened := (unopened.elim started restarted).elim
  stopped stage := absurd stage stopped

theorem Settled.childExited (settled : Settled shim) (elapsed : Nat) :
    Settled (shim.childExited elapsed) := by
  simp only [Shim.childExited]
  split
  case isTrue =>
      refine ⟨settled.owns.beginStop, fun stage => ?_, fun _ ended => settled.owns.closed ended⟩
      rcases stage with stage | stage <;> cases stage
  case isFalse => exact .of_owns settled.owns nofun nofun nofun

theorem Settled.step (settled : Settled watched.shim)
    (taken : watching.step watched label = some after) : Settled after.shim := by
  obtain ⟨next, moved, rfl⟩ := Option.map_eq_some_iff.mp taken
  have moves := moves_of_step moved
  change Settled next
  cases moves with
  | environment _ ran =>
      obtain ⟨child, stopping, pidfds⟩ := System.environment_leaves ran
      refine ⟨settled.owns.of_same (by rw [child]) pidfds, ?_, ?_⟩
      · rw [child]
        exact settled.unopened
      · rw [child, stopping]
        exact settled.stopped
  | started stage began =>
      exact .of_owns (settled.owns.start (settled.unopened (.inl stage)) began) nofun nofun nofun
  | restarted stage began =>
      exact .of_owns (settled.owns.start (settled.unopened (.inr stage)) began) nofun nofun nofun
  | failed stage began =>
      exact .of_owns (settled.owns.start (settled.unopened (.inl stage)) began) nofun nofun nofun
  | lost stage began =>
      exact .of_owns (settled.owns.start (settled.unopened (.inr stage)) began) nofun nofun nofun
  | turns loop target =>
      obtain ⟨started, stopped, restarted⟩ := looping_apart target
      exact .of_owns settled.owns started stopped restarted
  | exited loop observed => exact settled.childExited _
  | stops stage running =>
      refine ⟨settled.owns.stopStep _ _, fun unopened => ?_, fun _ => pidfd_stopStep_of_ended⟩
      rcases stage with stage | stage <;> rcases unopened with same | same <;>
        cases stage.symm.trans same
  | stopped stage ended =>
      exact ⟨settled.owns, fun _ => settled.stopped stage ended, nofun⟩
  | captured stage => exact .of_owns settled.owns.beginStop nofun nofun nofun
  | finished stage ended => exact .of_owns settled.owns nofun nofun nofun
  | unwound stage => exact .of_owns settled.owns nofun nofun nofun

theorem Copied.apart (apart : next.stage.looping = false) : Copied next :=
  fun loop => by cases apart.symm.trans loop

theorem Copied.step (copied : Copied watched.shim) (settled : Settled watched.shim)
    (reopens : Reopens watched label) (taken : watching.step watched label = some after) :
    Copied after.shim := by
  obtain ⟨next, moved, rfl⟩ := Option.map_eq_some_iff.mp taken
  have moves := moves_of_step moved
  change Copied next
  cases moves with
  | environment _ ran =>
      rw [Copied, (System.environment_leaves ran).1]
      exact copied
  | started stage began => exact fun _ => .inr rfl
  | restarted stage began =>
      intro _
      obtain ⟨_, failed, _⟩ | ⟨pid, serial, spawned, valid, _, child, _⟩ :=
        System.start_cases began
      · cases failed
      · have unopened := settled.unopened (.inr stage)
        rcases reopens _ pid stage (by rw [spawned]) valid with none | same
        · exact .inl none
        · rw [child, unopened, Option.or_none]
          exact .inr same.symm
  | failed | stopped | lost | captured | finished | unwound => exact .apart rfl
  | turns loop target => exact fun _ => copied loop
  | exited loop observed =>
      refine .apart ?_
      simp only [Shim.childExited]
      split <;> rfl
  | stops stage running =>
      refine .apart ?_
      rcases stage with stage | stage <;> exact congrArg Stage.looping stage

/-! ## Whole runs -/

/-- `run_shim` from the start of the child. -/
def Watched.boot (capabilities : List Capability) (startupGraceSecs : Nat)
    (kernel : Process.Kernel) : Watched where
  shim := .boot capabilities startupGraceSecs kernel

variable (capabilities : List Capability) (startupGraceSecs : Nat) (kernel : Process.Kernel)

theorem boot_stage : (Watched.boot capabilities startupGraceSecs kernel).shim.stage = .starting ∨
    ∃ exit, (Watched.boot capabilities startupGraceSecs kernel).shim.stage = .done exit := by
  simp only [Watched.boot, Shim.boot]
  split
  · exact .inl rfl
  · exact .inr ⟨_, rfl⟩

theorem inGrace_boot :
    InGrace startupGraceSecs (Watched.boot capabilities startupGraceSecs kernel) := by
  refine ⟨rfl, fun _ => ⟨rfl, ?_⟩, fun stage => ?_⟩
  · rcases boot_stage capabilities startupGraceSecs kernel with stage | ⟨exit, stage⟩ <;>
      rw [stage] <;> exact ⟨nofun, nofun⟩
  · rcases boot_stage capabilities startupGraceSecs kernel with boot | ⟨exit, boot⟩ <;>
      rcases stage with stage | stage <;> cases boot.symm.trans stage

theorem settled_boot : Settled (Watched.boot capabilities startupGraceSecs kernel).shim :=
  ⟨nofun, fun _ => rfl, fun _ _ => rfl⟩

theorem copied_boot : Copied (Watched.boot capabilities startupGraceSecs kernel).shim := by
  refine .apart ?_
  rcases boot_stage capabilities startupGraceSecs kernel with stage | ⟨exit, stage⟩
  · rw [stage]
    rfl
  · rw [stage]
    rfl

theorem run_iteration (stage : watched.shim.stage = .checking)
    (alive : watched.shim.process.isRunning = true) :
    watching.run watched [.check false, .probe 0] =
      some { watched with shim := { watched.shim with stage := .selecting } } := by
  obtain ⟨⟨process, capabilities, successful, current, pidfd, retried, died, exitCode⟩, _, _⟩ :=
    watched
  cases stage
  simp [Machine.run, watching, Watched.step, Shim.step, exitObserved, alive]

/-- After a restart that gives the child another number, the next iteration waits
for the old one. -/
theorem unwatched_of_not_reopens (settled : Settled watched.shim) (lost : ¬ Reopens watched label)
    (taken : watching.step watched label = some after) : ∃ selecting,
      watching.run after [.check false, .probe 0] = some selecting ∧ ¬ WatchesChild selecting := by
  simp only [Reopens, not_forall, not_or] at lost
  obtain ⟨pidfd, pid, stage, rfl, valid, copied, other⟩ := lost
  obtain ⟨fd, copied⟩ := Option.ne_none_iff_exists'.mp copied
  obtain ⟨next, moved, rfl⟩ := Option.map_eq_some_iff.mp taken
  cases moves_of_step moved with
  | started starting | failed starting => cases starting.symm.trans stage
  | turns loop | exited loop => exact absurd stage (looping_apart (.inl loop)).2.2
  | lost _ began =>
      obtain ⟨_, _, refused, _⟩ | ⟨_, _, _, _, succeeded, _⟩ := System.start_cases began
      · exact absurd (refused pid rfl) valid
      · cases succeeded
  | @restarted _ _ process _ began =>
      obtain ⟨_, failed, _⟩ | ⟨_, serial, spawned, _, _, child, running, _⟩ :=
        System.start_cases began
      · cases failed
      · cases spawned
        have unopened := settled.unopened (.inr stage)
        have alive : process.isRunning = true := by
          simp only [System.isRunning, child]
          exact running
        refine ⟨_, run_iteration rfl alive, fun watches => ?_⟩
        have stored : process.child.pidfd = some fd := (watches rfl fd copied).1
        rw [child, unopened, Option.or_none] at stored
        exact other (stored.trans copied.symm)

/-- The child is restarted at most once, within the grace.  The loop watches the
managed child in every run whose restart gets the number of the first pidfd
again, and after any other restart it can wait for the wrong one. -/
theorem restart_watched_iff_reopens (steps : List Step) :
    watching.Along (RestartsInGrace startupGraceSecs) (.boot capabilities startupGraceSecs kernel)
      steps ∧
    (watching.Along Reopens (.boot capabilities startupGraceSecs kernel) steps →
      watching.Always WatchesChild (.boot capabilities startupGraceSecs kernel) steps) ∧
    ∀ watched label after,
      watching.run (.boot capabilities startupGraceSecs kernel) steps = some watched →
      watching.step watched label = some after → ¬ Reopens watched label →
      ∃ selecting, watching.run after [.check false, .probe 0] = some selecting ∧
        ¬ WatchesChild selecting := by
  refine ⟨?_, fun reopens => ?_, fun watched label after reached taken lost => ?_⟩
  · have kept : ∀ watched label after, InGrace startupGraceSecs watched → True →
        watching.step watched label = some after → InGrace startupGraceSecs after :=
      fun _ _ _ inGrace _ taken => inGrace.step taken
    refine (Machine.along_iff_along (InGrace startupGraceSecs) ?_ kept
      (inGrace_boot capabilities startupGraceSecs kernel)).mpr
        (Machine.along_of_all fun _ _ => trivial)
    exact fun _ _ _ inGrace _ => iff_true_intro inGrace.restartsInGrace
  · have linked := Machine.always_of_along
      (fun watched : Watched => Settled watched.shim ∧ Copied watched.shim)
      (fun _ _ _ linked reopens taken =>
        ⟨linked.1.step taken, linked.2.step linked.1 reopens taken⟩)
      ⟨settled_boot capabilities startupGraceSecs kernel,
        copied_boot capabilities startupGraceSecs kernel⟩
      reopens
    exact linked.imp fun _ linked => watchesChild_of_copied linked.1 linked.2
  · have settled := (Machine.always_of_step (fun watched : Watched => Settled watched.shim)
      (fun _ _ _ settled taken => settled.step taken)
      (settled_boot capabilities startupGraceSecs kernel)).last reached
    exact unwatched_of_not_reopens settled lost taken

/-- The first child exits within the grace, and the second gets the next number. -/
def reopenedElsewhere : List Step :=
  [.start (some 3) (.ok 10), .environment (.exit 10 (.exited 1)), .environment (.reap 10),
    .check false, .probe 0, .stop ⟨false, false⟩, .stop ⟨false, false⟩, .stop ⟨false, false⟩,
    .stopped, .start (some 4) (.ok 11), .check false, .probe 1]

theorem closed_pidfd_watched :
    ¬ watching.Always WatchesChild (.boot [] 5 .empty) reopenedElsewhere := by
  intro always
  have watches := always.last rfl
  cases (watches rfl 3 rfl).1

end Evergreen.Supervisor
