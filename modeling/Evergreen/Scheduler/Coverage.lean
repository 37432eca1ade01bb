import Evergreen.Scheduler.Loop

namespace Evergreen.Scheduler

/-! # Which occurrences the loop fires

A round of clock readings puts every occurrence up to them behind the loop,
because `upcoming` looks strictly after the clock.  One handler is called
between two rounds, so an occurrence is lost as soon as two of them, or one
that no call stands for, lie between two rounds.
-/

/-- The occurrence belongs to the valid task at this index, by the task's own schedule. -/
def SchedulerShim.OccurrenceAt (shim : SchedulerShim) (index : Nat) (firing : Firing) : Prop :=
  ∃ task schedule, shim.validTasks[index]? = some task ∧ task.name = firing.taskName ∧
    shim.fromStr task.schedule = some schedule ∧ schedule.occurs firing.time

/-- Some task of that name has read the clock after the occurrence. -/
def SchedulerShim.Behind (shim : SchedulerShim) (readings : List Int) (firing : Firing) : Prop :=
  ∃ index reading, shim.OccurrenceAt index firing ∧ readings[index]? = some reading ∧
    firing.time ≤ reading

def Loop.BeforeShutdown (loop : Loop) (time : Int) : Prop :=
  ∀ shutdown, loop.shutdownAt = some shutdown → time < shutdown

def Loop.Owed (loop : Loop) (firing : Firing) : Prop :=
  loop.startedAt < firing.time ∧ loop.BeforeShutdown firing.time

/-- Whatever is owed and behind the loop has been fired. -/
def Covered (shim : SchedulerShim) (loop : Loop) : Prop :=
  ∀ firing, shim.Behind loop.seen firing → loop.Owed firing → firing ∈ loop.firings

/-- The owed occurrence gets behind the loop with these readings. -/
def Falls (shim : SchedulerShim) (loop : Loop) (readings : List Int) (firing : Firing) : Prop :=
  shim.Behind readings firing ∧ ¬ shim.Behind loop.seen firing ∧ loop.Owed firing

/-- The occurrences that fall with a round are at most one, and one only where
the loop has called a handler since the round before, for a time before the
shutdown. -/
def Sparse (shim : SchedulerShim) (loop : Loop) (label : Label) : Prop :=
  ∀ readings, label.readings shim.validTasks.length = some readings →
    ∀ firing, Falls shim loop readings firing →
      (∃ called, loop.last = some called ∧ loop.BeforeShutdown called.time) ∧
        ∀ other, Falls shim loop readings other → other = firing

variable {shim : SchedulerShim} {loop next : Loop} {label : Label} {firing : Firing}
variable {readings : List Int} {now : Int}

/-! ## What a step does -/

def Phase.picked : Phase → Option Firing
  | .sleeping fireTime taskName _ => some ⟨taskName, fireTime⟩
  | .due fireTime taskName => some ⟨taskName, fireTime⟩
  | _ => none

/-- The chosen time has come once the loop no longer sleeps. -/
def Phase.Timely (phase : Phase) (clock : Int) : Prop :=
  ∀ fireTime taskName, phase = .due fireTime taskName → fireTime ≤ clock

/-- Nothing happened that this module counts, except that time went by. -/
structure Quiet (loop next : Loop) : Prop where
  startedAt : next.startedAt = loop.startedAt
  seen : next.seen = loop.seen
  last : next.last = loop.last
  firings : next.firings = loop.firings
  clock : loop.clock ≤ next.clock
  shutdown : ∀ time, next.BeforeShutdown time → loop.BeforeShutdown time

/-- The three kinds of steps, by the readings they make. -/
inductive Effect (shim : SchedulerShim) (loop next : Loop) : Option (List Int) → Prop where
  | quiet (same : Quiet loop next)
      (picked : ∀ firing, next.phase.picked = some firing → loop.phase.picked = some firing)
      (timely : loop.phase.Timely loop.clock → next.phase.Timely next.clock) :
      Effect shim loop next none
  | call (fireTime : Int) (taskName : String) (due : loop.phase = .due fireTime taskName)
      (startedAt : next.startedAt = loop.startedAt) (seen : next.seen = loop.seen)
      (shutdownAt : next.shutdownAt = loop.shutdownAt) (clock : loop.clock ≤ next.clock)
      (last : next.last = some ⟨taskName, fireTime⟩)
      (firings : next.firings = loop.firings ++ [⟨taskName, fireTime⟩])
      (picked : next.phase.picked = none) :
      Effect shim loop next none
  | round (readings : List Int) (length : readings.length = shim.validTasks.length)
      (within : ∀ reading ∈ readings, loop.clock ≤ reading) (clock : loop.clock ≤ next.clock)
      (startedAt : next.startedAt = loop.startedAt) (seen : next.seen = readings)
      (shutdownAt : next.shutdownAt = loop.shutdownAt)
      (last : next.last = none) (firings : next.firings = loop.firings)
      (picked : ∀ firing, next.phase.picked = some firing →
        shim.earliest readings = some (firing.time, firing.taskName))
      (timely : next.phase.Timely next.clock) :
      Effect shim loop next (some readings)

theorem Phase.timely_of_picked {phase : Phase} {clock : Int} (none : phase.picked = none) :
    phase.Timely clock := by
  rintro fireTime taskName rfl
  cases none

theorem beforeShutdown_of_eq (same : next.shutdownAt = loop.shutdownAt) {time : Int} :
    next.BeforeShutdown time ↔ loop.BeforeShutdown time := by
  rw [Loop.BeforeShutdown, Loop.BeforeShutdown, same]

theorem Quiet.of_fields (clock : loop.clock ≤ next.clock)
    (fields : next.startedAt = loop.startedAt ∧ next.seen = loop.seen ∧ next.last = loop.last ∧
      next.firings = loop.firings ∧ next.shutdownAt = loop.shutdownAt) : Quiet loop next where
  startedAt := fields.1
  seen := fields.2.1
  last := fields.2.2.1
  firings := fields.2.2.2.1
  clock := clock
  shutdown _ := (beforeShutdown_of_eq fields.2.2.2.2).mp

theorem Effect.of_fields (clock : loop.clock ≤ next.clock)
    (fields : next.startedAt = loop.startedAt ∧ next.seen = loop.seen ∧ next.last = loop.last ∧
      next.firings = loop.firings ∧ next.shutdownAt = loop.shutdownAt)
    (picked : next.phase.picked = none) : Effect shim loop next none :=
  .quiet (.of_fields clock fields) (fun firing found => by simp [picked] at found)
    fun _ => Phase.timely_of_picked picked

theorem finish_effect (name : String) (succeeded : Bool) (later : loop.clock ≤ now) :
    Effect shim loop ((loop.finish shim name succeeded now).tick now) none := by
  cases succeeded <;> exact .of_fields later ⟨rfl, rfl, rfl, rfl, rfl⟩ rfl

theorem dispatch_effect {fireTime : Int} {taskName : String}
    (due : loop.phase = .due fireTime taskName) (later : loop.clock ≤ now) :
    Effect shim loop ((loop.dispatch shim fireTime taskName now).tick now) none := by
  unfold Loop.dispatch
  cases shim.validTasks.find? (·.name = taskName) with
  | none => exact .of_fields later ⟨rfl, rfl, rfl, rfl, rfl⟩ rfl
  | some task =>
      dsimp only
      split
      · exact .call fireTime taskName due rfl rfl rfl later rfl rfl rfl
      · exact .of_fields later ⟨rfl, rfl, rfl, rfl, rfl⟩ rfl

theorem handled_effect (task : ScheduledTask) (attempt : Nat) (succeeded : Bool)
    (later : loop.clock ≤ now) :
    Effect shim loop ((loop.handled shim task attempt succeeded now).tick now) none := by
  unfold Loop.handled
  split
  · exact finish_effect task.name true later
  · split
    · exact .of_fields later ⟨rfl, rfl, rfl, rfl, rfl⟩ rfl
    · exact finish_effect task.name false later

theorem choose_effect (length : readings.length = shim.validTasks.length)
    (within : ∀ reading ∈ readings, loop.clock ≤ reading) (later : loop.clock ≤ now) :
    Effect shim loop ((loop.choose shim readings now).tick now) (some readings) := by
  unfold Loop.choose
  cases found : shim.earliest readings with
  | none =>
      exact .round readings length within later rfl rfl rfl rfl rfl nofun
        (Phase.timely_of_picked rfl)
  | some candidate =>
      obtain ⟨fireTime, taskName⟩ := candidate
      dsimp only
      split
      · refine .round readings length within later rfl rfl rfl rfl rfl ?_ nofun
        rintro _ ⟨⟩
        exact found
      · next reached =>
          refine .round readings length within later rfl rfl rfl rfl rfl ?_ ?_
          · rintro _ ⟨⟩
            exact found
          · rintro _ _ ⟨⟩
            exact Int.not_lt.mp reached

theorem shutdown_effect (running : loop.shutdownAt = none) (later : loop.clock ≤ now) :
    Effect shim loop (Loop.tick { loop with shutdownAt := some now } now) none := by
  refine .quiet ⟨rfl, rfl, rfl, rfl, later, ?_⟩ (fun _ found => found) ?_
  · intro time _ shutdown raised
    rw [running] at raised
    cases raised
  · intro timely fireTime taskName due
    exact Int.le_trans (timely fireTime taskName due) later

theorem wake_effect {fireTime : Int} {taskName : String} {sleepSecs jitter : Nat}
    (sleeping : loop.phase = .sleeping fireTime taskName sleepSecs)
    (slept : fireTime + jitter * nanosPerSec ≤ now) (later : loop.clock ≤ now) :
    Effect shim loop (Loop.tick { loop with phase := .due fireTime taskName } now) none := by
  refine .quiet (.of_fields later ⟨rfl, rfl, rfl, rfl, rfl⟩) ?_ fun _ => ?_
  · intro firing found
    rw [sleeping]
    exact found
  · rintro _ _ ⟨⟩
    show fireTime ≤ now
    have waited : 0 ≤ (jitter : Int) * nanosPerSec := by
      unfold nanosPerSec
      omega
    omega

theorem leave_effect (later : loop.clock ≤ now) :
    Effect shim loop
      (Loop.tick { loop.round (List.replicate shim.validTasks.length now) with phase := .stopped } now)
      (some (List.replicate shim.validTasks.length now)) := by
  refine .round _ List.length_replicate ?_ later rfl rfl rfl rfl rfl nofun nofun
  intro reading member
  rw [List.eq_of_mem_replicate member]
  exact later

theorem step_effect (taken : shim.machine.step loop label = some next) :
    Effect shim loop next (label.readings shim.validTasks.length) := by
  obtain ⟨later, acted, acts, rfl⟩ := acts_of_step taken
  generalize phase : loop.phase = current at acts
  cases acts with
  | shutdown running => exact shutdown_effect running later
  | choose length within =>
      exact choose_effect length (fun reading member => (within reading member).1) later
  | idled slept => exact .of_fields later ⟨rfl, rfl, rfl, rfl, rfl⟩ rfl
  | wake slept => exact wake_effect phase slept later
  | dispatch => exact dispatch_effect phase later
  | handled => exact handled_effect _ _ _ later
  | retry slept => exact .of_fields later ⟨rfl, rfl, rfl, rfl, rfl⟩ rfl
  | leave interruptible raised => exact leave_effect later

/-! ## The invariant -/

/-- An occurrence of a valid task that the readings so far are not past, unless
the shutdown came before it. -/
structure Fresh (shim : SchedulerShim) (loop : Loop) (firing : Firing) : Prop where
  occurrence : ∃ index, shim.OccurrenceAt index firing
  started : loop.startedAt < firing.time
  ahead : loop.BeforeShutdown firing.time → ¬ shim.Behind loop.seen firing

structure Sound (shim : SchedulerShim) (loop : Loop) : Prop where
  length : loop.seen.length = shim.validTasks.length
  started : loop.startedAt ≤ loop.clock
  firedPast : ∀ firing ∈ loop.firings, firing.time ≤ loop.clock
  firedBefore : ∀ firing ∈ loop.firings,
    loop.last = some firing ∨ ∀ reading ∈ loop.seen, firing.time ≤ reading
  lastFired : ∀ firing, loop.last = some firing → firing ∈ loop.firings ∧ Fresh shim loop firing
  picked : ∀ firing, loop.phase.picked = some firing → loop.last = none ∧ Fresh shim loop firing
  timely : loop.phase.Timely loop.clock
  covered : Covered shim loop

theorem Fresh.mono (fresh : Fresh shim loop firing) (startedAt : next.startedAt = loop.startedAt)
    (seen : next.seen = loop.seen)
    (shutdown : next.BeforeShutdown firing.time → loop.BeforeShutdown firing.time) :
    Fresh shim next firing where
  occurrence := fresh.occurrence
  started := startedAt ▸ fresh.started
  ahead before := seen ▸ fresh.ahead (shutdown before)

theorem Covered.mono (covered : Covered shim loop) (startedAt : next.startedAt = loop.startedAt)
    (seen : next.seen = loop.seen) (fired : ∀ firing ∈ loop.firings, firing ∈ next.firings)
    (shutdown : ∀ time, next.BeforeShutdown time → loop.BeforeShutdown time) :
    Covered shim next := by
  intro firing behind owed
  exact fired firing (covered firing (seen ▸ behind)
    ⟨startedAt ▸ owed.1, shutdown firing.time owed.2⟩)

theorem Sound.quiet (sound : Sound shim loop) (same : Quiet loop next)
    (picked : ∀ firing, next.phase.picked = some firing → loop.phase.picked = some firing)
    (timely : next.phase.Timely next.clock) : Sound shim next where
  length := same.seen ▸ sound.length
  started := same.startedAt ▸ Int.le_trans sound.started same.clock
  firedPast firing member := Int.le_trans (sound.firedPast firing (same.firings ▸ member)) same.clock
  firedBefore firing member := by
    rw [same.last, same.seen]
    exact sound.firedBefore firing (same.firings ▸ member)
  lastFired firing last := by
    obtain ⟨fired, fresh⟩ := sound.lastFired firing (same.last ▸ last)
    exact ⟨same.firings ▸ fired, fresh.mono same.startedAt same.seen (same.shutdown _)⟩
  picked firing found := by
    obtain ⟨silent, fresh⟩ := sound.picked firing (picked firing found)
    exact ⟨same.last.trans silent, fresh.mono same.startedAt same.seen (same.shutdown _)⟩
  timely := timely
  covered := sound.covered.mono same.startedAt same.seen
    (fun firing member => same.firings ▸ member) same.shutdown

theorem Sound.call (sound : Sound shim loop) (due : loop.phase.picked = some firing)
    (reached : firing.time ≤ loop.clock) (startedAt : next.startedAt = loop.startedAt)
    (seen : next.seen = loop.seen) (shutdownAt : next.shutdownAt = loop.shutdownAt)
    (clock : loop.clock ≤ next.clock) (last : next.last = some firing)
    (firings : next.firings = loop.firings ++ [firing]) (picked : next.phase.picked = none) :
    Sound shim next := by
  obtain ⟨silent, fresh⟩ := sound.picked firing due
  have before : ∀ time, next.BeforeShutdown time → loop.BeforeShutdown time :=
    fun _ => (beforeShutdown_of_eq shutdownAt).mp
  exact
    { length := seen ▸ sound.length
      started := startedAt ▸ Int.le_trans sound.started clock
      firedPast := by
        intro other member
        rw [firings, List.mem_append, List.mem_singleton] at member
        rcases member with earlier | rfl
        · exact Int.le_trans (sound.firedPast other earlier) clock
        · exact Int.le_trans reached clock
      firedBefore := by
        intro other member
        rw [firings, List.mem_append, List.mem_singleton] at member
        rcases member with earlier | rfl
        · refine .inr fun reading read => ?_
          rcases sound.firedBefore other earlier with called | past
          · exact absurd (silent.symm.trans called) nofun
          · exact past reading (seen ▸ read)
        · exact .inl last
      lastFired := by
        intro other called
        obtain rfl : firing = other := Option.some.inj (last.symm.trans called)
        exact ⟨firings ▸ by simp, fresh.mono startedAt seen (before _)⟩
      picked := fun other found => by simp [picked] at found
      timely := Phase.timely_of_picked picked
      covered := sound.covered.mono startedAt seen
        (fun other member => firings ▸ List.mem_append_left _ member) before }

/-! ## One round -/

theorem behind_of_le {index : Nat} (occurrence : shim.OccurrenceAt index firing)
    (length : readings.length = shim.validTasks.length)
    (past : ∀ reading ∈ readings, firing.time ≤ reading) : shim.Behind readings firing := by
  obtain ⟨task, schedule, atIndex, facts⟩ := occurrence
  have bound : index < readings.length := by
    rw [length]
    exact (List.getElem?_eq_some_iff.mp atIndex).1
  exact ⟨index, readings[index], ⟨task, schedule, atIndex, facts⟩, List.getElem?_eq_getElem bound,
    past _ (List.getElem_mem bound)⟩

/-- The occurrence fired since the last round is among those that fall with the next. -/
theorem Sound.last_falls (sound : Sound shim loop)
    (length : readings.length = shim.validTasks.length)
    (within : ∀ reading ∈ readings, loop.clock ≤ reading) (last : loop.last = some firing)
    (before : loop.BeforeShutdown firing.time) : Falls shim loop readings firing := by
  obtain ⟨fired, fresh⟩ := sound.lastFired firing last
  obtain ⟨index, occurrence⟩ := fresh.occurrence
  have past : ∀ reading ∈ readings, firing.time ≤ reading :=
    fun reading read => Int.le_trans (sound.firedPast firing fired) (within reading read)
  exact ⟨behind_of_le occurrence length past, fresh.ahead before, fresh.started, before⟩

/-- Fired occurrences that fall with a round were fired since the round before. -/
theorem Sound.last_of_falls (sound : Sound shim loop) (falls : Falls shim loop readings firing)
    (fired : firing ∈ loop.firings) : loop.last = some firing := by
  refine (sound.firedBefore firing fired).resolve_right fun past => ?_
  obtain ⟨⟨index, _, occurrence, _, _⟩, ahead, _⟩ := falls
  exact ahead (behind_of_le occurrence sound.length past)

theorem Sound.round_covers (sound : Sound shim loop) (sparse : Sparse shim loop label)
    (reads : label.readings shim.validTasks.length = some readings)
    (length : readings.length = shim.validTasks.length)
    (within : ∀ reading ∈ readings, loop.clock ≤ reading) (behind : shim.Behind readings firing)
    (owed : loop.Owed firing) : firing ∈ loop.firings := by
  by_cases earlier : shim.Behind loop.seen firing
  · exact sound.covered firing earlier owed
  · obtain ⟨⟨called, last, before⟩, only⟩ := sparse readings reads firing ⟨behind, earlier, owed⟩
    obtain rfl := only called (sound.last_falls length within last before)
    exact (sound.lastFired called last).1

theorem SchedulerShim.Upcoming.fresh {fireTime : Int} {taskName : String}
    (upcoming : shim.Upcoming loop.seen (fireTime, taskName)) (covered : Covered shim loop)
    (started : ∀ reading ∈ loop.seen, loop.startedAt ≤ reading)
    (fired : ∀ firing ∈ loop.firings, ∀ reading ∈ loop.seen, firing.time ≤ reading) :
    Fresh shim loop ⟨taskName, fireTime⟩ := by
  obtain ⟨schedule, inMap, reading, read, found⟩ := upcoming
  have later : reading < fireTime := schedule.upcoming_later reading fireTime found
  have after : loop.startedAt < fireTime := Int.lt_of_le_of_lt (started reading read) later
  obtain ⟨task, member, named, parsed⟩ := schedules_validTask inMap
  obtain ⟨index, atIndex⟩ := List.mem_iff_getElem?.mp member
  refine ⟨⟨index, task, schedule, atIndex, named, parsed,
    schedule.upcoming_occurs reading fireTime found⟩, after, fun before behind => ?_⟩
  -- Were it behind some other reading of the round, it would have been fired before the round.
  have past := fired _ (covered _ behind ⟨after, before⟩) reading read
  exact absurd later (Int.not_lt.mpr past)

theorem Sound.round (sound : Sound shim loop) (sparse : Sparse shim loop label)
    (reads : label.readings shim.validTasks.length = some readings)
    (length : readings.length = shim.validTasks.length)
    (within : ∀ reading ∈ readings, loop.clock ≤ reading) (clock : loop.clock ≤ next.clock)
    (startedAt : next.startedAt = loop.startedAt) (seen : next.seen = readings)
    (shutdownAt : next.shutdownAt = loop.shutdownAt) (last : next.last = none)
    (firings : next.firings = loop.firings)
    (picked : ∀ firing, next.phase.picked = some firing →
      shim.earliest readings = some (firing.time, firing.taskName))
    (timely : next.phase.Timely next.clock) : Sound shim next := by
  have covered : Covered shim next := by
    intro firing behind owed
    rw [firings]
    exact sound.round_covers sparse reads length within (seen ▸ behind)
      ⟨startedAt ▸ owed.1, (beforeShutdown_of_eq shutdownAt).mp owed.2⟩
  have started : ∀ reading ∈ next.seen, next.startedAt ≤ reading := by
    rw [seen, startedAt]
    exact fun reading read => Int.le_trans sound.started (within reading read)
  have fired : ∀ firing ∈ next.firings, ∀ reading ∈ next.seen, firing.time ≤ reading := by
    rw [firings, seen]
    exact fun firing member reading read =>
      Int.le_trans (sound.firedPast firing member) (within reading read)
  exact
    { length := seen ▸ length
      started := startedAt ▸ Int.le_trans sound.started clock
      firedPast := fun firing member => Int.le_trans (sound.firedPast firing (firings ▸ member)) clock
      firedBefore := fun firing member => .inr (fired firing member)
      lastFired := fun firing called => absurd (last.symm.trans called) nofun
      picked := by
        intro firing found
        have upcoming := SchedulerShim.earliest_upcoming _ (picked firing found)
        rw [← seen] at upcoming
        exact ⟨last, upcoming.fresh covered started fired⟩
      timely := timely
      covered := covered }

theorem Sound.not_covered (sound : Sound shim loop) (crowded : ¬ Sparse shim loop label)
    (taken : shim.machine.step loop label = some next) : ¬ Covered shim next := by
  intro covered
  refine crowded fun readings reads firing falls => ?_
  have effect := step_effect taken
  rw [reads] at effect
  cases effect with
  | round _ _ _ _ startedAt seen shutdownAt _ firings _ _ =>
      have called : ∀ other, Falls shim loop readings other → loop.last = some other := by
        intro other falls
        refine sound.last_of_falls falls (firings ▸ covered other (seen ▸ falls.1) ?_)
        exact ⟨startedAt ▸ falls.2.2.1, (beforeShutdown_of_eq shutdownAt).mpr falls.2.2.2⟩
      refine ⟨⟨firing, called firing falls, falls.2.2.2⟩, fun other fallsToo => ?_⟩
      exact Option.some.inj ((called other fallsToo).symm.trans (called firing falls))

/-! ## Runs -/

theorem Sound.step (sound : Sound shim loop) (sparse : Sparse shim loop label)
    (taken : shim.machine.step loop label = some next) : Sound shim next := by
  generalize reads : label.readings shim.validTasks.length = made at *
  have effect := step_effect taken
  rw [reads] at effect
  cases effect with
  | quiet same picked timely => exact sound.quiet same picked (timely sound.timely)
  | call fireTime taskName due startedAt seen shutdownAt clock last firings picked =>
      have chosen : loop.phase.picked = some ⟨taskName, fireTime⟩ := by rw [due]; rfl
      exact sound.call chosen (sound.timely fireTime taskName due) startedAt seen shutdownAt clock
        last firings picked
  | round readings length within clock startedAt seen shutdownAt last firings picked timely =>
      exact sound.round sparse reads length within clock startedAt seen shutdownAt last firings
        picked timely

theorem spawn_sound (spawned : shim.spawnSchedulerLoop now = some loop) : Sound shim loop := by
  simp only [SchedulerShim.spawnSchedulerLoop, Option.ite_none_left_eq_some] at spawned
  obtain ⟨_, ⟨⟩⟩ := spawned
  refine ⟨List.length_replicate, Int.le_refl _, nofun, nofun, nofun, nofun, nofun, ?_⟩
  rintro firing ⟨index, reading, _, read, past⟩ ⟨after, _⟩
  have := List.eq_of_mem_replicate (List.mem_of_getElem? read)
  exact absurd after (Int.not_lt.mpr (this ▸ past))

/-- In every run of the loop, whatever is owed and behind it has been fired at
all times if and only if every round of the run is sparse. -/
theorem loop_covered_iff {labels : List Label}
    (spawned : shim.spawnSchedulerLoop now = some loop) :
    shim.machine.Always (Covered shim) loop labels ↔
      shim.machine.Along (Sparse shim) loop labels :=
  Machine.always_iff_along (Sound shim) (fun _ sound => sound.covered)
    (fun _ _ _ sound sparse taken => sound.step sparse taken)
    (fun _ _ _ sound crowded taken => sound.not_covered crowded taken) (spawn_sound spawned)

/-! ## Two tasks due at the turn of the year -/

def newYear : Int := 1893456000 * nanosPerSec

def newYearShim (names : List String) : SchedulerShim where
  fromStr schedule := if schedule = "0 0 0 1 1 * 2030" then some (.once newYear) else none
  tasks := names.map fun name => { name, schedule := "0 0 0 1 1 * 2030" }
  runtime name :=
    if name ∈ names then
      some {
        state := .pending
        lastRun := none
        lastSuccess := none
        lastFailure := none
        consecutiveFailures := 0
        nextRun := some newYear }
    else none
  hasHandler := true

/-- Ten seconds before, the loop starts; it sleeps without jitter, its handler
takes a second, and it chooses again. -/
def newYearRun (taskCount : Nat) : List Label :=
  [.choose (List.replicate taskCount (newYear - 10 * nanosPerSec)) (newYear - 10 * nanosPerSec),
    .wake 0 newYear, .dispatch newYear, .handled true (newYear + nanosPerSec),
    .choose (List.replicate taskCount (newYear + nanosPerSec)) (newYear + nanosPerSec)]

theorem newYear_occurrence {names : List String} {index : Nat}
    (occurrence : (newYearShim names).OccurrenceAt index firing) :
    firing.taskName ∈ names ∧ firing.time = newYear := by
  obtain ⟨task, schedule, atIndex, named, parsed, occurs⟩ := occurrence
  have member := (List.mem_filter.mp (List.mem_of_getElem? atIndex)).1
  obtain ⟨name, known, rfl⟩ := List.mem_map.mp member
  simp only [newYearShim, Option.ite_none_right_eq_some] at parsed
  obtain ⟨_, ⟨⟩⟩ := parsed
  exact ⟨named ▸ known, occurs⟩

/-- Of two tasks due at the same instant one is never fired. -/
theorem loop_losesTie : ∃ loop,
    (newYearShim ["backup", "report"]).spawnSchedulerLoop (newYear - 10 * nanosPerSec) = some loop ∧
      ¬ (newYearShim ["backup", "report"]).machine.Always
        (Covered (newYearShim ["backup", "report"])) loop (newYearRun 2) := by
  let shim := newYearShim ["backup", "report"]
  let runs := (shim.spawnSchedulerLoop (newYear - 10 * nanosPerSec)).bind
    (shim.machine.run · (newYearRun 2))
  obtain ⟨final, ran⟩ : ∃ final, runs = some final := Option.isSome_iff_exists.mp (by decide)
  have observed : runs.map (fun loop => (loop.firings, loop.seen, loop.startedAt, loop.shutdownAt)) =
      some ([⟨"backup", newYear⟩], List.replicate 2 (newYear + nanosPerSec),
        newYear - 10 * nanosPerSec, none) := by decide
  simp only [ran, Option.map_some, Option.some.injEq, Prod.mk.injEq] at observed
  obtain ⟨firings, seen, startedAt, shutdownAt⟩ := observed
  obtain ⟨loop, spawned, ran⟩ := Option.bind_eq_some_iff.mp ran
  refine ⟨loop, spawned, fun always => ?_⟩
  have behind : shim.Behind final.seen ⟨"report", newYear⟩ := by
    rw [seen]
    exact ⟨1, newYear + nanosPerSec, ⟨_, _, rfl, rfl, rfl, rfl⟩, rfl, by decide⟩
  have fired := always.last ran ⟨"report", newYear⟩ behind
    ⟨by rw [startedAt]; decide, fun shutdown raised => by simp [shutdownAt] at raised⟩
  rw [firings] at fired
  exact absurd fired (by decide)

/-- With one task due then, the same run fires all there is. -/
theorem loop_covered_single : ∃ loop,
    (newYearShim ["backup"]).spawnSchedulerLoop (newYear - 10 * nanosPerSec) = some loop ∧
      (newYearShim ["backup"]).machine.Always (Covered (newYearShim ["backup"])) loop
        (newYearRun 1) := by
  let shim := newYearShim ["backup"]
  have only : ∀ loop readings firing, Falls shim loop readings firing →
      firing = ⟨"backup", newYear⟩ := by
    rintro loop readings ⟨taskName, time⟩ ⟨⟨index, _, occurrence, _, _⟩, _⟩
    obtain ⟨name, rfl⟩ := newYear_occurrence occurrence
    obtain rfl : taskName = "backup" := List.mem_singleton.mp name
    rfl
  refine ⟨_, rfl, (loop_covered_iff rfl).mpr ?_⟩
  refine .cons rfl ?_ ?_
  · -- Ten seconds before the turn of the year nothing has fallen.
    rintro readings ⟨⟩ firing falls
    obtain rfl := only _ _ _ falls
    obtain ⟨⟨index, reading, _, read, past⟩, _⟩ := falls
    rw [List.eq_of_mem_replicate (List.mem_of_getElem? read)] at past
    exact absurd past (by decide)
  iterate 3 refine .cons rfl nofun ?_
  refine .cons rfl ?_ trivial
  rintro readings ⟨⟩ firing falls
  refine ⟨⟨_, rfl, nofun⟩, fun other fallsToo => ?_⟩
  rw [only _ _ _ falls, only _ _ _ fallsToo]

end Evergreen.Scheduler
