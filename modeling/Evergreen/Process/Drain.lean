import Evergreen.Machine.Run
import Mathlib.Algebra.Order.Ring.Nat

namespace Evergreen.Process

/-! # Draining before the handler is called

`ShutdownManager` counts the operations in two atomic counters, and other tasks
start and complete operations between any two of its loads.  Instants are
milliseconds.
-/

/-- Why the manager has gone on to its handler. -/
inductive Way where
  | nothingInFlight
  | drained
  | timedOut
deriving DecidableEq, Repr

/-- Where the call of `shutdown` is. -/
inductive Place where
  | notCalled
  /-- `initiated` is stored. -/
  | initiated
  /-- `in_flight_count` has loaded the total. -/
  | counting (total : Nat)
  | looping (deadline : Nat)
  /-- The loop has loaded what is completed. -/
  | comparing (deadline completed : Nat)
  | sleeping (deadline : Nat)
  | handling (way : Way)
deriving DecidableEq, Repr

structure ShutdownManager where
  drainTimeoutSecs : Nat
  inFlightTotal : Nat := 0
  inFlightCompleted : Nat := 0
  now : Nat := 0
  place : Place := .notCalled
deriving DecidableEq, Repr

namespace ShutdownManager

def operationStarted (manager : ShutdownManager) : ShutdownManager :=
  { manager with inFlightTotal := (manager.inFlightTotal + 1) % 2 ^ 64 }

def operationCompleted (manager : ShutdownManager) : ShutdownManager :=
  { manager with inFlightCompleted := (manager.inFlightCompleted + 1) % 2 ^ 64 }

/-- The next load of `shutdown`, with what follows it before the next one.  The
timeout can only end the loop while it sleeps. -/
def advance (manager : ShutdownManager) : Option Place :=
  match manager.place with
  | .notCalled => some .initiated
  | .initiated => some (.counting manager.inFlightTotal)
  | .counting total =>
      if 0 < total - manager.inFlightCompleted then
        some (.looping (manager.now + manager.drainTimeoutSecs * 1000))
      else some (.handling .nothingInFlight)
  | .looping deadline => some (.comparing deadline manager.inFlightCompleted)
  | .comparing deadline completed =>
      if manager.inFlightTotal ≤ completed then some (.handling .drained)
      else some (.sleeping deadline)
  | .sleeping deadline => some (.looping deadline)
  | .handling _ => none

/-- The sleep is over only when the deadline is, or it is cut short there. -/
def expire (manager : ShutdownManager) : Option Place :=
  match manager.place with
  | .sleeping deadline => if deadline ≤ manager.now then some (.handling .timedOut) else none
  | _ => none

end ShutdownManager

inductive DrainLabel where
  | operationStarted
  | operationCompleted
  | advance
  | expire
  | elapse (ms : Nat)
deriving DecidableEq, Repr

/-- The manager with the operations as they really are. -/
structure Draining where
  manager : ShutdownManager
  started : Nat := 0
  completed : Nat := 0
  deadline : Nat := 0
deriving DecidableEq, Repr

def Draining.start (drainTimeoutSecs : Nat) : Draining where
  manager := { drainTimeoutSecs }

/-- An operation completes only once, after it has started. -/
def Draining.step (draining : Draining) : DrainLabel → Option Draining
  | .operationStarted => some { draining with
      manager := draining.manager.operationStarted
      started := draining.started + 1 }
  | .operationCompleted =>
      if draining.completed < draining.started then some { draining with
        manager := draining.manager.operationCompleted
        completed := draining.completed + 1 }
      else none
  | .advance => draining.manager.advance.map fun place =>
      { draining with
        manager := { draining.manager with place }
        deadline := match place with
          | .looping deadline => deadline
          | _ => draining.deadline }
  | .expire => draining.manager.expire.map fun place =>
      { draining with manager := { draining.manager with place } }
  | .elapse ms => some { draining with
      manager := { draining.manager with now := draining.manager.now + ms } }

def drain : Machine Draining DrainLabel where
  step := Draining.step

/-- No operation starts once the shutdown has been initiated. -/
def Quiesces (draining : Draining) (label : DrainLabel) : Prop :=
  label = .operationStarted → draining.manager.place = .notCalled

instance (draining : Draining) (label : DrainLabel) : Decidable (Quiesces draining label) :=
  inferInstanceAs (Decidable (_ → _))

/-- Where the loop ends by itself, nothing is in flight. -/
def EndsAtRest (draining : Draining) (label : DrainLabel) : Prop :=
  draining.manager.advance = some (.handling .drained) → label = .advance →
    draining.started = draining.completed

/-- The handler is called with nothing in flight, or at the deadline. -/
def HandledAtRest (draining : Draining) : Prop :=
  ∀ way, draining.manager.place = .handling way → draining.started = draining.completed ∨
    way = .timedOut ∧ draining.deadline ≤ draining.manager.now

variable {draining next : Draining} {label : DrainLabel} {labels : List DrainLabel}

def Fits (draining : Draining) (_label : DrainLabel) : Prop := draining.started + 1 < 2 ^ 64

/-- What the loop has loaded and decided is behind the counters and the clock. -/
def Behind (draining : Draining) : Place → Prop
  | .looping deadline => deadline = draining.deadline
  | .comparing deadline completed =>
      deadline = draining.deadline ∧ completed ≤ draining.completed
  | .sleeping deadline => deadline = draining.deadline
  | .handling way => way = .timedOut → draining.deadline ≤ draining.manager.now
  | _ => True

/-- The counters are those of the operations, which complete after they start. -/
structure Counted (draining : Draining) : Prop where
  total : draining.manager.inFlightTotal = draining.started
  completed : draining.manager.inFlightCompleted = draining.completed
  matched : draining.completed ≤ draining.started
  behind : Behind draining draining.manager.place

/-- What the counters say of a manager while no operation starts. -/
def AtRest (draining : Draining) : Place → Prop
  | .counting total => total = draining.started
  | .handling way => way = .timedOut ∨ draining.started = draining.completed
  | _ => True

/-- Where one load takes the call. -/
inductive Advance (manager : ShutdownManager) : Place → Place → Prop where
  | initiates : Advance manager .notCalled .initiated
  | counts : Advance manager .initiated (.counting manager.inFlightTotal)
  | drains (total : Nat) (inFlight : 0 < total - manager.inFlightCompleted) :
      Advance manager (.counting total)
        (.looping (manager.now + manager.drainTimeoutSecs * 1000))
  | skips (total : Nat) (none : total ≤ manager.inFlightCompleted) :
      Advance manager (.counting total) (.handling .nothingInFlight)
  | loads (deadline : Nat) :
      Advance manager (.looping deadline) (.comparing deadline manager.inFlightCompleted)
  | ends (deadline completed : Nat) (reached : manager.inFlightTotal ≤ completed) :
      Advance manager (.comparing deadline completed) (.handling .drained)
  | sleeps (deadline completed : Nat) (short : completed < manager.inFlightTotal) :
      Advance manager (.comparing deadline completed) (.sleeping deadline)
  | wakes (deadline : Nat) : Advance manager (.sleeping deadline) (.looping deadline)

theorem advance_cases {manager : ShutdownManager} {place : Place}
    (taken : manager.advance = some place) : Advance manager manager.place place := by
  unfold ShutdownManager.advance at taken
  cases stands : manager.place with
  | notCalled =>
      simp only [stands] at taken
      cases taken
      exact .initiates
  | initiated =>
      simp only [stands] at taken
      cases taken
      exact .counts
  | counting total =>
      simp only [stands] at taken
      split_ifs at taken with inFlight
      · cases taken
        exact .drains total inFlight
      · cases taken
        exact .skips total (by omega)
  | looping deadline =>
      simp only [stands] at taken
      cases taken
      exact .loads deadline
  | comparing deadline completed =>
      simp only [stands] at taken
      split_ifs at taken with reached
      · cases taken
        exact .ends deadline completed reached
      · cases taken
        exact .sleeps deadline completed (Nat.lt_of_not_le reached)
  | sleeping deadline =>
      simp only [stands] at taken
      cases taken
      exact .wakes deadline
  | handling way =>
      simp only [stands] at taken
      cases taken

theorem step_operationCompleted (taken : drain.step draining .operationCompleted = some next) :
    draining.completed < draining.started ∧ next = { draining with
      manager := draining.manager.operationCompleted
      completed := draining.completed + 1 } := by
  obtain ⟨inFlight, same⟩ := Option.ite_none_right_eq_some.mp taken
  exact ⟨inFlight, (Option.some.inj same).symm⟩

theorem step_expire (taken : drain.step draining .expire = some next) :
    ∃ deadline, draining.manager.place = .sleeping deadline ∧ deadline ≤ draining.manager.now ∧
      next = { draining with manager := { draining.manager with place := .handling .timedOut } } := by
  obtain ⟨place, expired, rfl⟩ := Option.map_eq_some_iff.mp taken
  unfold ShutdownManager.expire at expired
  split at expired
  case h_1 deadline sleeping =>
      obtain ⟨passed, same⟩ := Option.ite_none_right_eq_some.mp expired
      cases same
      exact ⟨deadline, sleeping, passed, rfl⟩
  case h_2 => cases expired

theorem Counted.elapse (counted : Counted draining) (ms : Nat) :
    Behind { draining with manager := { draining.manager with now := draining.manager.now + ms } }
      draining.manager.place := by
  have behind := counted.behind
  cases place : draining.manager.place with
  | handling way =>
      rw [place] at behind
      exact fun timedOut => (behind timedOut).trans (Nat.le_add_right _ _)
  | _ => simp_all [Behind]

theorem Counted.behind_completed (counted : Counted draining) :
    Behind { draining with
      manager := draining.manager.operationCompleted
      completed := draining.completed + 1 } draining.manager.place := by
  have behind := counted.behind
  cases place : draining.manager.place with
  | comparing deadline completed =>
      rw [place] at behind
      exact ⟨behind.1, behind.2.trans (Nat.le_succ _)⟩
  | _ => simp_all [Behind, ShutdownManager.operationCompleted]

theorem Counted.behind_advance (counted : Counted draining)
    (taken : drain.step draining .advance = some next) : Behind next next.manager.place := by
  obtain ⟨place, advanced, rfl⟩ := Option.map_eq_some_iff.mp taken
  have behind := counted.behind
  have moves := advance_cases advanced
  generalize draining.manager.place = stands at behind moves
  cases moves with
  | initiates => trivial
  | counts => trivial
  | drains total inFlight => rfl
  | skips total none =>
      intro timedOut
      cases timedOut
  | loads deadline => exact ⟨behind, counted.completed.le⟩
  | ends deadline completed reached =>
      intro timedOut
      cases timedOut
  | sleeps deadline completed short => exact behind.1
  | wakes deadline => rfl

theorem Counted.step (counted : Counted draining) (fits : Fits draining label)
    (taken : drain.step draining label = some next) : Counted next := by
  have limit : draining.started + 1 < 2 ^ 64 := fits
  cases label with
  | operationStarted =>
      cases taken
      refine ⟨?_, counted.completed, counted.matched.trans (Nat.le_succ _), counted.behind⟩
      rw [ShutdownManager.operationStarted, counted.total]
      exact Nat.mod_eq_of_lt limit
  | operationCompleted =>
      obtain ⟨inFlight, rfl⟩ := step_operationCompleted taken
      refine ⟨counted.total, ?_, inFlight, counted.behind_completed⟩
      rw [ShutdownManager.operationCompleted, counted.completed]
      exact Nat.mod_eq_of_lt ((Nat.succ_le_of_lt inFlight).trans_lt (Nat.lt_of_succ_lt limit))
  | advance =>
      have behind := counted.behind_advance taken
      obtain ⟨place, _, rfl⟩ := Option.map_eq_some_iff.mp taken
      exact ⟨counted.total, counted.completed, counted.matched, behind⟩
  | expire =>
      obtain ⟨deadline, sleeping, passed, rfl⟩ := step_expire taken
      have behind := counted.behind
      rw [sleeping] at behind
      exact ⟨counted.total, counted.completed, counted.matched, fun _ => behind ▸ passed⟩
  | elapse ms =>
      cases taken
      exact ⟨counted.total, counted.completed, counted.matched, counted.elapse ms⟩

/-- What the loop compares was loaded before, and completions only add to it. -/
theorem Counted.endsAtRest (counted : Counted draining) : EndsAtRest draining label := by
  intro ends _
  have behind := counted.behind
  have total := counted.total
  have matched := counted.matched
  have moves := advance_cases ends
  generalize draining.manager.place = stands at behind moves
  cases moves with
  | ends deadline completed reached =>
      have loaded := behind.2
      omega

/-! ## While no operation starts -/

theorem AtRest.advance (rest : AtRest draining draining.manager.place) (counted : Counted draining)
    (taken : drain.step draining .advance = some next) : AtRest next next.manager.place := by
  obtain ⟨place, advanced, rfl⟩ := Option.map_eq_some_iff.mp taken
  have ends := @Counted.endsAtRest draining .advance counted
  have completed := counted.completed
  have matched := counted.matched
  have moves := advance_cases advanced
  generalize draining.manager.place = stands at rest moves
  cases moves with
  | counts => exact counted.total
  | skips total none =>
      have loaded : total = draining.started := rest
      exact .inr (show draining.started = draining.completed by omega)
  | ends => exact .inr (ends advanced rfl)
  | _ => trivial

theorem AtRest.complete (rest : AtRest draining draining.manager.place)
    (inFlight : draining.completed < draining.started) :
    AtRest { draining with
      manager := draining.manager.operationCompleted
      completed := draining.completed + 1 } draining.manager.place := by
  cases place : draining.manager.place with
  | counting total =>
      rw [place] at rest
      exact rest
  | handling way =>
      rw [place] at rest
      rcases rest with timedOut | same
      · exact .inl timedOut
      · omega
  | _ => trivial

theorem AtRest.step (rest : AtRest draining draining.manager.place) (counted : Counted draining)
    (quiesces : Quiesces draining label) (taken : drain.step draining label = some next) :
    AtRest next next.manager.place := by
  cases label with
  | operationStarted =>
      cases taken
      change AtRest _ draining.manager.place
      rw [quiesces rfl]
      trivial
  | operationCompleted =>
      obtain ⟨inFlight, rfl⟩ := step_operationCompleted taken
      exact rest.complete inFlight
  | advance => exact rest.advance counted taken
  | expire =>
      obtain ⟨deadline, sleeping, passed, rfl⟩ := step_expire taken
      exact .inl rfl
  | elapse ms =>
      cases taken
      exact rest

/-! ## The runs -/

theorem started_grows (taken : drain.step draining label = some next) :
    next.started ≤ draining.started + 1 := by
  cases label with
  | operationStarted =>
      cases taken
      exact Nat.le_refl _
  | operationCompleted =>
      obtain ⟨_, rfl⟩ := step_operationCompleted taken
      exact Nat.le_succ _
  | advance =>
      obtain ⟨place, _, rfl⟩ := Option.map_eq_some_iff.mp taken
      exact Nat.le_succ _
  | expire =>
      obtain ⟨place, _, rfl⟩ := Option.map_eq_some_iff.mp taken
      exact Nat.le_succ _
  | elapse ms =>
      cases taken
      exact Nat.le_succ _

variable {drainTimeoutSecs : Nat}

theorem counted_start : Counted (.start drainTimeoutSecs) := ⟨rfl, rfl, Nat.le_refl 0, trivial⟩

theorem along_fits (few : labels.length < 2 ^ 64) :
    drain.Along Fits (.start drainTimeoutSecs) labels :=
  Machine.along_small Draining.started (fun _ _ _ taken => started_grows taken)
    ((Nat.zero_add _).trans_lt few)

theorem Counted.handledAtRest (counted : Counted draining)
    (rest : AtRest draining draining.manager.place) : HandledAtRest draining := by
  intro way handling
  have behind := counted.behind
  rw [handling] at rest behind
  rcases rest with timedOut | same
  · exact .inr ⟨timedOut, behind timedOut⟩
  · exact .inl same

/-- However the operations and the loads interleave, the loop ends by itself only
while nothing is in flight.  Where no operation starts once the shutdown is
initiated, the handler is called with nothing in flight, unless the deadline has
passed. -/
theorem drain_atRest (drainTimeoutSecs : Nat) (labels : List DrainLabel)
    (few : labels.length < 2 ^ 64) :
    drain.Along EndsAtRest (.start drainTimeoutSecs) labels ∧
      (drain.Along Quiesces (.start drainTimeoutSecs) labels →
        drain.Always HandledAtRest (.start drainTimeoutSecs) labels) := by
  have fits := @along_fits labels drainTimeoutSecs few
  have counted := Machine.always_of_along Counted
    (fun _ _ _ counted fits taken => counted.step fits taken) counted_start fits
  refine ⟨counted.along fun _ _ counted => counted.endsAtRest, fun quiesces => ?_⟩
  have both := Machine.always_of_along
    (fun draining => Counted draining ∧ AtRest draining draining.manager.place)
    (fun _ _ _ holds guards taken =>
      ⟨holds.1.step guards.1 taken, holds.2.step holds.1 guards.2 taken⟩)
    ⟨counted_start, trivial⟩ (Machine.along_and.mpr ⟨fits, quiesces⟩)
  exact both.imp fun _ holds => holds.1.handledAtRest holds.2

/-- An operation completes while the loop sleeps. -/
def drained : List DrainLabel :=
  [.operationStarted, .advance, .advance, .advance, .advance, .advance, .operationCompleted,
    .elapse 100, .advance, .advance, .advance]

theorem drain_atRest_drained : drain.Along EndsAtRest (.start 30) drained ∧
    drain.Always HandledAtRest (.start 30) drained :=
  have settled := drain_atRest 30 drained (by decide)
  ⟨settled.1, settled.2 (by decide)⟩

end Evergreen.Process
