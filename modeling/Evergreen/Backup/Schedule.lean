import Evergreen.Scheduler.Loop
import Mathlib.Data.Finset.Card
import Mathlib.Data.Int.Interval
import Mathlib.Order.ConditionallyCompleteLattice.Basic
import Mathlib.Data.Int.ConditionallyCompleteOrder

namespace Evergreen.Backup

open Scheduler (Schedule nanosPerSec)

/-! # When the backup shim's loop runs a backup

The task that `start` spawns: one turn asks the schedule for its next
occurrence, sleeps and begins a backup.  Clock readings are nanoseconds, they
never decrease, and a sleep may last longer than asked for.
-/

def hourNanos : Int := 3600 * nanosPerSec

/-- One turn's instants: the clock as `upcoming` reads it, as the fallback would
read it and as `now`, and how much longer than asked for it takes until the
backup begins. -/
structure Turn where
  polled : Int
  fallback : Int
  measured : Int
  overrun : Int
deriving DecidableEq, Repr

def Turn.Ordered (turn : Turn) : Prop :=
  turn.polled ≤ turn.fallback ∧ turn.fallback ≤ turn.measured ∧ 0 ≤ turn.overrun

instance (turn : Turn) : Decidable turn.Ordered := inferInstanceAs (Decidable (_ ∧ _ ∧ _))

def Turn.nextWake (schedule : Schedule) (turn : Turn) : Int :=
  (schedule.upcoming turn.polled).getD (turn.fallback + hourNanos)

/-- `num_seconds` drops the fraction of a second. -/
def Turn.sleepSecs (schedule : Schedule) (turn : Turn) : Nat :=
  ((turn.nextWake schedule - turn.measured).tdiv nanosPerSec).toNat

def Turn.beginsAt (schedule : Schedule) (turn : Turn) : Int :=
  turn.measured + turn.sleepSecs schedule * nanosPerSec + turn.overrun

/-- A backup, and the occurrence it was begun for. -/
structure Begun where
  time : Int
  occurrence : Option Int
deriving DecidableEq, Repr

structure Loop where
  startedAt : Int
  clock : Int
  shutDown : Bool
  begun : List Begun
deriving DecidableEq, Repr

inductive Label where
  | turn (turn : Turn)
  | shutdown
deriving DecidableEq, Repr

def Loop.start (now : Int) : Loop where
  startedAt := now
  clock := now
  shutDown := false
  begun := []

def Loop.run (schedule : Schedule) (loop : Loop) (turn : Turn) : Loop :=
  { loop with
    clock := turn.beginsAt schedule
    begun := loop.begun ++ [⟨turn.beginsAt schedule, schedule.upcoming turn.polled⟩] }

/-- A shutdown ends the sleep of a turn; what the turn read is then lost. -/
def machine (schedule : Schedule) : Machine Loop Label where
  step loop
    | .turn turn =>
        if loop.shutDown = false ∧ loop.clock ≤ turn.polled ∧ turn.Ordered then
          some (loop.run schedule turn)
        else none
    | .shutdown =>
        if loop.shutDown = false then some { loop with shutDown := true } else none

/-! ## One backup for an occurrence -/

open Classical in
/-- The occurrences after the loop's start, up to an instant. -/
noncomputable def occurrences (schedule : Schedule) (startedAt time : Int) : Finset Int :=
  (Finset.Ioc startedAt time).filter schedule.occurs

theorem mem_occurrences {schedule : Schedule} {startedAt time other : Int} :
    other ∈ occurrences schedule startedAt time ↔
      (startedAt < other ∧ other ≤ time) ∧ schedule.occurs other := by
  classical
  rw [occurrences, Finset.mem_filter, Finset.mem_Ioc]

def Loop.begunBy (loop : Loop) (time : Int) : List Begun :=
  loop.begun.filter (·.time ≤ time)

/-- At no instant have more backups begun than the schedule has had occurrences. -/
def CountLaw (schedule : Schedule) (loop : Loop) : Prop :=
  ∀ time, (loop.begunBy time).length ≤ (occurrences schedule loop.startedAt time).card

/-- The backup has an occurrence after the loop's start, and does not begin
before it. -/
def Begun.Attends (schedule : Schedule) (startedAt : Int) (begun : Begun) : Prop :=
  ∃ time, begun.occurrence = some time ∧ schedule.occurs time ∧ startedAt < time ∧
    time ≤ begun.time

structure OnSchedule (schedule : Schedule) (loop : Loop) : Prop where
  counted : CountLaw schedule loop
  attended : ∀ begun ∈ loop.begun, begun.Attends schedule loop.startedAt
  once : (loop.begun.map (·.occurrence)).Nodup

/-- The turn has an occurrence to wait for, and the fraction of a second that
the sleep leaves out passes all the same. -/
def OnTime (schedule : Schedule) (_ : Loop) : Label → Prop
  | .turn turn => ∃ next, schedule.upcoming turn.polled = some next ∧
      (next ≤ turn.measured ∨ (next - turn.measured) % nanosPerSec ≤ turn.overrun)
  | .shutdown => True

/-! ## The length of a sleep -/

section Turn

variable {schedule : Schedule} {turn : Turn} {next : Int}

theorem Turn.measured_le_beginsAt (ordered : turn.Ordered) :
    turn.measured ≤ turn.beginsAt schedule := by
  have longer := ordered.2.2
  simp only [Turn.beginsAt, nanosPerSec]
  omega

/-- The whole seconds before an instant, asked for as a sleep, end at most the
dropped fraction before it. -/
theorem Turn.next_le_beginsAt_iff (ordered : turn.Ordered)
    (found : schedule.upcoming turn.polled = some next) :
    next ≤ turn.beginsAt schedule ↔
      next ≤ turn.measured ∨ (next - turn.measured) % nanosPerSec ≤ turn.overrun := by
  have wake : turn.nextWake schedule = next := by simp [Turn.nextWake, found]
  by_cases passed : next ≤ turn.measured
  · exact ⟨fun _ => .inl passed, fun _ => passed.trans (turn.measured_le_beginsAt ordered)⟩
  · have ahead : 0 ≤ next - turn.measured := by omega
    simp only [Turn.beginsAt, Turn.sleepSecs, wake, Int.tdiv_eq_ediv_of_nonneg ahead, nanosPerSec,
      passed, false_or]
    omega

theorem Turn.attends_iff {startedAt : Int} (ordered : turn.Ordered)
    (after : startedAt ≤ turn.polled) :
    Begun.Attends schedule startedAt ⟨turn.beginsAt schedule, schedule.upcoming turn.polled⟩ ↔
      ∃ next, schedule.upcoming turn.polled = some next ∧
        (next ≤ turn.measured ∨ (next - turn.measured) % nanosPerSec ≤ turn.overrun) := by
  constructor
  · rintro ⟨next, found, _, _, reached⟩
    exact ⟨next, found, (turn.next_le_beginsAt_iff ordered found).mp reached⟩
  · rintro ⟨next, found, covered⟩
    have later := schedule.upcoming_later _ _ found
    exact ⟨next, found, schedule.upcoming_occurs _ _ found, by omega,
      (turn.next_le_beginsAt_iff ordered found).mpr covered⟩

end Turn

/-! ## What a turn on time keeps -/

variable {schedule : Schedule} {loop : Loop}

structure Punctual (schedule : Schedule) (loop : Loop) : Prop where
  started : loop.startedAt ≤ loop.clock
  past : ∀ begun ∈ loop.begun, begun.time ≤ loop.clock
  attended : ∀ begun ∈ loop.begun, begun.Attends schedule loop.startedAt
  once : (loop.begun.map (·.occurrence)).Nodup

theorem Punctual.start (now : Int) : Punctual schedule (.start now) where
  started := le_rfl
  past := by simp [Loop.start]
  attended := by simp [Loop.start]
  once := List.nodup_nil

/-- The backups begun by an instant have different occurrences, none of them
after it. -/
theorem Punctual.countLaw (punctual : Punctual schedule loop) : CountLaw schedule loop := by
  intro time
  have different : ((loop.begunBy time).map (·.occurrence)).Nodup :=
    punctual.once.sublist (List.filter_sublist.map _)
  have within : ((loop.begunBy time).map (·.occurrence)).toFinset ⊆
      (occurrences schedule loop.startedAt time).map Function.Embedding.some := by
    intro occurrence member
    obtain ⟨begun, begunBy, rfl⟩ := List.mem_map.mp (List.mem_toFinset.mp member)
    obtain ⟨among, reached⟩ := List.mem_filter.mp begunBy
    obtain ⟨next, found, occurs, after, before⟩ := punctual.attended begun among
    have bound : next ≤ time := before.trans (of_decide_eq_true reached)
    rw [found]
    exact Finset.mem_map_of_mem _ (mem_occurrences.mpr ⟨⟨after, bound⟩, occurs⟩)
  calc (loop.begunBy time).length
      = ((loop.begunBy time).map (·.occurrence)).toFinset.card := by
        rw [List.toFinset_card_of_nodup different, List.length_map]
    _ ≤ ((occurrences schedule loop.startedAt time).map Function.Embedding.some).card :=
        Finset.card_le_card within
    _ = (occurrences schedule loop.startedAt time).card := Finset.card_map _

theorem Punctual.onSchedule (punctual : Punctual schedule loop) : OnSchedule schedule loop where
  counted := punctual.countLaw
  attended := punctual.attended
  once := punctual.once

/-- The next occurrence lies after the clock, and so after all that had a
backup. -/
theorem Punctual.run {turn : Turn} (punctual : Punctual schedule loop)
    (after : loop.clock ≤ turn.polled) (ordered : turn.Ordered)
    (onTime : OnTime schedule loop (.turn turn)) : Punctual schedule (loop.run schedule turn) := by
  have started := punctual.started
  have later : turn.polled ≤ turn.beginsAt schedule :=
    (ordered.1.trans ordered.2.1).trans (turn.measured_le_beginsAt ordered)
  refine ⟨started.trans (after.trans later), ?_, ?_, ?_⟩
  · intro begun member
    rcases List.mem_append.mp member with earlier | last
    · exact (punctual.past begun earlier).trans (after.trans later)
    · rw [List.mem_singleton.mp last]
      exact le_rfl
  · intro begun member
    rcases List.mem_append.mp member with earlier | last
    · exact punctual.attended begun earlier
    · rw [List.mem_singleton.mp last]
      exact (turn.attends_iff ordered (started.trans after)).mpr onTime
  · have fresh : schedule.upcoming turn.polled ∉ loop.begun.map (·.occurrence) := by
      intro member
      obtain ⟨begun, member, same⟩ := List.mem_map.mp member
      obtain ⟨time, found, _, _, before⟩ := punctual.attended begun member
      have ahead := schedule.upcoming_later _ _ (same.symm.trans found)
      have past := punctual.past begun member
      omega
    simp only [Loop.run, List.map_append, List.map_cons, List.map_nil]
    exact List.nodup_append.mpr ⟨punctual.once, List.nodup_singleton _, by
      rintro occurrence member last singleton rfl
      exact fresh (List.mem_singleton.mp singleton ▸ member)⟩

theorem machine_turn {turn : Turn} {next : Loop}
    (taken : (machine schedule).step loop (.turn turn) = some next) :
    loop.clock ≤ turn.polled ∧ turn.Ordered ∧ next = loop.run schedule turn := by
  simp only [machine] at taken
  split at taken
  · next enabled => exact ⟨enabled.2.1, enabled.2.2, (Option.some.inj taken).symm⟩
  · cases taken

theorem machine_shutdown {next : Loop}
    (taken : (machine schedule).step loop .shutdown = some next) :
    next = { loop with shutDown := true } := by
  simp only [machine] at taken
  split at taken
  · exact (Option.some.inj taken).symm
  · cases taken

/-- The loop keeps to its schedule in every state of a run exactly when each of
its turns does. -/
theorem onSchedule_iff_onTime (schedule : Schedule) (now : Int) (labels : List Label) :
    (machine schedule).Always (OnSchedule schedule) (.start now) labels ↔
      (machine schedule).Along (OnTime schedule) (.start now) labels := by
  refine Machine.always_iff_along (Punctual schedule) (fun _ => Punctual.onSchedule) ?_ ?_
    (Punctual.start now)
  · intro loop label next punctual onTime taken
    cases label with
    | turn turn =>
        obtain ⟨after, ordered, rfl⟩ := machine_turn taken
        exact punctual.run after ordered onTime
    | shutdown =>
        rw [machine_shutdown taken]
        exact ⟨punctual.started, punctual.past, punctual.attended, punctual.once⟩
  · intro loop label next punctual late taken keeps
    cases label with
    | shutdown => exact late trivial
    | turn turn =>
        obtain ⟨after, ordered, rfl⟩ := machine_turn taken
        have last := keeps.attended ⟨turn.beginsAt schedule, schedule.upcoming turn.polled⟩
          (List.mem_append_right _ List.mem_cons_self)
        exact late ((turn.attends_iff ordered (punctual.started.trans after)).mp last)

/-- An occurrence a second and a half away: the loop sleeps for one second, and
its backup begins before the occurrence. -/
theorem wakes_early :
    ¬ (machine (.once 1500000000)).Always (CountLaw (.once 1500000000)) (.start 0)
      [.turn ⟨0, 0, 0, 0⟩] := by
  intro always
  have empty : (occurrences (.once 1500000000) 0 1000000000).card = 0 := by
    rw [Finset.card_eq_zero, Finset.eq_empty_iff_forall_notMem]
    intro time member
    obtain ⟨⟨_, before⟩, occurs⟩ := mem_occurrences.mp member
    rw [show time = 1500000000 from occurs] at before
    revert before
    decide
  have counted := (always.last rfl 1000000000).trans_eq empty
  revert counted
  decide +kernel

end Evergreen.Backup
