import Evergreen.Machine.KeyedList
import Evergreen.Machine.Run
import Evergreen.Text.Parse
import Mathlib.Data.List.Perm.Basic

namespace Evergreen.Chaos

/-! # The chaos orchestrator

`ChaosOrchestrator` keeps the experiments it has started in a map by their ids
until they are completed, then as records of its history.  Instants are
nanoseconds; an instant written as RFC 3339 is read back as it was.
-/

inductive FaultType where
  | latency
  | error
  | partition
  | kill
  | packetLoss
deriving DecidableEq, Repr

structure ChaosExperiment where
  id : String
  name : String
  faultType : FaultType
  enabled : Bool
  target : String
  blastRadius : Float
  durationSecs : Nat
  startedAt : Option Int
  endedAt : Option Int
  faultsInjected : Nat

structure ExperimentResult where
  experimentId : String
  name : String
  faultType : FaultType
  target : String
  /-- The empty text where nothing is known. -/
  startedAt : Option Int
  endedAt : Int
  faultsInjected : Nat
  success : Bool

structure ExperimentSchedule where
  cron : String
  maxRuns : Option Nat
  runCount : Nat

/-- The map of active experiments as a list in which no id occurs twice. -/
structure ChaosOrchestrator where
  enabled : Bool
  activeExperiments : List ChaosExperiment := []
  experimentHistory : List ExperimentResult := []
  schedules : String → Option ExperimentSchedule := fun _ => none
  experimentCounter : Nat := 0
  totalFaultsInjected : Nat := 0
  blastRadiusLimit : Float := 1

/-- `f64::min`. -/
def f64Min (left right : Float) : Float :=
  if right.isNaN then left else if left ≤ right then left else right

/-- `f64::clamp` to the interval from 0 to 1. -/
def clamp (value : Float) : Float :=
  if value < 0 then 0 else if 1 < value then 1 else value

def experimentId (number : Nat) : String := "orch-exp-" ++ Text.padDecimal 4 number

/-- `duration_secs as i64`. -/
def asI64 (secs : Nat) : Int := if secs < 2 ^ 63 then secs else (secs : Int) - 2 ^ 64

/-- `Duration::seconds`, in nanoseconds; it panics out of its bounds. -/
def durationSeconds (secs : Int) : Option Int :=
  if -(2 ^ 63 - 1) / 1000 ≤ secs ∧ secs ≤ (2 ^ 63 - 1) / 1000 then some (secs * 1000000000) else none

namespace ChaosExperiment

/-- Whether the time of an experiment is up; an experiment that was stopped is not
looked at. -/
def expired (now : Int) (experiment : ChaosExperiment) : Option Bool :=
  if experiment.enabled then
    match experiment.startedAt with
    | none => some false
    | some started => (durationSeconds (asI64 experiment.durationSecs)).map
        fun duration => decide (duration ≤ now - started)
  else some false

def stopAt (now : Int) (experiment : ChaosExperiment) : ChaosExperiment :=
  { experiment with enabled := false, endedAt := some now }

def result (now : Int) (success : Bool) (experiment : ChaosExperiment) : ExperimentResult where
  experimentId := experiment.id
  name := experiment.name
  faultType := experiment.faultType
  target := experiment.target
  startedAt := experiment.startedAt
  endedAt := experiment.endedAt.getD now
  faultsInjected := experiment.faultsInjected
  success := success

end ChaosExperiment

namespace ChaosOrchestrator

variable (orchestrator : ChaosOrchestrator)

def setBlastRadiusLimit (limit : Float) : ChaosOrchestrator :=
  { orchestrator with blastRadiusLimit := clamp limit }

def getExperiment (id : String) : Option ChaosExperiment :=
  orchestrator.activeExperiments.find? (·.id = id)

def startExperiment (name : String) (faultType : FaultType) (target : String) (blastRadius : Float)
    (durationSecs : Nat) (now : Int) : ChaosOrchestrator × Except String String :=
  if orchestrator.enabled then
    let counter := (orchestrator.experimentCounter + 1) % 2 ^ 64
    let experiment : ChaosExperiment :=
      { id := experimentId counter
        name, faultType, target, durationSecs
        enabled := true
        blastRadius := f64Min blastRadius orchestrator.blastRadiusLimit
        startedAt := some now
        endedAt := none
        faultsInjected := 0 }
    ({ orchestrator with
      experimentCounter := counter
      activeExperiments := orchestrator.activeExperiments.filter (·.id ≠ experiment.id) ++
        [experiment] }, .ok experiment.id)
  else (orchestrator, .error "Orchestrator is disabled")

def update (id : String) (change : ChaosExperiment → ChaosExperiment) : ChaosOrchestrator :=
  { orchestrator with
    activeExperiments :=
      KeyedList.update ChaosExperiment.id id change orchestrator.activeExperiments }

def stopExperiment (id : String) (now : Int) : ChaosOrchestrator × Bool :=
  (orchestrator.update id (·.stopAt now), (orchestrator.getExperiment id).isSome)

/-- Each experiment is stopped at an instant of its own. -/
def stopAll (now : String → Int) : ChaosOrchestrator :=
  (orchestrator.activeExperiments.map (·.id)).foldl
    (fun orchestrator id => (orchestrator.stopExperiment id (now id)).1) orchestrator

def completeExperiment (id : String) (success : Bool) (now : Int) : ChaosOrchestrator × Bool :=
  match orchestrator.getExperiment id with
  | none => (orchestrator, false)
  | some experiment => ({ orchestrator with
      activeExperiments := orchestrator.activeExperiments.filter (·.id ≠ id)
      experimentHistory := orchestrator.experimentHistory ++ [experiment.result now success]
      totalFaultsInjected :=
        (orchestrator.totalFaultsInjected + experiment.faultsInjected) % 2 ^ 64 }, true)

def registerSchedule (experimentId cron : String) (maxRuns : Option Nat) : ChaosOrchestrator :=
  { orchestrator with
    schedules := Function.update orchestrator.schedules experimentId
      (some { cron, maxRuns, runCount := 0 }) }

def canRunScheduled (experimentId : String) : Bool :=
  match orchestrator.schedules experimentId with
  | none => false
  | some schedule =>
      match schedule.maxRuns with
      | none => true
      | some maxRuns => decide (schedule.runCount < maxRuns)

def recordScheduledRun (experimentId : String) : ChaosOrchestrator :=
  { orchestrator with
    schedules := Function.update orchestrator.schedules experimentId
      ((orchestrator.schedules experimentId).map fun schedule =>
        { schedule with runCount := (schedule.runCount + 1) % 2 ^ 32 }) }

/-- The experiments whose time is up; `none` is a panic. -/
def expiredExperiments (now : Int) : Option (List ChaosExperiment) :=
  if orchestrator.activeExperiments.all fun experiment => (experiment.expired now).isSome then
    some (orchestrator.activeExperiments.filter fun experiment => experiment.expired now = some true)
  else none

def expire (now : Int) (id : String) : ChaosOrchestrator :=
  ((orchestrator.update id (·.stopAt now)).completeExperiment id true now).1

/-- The map yields its entries in an order of its own. -/
def tick (now : Int) (order : List String) : Option ChaosOrchestrator :=
  (orchestrator.expiredExperiments now).bind fun expired =>
    if order.isPerm (expired.map (·.id)) then
      some (order.foldl (fun orchestrator id => orchestrator.expire now id) orchestrator)
    else none

end ChaosOrchestrator

end Evergreen.Chaos
