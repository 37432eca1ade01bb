import Evergreen.Failover.Selection

namespace Evergreen.Failover

/-! # The monitor's primary and the loop's primary

The loop promotes by writing its own copy of the primary; the accessors and
`promote_secondary` work on the fields of the monitor.  The machine below runs
both, with the number of promotions performed so far beside them.
-/

inductive MonitorCall where
  | round (answers : Answers) (draw : Nat)
  | checkAllClusters (answers : Answers)
  | promoteSecondary (draw : Nat)
  | clustersMut (clusters : ClusterMap)

/-- A monitor with its loop; `afterRound` tells whether the loop made the last step. -/
structure Monitored where
  monitor : MultiClusterMonitor
  loop : ClusterLoop
  promotions : Nat
  afterRound : Bool

namespace Monitored

def start (monitor : MultiClusterMonitor) : Monitored where
  monitor := monitor
  loop := monitor.startLoop
  promotions := monitor.promotionsTotal
  afterRound := false

def step (state : Monitored) : MonitorCall → Monitored
  | .round answers draw =>
      { state with
        loop := (state.loop.round answers draw).1
        promotions :=
          if ((state.loop.check answers).promotedName draw).isSome then state.promotions + 1
          else state.promotions
        afterRound := true }
  | .checkAllClusters answers =>
      { state with
        monitor := state.monitor.checkAllClusters answers
        afterRound := false }
  | .promoteSecondary draw =>
      { state with
        monitor := (state.monitor.promoteSecondary draw).1
        promotions :=
          if (state.monitor.promoteSecondary draw).2.1.isSome then state.promotions + 1
          else state.promotions
        afterRound := false }
  | .clustersMut clusters =>
      { state with
        monitor := { state.monitor with clusters }
        afterRound := false }

/-- After a round the accessors tell what the loop and the monitor have done. -/
def Agrees (state : Monitored) : Prop :=
  state.afterRound = true →
    state.monitor.primaryCluster = state.loop.primary ∧
      state.monitor.promotionsTotal = state.promotions

/-- Nothing is promoted by the round: the primary has not failed, or no other
cluster is healthy. -/
def RoundKeepsPrimary (loop : ClusterLoop) (answers : Answers) : Prop :=
  (loop.check answers).clusterStatus (loop.check answers).primary ≠ some .failed ∨
    (loop.check answers).candidates = []

/-- A round promotes nothing, finds both primaries the same, and the promotions
so far fit their counter. -/
def RoundInStep (state : Monitored) : MonitorCall → Prop
  | .round answers _ =>
      RoundKeepsPrimary state.loop answers ∧
        state.monitor.primaryCluster = state.loop.primary ∧ state.promotions < 2 ^ 64
  | _ => True

/-- The counter is the number of promotions modulo 2^64. -/
def Counted (state : Monitored) : Prop :=
  state.monitor.promotionsTotal = state.promotions % 2 ^ 64

end Monitored

open Monitored

def monitorCalls : Machine Monitored MonitorCall := .ofFunction Monitored.step

variable {state : Monitored} {monitor : MultiClusterMonitor} {loop : ClusterLoop}
variable {answers : Answers} {draw : Nat} {call : MonitorCall} {calls : List MonitorCall}

theorem chooseCluster_eq_none {strategy : MultiClusterFailoverStrategy}
    {candidates : List (String × Option Nat)} :
    chooseCluster strategy draw candidates = none ↔ candidates = [] := by
  cases strategy with
  | sequential => simp [chooseCluster]
  | latencyBased => simp [chooseCluster]
  | weightedRandom =>
      cases candidates with
      | nil => simp [chooseCluster]
      | cons first rest => simp [chooseCluster]

theorem promotedName_eq_none : (loop.check answers).promotedName draw = none ↔
    RoundKeepsPrimary loop answers := by
  unfold ClusterLoop.promotedName RoundKeepsPrimary
  by_cases failed : (loop.check answers).clusterStatus (loop.check answers).primary = some .failed
  · simp [failed, chooseCluster_eq_none]
  · have other : ((loop.check answers).clusterStatus (loop.check answers).primary).getD .unknown ≠
        .failed := by
      intro equal
      cases known : (loop.check answers).clusterStatus (loop.check answers).primary with
      | none => simp [known] at equal
      | some status => exact failed (known.trans (congrArg some (by simpa [known] using equal)))
    simp [failed, other]

theorem round_primary (keeps : RoundKeepsPrimary loop answers) :
    (loop.round answers draw).1.primary = loop.primary := by
  obtain ⟨clusterStatus, clusterFailures, checked⟩ := loop.check_eq answers
  rw [ClusterLoop.round_of_none (promotedName_eq_none.mpr keeps), checked]

theorem promoteSecondary_counted (counted : state.Counted) :
    (state.step (.promoteSecondary draw)).Counted := by
  unfold Counted at counted ⊢
  cases selected : state.monitor.selectFailoverTarget draw with
  | none => simpa [step, MultiClusterMonitor.promoteSecondary, selected] using counted
  | some target =>
      simp only [step, MultiClusterMonitor.promoteSecondary, selected, Option.isSome_some, ↓reduceIte,
        incrementU64]
      omega

theorem Monitored.Counted.step (counted : state.Counted) (inStep : state.RoundInStep call) :
    (state.step call).Counted := by
  cases call with
  | round answers draw =>
      have stays : (state.loop.check answers).promotedName draw = none :=
        promotedName_eq_none.mpr inStep.1
      simpa [Counted, Monitored.step, stays] using counted
  | checkAllClusters answers => exact counted
  | promoteSecondary draw => exact promoteSecondary_counted counted
  | clustersMut clusters => exact counted

theorem Monitored.Counted.not_agrees (counted : state.Counted)
    (outOfStep : ¬ state.RoundInStep call) : ¬ (state.step call).Agrees := by
  cases call with
  | checkAllClusters answers => exact absurd trivial outOfStep
  | promoteSecondary draw => exact absurd trivial outOfStep
  | clustersMut clusters => exact absurd trivial outOfStep
  | round answers draw =>
      intro agrees
      obtain ⟨primary, total⟩ := agrees rfl
      have counter : state.monitor.promotionsTotal = state.promotions % 2 ^ 64 := counted
      change state.monitor.primaryCluster = (state.loop.round answers draw).1.primary at primary
      change state.monitor.promotionsTotal = (if _ then _ else _) at total
      by_cases keeps : RoundKeepsPrimary state.loop answers
      · rw [promotedName_eq_none.mpr keeps] at total
        rw [round_primary keeps] at primary
        refine outOfStep ⟨keeps, primary, ?_⟩
        simp only [Option.isSome_none, Bool.false_eq_true, ↓reduceIte] at total
        omega
      · obtain ⟨promoted, promotes⟩ :=
          Option.ne_none_iff_exists'.mp (mt promotedName_eq_none.mp keeps)
        rw [promotes] at total
        simp only [Option.isSome_some, ↓reduceIte] at total
        omega

theorem Monitored.Counted.agrees (counted : state.Counted) (inStep : state.RoundInStep call) :
    (state.step call).Agrees := by
  intro afterRound
  cases call with
  | checkAllClusters answers => cases afterRound
  | promoteSecondary draw => cases afterRound
  | clustersMut clusters => cases afterRound
  | round answers draw =>
      obtain ⟨keeps, primary, fits⟩ := inStep
      have counter : state.monitor.promotionsTotal = state.promotions % 2 ^ 64 := counted
      constructor
      · change state.monitor.primaryCluster = (state.loop.round answers draw).1.primary
        rw [round_primary keeps, primary]
      · change state.monitor.promotionsTotal = (if _ then _ else _)
        rw [promotedName_eq_none.mpr keeps, counter]
        exact Nat.mod_eq_of_lt fits

/-- After every round the accessors agree with the loop exactly in the runs
whose rounds all promote nothing, start from equal primaries and find a number
of promotions that fits the counter. -/
theorem always_agrees_iff (fits : monitor.promotionsTotal < 2 ^ 64) :
    monitorCalls.Always Monitored.Agrees (.start monitor) calls ↔
      monitorCalls.Along Monitored.RoundInStep (.start monitor) calls := by
  apply Machine.always_ofFunction_iff_along fun state => state.Counted ∧ state.Agrees
  · exact fun state invariant => invariant.2
  · exact fun state call invariant inStep =>
      ⟨invariant.1.step inStep, invariant.1.agrees inStep⟩
  · exact fun state call invariant outOfStep => invariant.1.not_agrees outOfStep
  · exact ⟨(Nat.mod_eq_of_lt fits).symm, fun afterRound => by cases afterRound⟩

theorem always_agrees_idle :
    monitorCalls.Always Monitored.Agrees
      (.start (threeClusters "west" "north" (by decide) .sequential))
      [.round (fun _ _ => ⟨true, 10⟩) 0] :=
  (always_agrees_iff (by decide)).mpr (.cons rfl ⟨.inl (by decide +kernel), rfl, by decide⟩ trivial)

/-- One promotion by the loop: `primary_cluster` still names the failed cluster,
and `promotions_total` is 0. -/
theorem not_always_agrees : ¬ monitorCalls.Always Monitored.Agrees
    (.start (threeClusters "west" "north" (by decide) .sequential)) [.round eastDown 0] := by
  intro always
  have agrees := always.last rfl
  have primary : "east" = "north" := (agrees rfl).1
  exact absurd primary (by decide)

end Evergreen.Failover
