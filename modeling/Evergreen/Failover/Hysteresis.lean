import Evergreen.Failover.Selection

namespace Evergreen.Failover

/-! # The health of a cluster over rounds

`check_all_clusters` and the loop keep a counter of failed rounds each and reset
it at different points.  Both hold the number of rounds in a row in which no
endpoint was reachable, modulo 2^32.
-/

def noneReachable (answers : Answers) (name : String) (endpoints : List String) : Prop :=
  ∀ probe ∈ probes answers name endpoints, probe.isOk = false

def allReachable (answers : Answers) (name : String) (endpoints : List String) : Prop :=
  ∀ probe ∈ probes answers name endpoints, probe.isOk = true

instance (answers : Answers) (name : String) (endpoints : List String) :
    Decidable (noneReachable answers name endpoints) := by
  unfold noneReachable
  exact inferInstance

instance (answers : Answers) (name : String) (endpoints : List String) :
    Decidable (allReachable answers name endpoints) := by
  unfold allReachable
  exact inferInstance

/-- The rounds in a row up to the last, latest first, that reached no endpoint. -/
def silentRounds (name : String) (endpoints : List String) : List Answers → Nat
  | [] => 0
  | answers :: earlier =>
      if noneReachable answers name endpoints then silentRounds name endpoints earlier + 1 else 0

/-- The status that the rounds so far, latest first, call for. -/
def expectedStatus (failureThreshold : Nat) (name : String) (endpoints : List String) :
    List Answers → ClusterStatus
  | [] => .unknown
  | answers :: earlier =>
      if failureThreshold ≤ silentRounds name endpoints (answers :: earlier) then .failed
      else if allReachable answers name endpoints then .healthy
      else .degraded

/-- Both implementations after the same rounds, with the rounds, latest first. -/
structure Paired where
  monitor : MultiClusterMonitor
  loop : ClusterLoop
  history : List Answers

namespace Paired

def start (monitor : MultiClusterMonitor) : Paired where
  monitor := monitor
  loop := monitor.startLoop
  history := []

def step (state : Paired) (turn : Answers × Nat) : Paired where
  monitor := state.monitor.checkAllClusters turn.1
  loop := (state.loop.round turn.1 turn.2).1
  history := turn.1 :: state.history

/-- Both hold the status that the rounds call for, for every cluster. -/
def AsExpected (state : Paired) : Prop :=
  ∀ entry ∈ state.monitor.clusters.entries,
    state.loop.clusterStatus entry.1 = some entry.2.status ∧
    entry.2.status = expectedStatus state.monitor.failureThreshold entry.1 entry.2.endpoints
      state.history

end Paired

def reachableCount (probes : List Probe) : Nat := probes.countP Probe.isOk

/-- Counted modulo 2^32, the reachable endpoints still tell none and all apart
from the rest. -/
def CountFits (probes : List Probe) : Prop :=
  (reachableCount probes % 2 ^ 32 = probes.length % 2 ^ 32 →
    reachableCount probes = probes.length) ∧
  (reachableCount probes % 2 ^ 32 = 0 → reachableCount probes = 0)

/-- A row of silent rounds that has reached the threshold has also when it is
counted modulo 2^32. -/
def RowFits (failureThreshold silent : Nat) : Prop :=
  failureThreshold ≤ silent → failureThreshold ≤ silent % 2 ^ 32

def Paired.RoundFits (state : Paired) (turn : Answers × Nat) : Prop :=
  ∀ entry ∈ state.monitor.clusters.entries,
    CountFits (probes turn.1 entry.1 entry.2.endpoints) ∧
    RowFits state.monitor.failureThreshold
      (silentRounds entry.1 entry.2.endpoints (turn.1 :: state.history))

def pairedRounds : Machine Paired (Answers × Nat) := .ofFunction Paired.step

variable {monitor : MultiClusterMonitor} {loop start : ClusterLoop} {answers : Answers}
variable {name : String} {endpoints : List String} {health : ClusterHealth}
variable {failureThreshold : Nat} {state : Paired} {turn : Answers × Nat}

theorem expectedStatus_cons {earlier : List Answers} :
    expectedStatus failureThreshold name endpoints (answers :: earlier) =
      if failureThreshold ≤ silentRounds name endpoints (answers :: earlier) then .failed
      else if allReachable answers name endpoints then .healthy
      else .degraded := rfl

@[simp] theorem probes_length : (probes answers name endpoints).length = endpoints.length := by
  simp [probes]

theorem tally_reachable (probes : List Probe) :
    (tally probes).1 = reachableCount probes % 2 ^ 32 := by
  suffices ∀ counts : Nat × Nat, counts.1 < 2 ^ 32 →
      (probes.foldl (fun counts probe =>
        if probe.isOk then (incrementU32 counts.1, (counts.2 + probe.elapsedMs) % 2 ^ 64)
        else counts) counts).1 = (counts.1 + probes.countP Probe.isOk) % 2 ^ 32 by
    simpa [tally, reachableCount] using this (0, 0) (by decide)
  induction probes with
  | nil =>
      intro counts bounded
      exact (Nat.mod_eq_of_lt bounded).symm
  | cons probe probes ih =>
      intro counts bounded
      rw [List.foldl_cons]
      cases ok : probe.isOk with
      | false =>
          rw [List.countP_cons_of_neg (by simp [ok]), if_neg (by simp), ih counts bounded]
      | true =>
          have next : incrementU32 counts.1 < 2 ^ 32 := Nat.mod_lt _ (by decide)
          rw [if_pos rfl, ih _ next, List.countP_cons_of_pos ok]
          simp only [incrementU32]
          omega

/-! ## One cluster in one round -/

section Check

variable {probes : List Probe}

theorem ClusterHealth.check_complete (complete : (tally probes).1 = totalEndpoints health.endpoints) :
    (health.check failureThreshold probes).consecutiveFailures = 0 ∧
      (health.check failureThreshold probes).status = .healthy := by
  unfold ClusterHealth.check
  dsimp only
  rw [if_pos complete]
  exact ⟨rfl, rfl⟩

theorem ClusterHealth.check_degraded (mixed : (tally probes).1 ≠ totalEndpoints health.endpoints)
    (reached : 0 < (tally probes).1) :
    (health.check failureThreshold probes).consecutiveFailures = 0 ∧
      (health.check failureThreshold probes).status = .degraded := by
  unfold ClusterHealth.check
  dsimp only
  rw [if_neg mixed, if_pos reached]
  exact ⟨rfl, rfl⟩

theorem ClusterHealth.check_silent (mixed : (tally probes).1 ≠ totalEndpoints health.endpoints)
    (unreached : ¬ 0 < (tally probes).1) :
    (health.check failureThreshold probes).consecutiveFailures =
        incrementU32 health.consecutiveFailures ∧
      (health.check failureThreshold probes).status =
        if failureThreshold ≤ incrementU32 health.consecutiveFailures then .failed else .degraded := by
  unfold ClusterHealth.check
  dsimp only
  rw [if_neg mixed, if_neg unreached]
  exact ⟨rfl, rfl⟩

end Check

theorem reachableCount_eq_zero : reachableCount (probes answers name endpoints) = 0 ↔
    noneReachable answers name endpoints := by
  simp [reachableCount, List.countP_eq_zero, noneReachable]

theorem reachableCount_eq_length :
    reachableCount (probes answers name endpoints) = (probes answers name endpoints).length ↔
      allReachable answers name endpoints := List.countP_eq_length

theorem ClusterHealth.check_expected {history : List Answers} (occupied : health.endpoints ≠ [])
    (positive : 1 ≤ failureThreshold)
    (counted : health.consecutiveFailures = silentRounds name health.endpoints history % 2 ^ 32)
    (countFits : CountFits (probes answers name health.endpoints))
    (rowFits : RowFits failureThreshold
      (silentRounds name health.endpoints (answers :: history))) :
    (health.check failureThreshold (probes answers name health.endpoints)).consecutiveFailures =
        silentRounds name health.endpoints (answers :: history) % 2 ^ 32 ∧
      (health.check failureThreshold (probes answers name health.endpoints)).status =
        expectedStatus failureThreshold name health.endpoints (answers :: history) := by
  have length : 0 < health.endpoints.length := List.length_pos_iff.mpr occupied
  obtain ⟨all, none⟩ := countFits
  have total : (probes answers name health.endpoints).length % 2 ^ 32 =
      totalEndpoints health.endpoints := by
    rw [probes_length]
    rfl
  have reachable := tally_reachable (probes answers name health.endpoints)
  rw [total, ← reachable] at all
  rw [← reachable] at none
  rw [expectedStatus_cons]
  by_cases silent : noneReachable answers name health.endpoints
  · have zero := reachableCount_eq_zero.mpr silent
    have unreached : ¬ 0 < (tally (probes answers name health.endpoints)).1 := by
      rw [reachable, zero]
      decide
    have mixed : (tally (probes answers name health.endpoints)).1 ≠
        totalEndpoints health.endpoints := fun equal => by
      have complete := all equal
      rw [zero, probes_length] at complete
      omega
    have notAll : ¬ allReachable answers name health.endpoints := fun complete => by
      have equal := reachableCount_eq_length.mpr complete
      rw [zero, probes_length] at equal
      omega
    have grown : silentRounds name health.endpoints (answers :: history) =
        silentRounds name health.endpoints history + 1 := if_pos silent
    have next : incrementU32 health.consecutiveFailures =
        silentRounds name health.endpoints (answers :: history) % 2 ^ 32 := by
      rw [counted, grown, incrementU32]
      omega
    obtain ⟨failures, status⟩ := @check_silent health failureThreshold _ mixed unreached
    rw [failures, status, next, if_neg notAll]
    refine ⟨rfl, ?_⟩
    by_cases due : failureThreshold ≤ silentRounds name health.endpoints (answers :: history)
    · rw [if_pos due, if_pos (rowFits due)]
    · rw [if_neg due, if_neg fun reached => due (reached.trans (Nat.mod_le _ _))]
  · have reached : 0 < (tally (probes answers name health.endpoints)).1 := by
      by_contra zero
      exact silent (reachableCount_eq_zero.mp (none (by omega)))
    have reset : silentRounds name health.endpoints (answers :: history) = 0 := if_neg silent
    have early : ¬ failureThreshold ≤ 0 := by omega
    rw [reset, if_neg early]
    by_cases complete : allReachable answers name health.endpoints
    · have equal : (tally (probes answers name health.endpoints)).1 =
          totalEndpoints health.endpoints := by
        rw [reachable, reachableCount_eq_length.mpr complete, total]
      rw [if_pos complete]
      exact check_complete equal
    · have mixed : (tally (probes answers name health.endpoints)).1 ≠
          totalEndpoints health.endpoints :=
        fun equal => complete (reachableCount_eq_length.mp (all equal))
      rw [if_neg complete]
      exact check_degraded mixed reached

/-! ## The loop's tables follow the map -/

theorem checkCluster_other {cluster : String × List String} (other : name ≠ cluster.1) :
    (loop.checkCluster answers cluster).clusterStatus name = loop.clusterStatus name ∧
      (loop.checkCluster answers cluster).clusterFailures name = loop.clusterFailures name := by
  constructor
  · exact Function.update_of_ne other _ _
  · simp only [ClusterLoop.checkCluster]
    split <;> split <;> try split
    all_goals simp [Function.update_of_ne other]

theorem foldl_checkCluster_other {clusters : List (String × List String)}
    (absent : name ∉ clusters.map Prod.fst) :
    (clusters.foldl (fun loop cluster => loop.checkCluster answers cluster) loop).clusterStatus name =
        loop.clusterStatus name ∧
      (clusters.foldl (fun loop cluster => loop.checkCluster answers cluster) loop).clusterFailures
        name = loop.clusterFailures name := by
  induction clusters generalizing loop with
  | nil => exact ⟨rfl, rfl⟩
  | cons cluster clusters ih =>
      rw [List.map_cons, List.mem_cons, not_or] at absent
      obtain ⟨status, failures⟩ := @checkCluster_other loop answers name cluster absent.1
      obtain ⟨laterStatus, laterFailures⟩ := @ih (loop.checkCluster answers cluster) absent.2
      exact ⟨laterStatus.trans status, laterFailures.trans failures⟩

/-- The tables hold what the map holds of the cluster `name`. -/
structure Holds (loop : ClusterLoop) (name : String) (health : ClusterHealth) : Prop where
  status : loop.clusterStatus name = some health.status
  failures : loop.clusterFailures name = some health.consecutiveFailures

/-- The loop does not reset the counter of a cluster without endpoints, which is
zero from the start. -/
theorem checkCluster_holds (failures : loop.clusterFailures name = some health.consecutiveFailures)
    (settled : totalEndpoints health.endpoints = 0 → health.consecutiveFailures = 0) :
    Holds (loop.checkCluster answers (name, health.endpoints)) name
      (health.check loop.failureThreshold (probes answers name health.endpoints)) := by
  by_cases complete : (tally (probes answers name health.endpoints)).1 =
      totalEndpoints health.endpoints
  · obtain ⟨counter, status⟩ :=
      @ClusterHealth.check_complete health loop.failureThreshold _ complete
    refine ⟨?_, ?_⟩
    · simp [ClusterLoop.checkCluster, complete, status]
    · rw [counter]
      by_cases reached : 0 < (tally (probes answers name health.endpoints)).1
      · simp [ClusterLoop.checkCluster, reached]
      · have zero := settled (by omega)
        rw [zero] at failures
        have none : ¬ 0 < totalEndpoints health.endpoints := complete ▸ reached
        simp [ClusterLoop.checkCluster, complete, none, failures]
  · by_cases reached : 0 < (tally (probes answers name health.endpoints)).1
    · obtain ⟨counter, status⟩ :=
        @ClusterHealth.check_degraded health loop.failureThreshold _ complete reached
      refine ⟨?_, ?_⟩
      · simp [ClusterLoop.checkCluster, complete, reached, status]
      · simp [ClusterLoop.checkCluster, complete, reached, counter]
    · obtain ⟨counter, status⟩ :=
        @ClusterHealth.check_silent health loop.failureThreshold _ complete reached
      refine ⟨?_, ?_⟩
      · simp [ClusterLoop.checkCluster, complete, reached, status, failures]
      · simp [ClusterLoop.checkCluster, complete, reached, counter, failures]

theorem foldl_checkCluster_holds {clusters : List (String × List String)}
    (distinct : (clusters.map Prod.fst).Nodup) (member : (name, health.endpoints) ∈ clusters)
    (failures : loop.clusterFailures name = some health.consecutiveFailures)
    (settled : totalEndpoints health.endpoints = 0 → health.consecutiveFailures = 0) :
    Holds (clusters.foldl (fun loop cluster => loop.checkCluster answers cluster) loop) name
      (health.check loop.failureThreshold (probes answers name health.endpoints)) := by
  induction clusters generalizing loop with
  | nil => cases member
  | cons cluster clusters ih =>
      obtain ⟨absent, distinct⟩ := List.nodup_cons.mp distinct
      cases List.mem_cons.mp member with
      | inl first =>
          subst first
          have held : Holds (loop.checkCluster answers (name, health.endpoints)) name _ :=
            checkCluster_holds failures settled
          obtain ⟨status, counter⟩ := @foldl_checkCluster_other
            (loop.checkCluster answers (name, health.endpoints)) answers name clusters absent
          exact ⟨status.trans held.status, counter.trans held.failures⟩
      | inr later =>
          have other : name ≠ cluster.1 := fun same =>
            absent (same ▸ List.mem_map.mpr ⟨_, later, rfl⟩)
          have kept := (@checkCluster_other loop answers name cluster other).2
          exact @ih (loop.checkCluster answers cluster) distinct later (kept.trans failures)

namespace Paired

/-- The loop's tables hold what the map holds, cluster by cluster. -/
structure Coupled (state : Paired) : Prop where
  threshold : state.loop.failureThreshold = state.monitor.failureThreshold
  distinct : (state.loop.clusterEndpoints.map Prod.fst).Nodup
  listed : ∀ entry ∈ state.monitor.clusters.entries,
    (entry.1, entry.2.endpoints) ∈ state.loop.clusterEndpoints
  holds : ∀ entry ∈ state.monitor.clusters.entries, Holds state.loop entry.1 entry.2
  settled : ∀ entry ∈ state.monitor.clusters.entries,
    totalEndpoints entry.2.endpoints = 0 → entry.2.consecutiveFailures = 0

/-- The map follows the rounds, cluster by cluster. -/
structure Following (state : Paired) : Prop where
  positive : 1 ≤ state.monitor.failureThreshold
  occupied : ∀ entry ∈ state.monitor.clusters.entries, entry.2.endpoints ≠ []
  counted : ∀ entry ∈ state.monitor.clusters.entries,
    entry.2.consecutiveFailures =
      silentRounds entry.1 entry.2.endpoints state.history % 2 ^ 32
  expected : ∀ entry ∈ state.monitor.clusters.entries,
    entry.2.status = expectedStatus state.monitor.failureThreshold entry.1 entry.2.endpoints
      state.history

end Paired

open Paired

theorem forall_step_entries {property : String × ClusterHealth → Prop} :
    (∀ entry ∈ (state.step turn).monitor.clusters.entries, property entry) ↔
      ∀ entry ∈ state.monitor.clusters.entries,
        property (entry.1, entry.2.check state.monitor.failureThreshold
          (probes turn.1 entry.1 entry.2.endpoints)) :=
  List.forall_mem_map

theorem round_tables {draw : Nat} :
    (loop.round answers draw).1.clusterStatus = (loop.check answers).clusterStatus ∧
      (loop.round answers draw).1.clusterFailures = (loop.check answers).clusterFailures := by
  cases promoted : (loop.check answers).promotedName draw with
  | none => simp [ClusterLoop.round_of_none promoted]
  | some name => simp [ClusterLoop.round_of_some promoted]

theorem ClusterHealth.check_settled {probes : List Probe}
    (none : totalEndpoints health.endpoints = 0) :
    (health.check failureThreshold probes).consecutiveFailures = 0 := by
  by_cases complete : (tally probes).1 = totalEndpoints health.endpoints
  · exact (check_complete complete).1
  · exact (check_degraded complete (by omega)).1

theorem Paired.Coupled.step (coupled : state.Coupled) (turn : Answers × Nat) :
    (state.step turn).Coupled := by
  obtain ⟨clusterStatus, clusterFailures, primary, same⟩ := state.loop.round_eq turn.1 turn.2
  have frame : (state.step turn).loop.clusterEndpoints = state.loop.clusterEndpoints ∧
      (state.step turn).loop.failureThreshold = state.loop.failureThreshold := by
    simp [Paired.step, same]
  constructor
  · exact frame.2.trans coupled.threshold
  · rw [frame.1]
    exact coupled.distinct
  · rw [forall_step_entries, frame.1]
    intro entry member
    rw [ClusterHealth.check_endpoints]
    exact coupled.listed entry member
  · rw [forall_step_entries]
    intro entry member
    have held := @foldl_checkCluster_holds state.loop turn.1 entry.1 entry.2 _ coupled.distinct
      (coupled.listed entry member) (coupled.holds entry member).failures
      (coupled.settled entry member)
    rw [coupled.threshold] at held
    obtain ⟨status, failures⟩ := @round_tables state.loop turn.1 turn.2
    exact ⟨(congrFun status entry.1).trans held.status,
      (congrFun failures entry.1).trans held.failures⟩
  · rw [forall_step_entries]
    intro entry member
    rw [ClusterHealth.check_endpoints]
    exact ClusterHealth.check_settled

theorem Paired.Following.step (following : state.Following) (fits : state.RoundFits turn) :
    (state.step turn).Following := by
  have checked : ∀ entry ∈ state.monitor.clusters.entries, _ ∧ _ := fun entry member =>
    entry.2.check_expected (following.occupied entry member) following.positive
      (following.counted entry member) (fits entry member).1 (fits entry member).2
  constructor
  · exact following.positive
  · rw [forall_step_entries]
    intro entry member
    rw [ClusterHealth.check_endpoints]
    exact following.occupied entry member
  · rw [forall_step_entries]
    intro entry member
    rw [ClusterHealth.check_endpoints]
    exact (checked entry member).1
  · rw [forall_step_entries]
    intro entry member
    rw [ClusterHealth.check_endpoints]
    exact (checked entry member).2

/-! ## Over the rounds from the start -/

/-- No cluster has been checked yet. -/
def MultiClusterMonitor.Fresh (monitor : MultiClusterMonitor) : Prop :=
  ∀ entry ∈ monitor.clusters.entries, entry.2 = ClusterHealth.new entry.2.endpoints

theorem coupled_start (fresh : monitor.Fresh) : (Paired.start monitor).Coupled := by
  have listed : ∀ entry ∈ monitor.clusters.entries,
      (entry.1, entry.2.endpoints) ∈ monitor.clusterEndpoints :=
    fun entry member => MultiClusterMonitor.mem_clusterEndpoints.mpr ⟨entry.2, member, rfl⟩
  constructor
  · rfl
  · change (monitor.clusterEndpoints.map Prod.fst).Nodup
    rw [MultiClusterMonitor.clusterEndpoints_names]
    exact monitor.clusterNames_perm.nodup_iff.mpr monitor.clusters.distinct
  · exact listed
  · intro entry member
    have named : entry.1 ∈ monitor.clusterEndpoints.map Prod.fst :=
      List.mem_map.mpr ⟨_, listed entry member, rfl⟩
    rw [fresh entry member]
    exact ⟨if_pos named, if_pos named⟩
  · intro entry member _
    rw [fresh entry member]
    rfl

theorem following_start (fresh : monitor.Fresh) (positive : 1 ≤ monitor.failureThreshold)
    (occupied : ∀ entry ∈ monitor.clusters.entries, entry.2.endpoints ≠ []) :
    (Paired.start monitor).Following := by
  refine ⟨positive, occupied, fun entry member => ?_, fun entry member => ?_⟩
  · rw [fresh entry member]
    rfl
  · rw [fresh entry member]
    rfl

/-- The two implementations agree in every run, whatever the counters have become. -/
theorem always_coupled {turns : List (Answers × Nat)} (fresh : monitor.Fresh) :
    pairedRounds.Always Paired.Coupled (.start monitor) turns :=
  Machine.always_ofFunction _ (fun _ turn coupled => coupled.step turn) (coupled_start fresh)

/-- Both implementations hold the expected status of every cluster after every
round, as long as the counts of reachable endpoints and of silent rounds keep
their meaning modulo 2^32. -/
theorem always_asExpected {turns : List (Answers × Nat)} (fresh : monitor.Fresh)
    (positive : 1 ≤ monitor.failureThreshold)
    (occupied : ∀ entry ∈ monitor.clusters.entries, entry.2.endpoints ≠ [])
    (along : pairedRounds.Along Paired.RoundFits (.start monitor) turns) :
    pairedRounds.Always Paired.AsExpected (.start monitor) turns := by
  have following : pairedRounds.Always Paired.Following (.start monitor) turns := by
    apply Machine.always_of_along _ ?_ (following_start fresh positive occupied) along
    intro state turn next following fits taken
    cases taken
    exact following.step fits
  refine ((always_coupled fresh).and following).imp fun state invariant entry member => ?_
  exact ⟨(invariant.1.holds entry member).status, invariant.2.expected entry member⟩

theorem always_asExpected_eastDown :
    pairedRounds.Always Paired.AsExpected
      (.start (threeClusters "west" "north" (by decide) .sequential)) [(eastDown, 0)] := by
  apply always_asExpected (by unfold MultiClusterMonitor.Fresh; decide) (by decide) (by decide)
  exact .cons rfl (by unfold Paired.RoundFits CountFits RowFits; decide +kernel) trivial

/-! ## Four billion silent rounds -/

/-- The cluster `name` has been silent for that many rounds, and no more. -/
structure Silent (state : Paired) (name : String) (health : ClusterHealth) (rounds : Nat) :
    Prop where
  threshold : state.monitor.failureThreshold = 1
  listed : (name, health) ∈ state.monitor.clusters.entries
  endpoint : health.endpoints.length = 1
  failures : health.consecutiveFailures = rounds
  silent : silentRounds name health.endpoints state.history = rounds

def nobodyAnswers : Answers := fun _ _ => ⟨false, 0⟩

theorem nobodyAnswers_silent : noneReachable nobodyAnswers name endpoints := by
  intro probe member
  obtain ⟨position, _, rfl⟩ := List.mem_map.mp member
  rfl

section SilentCluster

variable {rounds : Nat} (silent : Silent state name health rounds)
include silent

theorem Silent.check :
    (health.check state.monitor.failureThreshold
        (probes nobodyAnswers name health.endpoints)).consecutiveFailures = incrementU32 rounds ∧
      (health.check state.monitor.failureThreshold
        (probes nobodyAnswers name health.endpoints)).status =
          if 1 ≤ incrementU32 rounds then .failed else .degraded := by
  have counted := tally_reachable (probes nobodyAnswers name health.endpoints)
  rw [reachableCount_eq_zero.mpr nobodyAnswers_silent] at counted
  have mixed : (tally (probes nobodyAnswers name health.endpoints)).1 ≠
      totalEndpoints health.endpoints := by
    rw [counted, totalEndpoints, silent.endpoint]
    decide
  have checked := @ClusterHealth.check_silent health state.monitor.failureThreshold _ mixed
    (by rw [counted]; decide)
  rw [silent.failures] at checked
  refine ⟨checked.1, checked.2.trans ?_⟩
  rw [silent.threshold]

theorem Silent.listed_step :
    (name, health.check state.monitor.failureThreshold
      (probes nobodyAnswers name health.endpoints)) ∈
        (state.step (nobodyAnswers, 0)).monitor.clusters.entries :=
  List.mem_map_of_mem (f := fun entry : String × ClusterHealth => (entry.1,
    entry.2.check state.monitor.failureThreshold
      (probes nobodyAnswers entry.1 entry.2.endpoints))) silent.listed

theorem Silent.grown :
    silentRounds name health.endpoints (nobodyAnswers :: state.history) = rounds + 1 := by
  rw [silentRounds, if_pos nobodyAnswers_silent, silent.silent]

theorem Silent.step (below : rounds + 1 < 2 ^ 32) :
    Silent (state.step (nobodyAnswers, 0)) name
      (health.check state.monitor.failureThreshold (probes nobodyAnswers name health.endpoints))
      (rounds + 1) := by
  constructor
  · exact silent.threshold
  · exact silent.listed_step
  · rw [ClusterHealth.check_endpoints, silent.endpoint]
  · exact silent.check.1.trans (Nat.mod_eq_of_lt below)
  · rw [ClusterHealth.check_endpoints]
    exact silent.grown

/-- A cluster that is silent is found to have failed unless its counter wraps. -/
theorem Silent.below (below : rounds < 2 ^ 32)
    (expected : (state.step (nobodyAnswers, 0)).AsExpected) : rounds + 1 < 2 ^ 32 := by
  have status := (expected _ silent.listed_step).2
  rw [silent.check.2, ClusterHealth.check_endpoints] at status
  change _ = expectedStatus state.monitor.failureThreshold name health.endpoints
    (nobodyAnswers :: state.history) at status
  rw [expectedStatus_cons, silent.grown, silent.threshold,
    if_pos (Nat.le_add_left 1 rounds)] at status
  by_contra wraps
  have zero : incrementU32 rounds = 0 := by
    rw [incrementU32]
    omega
  rw [zero] at status
  cases status

end SilentCluster

theorem Silent.short {rounds more : Nat} (silent : Silent state name health rounds)
    (below : rounds < 2 ^ 32)
    (always : pairedRounds.Always Paired.AsExpected state
      (List.replicate (more + 1) (nobodyAnswers, 0))) : rounds + more + 1 < 2 ^ 32 := by
  induction more generalizing state health rounds with
  | zero => exact silent.below below (always.2 _ rfl).head
  | succ more ih =>
      have later := always.2 _ rfl
      have next := silent.below below later.head
      have short := ih (silent.step next) next later
      omega

/-- After 2^32 rounds without an answer the primary cluster is merely degraded. -/
theorem not_always_asExpected : ¬ pairedRounds.Always Paired.AsExpected
    (.start (threeClusters "west" "north" (by decide) .sequential))
    (List.replicate (2 ^ 32) (nobodyAnswers, 0)) := by
  intro always
  have silent : Silent (.start (threeClusters "west" "north" (by decide) .sequential)) "east"
      (.new ["127.0.0.1:5432"]) 0 := ⟨rfl, List.mem_cons_self, rfl, rfl, rfl⟩
  have short := silent.short (Nat.two_pow_pos 32)
    (show pairedRounds.Always Paired.AsExpected _
      (List.replicate (2 ^ 32 - 1 + 1) (nobodyAnswers, 0)) from always)
  omega

end Evergreen.Failover
