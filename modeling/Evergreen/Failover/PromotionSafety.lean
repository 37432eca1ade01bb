import Evergreen.Failover.Hysteresis
import Evergreen.Failover.Primaries

namespace Evergreen.Failover

/-! # Which clusters are promoted

A cluster is healthy when as many endpoints were reachable as it has.  A cluster
without endpoints always is, and so is one that was passed in as healthy, until
the first round of checks.
-/

inductive CheckCall where
  | checkAllClusters (answers : Answers)
  | promoteSecondary (draw : Nat)

structure Checked where
  monitor : MultiClusterMonitor
  last : Option Answers

namespace Checked

def step (state : Checked) : CheckCall → Checked
  | .checkAllClusters answers => ⟨state.monitor.checkAllClusters answers, some answers⟩
  | .promoteSecondary draw => { state with monitor := (state.monitor.promoteSecondary draw).1 }

/-- A cluster other than the primary, all of whose endpoints answered last. -/
def MayPromote (state : Checked) (name : String) : Prop :=
  name ≠ state.monitor.primaryCluster ∧
    ∃ health answers, state.monitor.clusters.get name = some health ∧
      state.last = some answers ∧ health.endpoints ≠ [] ∧
      allReachable answers name health.endpoints

def PromotesSafely (state : Checked) : CheckCall → Prop
  | .checkAllClusters _ => True
  | .promoteSecondary draw =>
      ∀ target, (state.monitor.promoteSecondary draw).2.1 = some target → state.MayPromote target

end Checked

/-- Endpoints can be counted in a `u32`, and there is one. -/
def Countable (endpoints : List String) : Prop :=
  endpoints ≠ [] ∧ endpoints.length < 2 ^ 32

/-- There is only the primary to choose from, or every cluster has a countable
number of endpoints and none but the primary counts as healthy unchecked. -/
def MultiClusterMonitor.Confirmable (monitor : MultiClusterMonitor) : Prop :=
  (∀ entry ∈ monitor.clusters.entries, entry.1 = monitor.primaryCluster) ∨
    ∀ entry ∈ monitor.clusters.entries, Countable entry.2.endpoints ∧
      (entry.1 ≠ monitor.primaryCluster → entry.2.status ≠ .healthy)

open Checked MultiClusterMonitor

def checkCalls : Machine Checked CheckCall := .ofFunction Checked.step

variable {state : Checked} {monitor : MultiClusterMonitor} {answers : Answers} {draw : Nat}
variable {name target : String} {health : ClusterHealth} {endpoints : List String}
variable {failureThreshold : Nat}

/-! ## One promotion -/

theorem mem_of_chooseCluster {strategy : MultiClusterFailoverStrategy}
    {candidates : List (String × Option Nat)}
    (chosen : chooseCluster strategy draw candidates = some name) :
    name ∈ candidates.map Prod.fst := by
  cases strategy with
  | sequential =>
      obtain ⟨candidate, first, rfl⟩ := Option.map_eq_some_iff.mp chosen
      exact List.mem_map_of_mem (List.mem_of_head? first)
  | latencyBased =>
      obtain ⟨candidate, least, rfl⟩ := Option.map_eq_some_iff.mp chosen
      exact List.mem_map_of_mem (List.argmin_mem least)
  | weightedRandom =>
      obtain ⟨candidate, drawn, rfl⟩ := Option.map_eq_some_iff.mp chosen
      exact List.mem_map_of_mem (List.mem_of_getElem? drawn)

theorem mem_of_selectFailoverTarget (selected : monitor.selectFailoverTarget draw = some target) :
    ∃ health, (target, health) ∈ monitor.clusters.entries ∧
      target ≠ monitor.primaryCluster ∧ health.status = .healthy := by
  obtain ⟨candidate, member, rfl⟩ := List.mem_map.mp (mem_of_chooseCluster selected)
  obtain ⟨health, listed, other, healthy, _⟩ := mem_ranked.mp member
  exact ⟨health, listed, other, healthy⟩

theorem selectFailoverTarget_isSome (draw : Nat) (listed : (name, health) ∈ monitor.clusters.entries)
    (other : name ≠ monitor.primaryCluster) (healthy : health.status = .healthy) :
    ∃ target, monitor.selectFailoverTarget draw = some target := by
  apply Option.ne_none_iff_exists'.mp
  intro none
  have empty : monitor.ranked = [] := chooseCluster_eq_none.mp none
  have member : (name, health.latencyMs) ∈ monitor.ranked :=
    mem_ranked.mpr ⟨health, listed, other, healthy, rfl⟩
  simp [empty] at member

theorem promoteSecondary_target :
    (monitor.promoteSecondary draw).2.1 = monitor.selectFailoverTarget draw := by
  cases selected : monitor.selectFailoverTarget draw with
  | none => simp [promoteSecondary, selected]
  | some target => simp [promoteSecondary, selected]

@[simp] theorem promoteSecondary_clusters :
    (monitor.promoteSecondary draw).1.clusters = monitor.clusters := by
  cases selected : monitor.selectFailoverTarget draw with
  | none => simp [promoteSecondary, selected]
  | some target => simp [promoteSecondary, selected]

theorem promoteSecondary_primary :
    (monitor.promoteSecondary draw).1.primaryCluster =
      (monitor.selectFailoverTarget draw).getD monitor.primaryCluster := by
  cases selected : monitor.selectFailoverTarget draw with
  | none => simp [promoteSecondary, selected]
  | some target => simp [promoteSecondary, selected]

theorem mem_checkAllClusters {entry : String × ClusterHealth} :
    entry ∈ (monitor.checkAllClusters answers).clusters.entries ↔
      ∃ health, (entry.1, health) ∈ monitor.clusters.entries ∧
        entry.2 = health.check monitor.failureThreshold
          (probes answers entry.1 health.endpoints) := by
  obtain ⟨name, checked⟩ := entry
  simp only [checkAllClusters, ClusterMap.updateValues, List.mem_map, Prod.mk.injEq, Prod.exists]
  constructor
  · rintro ⟨held, health, listed, rfl, rfl⟩
    exact ⟨health, listed, rfl⟩
  · rintro ⟨health, listed, rfl⟩
    exact ⟨name, health, listed, rfl, rfl⟩

theorem check_healthy_iff :
    (health.check failureThreshold (probes answers name health.endpoints)).status = .healthy ↔
      reachableCount (probes answers name health.endpoints) % 2 ^ 32 =
        totalEndpoints health.endpoints := by
  rw [← tally_reachable]
  constructor
  · intro healthy
    by_contra mixed
    by_cases reached : 0 < (tally (probes answers name health.endpoints)).1
    · rw [(ClusterHealth.check_degraded mixed reached).2] at healthy
      cases healthy
    · rw [(ClusterHealth.check_silent mixed reached).2] at healthy
      split at healthy <;> cases healthy
  · exact fun complete => (ClusterHealth.check_complete complete).2

/-! ## Monitors that promote safely -/

theorem allReachable_of_countable (countable : Countable endpoints)
    (complete : reachableCount (probes answers name endpoints) % 2 ^ 32 = totalEndpoints endpoints) :
    allReachable answers name endpoints := by
  have most : reachableCount (probes answers name endpoints) ≤ endpoints.length :=
    List.countP_le_length.trans_eq probes_length
  have small := countable.2
  rw [totalEndpoints, Nat.mod_eq_of_lt small, Nat.mod_eq_of_lt (most.trans_lt small)] at complete
  rw [← reachableCount_eq_length, probes_length, complete]

/-- What is healthy has been found so by the last round. -/
structure Checked.Sound (state : Checked) : Prop where
  countable : ∀ entry ∈ state.monitor.clusters.entries, Countable entry.2.endpoints
  unchecked : state.last = none → ∀ entry ∈ state.monitor.clusters.entries,
    entry.1 ≠ state.monitor.primaryCluster → entry.2.status ≠ .healthy
  checked : ∀ answers, state.last = some answers → ∀ entry ∈ state.monitor.clusters.entries,
    entry.2.status = .healthy → allReachable answers entry.1 entry.2.endpoints

theorem Checked.Sound.step (sound : state.Sound) (call : CheckCall) : (state.step call).Sound := by
  cases call with
  | checkAllClusters answers =>
      constructor
      · intro entry listed
        obtain ⟨health, held, checked⟩ := mem_checkAllClusters.mp listed
        rw [checked, ClusterHealth.check_endpoints]
        exact sound.countable _ held
      · intro none
        cases none
      · intro last same entry listed
        cases same
        obtain ⟨health, held, checked⟩ := mem_checkAllClusters.mp listed
        rw [checked, check_healthy_iff, ClusterHealth.check_endpoints]
        exact allReachable_of_countable (sound.countable _ held)
  | promoteSecondary draw =>
      simp only [Checked.step]
      refine ⟨?_, ?_, ?_⟩
      · simpa only [promoteSecondary_clusters] using sound.countable
      · intro none
        have keeps : state.monitor.selectFailoverTarget draw = Option.none := by
          by_contra selected
          obtain ⟨target, selected⟩ := Option.ne_none_iff_exists'.mp selected
          obtain ⟨health, listed, other, healthy⟩ := mem_of_selectFailoverTarget selected
          exact sound.unchecked none _ listed other healthy
        rw [promoteSecondary_clusters, promoteSecondary_primary, keeps, Option.getD_none]
        exact sound.unchecked none
      · simpa only [promoteSecondary_clusters] using sound.checked

theorem Checked.Sound.promotesSafely (sound : state.Sound) (call : CheckCall) :
    state.PromotesSafely call := by
  cases call with
  | checkAllClusters answers => trivial
  | promoteSecondary draw =>
      intro target promoted
      rw [promoteSecondary_target] at promoted
      obtain ⟨health, listed, other, healthy⟩ := mem_of_selectFailoverTarget promoted
      refine ⟨other, ?_⟩
      cases last : state.last with
      | none => exact absurd healthy (sound.unchecked last _ listed other)
      | some answers =>
          exact ⟨health, answers, ClusterMap.get_eq_some.mpr listed, rfl,
            (sound.countable _ listed).1, sound.checked answers last _ listed healthy⟩

theorem alone_promotesSafely (calls : List CheckCall)
    (alone : ∀ entry ∈ state.monitor.clusters.entries, entry.1 = state.monitor.primaryCluster) :
    checkCalls.Along PromotesSafely state calls := by
  have none : ∀ state : Checked,
      (∀ entry ∈ state.monitor.clusters.entries, entry.1 = state.monitor.primaryCluster) →
      ∀ draw, state.monitor.selectFailoverTarget draw = none := by
    intro state alone draw
    by_contra selected
    obtain ⟨target, selected⟩ := Option.ne_none_iff_exists'.mp selected
    obtain ⟨health, listed, other, _⟩ := mem_of_selectFailoverTarget selected
    exact other (alone _ listed)
  apply Machine.along_ofFunction (fun state : Checked =>
    ∀ entry ∈ state.monitor.clusters.entries, entry.1 = state.monitor.primaryCluster) ?_ ?_ alone
  · intro state call alone entry listed
    cases call with
    | checkAllClusters answers =>
        obtain ⟨health, held, _⟩ := mem_checkAllClusters.mp listed
        exact alone (entry.1, health) held
    | promoteSecondary draw =>
        simp only [Checked.step, promoteSecondary_clusters] at listed
        rw [Checked.step, promoteSecondary_primary, none state alone draw, Option.getD_none]
        exact alone entry listed
  · intro state call alone
    cases call with
    | checkAllClusters answers => trivial
    | promoteSecondary draw =>
        intro target promoted
        rw [promoteSecondary_target, none state alone draw] at promoted
        cases promoted

/-! ## Monitors that do not -/

/-- Whatever is called from here on, promotions are safe. -/
def Checked.StaysSafe (state : Checked) : Prop :=
  ∀ calls, checkCalls.Along PromotesSafely state calls

theorem Checked.StaysSafe.step (stays : state.StaysSafe) (call : CheckCall) :
    (state.step call).StaysSafe := fun calls => (stays (call :: calls) _ rfl).2

theorem Checked.StaysSafe.mayPromote (stays : state.StaysSafe)
    (selected : state.monitor.selectFailoverTarget draw = some target) :
    state.MayPromote target := by
  have safe := (stays [.promoteSecondary draw] _ rfl).1
  exact safe target (promoteSecondary_target.trans selected)

def everyoneAnswers : Answers := fun _ _ => ⟨true, 0⟩

/-- So many endpoints of one cluster answer, and no endpoint of any other. -/
def answersOf (name : String) (reached : Nat) : Answers :=
  fun other endpoint => ⟨other = name ∧ endpoint < reached, 0⟩

theorem reachableCount_everyoneAnswers :
    reachableCount (probes everyoneAnswers name endpoints) = endpoints.length := by
  rw [reachableCount_eq_length.mpr, probes_length]
  simp [allReachable, probes, everyoneAnswers]

theorem reachableCount_answersOf {reached : Nat} (enough : reached ≤ endpoints.length) :
    reachableCount (probes (answersOf name reached) name endpoints) = reached := by
  obtain ⟨more, split⟩ := Nat.exists_eq_add_of_le enough
  rw [reachableCount, probes, split, List.range_add, List.map_append, List.countP_append,
    List.countP_eq_length.mpr, List.countP_eq_zero.mpr]
  · simp
  · simp [answersOf]
  · simp [answersOf]

theorem reachableCount_answersOf_other {other : String} {reached : Nat} (apart : other ≠ name) :
    reachableCount (probes (answersOf name reached) other endpoints) = 0 := by
  rw [reachableCount_eq_zero]
  simp [noneReachable, probes, answersOf, apart]

theorem mem_checked (listed : (name, health) ∈ monitor.clusters.entries) :
    (name, health.check monitor.failureThreshold (probes answers name health.endpoints)) ∈
      (monitor.checkAllClusters answers).clusters.entries :=
  mem_checkAllClusters.mpr ⟨health, listed, rfl⟩

/-- What may be promoted right after a round had all its endpoints reached by it. -/
theorem mayPromote_checked (safe : (state.step (.checkAllClusters answers)).MayPromote target) :
    ∃ health, (target, health) ∈ state.monitor.clusters.entries ∧ health.endpoints ≠ [] ∧
      reachableCount (probes answers target health.endpoints) = health.endpoints.length := by
  obtain ⟨_, checked, last, held, same, occupied, reachable⟩ := safe
  cases same
  obtain ⟨health, listed, found⟩ := mem_checkAllClusters.mp (ClusterMap.get_eq_some.mp held)
  have endpoints : checked.endpoints = health.endpoints := by
    rw [show checked = _ from found, ClusterHealth.check_endpoints]
  rw [endpoints] at occupied reachable
  refine ⟨health, listed, occupied, ?_⟩
  rw [reachableCount_eq_length.mpr reachable, probes_length]

/-- With as many reachable endpoints as the counter makes of all of them, a
cluster is healthy without having answered. -/
theorem not_staysSafe_uncountable (listed : (name, health) ∈ state.monitor.clusters.entries)
    (other : name ≠ state.monitor.primaryCluster) (uncountable : ¬Countable health.endpoints) :
    ¬state.StaysSafe := by
  intro stays
  have counted : reachableCount (probes (answersOf name (totalEndpoints health.endpoints)) name
      health.endpoints) = totalEndpoints health.endpoints :=
    reachableCount_answersOf (Nat.mod_le _ _)
  have healthy : (health.check state.monitor.failureThreshold
      (probes (answersOf name (totalEndpoints health.endpoints)) name health.endpoints)).status =
        .healthy := by
    rw [check_healthy_iff, counted]
    exact Nat.mod_mod _ _
  obtain ⟨target, selected⟩ := selectFailoverTarget_isSome 0 (mem_checked listed) other healthy
  obtain ⟨found, held, occupied, reached⟩ :=
    mayPromote_checked ((stays.step (.checkAllClusters _)).mayPromote selected)
  by_cases same : target = name
  · subst same
    have twice := ClusterMap.get_eq_some.mpr listed
    rw [ClusterMap.get_eq_some.mpr held] at twice
    cases twice
    rw [counted] at reached
    apply uncountable ⟨occupied, ?_⟩
    rw [← reached]
    exact Nat.mod_lt _ (by decide)
  · rw [reachableCount_answersOf_other same] at reached
    exact occupied (List.length_eq_zero_iff.mp reached.symm)

/-- A primary without a countable number of endpoints can be promoted once
another cluster has been. -/
theorem not_staysSafe_primary {second : ClusterHealth}
    (listed : (state.monitor.primaryCluster, health) ∈ state.monitor.clusters.entries)
    (present : (name, second) ∈ state.monitor.clusters.entries)
    (other : name ≠ state.monitor.primaryCluster) (uncountable : ¬Countable health.endpoints) :
    ¬state.StaysSafe := by
  intro stays
  have healthy : (second.check state.monitor.failureThreshold
      (probes everyoneAnswers name second.endpoints)).status = .healthy := by
    rw [check_healthy_iff, reachableCount_everyoneAnswers, totalEndpoints]
  obtain ⟨target, selected⟩ := selectFailoverTarget_isSome 0 (mem_checked present) other healthy
  obtain ⟨_, _, moved, _⟩ := mem_of_selectFailoverTarget selected
  have promoted := (stays.step (.checkAllClusters everyoneAnswers)).step (.promoteSecondary 0)
  have held : _ ∈ (state.monitor.checkAllClusters everyoneAnswers).clusters.entries :=
    mem_checked listed
  have later : (((state.step (.checkAllClusters everyoneAnswers)).step
      (.promoteSecondary 0)).monitor.primaryCluster) = target := by
    simp only [Checked.step]
    rw [promoteSecondary_primary, selected, Option.getD_some]
  apply not_staysSafe_uncountable ?_ ?_ ?_ promoted
  · exact state.monitor.primaryCluster
  · exact health.check state.monitor.failureThreshold
      (probes everyoneAnswers state.monitor.primaryCluster health.endpoints)
  · simpa only [Checked.step, promoteSecondary_clusters] using held
  · rw [later]
    exact moved.symm
  · rwa [ClusterHealth.check_endpoints]

theorem confirmable_of_staysSafe (fresh : state.last = none) (stays : state.StaysSafe) :
    state.monitor.Confirmable := by
  rw [Confirmable, or_iff_not_imp_left]
  intro several entry listed
  push Not at several
  obtain ⟨⟨second, standby⟩, present, other⟩ := several
  constructor
  · by_contra uncountable
    by_cases primary : entry.1 = state.monitor.primaryCluster
    · exact not_staysSafe_primary (primary ▸ listed) present other uncountable stays
    · exact not_staysSafe_uncountable listed primary uncountable stays
  · intro apart healthy
    obtain ⟨target, selected⟩ := selectFailoverTarget_isSome 0 listed apart healthy
    obtain ⟨_, _, _, _, checked, _⟩ := stays.mayPromote selected
    rw [fresh] at checked
    cases checked

/-- Every promotion is of a cluster whose endpoints all answered its last check,
whatever rounds and promotions are called, exactly when there is only the
primary or every cluster has a countable number of endpoints and none other than
the primary was passed in as healthy. -/
theorem always_promotesSafely_iff (clusters : ClusterMap) (primaryCluster : String)
    (strategy : MultiClusterFailoverStrategy) (failureThreshold : Nat) (webhook : Option String) :
    (∀ calls, checkCalls.Along PromotesSafely
      ⟨.new clusters primaryCluster strategy failureThreshold webhook, none⟩ calls) ↔
    (MultiClusterMonitor.new clusters primaryCluster strategy failureThreshold
      webhook).Confirmable := by
  constructor
  · exact confirmable_of_staysSafe rfl
  · rintro (alone | confirmable) calls
    · exact alone_promotesSafely calls alone
    · have sound : Checked.Sound
          ⟨.new clusters primaryCluster strategy failureThreshold webhook, none⟩ := by
        constructor
        · exact fun entry listed => (confirmable entry listed).1
        · exact fun _ entry listed => (confirmable entry listed).2
        · intro answers checked
          cases checked
      apply Machine.along_ofFunction Checked.Sound ?_ ?_ sound
      · exact fun state call sound => sound.step call
      · exact fun state call sound => sound.promotesSafely call

/-- `empty` has no endpoint, and the round finds it healthy. -/
theorem not_always_promotesSafely :
    ¬checkCalls.Along PromotesSafely
      ⟨.new ⟨[("main", .new ["10.0.0.1:5432"]), ("empty", .new [])], by decide⟩ "main" .sequential 3
        none, none⟩
      [.checkAllClusters (answersOf "main" 0), .promoteSecondary 0] := by
  intro safe
  have promoted := (safe _ rfl).2 _ rfl
  obtain ⟨health, held, occupied, _⟩ := mayPromote_checked (promoted.1 "empty" (by decide +kernel))
  have listed : health = .new [] := by
    simpa [MultiClusterMonitor.new] using held
  exact occupied (congrArg ClusterHealth.endpoints listed)

end Evergreen.Failover
