import Evergreen.Failover.Clusters

namespace Evergreen.Failover

/-! # The two choices of a new primary

`select_failover_target` takes the candidates in the order of the map and
compares their measured latencies.  The loop takes them in the order of their
names and has no latency of any of them, so it promotes the candidate with the
least name under either strategy.
-/

theorem head?_eq_some_iff_least {names : List String} (sorted : names.Pairwise (· ≤ ·))
    {name : String} : names.head? = some name ↔ name ∈ names ∧ ∀ other ∈ names, name ≤ other := by
  cases names with
  | nil => simp
  | cons first rest =>
      obtain ⟨below, _⟩ := List.pairwise_cons.mp sorted
      constructor
      · intro same
        obtain rfl : first = name := Option.some.inj same
        refine ⟨List.mem_cons_self, fun other member => ?_⟩
        cases List.mem_cons.mp member with
        | inl equal => exact le_of_eq equal.symm
        | inr later => exact below other later
      · rintro ⟨member, least⟩
        cases List.mem_cons.mp member with
        | inl equal => rw [equal, List.head?_cons]
        | inr later =>
            have same : first = name := le_antisymm (below name later) (least first List.mem_cons_self)
            rw [same, List.head?_cons]

theorem argmin_eq_head? {Candidate : Type} [DecidableEq Candidate] {candidates : List Candidate}
    {key : Candidate → Nat} {shared : Nat} (constant : ∀ candidate ∈ candidates, key candidate = shared) :
    candidates.argmin key = candidates.head? := by
  cases candidates with
  | nil => rfl
  | cons first rest =>
      rw [List.head?_cons, List.argmin_eq_some_iff]
      refine ⟨List.mem_cons_self, fun other member => ?_, fun other _ _ => ?_⟩
      · exact le_of_eq ((constant first List.mem_cons_self).trans (constant other member).symm)
      · rw [List.idxOf_cons_self]
        exact Nat.zero_le _

namespace MultiClusterMonitor

/-- The candidates with their latencies, in the order of the map. -/
def ranked (monitor : MultiClusterMonitor) : List (String × Option Nat) :=
  monitor.candidates.map fun entry => (entry.1, entry.2.latencyMs)

/-- A latency that was not measured counts as the largest `u64`. -/
def latencyKey (candidate : String × Option Nat) : Nat := candidate.2.getD (2 ^ 64 - 1)

/-- What a failover target has to be. -/
def IsFailoverTarget (monitor : MultiClusterMonitor) (promoted : String) : Prop :=
  ∃ health, (promoted, health) ∈ monitor.clusters.entries ∧
    promoted ≠ monitor.primaryCluster ∧ health.status = .healthy ∧
    (monitor.failoverStrategy = .latencyBased →
      ∀ other ∈ monitor.ranked, health.latencyMs.getD (2 ^ 64 - 1) ≤ latencyKey other)

/-- The candidate that comes first in the map has the least name. -/
def LeastNameFirst (monitor : MultiClusterMonitor) : Prop :=
  ∀ first ∈ monitor.ranked.head?, ∀ other ∈ monitor.ranked, first.1 ≤ other.1

/-- The candidate with the least name has the least latency, and comes first in
the map among those that have it. -/
def LeastNameFastest (monitor : MultiClusterMonitor) : Prop :=
  ∀ least ∈ monitor.ranked, (∀ other ∈ monitor.ranked, least.1 ≤ other.1) →
    (∀ other ∈ monitor.ranked, latencyKey least ≤ latencyKey other) ∧
    ∀ other ∈ monitor.ranked, latencyKey other ≤ latencyKey least →
      monitor.ranked.idxOf least ≤ monitor.ranked.idxOf other

end MultiClusterMonitor

open MultiClusterMonitor

/-- The monitor's map and the loop's tables hold the same clusters with the
same statuses, and the same cluster is the primary of both. -/
structure SameHealth (monitor : MultiClusterMonitor) (loop : ClusterLoop) : Prop where
  names : loop.clusterEndpoints.map Prod.fst = monitor.clusterNames
  status : ∀ entry ∈ monitor.clusters.entries,
    loop.clusterStatus entry.1 = some entry.2.status
  primary : loop.primary = monitor.primaryCluster
  strategy : loop.failoverStrategy = monitor.failoverStrategy

/-- The background loop, round after round. -/
def clusterRounds : Machine ClusterLoop (Answers × Nat) :=
  .ofFunction fun loop turn => (loop.round turn.1 turn.2).1

/-- No latency is known in the loop. -/
def ClusterLoop.Unmeasured (loop : ClusterLoop) : Prop :=
  ∀ name latency, loop.clusterLatency name = some latency → latency = none

variable {monitor later : MultiClusterMonitor} {loop : ClusterLoop} {answers : Answers} {draw : Nat}
variable {rounds : List (Answers × Nat)}

theorem startLoop_unmeasured (monitor : MultiClusterMonitor) : monitor.startLoop.Unmeasured := by
  intro name latency found
  simp only [startLoop, tableOf, Option.ite_none_right_eq_some, Option.some.injEq] at found
  exact found.2.symm

theorem ClusterLoop.Unmeasured.check (unmeasured : loop.Unmeasured) (answers : Answers) :
    (loop.check answers).Unmeasured := by
  obtain ⟨clusterStatus, clusterFailures, checked⟩ := loop.check_eq answers
  rw [checked]
  exact unmeasured

theorem clusterRounds_unmeasured (ran : clusterRounds.run monitor.startLoop rounds = some loop) :
    loop.Unmeasured := by
  have always : clusterRounds.Always ClusterLoop.Unmeasured monitor.startLoop rounds := by
    apply Machine.always_ofFunction ClusterLoop.Unmeasured ?_ (startLoop_unmeasured monitor)
    intro state turn unmeasured
    obtain ⟨clusterStatus, clusterFailures, primary, same⟩ := state.round_eq turn.1 turn.2
    rw [same]
    exact unmeasured
  exact always.last ran

/-! ## The candidates of both sides -/

theorem mem_ranked {candidate : String × Option Nat} : candidate ∈ monitor.ranked ↔
    ∃ health, (candidate.1, health) ∈ monitor.clusters.entries ∧
      candidate.1 ≠ monitor.primaryCluster ∧ health.status = .healthy ∧
      health.latencyMs = candidate.2 := by
  obtain ⟨name, latency⟩ := candidate
  simp only [ranked, candidates, List.mem_map, List.mem_filter, decide_eq_true_eq, Prod.mk.injEq,
    Prod.exists]
  constructor
  · rintro ⟨held, health, ⟨listed, other, healthy⟩, rfl, rfl⟩
    exact ⟨health, listed, other, healthy, rfl⟩
  · rintro ⟨health, listed, other, healthy, rfl⟩
    exact ⟨name, health, ⟨listed, other, healthy⟩, rfl, rfl⟩

theorem ranked_distinct (monitor : MultiClusterMonitor) : (monitor.ranked.map Prod.fst).Nodup := by
  rw [ranked, List.map_map]
  exact monitor.clusters.distinct.sublist (List.filter_sublist.map Prod.fst)

theorem loop_candidates_sorted (same : SameHealth monitor loop) :
    (loop.candidates.map Prod.fst).Pairwise (· ≤ ·) := by
  have names : (loop.clusterEndpoints.map Prod.fst).Pairwise (· ≤ ·) := by
    rw [same.names]
    exact monitor.clusterNames_pairwise
  rw [List.pairwise_map] at names ⊢
  rw [ClusterLoop.candidates, List.pairwise_filterMap]
  refine names.imp fun {first second} ordered one chosen two picked => ?_
  simp only [Option.ite_none_right_eq_some, Option.some.injEq] at chosen picked
  rw [← chosen.2, ← picked.2]
  exact ordered

theorem mem_loop_candidates (same : SameHealth monitor loop) {name : String} :
    name ∈ loop.candidates.map Prod.fst ↔ name ∈ monitor.ranked.map Prod.fst := by
  have member : name ∈ loop.candidates.map Prod.fst ↔
      name ∈ monitor.clusterNames ∧ name ≠ loop.primary ∧
        loop.clusterStatus name = some .healthy := by
    rw [← same.names]
    simp only [ClusterLoop.candidates, List.mem_map, List.mem_filterMap,
      Option.ite_none_right_eq_some, Option.some.injEq]
    constructor
    · rintro ⟨_, ⟨cluster, listed, chosen, rfl⟩, rfl⟩
      exact ⟨⟨cluster, listed, rfl⟩, chosen⟩
    · rintro ⟨⟨cluster, listed, rfl⟩, chosen⟩
      exact ⟨_, ⟨cluster, listed, chosen, rfl⟩, rfl⟩
  rw [member, monitor.clusterNames_perm.mem_iff, same.primary, List.mem_map]
  constructor
  · rintro ⟨key, other, healthy⟩
    obtain ⟨⟨held, health⟩, listed, rfl⟩ := List.mem_map.mp key
    have known := same.status _ listed
    refine ⟨(held, health.latencyMs), mem_ranked.mpr ⟨health, listed, other, ?_, rfl⟩, rfl⟩
    exact Option.some.inj (known.symm.trans healthy)
  · rintro ⟨candidate, listed, rfl⟩
    obtain ⟨health, entry, other, healthy, _⟩ := mem_ranked.mp listed
    exact ⟨List.mem_map.mpr ⟨_, entry, rfl⟩, other, by rw [same.status _ entry, healthy]⟩

/-- Under either strategy the loop takes the first of its candidates. -/
theorem promotedName_eq_head? (unmeasured : loop.Unmeasured)
    (failed : loop.clusterStatus loop.primary = some .failed)
    (strategy : loop.failoverStrategy ≠ .weightedRandom) :
    loop.promotedName draw = (loop.candidates.map Prod.fst).head? := by
  have latencies : ∀ candidate ∈ loop.candidates, latencyKey candidate = 2 ^ 64 - 1 := by
    intro candidate member
    simp only [ClusterLoop.candidates, List.mem_filterMap, Option.ite_none_right_eq_some,
      Option.some.injEq] at member
    obtain ⟨cluster, _, _, rfl⟩ := member
    cases measured : loop.clusterLatency cluster.1 with
    | none => simp [latencyKey]
    | some latency => simp [latencyKey, unmeasured cluster.1 latency measured]
  rw [ClusterLoop.promotedName, failed, Option.getD_some, if_pos rfl, List.head?_map]
  cases chosen : loop.failoverStrategy with
  | sequential => rfl
  | latencyBased => exact congrArg (Option.map Prod.fst) (argmin_eq_head? latencies)
  | weightedRandom => exact absurd chosen strategy

theorem promotedName_eq_some_iff (same : SameHealth monitor loop) (unmeasured : loop.Unmeasured)
    (failed : loop.clusterStatus loop.primary = some .failed)
    (strategy : loop.failoverStrategy ≠ .weightedRandom) {name : String} :
    loop.promotedName draw = some name ↔
      name ∈ monitor.ranked.map Prod.fst ∧ ∀ other ∈ monitor.ranked, name ≤ other.1 := by
  rw [promotedName_eq_head? unmeasured failed strategy,
    head?_eq_some_iff_least (loop_candidates_sorted same), mem_loop_candidates same]
  refine and_congr_right fun _ => ?_
  constructor
  · intro least other member
    exact least _ ((mem_loop_candidates same).mpr (List.mem_map_of_mem member))
  · intro least other member
    obtain ⟨candidate, listed, rfl⟩ := List.mem_map.mp ((mem_loop_candidates same).mp member)
    exact least candidate listed

/-! ## The choice on the map -/

theorem selectFailoverTarget_mem (strategy : monitor.failoverStrategy ≠ .weightedRandom)
    {target : String} (selected : monitor.selectFailoverTarget draw = some target) :
    ∃ candidate ∈ monitor.ranked, candidate.1 = target ∧
      (monitor.failoverStrategy = .latencyBased → monitor.ranked.argmin latencyKey = some candidate) := by
  change chooseCluster monitor.failoverStrategy draw monitor.ranked = some target at selected
  cases chosen : monitor.failoverStrategy with
  | sequential =>
      simp only [chosen, chooseCluster, Option.map_eq_some_iff] at selected
      obtain ⟨candidate, first, named⟩ := selected
      exact ⟨candidate, List.mem_of_head? first, named, fun latency => by cases latency⟩
  | latencyBased =>
      simp only [chosen, chooseCluster, Option.map_eq_some_iff] at selected
      obtain ⟨candidate, least, named⟩ := selected
      exact ⟨candidate, List.argmin_mem least, named, fun _ => least⟩
  | weightedRandom => exact absurd chosen strategy

/-- What `select_failover_target` returns is a healthy cluster other than the
primary, of least latency under the latency strategy. -/
theorem selectFailoverTarget_isFailoverTarget
    (strategy : monitor.failoverStrategy ≠ .weightedRandom) {target : String}
    (selected : monitor.selectFailoverTarget draw = some target) :
    monitor.IsFailoverTarget target := by
  obtain ⟨candidate, member, rfl, least⟩ := selectFailoverTarget_mem strategy selected
  obtain ⟨health, listed, other, healthy, latency⟩ := mem_ranked.mp member
  refine ⟨health, listed, other, healthy, fun chosen rival present => ?_⟩
  rw [latency]
  exact List.le_of_mem_argmin present (least chosen)

theorem ranked_least (occupied : monitor.ranked ≠ []) :
    ∃ least ∈ monitor.ranked, ∀ other ∈ monitor.ranked, least.1 ≤ other.1 := by
  obtain ⟨least, chosen⟩ := Option.ne_none_iff_exists'.mp
    (mt (List.argmin_eq_none (f := Prod.fst)).mp occupied)
  exact ⟨least, List.argmin_mem chosen, fun other member => List.le_of_mem_argmin member chosen⟩

theorem ranked_ext {first second : String × Option Nat} (member : first ∈ monitor.ranked)
    (present : second ∈ monitor.ranked) (same : first.1 = second.1) : first = second :=
  List.inj_on_of_nodup_map (ranked_distinct monitor) member present same

theorem fastest_iff {candidates : List (String × Option Nat)} {least : String × Option Nat} :
    candidates.argmin latencyKey = some least ↔ least ∈ candidates ∧
      (∀ other ∈ candidates, latencyKey least ≤ latencyKey other) ∧
      ∀ other ∈ candidates, latencyKey other ≤ latencyKey least →
        candidates.idxOf least ≤ candidates.idxOf other := by
  rw [List.argmin_eq_some_iff, lawful_beq_subsingleton instBEqOfDecidableEq instBEqProd]

/-! ## When the two choices agree -/

section Agreement

variable (same : SameHealth monitor loop) (unmeasured : loop.Unmeasured)
variable (failed : loop.clusterStatus loop.primary = some .failed)
include same unmeasured failed

theorem sequential_agrees_iff (sequential : monitor.failoverStrategy = .sequential) :
    loop.promotedName draw = monitor.selectFailoverTarget draw ↔ monitor.LeastNameFirst := by
  have strategy : loop.failoverStrategy ≠ .weightedRandom := by simp [same.strategy, sequential]
  have selects : monitor.selectFailoverTarget draw = monitor.ranked.head?.map Prod.fst := by
    unfold selectFailoverTarget
    rw [sequential]
    rfl
  rw [selects, Option.ext_iff]
  simp only [promotedName_eq_some_iff same unmeasured failed strategy]
  unfold LeastNameFirst
  cases ranked : monitor.ranked with
  | nil => simp
  | cons first rest =>
      constructor
      · intro agree candidate found other member
        obtain rfl : first = candidate := Option.some.inj found
        exact ((agree first.1).mpr rfl).2 other member
      · intro least name
        have below := least first rfl
        constructor
        · rintro ⟨member, lowest⟩
          obtain ⟨candidate, listed, rfl⟩ := List.mem_map.mp member
          have equal := le_antisymm (below candidate listed) (lowest first List.mem_cons_self)
          rw [List.head?_cons, Option.map_some, equal]
        · intro found
          obtain rfl : first.1 = name := Option.some.inj found
          exact ⟨List.mem_map_of_mem List.mem_cons_self, below⟩

theorem latencyBased_agrees_iff (latencyBased : monitor.failoverStrategy = .latencyBased) :
    loop.promotedName draw = monitor.selectFailoverTarget draw ↔ monitor.LeastNameFastest := by
  have strategy : loop.failoverStrategy ≠ .weightedRandom := by simp [same.strategy, latencyBased]
  have selects : monitor.selectFailoverTarget draw =
      (monitor.ranked.argmin latencyKey).map Prod.fst := by
    unfold selectFailoverTarget
    rw [latencyBased]
    rfl
  have promotes : ∀ name, loop.promotedName draw = some name ↔
      name ∈ monitor.ranked.map Prod.fst ∧ ∀ other ∈ monitor.ranked, name ≤ other.1 :=
    fun _ => promotedName_eq_some_iff same unmeasured failed strategy
  constructor
  · intro agree least member lowest
    have promoted := (promotes least.1).mpr ⟨List.mem_map_of_mem member, lowest⟩
    rw [agree, selects, Option.map_eq_some_iff] at promoted
    obtain ⟨candidate, fastest, named⟩ := promoted
    obtain rfl := ranked_ext (List.argmin_mem fastest) member named
    exact (fastest_iff.mp fastest).2
  · intro agree
    by_cases occupied : monitor.ranked = []
    · rw [selects, occupied, List.argmin_nil, Option.map_none, Option.eq_none_iff_forall_ne_some]
      intro name promoted
      have member := ((promotes name).mp promoted).1
      simp [occupied] at member
    · obtain ⟨least, member, lowest⟩ := ranked_least occupied
      have fastest : monitor.ranked.argmin latencyKey = some least :=
        fastest_iff.mpr ⟨member, agree least member lowest⟩
      rw [selects, fastest, Option.map_some]
      exact (promotes least.1).mpr ⟨List.mem_map_of_mem member, lowest⟩

end Agreement

/-- The promotion of any round of the loop, under the strategies that choose by
order or by latency: it is the target that `select_failover_target` returns for
the same health exactly when the least name among the candidates is also the
first of the map, or the first of the least latency. -/
theorem promotedName_eq_selectFailoverTarget_iff
    (ran : clusterRounds.run monitor.startLoop rounds = some loop)
    (same : SameHealth later (loop.check answers))
    (failed : (loop.check answers).clusterStatus (loop.check answers).primary = some .failed)
    (strategy : later.failoverStrategy ≠ .weightedRandom) :
    ((loop.check answers).promotedName draw = later.selectFailoverTarget draw ∧
      ∀ promoted, (loop.check answers).promotedName draw = some promoted →
        later.IsFailoverTarget promoted) ↔
    (later.failoverStrategy = .sequential → later.LeastNameFirst) ∧
      (later.failoverStrategy = .latencyBased → later.LeastNameFastest) := by
  have unmeasured := (clusterRounds_unmeasured ran).check answers
  have agrees : (loop.check answers).promotedName draw = later.selectFailoverTarget draw ↔
      (later.failoverStrategy = .sequential → later.LeastNameFirst) ∧
        (later.failoverStrategy = .latencyBased → later.LeastNameFastest) := by
    cases chosen : later.failoverStrategy with
    | sequential => simp [sequential_agrees_iff same unmeasured failed chosen]
    | latencyBased => simp [latencyBased_agrees_iff same unmeasured failed chosen]
    | weightedRandom => exact absurd chosen strategy
  rw [← agrees]
  refine and_iff_left_of_imp fun equal promoted chosen => ?_
  exact selectFailoverTarget_isFailoverTarget strategy (equal ▸ chosen)

/-- Three clusters of one endpoint each; `east` is the primary. -/
def threeClusters (second third : String) (distinct : ["east", second, third].Nodup)
    (strategy : MultiClusterFailoverStrategy) : MultiClusterMonitor :=
  .new ⟨[("east", .new ["127.0.0.1:5432"]), (second, .new ["127.0.0.2:5432"]),
    (third, .new ["127.0.0.3:5432"])], distinct⟩ "east" strategy 1 none

/-- `east` is down; `west` answers after 10 ms, any other cluster after 50 ms. -/
def eastDown : Answers := fun name _ => ⟨name ≠ "east", if name = "west" then 10 else 50⟩

theorem promotedName_eq_selectFailoverTarget_north :
    ((threeClusters "north" "west" (by decide) .sequential).startLoop.check eastDown).promotedName 0 =
      ((threeClusters "north" "west" (by decide) .sequential).checkAllClusters
        eastDown).selectFailoverTarget 0 :=
  ((@promotedName_eq_selectFailoverTarget_iff (threeClusters "north" "west" (by decide) .sequential)
    ((threeClusters "north" "west" (by decide) .sequential).checkAllClusters eastDown) _ eastDown 0 []
    rfl ⟨by decide +kernel, by decide +kernel, by decide +kernel, by decide +kernel⟩
    (by decide +kernel) (by decide)).mpr
    ⟨fun _ => by unfold LeastNameFirst; decide +kernel, fun latency => by cases latency⟩).1

/-- The map lists `west` before `north`, and `west` is the faster one: the
monitor selects it under both strategies, the loop promotes `north`. -/
theorem promotes_other_than_selected :
    SameHealth ((threeClusters "west" "north" (by decide) .latencyBased).checkAllClusters eastDown)
      ((threeClusters "west" "north" (by decide) .latencyBased).startLoop.check eastDown) ∧
    ((threeClusters "west" "north" (by decide) .latencyBased).startLoop.round
      eastDown 0).1.primary = "north" ∧
    ((threeClusters "west" "north" (by decide) .latencyBased).checkAllClusters
      eastDown).selectFailoverTarget 0 = some "west" ∧
    ((threeClusters "west" "north" (by decide) .sequential).startLoop.round
      eastDown 0).1.primary = "north" ∧
    ((threeClusters "west" "north" (by decide) .sequential).checkAllClusters
      eastDown).selectFailoverTarget 0 = some "west" := by
  refine ⟨⟨?_, ?_, ?_, ?_⟩, ?_, ?_, ?_, ?_⟩ <;> decide +kernel

end Evergreen.Failover
