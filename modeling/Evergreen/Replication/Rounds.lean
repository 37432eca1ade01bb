import Evergreen.Replication.Topology

namespace Evergreen.Replication

/-! # A round of the health check

The loop that `start` spawns counts replicas as it reaches them; the calls for
one replica keep a state for each, and `recalculate_state` counts the states.
-/

/-- What a round finds out about a replica: the lag of one that is reachable. -/
abbrev Observation := String → Option ℚ

/-- `(lag_sec * 1000000.0) as u64`. -/
def lagBytes (lagSeconds : ℚ) : Nat :=
  min ⌊lagSeconds * 1000000⌋.toNat (2 ^ 64 - 1)

/-- The counters of one round. -/
structure Tally where
  healthyCount : Nat := 0
  brokenCount : Nat := 0
  totalLag : Nat := 0
  maxLagSec : ℚ := 0
deriving DecidableEq, Repr

def Tally.check (observation : Observation) (tally : Tally) (replicaAddr : String) : Tally :=
  match observation replicaAddr with
  | some lagSec => { tally with
      healthyCount := tally.healthyCount + 1
      totalLag := (tally.totalLag + lagBytes lagSec) % 2 ^ 64
      maxLagSec := max tally.maxLagSec lagSec }
  | none => { tally with brokenCount := tally.brokenCount + 1 }

namespace ReplicationShim

/-- A round of the loop, over the addresses that were in the map when it started.
Without a primary nothing is counted. -/
def healthRound (shim : ReplicationShim) (primaryHealthy : Bool) (observation : Observation) :
    ReplicationShim :=
  if primaryHealthy then
    let replicas := shim.addresses
    let tally := replicas.foldl (Tally.check observation) {}
    let total := replicas.length
    { shim with shared := { shim.shared with
        replicasHealthy := tally.healthyCount
        replicasBroken := tally.brokenCount
        replicaLagBytes := tally.totalLag
        maxLagSeconds := tally.maxLagSec
        state :=
          if total = 0 ∨ tally.healthyCount = total then .healthy
          else if 0 < tally.brokenCount ∧ tally.healthyCount = 0 then .broken
          else .degraded } }
  else { shim with shared := { shim.shared with state := .broken } }

/-- The call that tells the shim what was found out about a replica. -/
def report (now : String) (observation : Observation) (shim : ReplicationShim) (addr : String) :
    ReplicationShim :=
  match observation addr with
  | some lagSeconds => (shim.updateReplicaStatus now addr (lagBytes lagSeconds) lagSeconds).1
  | none => shim.markReplicaDisconnected addr

/-- One call for every replica, and then `recalculate_state`. -/
def reportAll (now : String) (shim : ReplicationShim) (observation : Observation) :
    ReplicationShim :=
  (shim.addresses.foldl (report now observation) shim).recalculateState

/-- The counts and the overall state come out alike. -/
def RoundAgrees (now : String) (shim : ReplicationShim) (primaryHealthy : Bool)
    (observation : Observation) : Prop :=
  let loop := (shim.healthRound primaryHealthy observation).shared
  let calls := (shim.reportAll now observation).shared
  loop.replicasHealthy = calls.replicasHealthy ∧ loop.replicasBroken = calls.replicasBroken ∧
    loop.state = calls.state

end ReplicationShim

/-- The state of a replica by the calls for it. -/
def observedState (observation : Observation) (addr : String) : ReplicationState :=
  match observation addr with
  | some lagSeconds => ReplicationShim.stateOfLag lagSeconds
  | none => .broken

/-- Replicas in this state, by the calls for them. -/
def observedCount (observation : Observation) (addresses : List String)
    (state : ReplicationState) : Nat :=
  addresses.countP fun addr => observedState observation addr = state

variable {observation : Observation} {addresses : List String} {addr now : String}

/-! ## The loop's counters -/

theorem healthyCount_foldl_check (tally : Tally) :
    (addresses.foldl (Tally.check observation) tally).healthyCount =
      tally.healthyCount + addresses.countP fun addr => (observation addr).isSome := by
  induction addresses generalizing tally with
  | nil => rfl
  | cons addr rest ih =>
      rw [List.foldl_cons, ih, List.countP_cons, Tally.check]
      cases observation addr with
      | some lagSec => simp [Nat.add_assoc, Nat.add_comm 1]
      | none => simp

theorem brokenCount_foldl_check (tally : Tally) :
    (addresses.foldl (Tally.check observation) tally).brokenCount =
      tally.brokenCount + addresses.countP fun addr => observation addr = none := by
  induction addresses generalizing tally with
  | nil => rfl
  | cons addr rest ih =>
      rw [List.foldl_cons, ih, List.countP_cons, Tally.check]
      cases observation addr with
      | some lagSec => simp
      | none => simp [Nat.add_assoc, Nat.add_comm 1]

/-- A reachable replica is healthy by the calls unless it lags. -/
theorem observedState_eq_healthy_iff : observedState observation addr = .healthy ↔
    ∃ lagSeconds, observation addr = some lagSeconds ∧ lagSeconds ≤ 10 := by
  rw [observedState]
  cases observation addr with
  | none => simp
  | some lagSeconds =>
      simp only [ReplicationShim.stateOfLag, Option.some.injEq, exists_eq_left']
      split_ifs with broken degraded
      · simp only [false_iff, not_le]
        exact lt_trans (by norm_num) broken
      · simpa using degraded
      · simpa using degraded

theorem healthyCount_eq_iff :
    (addresses.countP fun addr => (observation addr).isSome) =
        observedCount observation addresses .healthy ↔
      ∀ addr ∈ addresses, ∀ lagSeconds, observation addr = some lagSeconds → lagSeconds ≤ 10 := by
  have split : (addresses.countP fun addr => (observation addr).isSome) =
      observedCount observation addresses .healthy + addresses.countP fun addr =>
        (observation addr).isSome && decide (observedState observation addr ≠ .healthy) := by
    rw [observedCount]
    induction addresses with
    | nil => rfl
    | cons addr rest ih =>
        rw [List.countP_cons, List.countP_cons, List.countP_cons, ih]
        have reachable : observedState observation addr = .healthy →
            (observation addr).isSome = true := by
          intro healthy
          obtain ⟨lagSeconds, found, -⟩ := observedState_eq_healthy_iff.mp healthy
          rw [found, Option.isSome_some]
        by_cases healthy : observedState observation addr = .healthy
        · simp [healthy, reachable healthy, Nat.add_right_comm]
        · simp [healthy, Nat.add_assoc]
  rw [split, Nat.add_eq_left, List.countP_eq_zero]
  refine forall₂_congr fun addr _ => ?_
  simp only [Bool.and_eq_true, decide_eq_true_eq, not_and, not_not, observedState_eq_healthy_iff]
  cases observation addr with
  | none => simp
  | some lagSeconds => simp

/-! ## The calls -/

namespace ReplicationShim

variable {shim : ReplicationShim}

def states (shim : ReplicationShim) : List (String × ReplicationState) :=
  shim.replicaStatus.map fun status => (status.addr, status.state)

theorem states_changeStatus {change : ReplicaStatus → ReplicaStatus} {state : ReplicationState}
    (changes : ∀ status, (change status).state = state) :
    (shim.changeStatus addr change).states =
      shim.states.map fun pair => (pair.1, if pair.1 = addr then state else pair.2) := by
  simp only [states, changeStatus, List.map_map]
  refine List.map_congr_left fun status _ => ?_
  by_cases same : status.addr = addr
  · simp [same, changes]
  · simp [same]

theorem states_report : (report now observation shim addr).states = shim.states.map fun pair =>
    (pair.1, if pair.1 = addr then observedState observation addr else pair.2) := by
  rw [report, observedState]
  cases observation addr with
  | none => exact states_changeStatus fun _ => rfl
  | some lagSeconds =>
      simp only [updateReplicaStatus]
      split
      · next missing =>
        have other : ∀ pair ∈ shim.states, pair.1 ≠ addr := by
          intro pair member
          obtain ⟨status, held, rfl⟩ := List.mem_map.mp member
          simpa using List.find?_eq_none.mp missing status held
        refine ((List.map_congr_left fun pair member => ?_).trans (List.map_id _)).symm
        rw [if_neg (other pair member), id_eq]
      · exact states_changeStatus fun _ => rfl

theorem states_foldl_report : (addresses.foldl (report now observation) shim).states =
    shim.states.map fun pair =>
      (pair.1, if pair.1 ∈ addresses then observedState observation pair.1 else pair.2) := by
  induction addresses generalizing shim with
  | nil => simp
  | cons addr rest ih =>
      rw [List.foldl_cons, ih, states_report, List.map_map]
      refine List.map_congr_left fun pair _ => ?_
      by_cases later : pair.1 ∈ rest
      · simp [later]
      · by_cases same : pair.1 = addr
        · simp [same]
        · simp [later, same]

/-- After the calls every replica has the state that was observed. -/
theorem states_reportAll : (shim.reportAll now observation).states =
    shim.addresses.map fun addr => (addr, observedState observation addr) := by
  have addresses : shim.addresses = shim.states.map Prod.fst := by
    rw [ReplicationShim.addresses, states, List.map_map]
    rfl
  have kept : (shim.reportAll now observation).states =
      (shim.addresses.foldl (report now observation) shim).states := rfl
  rw [kept, states_foldl_report]
  refine (List.map_congr_left fun pair member => ?_).trans
    ((congrArg _ addresses).trans List.map_map).symm
  rw [if_pos (addresses ▸ List.mem_map_of_mem member)]
  rfl

theorem countP_reportAll (state : ReplicationState) :
    (shim.reportAll now observation).replicaStatus.countP (·.state = state) =
      observedCount observation shim.addresses state := by
  have count : ∀ other : ReplicationShim, other.replicaStatus.countP (·.state = state) =
      (other.states.map Prod.snd).countP (· = state) := by
    intro other
    rw [states, List.map_map, List.countP_map]
    rfl
  rw [count, states_reportAll, List.map_map, List.countP_map]
  rfl

theorem length_reportAll :
    (shim.reportAll now observation).replicaStatus.length = shim.addresses.length := by
  have same := congrArg List.length (@states_reportAll observation now shim)
  rwa [states, List.length_map, List.length_map] at same

/-- What the calls leave in the shared state. -/
theorem shared_reportAll (now : String) (shim : ReplicationShim) (observation : Observation) :
    let calls := (shim.reportAll now observation).shared
    let healthy := observedCount observation shim.addresses .healthy
    let broken := observedCount observation shim.addresses .broken
    calls.replicasHealthy = healthy ∧ calls.replicasBroken = broken ∧
      calls.state = if shim.addresses.length = 0 ∨ healthy = shim.addresses.length then .healthy
        else if 0 < broken ∧ healthy = 0 then .broken else .degraded := by
  intro calls healthy broken
  have counts := @countP_reportAll observation now shim
  have length := @length_reportAll observation now shim
  exact ⟨counts .healthy, counts .broken, by
    rw [← length, show healthy = _ from (counts .healthy).symm,
      show broken = _ from (counts .broken).symm]
    rfl⟩

theorem shared_healthRound (shim : ReplicationShim) (observation : Observation) :
    let loop := (shim.healthRound true observation).shared
    let healthy := shim.addresses.countP fun addr => (observation addr).isSome
    let broken := shim.addresses.countP fun addr => observation addr = none
    loop.replicasHealthy = healthy ∧ loop.replicasBroken = broken ∧
      loop.state = if shim.addresses.length = 0 ∨ healthy = shim.addresses.length then .healthy
        else if 0 < broken ∧ healthy = 0 then .broken else .degraded := by
  intro loop healthy broken
  have reached := @healthyCount_foldl_check observation shim.addresses {}
  have lost := @brokenCount_foldl_check observation shim.addresses {}
  simp only [Nat.zero_add] at reached lost
  exact ⟨reached, lost, by
    rw [show healthy = _ from reached.symm, show broken = _ from lost.symm]
    rfl⟩

end ReplicationShim

/-- With no replica behind, those that the calls put down as broken are the
unreachable ones. -/
theorem brokenCount_eq (near : ∀ addr ∈ addresses, ∀ lagSeconds,
    observation addr = some lagSeconds → lagSeconds ≤ 10) :
    (addresses.countP fun addr => observation addr = none) =
      observedCount observation addresses .broken := by
  refine List.countP_congr fun addr member => ?_
  rw [decide_eq_true_iff, decide_eq_true_iff]
  cases found : observation addr with
  | none => simp [observedState, found]
  | some lagSeconds =>
      have healthy := observedState_eq_healthy_iff.mpr ⟨lagSeconds, found, near addr member _ found⟩
      simp [healthy]

/-- In a round that reaches the primary, the loop and the calls agree exactly when
no reachable replica is more than ten seconds behind: the loop counts one that
is as healthy.  Without the primary the counts are those of an earlier round. -/
theorem roundAgrees_iff (now : String) (shim : ReplicationShim) (observation : Observation) :
    (shim.RoundAgrees now true observation ↔ ∀ addr ∈ shim.addresses, ∀ lagSeconds,
      observation addr = some lagSeconds → lagSeconds ≤ 10) ∧
    (shim.RoundAgrees now false observation ↔
      shim.shared.replicasHealthy = 0 ∧
      shim.shared.replicasBroken = observedCount observation shim.addresses .broken ∧
      observedCount observation shim.addresses .healthy = 0 ∧
      0 < observedCount observation shim.addresses .broken) := by
  obtain ⟨healthy, broken, state⟩ := ReplicationShim.shared_reportAll now shim observation
  constructor
  · obtain ⟨reached, lost, overall⟩ := ReplicationShim.shared_healthRound shim observation
    rw [ReplicationShim.RoundAgrees, healthy, broken, state, reached, lost, overall,
      ← healthyCount_eq_iff]
    refine ⟨And.left, fun same => ⟨same, ?_⟩⟩
    have lagless := brokenCount_eq (healthyCount_eq_iff.mp same)
    exact ⟨lagless, by rw [same, lagless]⟩
  · have bounded : observedCount observation shim.addresses .broken ≤ shim.addresses.length :=
      List.countP_le_length
    have counts : (shim.healthRound false observation).shared =
        { shim.shared with state := .broken } := rfl
    rw [ReplicationShim.RoundAgrees, healthy, broken, state, counts]
    dsimp only
    split_ifs with whole none
    · simp only [and_false, false_iff]
      omega
    · simp only [and_true]
      omega
    · simp only [and_false, false_iff]
      omega

/-- A replica eleven seconds behind is healthy for the loop and not for the calls. -/
theorem not_roundAgrees_lagging :
    ¬ (({ primary := "p:5432", replicas := ["r:5432"] } : ReplicationShim).start "").RoundAgrees ""
      true fun _ => some 11 := by
  intro agrees
  exact absurd agrees.1 (by decide +kernel)

end Evergreen.Replication
