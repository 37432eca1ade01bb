import Evergreen.Machine.Run
import Evergreen.Replication.Shim

namespace Evergreen.Replication

/-! # The primary is not its own replica

A promotion takes the new primary out of the map of states and leaves it in the
list, from which `start` fills the map again.
-/

inductive Call where
  | addReplica (now addr : String)
  | promote (now replicaAddr : String)
  | updateReplicaStatus (now addr : String) (lagBytes : Nat) (lagSeconds : ℚ)
  | markReplicaDisconnected (addr : String)
  | start (now : String)
deriving DecidableEq, Repr

namespace ReplicationShim

def perform (shim : ReplicationShim) : Call → ReplicationShim
  | .addReplica now addr => shim.addReplica now addr
  | .promote now replicaAddr => (shim.promote now replicaAddr).1
  | .updateReplicaStatus now addr lagBytes lagSeconds =>
      (shim.updateReplicaStatus now addr lagBytes lagSeconds).1
  | .markReplicaDisconnected addr => shim.markReplicaDisconnected addr
  | .start now => shim.start now

/-- The shim does not keep the primary among the replicas it watches. -/
def PrimaryApart (shim : ReplicationShim) : Prop :=
  shim.primary ∉ shim.addresses

instance (shim : ReplicationShim) : Decidable shim.PrimaryApart :=
  inferInstanceAs (Decidable (_ ∉ _))

/-- A replica that is added is not the primary. -/
def AddsReplica (shim : ReplicationShim) (call : Call) : Prop :=
  ∀ now addr, call = .addReplica now addr → addr ≠ shim.primary

/-- `start` finds the primary outside the list. -/
def StartsApart (shim : ReplicationShim) (call : Call) : Prop :=
  ∀ now, call = .start now → shim.primary ∉ shim.replicas

end ReplicationShim

def topology : Machine ReplicationShim Call := .ofFunction ReplicationShim.perform

namespace ReplicationShim

variable {shim : ReplicationShim} {call : Call} {now addr other : String}

/-! ## What the calls do to the addresses -/

@[simp] theorem addresses_changeStatus (change : ReplicaStatus → ReplicaStatus) :
    (shim.changeStatus addr change).addresses = shim.addresses := by
  simp only [addresses, changeStatus, List.map_map]
  refine List.map_congr_left fun status _ => ?_
  by_cases same : status.addr = addr <;> simp [same]

theorem mem_addresses_filter (addr : String) : other ∈ (shim.replicaStatus.filter
    (·.addr ≠ addr)).map ReplicaStatus.addr ↔ other ∈ shim.addresses ∧ other ≠ addr := by
  simp only [addresses, List.mem_map, List.mem_filter, decide_eq_true_eq]
  constructor
  · rintro ⟨status, ⟨member, differs⟩, rfl⟩
    exact ⟨⟨status, member, rfl⟩, differs⟩
  · rintro ⟨⟨status, member, rfl⟩, differs⟩
    exact ⟨status, ⟨member, differs⟩, rfl⟩

theorem mem_addresses_addReplica :
    other ∈ (shim.addReplica now addr).addresses ↔ other = addr ∨ other ∈ shim.addresses := by
  have inserted : (shim.addReplica now addr).addresses =
      addr :: (shim.replicaStatus.filter (·.addr ≠ addr)).map ReplicaStatus.addr := by
    simp only [addReplica, insertStatus, addresses]
    split <;> rfl
  rw [inserted, List.mem_cons, mem_addresses_filter]
  by_cases same : other = addr <;> simp [same]

theorem mem_replicas_addReplica :
    other ∈ (shim.addReplica now addr).replicas ↔ other = addr ∨ other ∈ shim.replicas := by
  simp only [addReplica, insertStatus]
  split
  case isTrue known =>
      refine ⟨.inr, ?_⟩
      rintro (rfl | member)
      · exact known
      · exact member
  case isFalse => simp [or_comm]

@[simp] theorem primary_addReplica : (shim.addReplica now addr).primary = shim.primary := by
  simp only [addReplica, insertStatus]
  split <;> rfl

theorem addReplicas (now : String) (added : List String) (shim : ReplicationShim) :
    (added.foldl (addReplica now) shim).primary = shim.primary ∧
      (∀ other, other ∈ (added.foldl (addReplica now) shim).addresses ↔
        other ∈ added ∨ other ∈ shim.addresses) ∧
      ∀ other, other ∈ (added.foldl (addReplica now) shim).replicas ↔
        other ∈ added ∨ other ∈ shim.replicas := by
  induction added generalizing shim with
  | nil => simp
  | cons addr rest ih =>
      obtain ⟨primary, addresses, replicas⟩ := ih (shim.addReplica now addr)
      refine ⟨primary.trans primary_addReplica, fun other => ?_, fun other => ?_⟩
      · rw [List.foldl_cons, addresses, mem_addresses_addReplica, List.mem_cons]
        exact or_left_comm.trans (or_assoc.symm)
      · rw [List.foldl_cons, replicas, mem_replicas_addReplica, List.mem_cons]
        exact or_left_comm.trans (or_assoc.symm)

/-- What a call may do to the primary, the watched addresses and the list. -/
inductive Moves (shim : ReplicationShim) : Call → ReplicationShim → Prop where
  | adds {next now addr} (primary : next.primary = shim.primary)
      (addresses : ∀ other, other ∈ next.addresses ↔ other = addr ∨ other ∈ shim.addresses)
      (replicas : ∀ other, other ∈ next.replicas ↔ other = addr ∨ other ∈ shim.replicas) :
      Moves shim (.addReplica now addr) next
  | promotes {next now addr} (known : addr ∈ shim.addresses) (primary : next.primary = addr)
      (addresses : ∀ other, other ∈ next.addresses ↔ other ∈ shim.addresses ∧ other ≠ addr)
      (replicas : next.replicas = shim.replicas) : Moves shim (.promote now addr) next
  | keeps {next call} (called : ∀ now, call ≠ .start now) (primary : next.primary = shim.primary)
      (addresses : next.addresses = shim.addresses) (replicas : next.replicas = shim.replicas) :
      Moves shim call next
  | starts {next now} (primary : next.primary = shim.primary)
      (addresses : ∀ other, other ∈ next.addresses ↔ other ∈ shim.replicas ∨ other ∈ shim.addresses)
      (replicas : ∀ other, other ∈ next.replicas ↔ other ∈ shim.replicas) :
      Moves shim (.start now) next

theorem perform_moves (shim : ReplicationShim) (call : Call) : Moves shim call (shim.perform call) := by
  cases call with
  | addReplica now addr =>
      exact .adds primary_addReplica (fun _ => mem_addresses_addReplica) (fun _ => mem_replicas_addReplica)
  | promote now replicaAddr =>
      by_cases known : replicaAddr ∈ shim.addresses
      · simp only [perform, promote, if_pos known]
        exact .promotes known rfl (fun _ => mem_addresses_filter replicaAddr) rfl
      · simp only [perform, promote, if_neg known]
        exact .keeps (fun _ => nofun) rfl rfl rfl
  | updateReplicaStatus now addr lagBytes lagSeconds =>
      simp only [perform, updateReplicaStatus]
      split
      case h_1 => exact .keeps (fun _ => nofun) rfl rfl rfl
      case h_2 => exact .keeps (fun _ => nofun) rfl (addresses_changeStatus _) rfl
  | markReplicaDisconnected addr =>
      exact .keeps (fun _ => nofun) rfl (addresses_changeStatus _) rfl
  | start now =>
      obtain ⟨primary, addresses, replicas⟩ := addReplicas now shim.replicas shim
      exact .starts primary addresses fun other => (replicas other).trans (or_self_iff)

/-! ## The primary and the list -/

theorem PrimaryApart.perform (apart : shim.PrimaryApart) (adds : shim.AddsReplica call)
    (starts : shim.StartsApart call) : (shim.perform call).PrimaryApart := by
  have moves := shim.perform_moves call
  generalize shim.perform call = next at moves ⊢
  cases moves with
  | @adds _ now addr primary addresses _ =>
      rw [PrimaryApart, primary, addresses, not_or]
      exact ⟨fun same => adds now addr rfl same.symm, apart⟩
  | promotes _ primary addresses _ =>
      rw [PrimaryApart, primary, addresses]
      exact fun watched => watched.2 rfl
  | keeps _ primary addresses _ =>
      rw [PrimaryApart, primary, addresses]
      exact apart
  | @starts _ now primary addresses _ =>
      rw [PrimaryApart, primary, addresses, not_or]
      exact ⟨starts now rfl, apart⟩

theorem not_primaryApart_start (listed : ¬ shim.StartsApart call) :
    ¬ (shim.perform call).PrimaryApart := by
  simp only [StartsApart, not_forall, not_not] at listed
  obtain ⟨now, rfl, listed⟩ := listed
  have moves := shim.perform_moves (.start now)
  generalize shim.perform (.start now) = next at moves ⊢
  cases moves with
  | keeps called => exact absurd rfl (called now)
  | starts primary addresses _ =>
      rw [PrimaryApart, primary, addresses, not_not]
      exact .inl listed

/-- The list has every watched address, and the primary as well. -/
structure PrimaryListed (shim : ReplicationShim) : Prop where
  watched : ∀ other ∈ shim.addresses, other ∈ shim.replicas
  primary : shim.primary ∈ shim.replicas

theorem watched_perform (watched : ∀ other ∈ shim.addresses, other ∈ shim.replicas) (call : Call) :
    ∀ other ∈ (shim.perform call).addresses, other ∈ (shim.perform call).replicas := by
  have moves := shim.perform_moves call
  generalize shim.perform call = next at moves ⊢
  intro other member
  cases moves with
  | adds _ addresses replicas =>
      exact (replicas other).mpr (((addresses other).mp member).imp_right (watched other))
  | promotes _ _ addresses replicas =>
      rw [replicas]
      exact watched other ((addresses other).mp member).1
  | keeps _ _ addresses replicas =>
      rw [replicas]
      exact watched other (addresses ▸ member)
  | starts _ addresses replicas =>
      exact (replicas other).mpr (((addresses other).mp member).elim id (watched other))

theorem primaryListed_promote (watched : ∀ other ∈ shim.addresses, other ∈ shim.replicas)
    (known : addr ∈ shim.addresses) : (shim.perform (.promote now addr)).PrimaryListed := by
  refine ⟨watched_perform watched _, ?_⟩
  simp only [perform, promote, if_pos known]
  exact watched addr known

theorem PrimaryListed.perform (listed : shim.PrimaryListed) (call : Call) :
    (shim.perform call).PrimaryListed := by
  refine ⟨watched_perform listed.watched call, ?_⟩
  have moves := shim.perform_moves call
  generalize shim.perform call = next at moves ⊢
  cases moves with
  | adds primary _ replicas => exact (replicas _).mpr (.inr (primary ▸ listed.primary))
  | promotes known primary _ replicas =>
      rw [primary, replicas]
      exact listed.watched _ known
  | keeps _ primary _ replicas =>
      rw [primary, replicas]
      exact listed.primary
  | starts primary _ replicas => exact (replicas _).mpr (primary ▸ listed.primary)

def new (primary : String) (replicas : List String) : ReplicationShim := { primary, replicas }

end ReplicationShim

/-! ## Every sequence of calls -/

open ReplicationShim

/-- From a successful promotion on, the list names the primary. -/
theorem listed_after_promotion (primary : String) (replicas : List String) (before after : List Call)
    (now replicaAddr : String) (shim : ReplicationShim)
    (reached : topology.run (.new primary replicas) before = some shim)
    (known : replicaAddr ∈ shim.addresses) :
    topology.Always PrimaryListed (shim.perform (.promote now replicaAddr)) after := by
  have watched : topology.Always (fun shim => ∀ other ∈ shim.addresses, other ∈ shim.replicas)
      (.new primary replicas) before :=
    Machine.always_ofFunction _ (fun _ call watched => watched_perform watched call)
      fun other member => nomatch member
  exact Machine.always_ofFunction _ (fun _ call listed => listed.perform call)
    (primaryListed_promote (watched.last reached) known)

/-- Where replicas are added and not the primary, the shim never watches the
primary exactly when it is started only while the list does not name it. -/
theorem primary_apart_iff (primary : String) (replicas : List String) (calls : List Call)
    (promised : topology.Along AddsReplica (.new primary replicas) calls) :
    topology.Always PrimaryApart (.new primary replicas) calls ↔
      topology.Along StartsApart (.new primary replicas) calls := by
  refine Machine.always_iff_along_of_promise PrimaryApart (fun _ apart => apart) ?_ ?_ ?_ promised
  · intro shim call next apart adds starts taken
    cases taken
    exact apart.perform adds starts
  · intro shim call next _ _ listed taken
    cases taken
    exact not_primaryApart_start listed
  · exact fun member => nomatch member

/-- A replica is added and promoted, and the shim is started afterwards. -/
def promotedThenStarted : List Call :=
  [.addReplica "t0" "replica-1:5432", .promote "t1" "replica-1:5432", .start "t2"]

theorem promotedThenStarted_adds :
    topology.Along AddsReplica (.new "primary:5432" []) promotedThenStarted := by
  refine .cons rfl ?_ (.cons rfl (fun _ _ => nofun) (.cons rfl (fun _ _ => nofun) trivial))
  intro now addr called
  cases called
  decide

theorem primary_apart_iff_promotedThenStarted :
    topology.Always PrimaryApart (.new "primary:5432" []) promotedThenStarted ↔
      topology.Along StartsApart (.new "primary:5432" []) promotedThenStarted :=
  primary_apart_iff "primary:5432" [] promotedThenStarted promotedThenStarted_adds

theorem started_primary_watches_itself :
    ¬ (topology.Along AddsReplica (.new "primary:5432" []) promotedThenStarted →
      topology.Always PrimaryApart (.new "primary:5432" []) promotedThenStarted) := by
  intro apart
  exact absurd ((apart promotedThenStarted_adds).last rfl) (by decide)

end Evergreen.Replication
