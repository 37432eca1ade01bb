import Mathlib.Data.Rat.Floor

namespace Evergreen.Replication

/-! # The replication shim

The addresses of the replicas are kept twice: in a list, which the settings
fill, and as the keys of a map of their states.  Lags are rationals.
-/

inductive ReplicationState where
  | healthy
  | degraded
  | broken
deriving DecidableEq, Repr

structure ReplicaStatus where
  addr : String
  state : ReplicationState
  lagBytes : Nat
  lagSeconds : ℚ
  lastHeartbeat : String
  connected : Bool
deriving DecidableEq, Repr

structure FailoverResult where
  oldPrimary : String
  newPrimary : String
  promotedAt : String
  success : Bool
  error : Option String
deriving DecidableEq, Repr

structure SharedState where
  state : ReplicationState := .healthy
  replicaLagBytes : Nat := 0
  maxLagSeconds : ℚ := 0
  replicasHealthy : Nat := 0
  replicasBroken : Nat := 0
  failoversTotal : Nat := 0
deriving DecidableEq, Repr

structure ReplicationShim where
  primary : String
  replicas : List String
  shared : SharedState := {}
  replicaStatus : List ReplicaStatus := []
deriving DecidableEq, Repr

namespace ReplicationShim

/-- The keys of the map. -/
def addresses (shim : ReplicationShim) : List String := shim.replicaStatus.map ReplicaStatus.addr

/-- `insert` replaces the entry of the address. -/
def insertStatus (shim : ReplicationShim) (status : ReplicaStatus) : ReplicationShim :=
  { shim with replicaStatus := status :: shim.replicaStatus.filter (·.addr ≠ status.addr) }

/-- `get_mut`: the entry of the address, if there is one, changes in place. -/
def changeStatus (shim : ReplicationShim) (addr : String) (change : ReplicaStatus → ReplicaStatus) :
    ReplicationShim :=
  { shim with replicaStatus := shim.replicaStatus.map fun status =>
      if status.addr = addr then { change status with addr } else status }

def addReplica (now : String) (shim : ReplicationShim) (addr : String) : ReplicationShim :=
  let inserted := shim.insertStatus
    { addr, state := .healthy, lagBytes := 0, lagSeconds := 0, lastHeartbeat := now, connected := false }
  if addr ∈ shim.replicas then inserted else { inserted with replicas := shim.replicas ++ [addr] }

def stateOfLag (lagSeconds : ℚ) : ReplicationState :=
  if 30 < lagSeconds then .broken else if 10 < lagSeconds then .degraded else .healthy

/-- The answer tells whether the state of the replica has changed. -/
def updateReplicaStatus (now : String) (shim : ReplicationShim) (addr : String) (lagBytes : Nat)
    (lagSeconds : ℚ) : ReplicationShim × Bool :=
  match shim.replicaStatus.find? (·.addr = addr) with
  | none => (shim, false)
  | some previous =>
      (shim.changeStatus addr fun status => { status with
          lagBytes, lagSeconds
          lastHeartbeat := now
          state := stateOfLag lagSeconds
          connected := status.connected || decide (stateOfLag lagSeconds = .healthy) },
        decide (stateOfLag lagSeconds ≠ previous.state))

def markReplicaDisconnected (shim : ReplicationShim) (addr : String) : ReplicationShim :=
  shim.changeStatus addr fun status => { status with connected := false, state := .broken }

def recalculateState (shim : ReplicationShim) : ReplicationShim :=
  let total := shim.replicaStatus.length
  let healthy := shim.replicaStatus.countP (·.state = .healthy)
  let broken := shim.replicaStatus.countP (·.state = .broken)
  { shim with shared := { shim.shared with
      replicasHealthy := healthy
      replicasBroken := broken
      replicaLagBytes := (shim.replicaStatus.map ReplicaStatus.lagBytes).sum % 2 ^ 64
      maxLagSeconds := (shim.replicaStatus.map ReplicaStatus.lagSeconds).foldl max 0
      state :=
        if total = 0 ∨ healthy = total then .healthy
        else if 0 < broken ∧ healthy = 0 then .broken
        else .degraded } }

def promote (now : String) (shim : ReplicationShim) (replicaAddr : String) :
    ReplicationShim × Except String FailoverResult :=
  if replicaAddr ∈ shim.addresses then
    let promoted := { shim with
      replicaStatus := shim.replicaStatus.filter (·.addr ≠ replicaAddr)
      primary := replicaAddr
      shared := { shim.shared with failoversTotal := (shim.shared.failoversTotal + 1) % 2 ^ 64 } }
    (promoted.recalculateState, .ok
      { oldPrimary := shim.primary
        newPrimary := replicaAddr
        promotedAt := now
        success := true
        error := none })
  else (shim, .error s!"Replica {replicaAddr} not found")

/-- What `start` does before it spawns the loop; the loop watches the addresses
of the map that it leaves. -/
def start (now : String) (shim : ReplicationShim) : ReplicationShim :=
  shim.replicas.foldl (addReplica now) shim

end ReplicationShim

end Evergreen.Replication
