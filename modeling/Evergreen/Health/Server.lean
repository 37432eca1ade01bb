import Evergreen.Machine.Run
import Mathlib.Algebra.Order.Ring.Nat

namespace Evergreen.Health

/-! # The health server

Requests come in tasks of their own and share one checker, behind a mutex, and
the two counters of failures.  A client may go away while its request waits for
the lock or for the command of a check.  The capabilities are those the shim had
when it started the server.
-/

inductive HealthStatus where
  | healthy
  | unhealthy
  | unknown
deriving DecidableEq, Repr

structure HealthChecker where
  lastLiveness : HealthStatus := .unknown
  lastReadiness : HealthStatus := .unknown
deriving DecidableEq, Repr

/-- The value of the gauge of a status. -/
def HealthStatus.gauge : HealthStatus → Nat
  | .healthy => 1
  | _ => 0

def HealthChecker.metrics (checker : HealthChecker) : List (String × Nat) :=
  [("health_liveness", checker.lastLiveness.gauge), ("health_readiness", checker.lastReadiness.gauge)]

inductive Endpoint where
  | livez
  | readyz
  | startupz
  | healthz
  | metrics
deriving DecidableEq, Repr

/-- `check_liveness` and `check_readiness`, once the command has ended. -/
def HealthChecker.record (checker : HealthChecker) (status : HealthStatus) :
    Endpoint → HealthChecker
  | .livez => { checker with lastLiveness := status }
  | .readyz => { checker with lastReadiness := status }
  | _ => checker

structure CapabilityHealthStatus where
  name : String
  healthy : Bool
  message : Option String
deriving DecidableEq, Repr

structure HealthReport where
  liveness : String
  readiness : String
  startup : String
  capabilities : List CapabilityHealthStatus
  uptimeSecs : Nat
  initialized : Bool
  livenessFailures : Nat
  readinessFailures : Nat
deriving DecidableEq, Repr

inductive Response where
  | status (code : Nat)
  | report (report : HealthReport)
  | metrics (metrics : List (String × Nat))
deriving DecidableEq, Repr

/-- Where a request is. -/
inductive Place where
  | begun
  /-- It waits for the lock of the checker. -/
  | waiting
  /-- It holds the lock, and the command of the check runs. -/
  | checking
  /-- A failure is to be counted, with the lock held or not. -/
  | failing (holding : Bool)
  /-- The first loads of `/healthz`, and the count of liveness failures once loaded. -/
  | reporting (uptimeSecs : Nat) (initialized : Bool) (livenessFailures : Option Nat)
  | answered (response : Response)
  /-- Answered with 503 because the shim is not initialized. -/
  | turnedAway
  | dropped
deriving DecidableEq, Repr

structure HealthServer where
  capabilities : List CapabilityHealthStatus
  initialized : Bool := true
  checker : HealthChecker := {}
  lock : Option Nat := none
  livenessFailures : Nat := 0
  readinessFailures : Nat := 0
  uptimeSecs : Nat := 0
  requests : List (Endpoint × Place) := []
deriving Repr

namespace HealthServer

def allHealthy (server : HealthServer) : Bool := server.capabilities.all (·.healthy)

def report (server : HealthServer) (uptimeSecs : Nat) (initialized : Bool)
    (livenessFailures : Nat) : HealthReport where
  liveness := if server.allHealthy && initialized then "healthy"
    else if initialized then "degraded" else "starting"
  readiness := if server.allHealthy && initialized then "ready" else "not_ready"
  startup := if initialized then "complete" else "in_progress"
  capabilities := server.capabilities
  uptimeSecs
  initialized
  livenessFailures
  readinessFailures := server.readinessFailures

/-- Only the probes of liveness and readiness run checks and count failures. -/
def countFailure (server : HealthServer) : Endpoint → HealthServer
  | .livez => { server with livenessFailures := (server.livenessFailures + 1) % 2 ^ 64 }
  | .readyz => { server with readinessFailures := (server.readinessFailures + 1) % 2 ^ 64 }
  | _ => server

def record (server : HealthServer) (status : HealthStatus) (endpoint : Endpoint) : HealthServer :=
  { server with checker := server.checker.record status endpoint }

def unlock (server : HealthServer) (holding : Bool) : HealthServer :=
  if holding then { server with lock := none } else server

/-- The next step of a request that waits for nothing but the lock. -/
def turn (server : HealthServer) (request : Nat) : Endpoint → Place → Option (HealthServer × Place)
  | .livez, .begun => some (server, .waiting)
  | .readyz, .begun =>
      if !server.initialized then some (server, .turnedAway)
      else if !server.allHealthy then some (server, .failing false)
      else some (server, .waiting)
  | .startupz, .begun => some (server, .answered (.status (if server.initialized then 200 else 503)))
  | .healthz, .begun => some (server, .reporting server.uptimeSecs server.initialized none)
  | .healthz, .reporting uptimeSecs initialized none =>
      some (server, .reporting uptimeSecs initialized (some server.livenessFailures))
  | .healthz, .reporting uptimeSecs initialized (some failures) =>
      some (server, .answered (.report (server.report uptimeSecs initialized failures)))
  | .metrics, .begun => some (server, .waiting)
  | .metrics, .waiting =>
      if server.lock = none then some (server, .answered (.metrics server.checker.metrics)) else none
  | .livez, .waiting | .readyz, .waiting =>
      if server.lock = none then some ({ server with lock := some request }, .checking) else none
  | endpoint, .failing holding =>
      some ((server.countFailure endpoint).unlock holding, .answered (.status 503))
  | _, _ => none

/-- The command of a check has ended. -/
def finish (server : HealthServer) (status : HealthStatus) (endpoint : Endpoint) :
    Place → Option (HealthServer × Place)
  | .checking =>
      if status = .unhealthy then some (server.record status endpoint, .failing true)
      else some ((server.record status endpoint).unlock true, .answered (.status 200))
  | _ => none

/-- The client goes away. -/
def cancel (server : HealthServer) : Place → Option (HealthServer × Place)
  | .begun | .waiting => some (server, .dropped)
  | .checking => some (server.unlock true, .dropped)
  | _ => none

def move (server : HealthServer) (request : Nat)
    (next : Endpoint → Place → Option (HealthServer × Place)) : Option HealthServer := do
  let (endpoint, place) ← server.requests[request]?
  let (server, place) ← next endpoint place
  some { server with requests := server.requests.set request (endpoint, place) }

end HealthServer

inductive ServerLabel where
  | request (endpoint : Endpoint)
  | advance (request : Nat)
  | checked (request : Nat) (status : HealthStatus)
  | drop (request : Nat)
  | setInitialized (initialized : Bool)
  | elapse (secs : Nat)
deriving DecidableEq, Repr

def HealthServer.step (server : HealthServer) : ServerLabel → Option HealthServer
  | .request endpoint => some { server with requests := server.requests ++ [(endpoint, .begun)] }
  | .advance request => server.move request (server.turn request)
  | .checked request status => server.move request (server.finish status)
  | .drop request => server.move request fun _ => server.cancel
  | .setInitialized initialized => some { server with initialized }
  | .elapse secs => some { server with uptimeSecs := server.uptimeSecs + secs }

/-! ## The shim -/

structure DetailedHealthStatus where
  liveness : String
  readiness : String
  startup : String
  capabilities : List CapabilityHealthStatus
  uptimeSecs : Nat
  initialized : Bool
deriving DecidableEq, Repr

/-- The capabilities are the values of a map by name, in its order. -/
structure HealthShim where
  hasChecker : Bool := false
  listen : String := "0.0.0.0:9101"
  capabilities : List CapabilityHealthStatus := []
  initialized : Bool := false
deriving DecidableEq, Repr

namespace HealthShim

def registerCapability (shim : HealthShim) (name : String) : HealthShim :=
  let registered := { name, healthy := true, message := some "registered" }
  if shim.capabilities.any (·.name == name) then
    { shim with
      capabilities := shim.capabilities.map fun capability =>
        if capability.name = name then registered else capability }
  else { shim with capabilities := registered :: shim.capabilities }

def setCapabilityHealth (shim : HealthShim) (name : String) (healthy : Bool)
    (message : Option String) : HealthShim :=
  { shim with
    capabilities := shim.capabilities.map fun capability =>
      if capability.name = name then { capability with healthy, message } else capability }

def detailedStatus (shim : HealthShim) (uptimeSecs : Nat) : DetailedHealthStatus :=
  let allHealthy := shim.capabilities.all (·.healthy)
  { liveness := if allHealthy && shim.initialized then "healthy"
      else if shim.initialized then "degraded" else "starting"
    readiness := if allHealthy && shim.initialized then "ready" else "not_ready"
    startup := if shim.initialized then "complete" else "in_progress"
    capabilities := shim.capabilities
    uptimeSecs
    initialized := shim.initialized }

/-- With a configuration that has no errors of its own. -/
def init (shim : HealthShim) (listen : String) : HealthShim :=
  { shim with listen, hasChecker := true, initialized := true }

/-- The checker moves into a server of its own, with the capabilities of now. -/
def start (shim : HealthShim) : HealthShim × Option HealthServer :=
  if shim.hasChecker then
    ({ shim with hasChecker := false }, some { capabilities := shim.capabilities })
  else (shim, none)

end HealthShim

end Evergreen.Health
