import Evergreen.Process.Child
import Mathlib.Algebra.Order.Ring.Nat

namespace Evergreen.Process

/-! # Shutting one process down

The three `GracefulShutdown` handlers and `graceful_shutdown`, each as one
function over a target process.  A target answers probes and signals and changes
with the time that is waited; any behaviour of a process is one.
-/

/-- A process as the routines meet it.  `found` is what `kill` answers, also for
a zombie or for another process that has got the PID; `running` is the process
itself.  `sleepsWithin` is how many of the poll's sleeps end before a timeout of
so many seconds does. -/
structure Target where
  State : Type
  found : State → Bool
  running : State → Bool
  deliver : Signal → State → State
  elapse : Nat → State → State
  killAndWait : State → State
  elapsedMs : State → Nat
  sleepsWithin : Nat → Nat
  not_running_of_not_found : ∀ state, found state = false → running state = false
  deliver_dead : ∀ signal state, running state = false → running (deliver signal state) = false
  elapse_dead : ∀ ms state, running state = false → running (elapse ms state) = false
  killAndWait_dead : ∀ state, running state = false → running (killAndWait state) = false

structure ShutdownResult where
  cleanExit : Bool
  dbType : DatabaseType
  durationMs : Nat
  signalsSent : Nat
  operationsCompleted : Nat
  operationsTotal : Nat
  log : List String
deriving DecidableEq, Repr

/-- The target with the routine's local variables; `delivered` is what has
really reached it. -/
structure Session (target : Target) where
  state : target.State
  signalsSent : Nat
  log : List String
  delivered : List Signal

namespace Session

variable {target : Target}

def begin (state : target.State) : Session target where
  state := state
  signalsSent := 0
  log := []
  delivered := []

def note (session : Session target) (line : String) : Session target :=
  { session with log := session.log ++ [line] }

def isProcessAlive (session : Session target) : Bool := target.found session.state

def running (session : Session target) : Bool := target.running session.state

def sleep (session : Session target) (ms : Nat) : Session target :=
  { session with state := target.elapse ms session.state }

/-- `kill`, with `signals_sent += 1` where it succeeded.  The process may have
changed since it was last looked at. -/
def send (session : Session target) (signal : Signal) : Session target × Bool :=
  let session := session.sleep 0
  if session.isProcessAlive then
    ({ session with
      state := target.deliver signal session.state
      signalsSent := session.signalsSent + 1
      delivered := session.delivered ++ [signal] }, true)
  else (session, false)

/-- The polling loop under `timeout`, which cuts the last sleep short: whether
it ended by itself. -/
def poll : Nat → Session target → Session target × Bool
  | sleeps, session =>
      if session.isProcessAlive then
        match sleeps with
        | 0 => (session.sleep 0, false)
        | sleeps + 1 => poll sleeps (session.sleep 100)
      else (session.sleep 0, true)

def pollFor (session : Session target) (secs : Nat) : Session target × Bool :=
  poll (target.sleepsWithin secs) session

def result (session : Session target) (dbType : DatabaseType) (cleanExit : Bool) :
    Session target × ShutdownResult :=
  (session,
    { cleanExit
      dbType
      durationMs := target.elapsedMs session.state
      signalsSent := session.signalsSent
      operationsCompleted := 0
      operationsTotal := 0
      log := session.log })

def esrch : String := "ESRCH: No such process"

end Session

open Session

variable {target : Target}

/-- `PostgresShutdown::shutdown`. -/
def postgresShutdown (state : target.State) (pid timeoutSecs : Nat) :
    Session target × ShutdownResult :=
  let (session, sent) := ((begin state).note
    s!"[1/4] Sending SIGTERM to PID {pid}").send .sigterm
  if sent then
    let waitPerStep := timeoutSecs / 4
    let session := (session.note
      s!"[2/4] Waiting for queries to finish (up to {waitPerStep}s)").sleep (waitPerStep * 1000)
    if session.isProcessAlive then
      let session := (session.note "[3/4] Process still running, waiting for checkpoint").sleep
        (waitPerStep * 1000)
      let session :=
        if session.isProcessAlive then
          ((session.note
            s!"[4/4] Process still running after {waitPerStep * 2}s, waiting for final exit").pollFor
              (timeoutSecs / 2)).1
        else session
      let clean := !session.isProcessAlive
      (session.note (if clean then "[4/4] Process exited cleanly"
        else "[4/4] Process did not exit gracefully")).result .postgres clean
    else
      (session.note "[3/4] Process exited cleanly after SIGTERM").result .postgres true
  else
    (session.note s!"  SIGTERM failed: {esrch} (process may already be dead)").result .postgres false

/-- `RedisShutdown::shutdown`. -/
def redisShutdown (state : target.State) (pid timeoutSecs : Nat) :
    Session target × ShutdownResult :=
  let (session, sent) := ((begin state).note
    s!"[1/3] Sending SIGTERM to PID {pid}").send .sigterm
  if sent then
    let waitPerStep := timeoutSecs / 3
    let session := (session.note
      s!"[2/3] Waiting for RDB save/fork completion (up to {waitPerStep}s)").sleep
        (waitPerStep * 1000)
    if session.isProcessAlive then
      let session := ((session.note
        "[3/3] Process still running, waiting for fork completion").pollFor
          (timeoutSecs * 2 % 2 ^ 64 / 3)).1
      let clean := !session.isProcessAlive
      (session.note (if clean then "[3/3] Process exited cleanly"
        else "[3/3] Process did not exit gracefully")).result .redis clean
    else
      (session.note "[3/3] Process exited cleanly after SIGTERM").result .redis true
  else
    (session.note s!"  SIGTERM failed: {esrch} (process may already be dead)").result .redis false

/-- `GenericShutdown::shutdown`. -/
def genericShutdown (state : target.State) (pid timeoutSecs : Nat) :
    Session target × ShutdownResult :=
  let (session, sent) := ((begin state).note
    s!"[1/3] Sending SIGTERM to PID {pid}").send .sigterm
  if sent then
    let session := ((session.note
      s!"[2/3] Waiting {timeoutSecs}s for graceful exit").pollFor timeoutSecs).1
    if session.isProcessAlive then
      let session := ((session.note "[3/3] Process still running, sending SIGKILL").send
        .sigkill).1.sleep 500
      let clean := !session.isProcessAlive
      (session.note (if clean then "[3/3] Process killed by SIGKILL"
        else "[3/3] Process did not respond to SIGKILL")).result .generic false
    else
      (session.note "[3/3] Process exited cleanly after SIGTERM").result .generic true
  else
    (session.note s!"  SIGTERM failed: {esrch} (process may already be dead)").result .generic false

/-- `shutdown_handler` with the call on the handler it returns. -/
def shutdownHandler : DatabaseType → (state : target.State) → (pid timeoutSecs : Nat) →
    Session target × ShutdownResult
  | .postgres => postgresShutdown
  | .redis => redisShutdown
  | .generic => genericShutdown

inductive ShutdownStrategy where
  | postgresGraceful
  | redisGraceful
  | genericGraceful
deriving DecidableEq, Repr

namespace ShutdownStrategy

def toString : ShutdownStrategy → String
  | .postgresGraceful => "postgres"
  | .redisGraceful => "redis"
  | .genericGraceful => "generic"

def toDatabaseType : ShutdownStrategy → DatabaseType
  | .postgresGraceful => .postgres
  | .redisGraceful => .redis
  | .genericGraceful => .generic

def waitSecs (timeoutSecs : Nat) : ShutdownStrategy → Nat
  | .postgresGraceful => timeoutSecs * 80 % 2 ^ 64 / 100
  | .redisGraceful => timeoutSecs * 80 % 2 ^ 64 / 100
  | .genericGraceful => timeoutSecs

def waitLine (timeoutSecs : Nat) (strategy : ShutdownStrategy) : String :=
  let secs := strategy.waitSecs timeoutSecs
  match strategy with
  | .postgresGraceful => s!"[2] Waiting for Postgres smart shutdown (up to {secs}s)"
  | .redisGraceful => s!"[2] Waiting for Redis RDB save (up to {secs}s)"
  | .genericGraceful => s!"[2] Waiting {secs}s for graceful exit"

end ShutdownStrategy

/-- `graceful_shutdown` of a child with a PID. -/
def gracefulShutdownOf (strategy : ShutdownStrategy) (state : target.State)
    (pid timeoutSecs : Nat) : Session target × ShutdownResult :=
  let name := strategy.toString
  let dbType := strategy.toDatabaseType
  let (session, sent) := ((begin state).note
    s!"[1] Sending SIGTERM to PID {pid} ({name})").send .sigterm
  if sent then
    let (session, exited) := (session.note (strategy.waitLine timeoutSecs)).pollFor
      (strategy.waitSecs timeoutSecs)
    if !session.isProcessAlive then
      (session.note "[3] Process exited gracefully").result dbType true
    else if exited then
      (session.note "[3] Process exited during wait period").result dbType true
    else
      let session := ((session.note "[3] Timeout reached, sending SIGKILL").send .sigkill).1
      let session := { session with state := target.killAndWait session.state }.sleep 500
      let clean := !session.isProcessAlive
      (session.note (if clean then "[3] Process killed by SIGKILL"
        else "[3] Process did not respond to SIGKILL")).result dbType clean
  else
    (session.note s!"  SIGTERM failed: {esrch}").result dbType false

/-- `childId` is `child.id()`. -/
def gracefulShutdown (strategy : ShutdownStrategy) (state : target.State) (childId : Option Nat)
    (timeoutSecs : Nat) : Except String (Session target × ShutdownResult) :=
  let pid := childId.getD 0
  if pid = 0 then .error "child process has no valid PID"
  else .ok (gracefulShutdownOf strategy state pid timeoutSecs)

end Evergreen.Process
