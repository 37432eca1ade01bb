import Evergreen.Machine.Retry
import Mathlib.Algebra.Order.Ring.Nat
import Mathlib.Logic.Function.Basic

namespace Evergreen.Webhooks

/-! # The webhook shim

`AlertingShim::process_alert` with its routes, retries and backoff.  Instants are
nanoseconds of the monotonic clock, durations whole seconds below 2^64, and
`checks` says whether integer overflow panics.  The counters of alerts stay below
2^64.  Of an alert only what is routed and deduplicated by is kept.
-/

inductive Severity where
  | info
  | warning
  | critical
deriving DecidableEq, Repr

namespace Severity

/-- `to_lowercase`; no other letter has one of these for its lower case. -/
def toLowercase (text : String) : String := String.ofList (text.toList.map Char.toLower)

def parse (text : String) : Except String Severity :=
  match toLowercase text with
  | "info" => .ok .info
  | "warning" | "warn" => .ok .warning
  | "critical" | "fatal" | "error" => .ok .critical
  | other => .error ("Unknown severity: " ++ other)

def display : Severity → String
  | .info => "info"
  | .warning => "warning"
  | .critical => "critical"

def rank : Severity → Nat
  | .info => 0
  | .warning => 1
  | .critical => 2

end Severity

structure WebhookConfig where
  name : String
  url : String
  minSeverity : String
deriving DecidableEq, Repr

def WebhookConfig.accepts (webhook : WebhookConfig) (severity : Severity) : Bool :=
  let min := (Severity.parse webhook.minSeverity).toOption.getD .info
  decide (min.rank ≤ severity.rank)

structure Alert where
  title : String
  severity : Severity
  source : String
deriving DecidableEq, Repr

def Alert.dedupKey (alert : Alert) : String :=
  alert.source ++ ":" ++ alert.title ++ ":" ++ alert.severity.display

structure EndpointState where
  consecutiveFailures : Nat := 0
  lastAttempt : Option Nat := none
  backoffUntil : Option Nat := none
deriving DecidableEq, Repr

structure AlertingShim where
  webhooks : List WebhookConfig := []
  dedupWindow : Nat := 300
  backoffBase : Nat := 30
  backoffMax : Nat := 3600
  alertsSent : Nat := 0
  alertsFailed : Nat := 0
  alertsDeduplicated : Nat := 0
  dedupCache : String → Option Nat := fun _ => none
  endpointStates : String → Option EndpointState := fun _ => none
  httpClient : Bool := false

/-- What happens when the turn of a target comes: the clock, whether each attempt
is delivered, and the two readings of the clock when it is over. -/
structure Turn where
  now : Nat
  delivered : Nat → Bool
  attempted : Nat
  ended : Nat

/-- The clock of the duplicate check and of the record, and the turns. -/
structure Reception where
  now : Nat
  recorded : Nat
  turns : Nat → Turn

def webhookRetryCount : Nat := 2

/-- `Instant + Duration`, whose seconds are an `i64`. -/
def addSeconds (now seconds : Nat) : Option Nat :=
  let sum := now + seconds * 1000000000
  if sum < 2 ^ 63 * 1000000000 then some sum else none

namespace AlertingShim

variable (shim : AlertingShim)

def isDuplicate (alert : Alert) (now : Nat) : Bool :=
  match shim.dedupCache alert.dedupKey with
  | some lastSeen => decide (now - lastSeen < shim.dedupWindow * 1000000000)
  | none => false

def recordAlert (alert : Alert) (now : Nat) : AlertingShim :=
  { shim with dedupCache := Function.update shim.dedupCache alert.dedupKey (some now) }

/-- `none` when the product overflows and that panics. -/
def calculateBackoff (checks : Bool) (consecutiveFailures : Nat) : Option Nat :=
  let delaySecs := shim.backoffBase * 2 ^ min consecutiveFailures 10
  if checks = true ∧ 2 ^ 64 ≤ delaySecs then none
  else some (min (delaySecs % 2 ^ 64) shim.backoffMax)

def isInBackoff (webhookName : String) (now : Nat) : Bool :=
  match shim.endpointStates webhookName with
  | some { backoffUntil := some later, .. } => decide (now < later)
  | _ => false

def setEndpoint (webhookName : String) (state : EndpointState) : AlertingShim :=
  { shim with endpointStates := Function.update shim.endpointStates webhookName (some state) }

def recordSuccess (webhookName : String) (now : Nat) : AlertingShim :=
  shim.setEndpoint webhookName
    { consecutiveFailures := 0, lastAttempt := some now, backoffUntil := none }

/-- `false` when it panics, with what it has recorded by then. -/
def recordFailure (checks : Bool) (webhookName : String) (attempted ended : Nat) :
    Bool × AlertingShim :=
  let state := (shim.endpointStates webhookName).getD {}
  if checks = true ∧ state.consecutiveFailures + 1 = 2 ^ 32 then
    (false, shim.setEndpoint webhookName state)
  else
    let state := { state with
      consecutiveFailures := (state.consecutiveFailures + 1) % 2 ^ 32
      lastAttempt := some attempted }
    match (shim.calculateBackoff checks state.consecutiveFailures).bind (addSeconds ended) with
    | none => (false, shim.setEndpoint webhookName state)
    | some later => (true, shim.setEndpoint webhookName { state with backoffUntil := some later })

def route (alert : Alert) : List WebhookConfig :=
  shim.webhooks.filter (·.accepts alert.severity)

/-- The counters and the endpoint after the attempts at a target. -/
def conclude (checks : Bool) (turn : Turn) (name : String) (success : Bool) : Bool × AlertingShim :=
  if success then
    (true, { shim with alertsSent := shim.alertsSent + 1 }.recordSuccess name turn.attempted)
  else
    { shim with alertsFailed := shim.alertsFailed + 1 }.recordFailure checks name turn.attempted
      turn.ended

/-- The loop over the target names, the turn of the first of which is `turn`.  Each
round of attempts is listed with the place of the webhook that was found. -/
def deliver (checks : Bool) (turns : Nat → Turn) :
    Nat → List String → AlertingShim → Bool × AlertingShim × List (Nat × List Bool)
  | _, [], shim => (true, shim, [])
  | turn, name :: names, shim =>
      match shim.webhooks.findIdx? (·.name = name) with
      | none => deliver checks turns (turn + 1) names shim
      | some place =>
          let outcomes := Retry.attempts (turns turn).delivered (webhookRetryCount + 1) 0
          match shim.conclude checks (turns turn) name (outcomes.contains true) with
          | (false, shim) => (false, shim, [(place, outcomes)])
          | (true, shim) =>
              let (returned, shim, rounds) := deliver checks turns (turn + 1) names shim
              (returned, shim, (place, outcomes) :: rounds)

/-- Without a client every target counts as sent. -/
def assumeSent (turns : Nat → Turn) : Nat → List String → AlertingShim → AlertingShim
  | _, [], shim => shim
  | turn, name :: names, shim => assumeSent turns (turn + 1) names
      ({ shim with alertsSent := shim.alertsSent + 1 }.recordSuccess name (turns turn).attempted)

/-- The count, unless the call panics, and the rounds of attempts. -/
def processAlert (checks : Bool) (alert : Alert) (reception : Reception) :
    Option Nat × AlertingShim × List (Nat × List Bool) :=
  if shim.isDuplicate alert reception.now then
    (some 0, { shim with alertsDeduplicated := shim.alertsDeduplicated + 1 }, [])
  else
    let shim := shim.recordAlert alert reception.recorded
    let targetNames := (shim.route alert).map (·.name)
    let count := targetNames.length % 2 ^ 32
    if shim.httpClient then
      let (returned, shim, rounds) := shim.deliver checks reception.turns 0 targetNames
      (if returned then some count else none, shim, rounds)
    else (some count, shim.assumeSent reception.turns 0 targetNames, [])

def clearDedupCache : AlertingShim := { shim with dedupCache := fun _ => none }

/-- One round of the dedup cleaner. -/
def cleanDedupCache (now : Nat) : AlertingShim :=
  { shim with dedupCache := fun key =>
      (shim.dedupCache key).filter fun seen => decide (now - seen < shim.dedupWindow * 1000000000) }

end AlertingShim

end Evergreen.Webhooks
