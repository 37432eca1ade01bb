import Evergreen.Machine.Run
import Mathlib.Algebra.Order.Ring.Nat

namespace Evergreen.Cdc

/-! # Capturing and publishing change events

The parts of `CdcShim` that move an event from its capture to the transport.
What an event says before and after the change is a parameter, the code's is
JSON.  The counters are `u64` without overflow checks in release builds.
-/

inductive CdcOperation where
  | insert
  | update
  | delete
deriving DecidableEq, Repr

structure CdcEvent (Value : Type) where
  eventId : String
  lsn : String
  timestamp : String
  table : String
  operation : CdcOperation
  before : Option Value
  after : Option Value
  published : Bool
deriving DecidableEq, Repr

structure WalPosition where
  lsn : String
  segment : Nat
  offset : Nat
  lastFlush : String
deriving DecidableEq, Repr

/-- With room for an event the eviction of `push_to_ring` never meets an empty
ring.  Of the HTTP client only its presence matters. -/
structure CdcShim (Value : Type) where
  output : String
  tables : List String
  webhookUrl : Option String
  batchSize : Nat
  eventsCaptured : Nat
  eventsPublished : Nat
  eventsFailed : Nat
  walPosition : WalPosition
  pendingEvents : List (CdcEvent Value)
  publishedRing : List (CdcEvent Value)
  ringCapacity : Nat
  ringRoom : 0 < ringCapacity
  tableFilterEnabled : Bool
  httpClient : Bool

/-- What becomes of an event that is handed to the transport: it cannot be
serialized, it is delivered, or it is not, after the last retry. -/
inductive Outcome where
  | unserializable
  | delivered
  | failed
deriving DecidableEq, Repr

variable {Value : Type}

/-- The settings are what `new` reads from the environment. -/
def CdcShim.new (output : String) (tables : List String) (webhookUrl : Option String)
    (batchSize : Nat) (now : String) : CdcShim Value where
  output := output
  tables := tables
  webhookUrl := webhookUrl
  batchSize := batchSize
  eventsCaptured := 0
  eventsPublished := 0
  eventsFailed := 0
  walPosition := ⟨"0/0", 0, 0, now⟩
  pendingEvents := []
  publishedRing := []
  ringCapacity := 1000
  ringRoom := by decide
  tableFilterEnabled := !tables.isEmpty
  httpClient := false

def eqIgnoreAsciiCase (first second : String) : Bool :=
  first.toList.map Char.toLower = second.toList.map Char.toLower

namespace CdcShim

variable (shim : CdcShim Value)

/-- The client may fail to build. -/
def init (built : Bool) : CdcShim Value :=
  if shim.output = "webhook" && built then { shim with httpClient := true } else shim

def shouldCapture (table : String) : Bool :=
  !shim.tableFilterEnabled || shim.tables.any fun listed => eqIgnoreAsciiCase listed table

def capture (event : CdcEvent Value) : CdcShim Value × Bool :=
  if shim.shouldCapture event.table then
    ({ shim with
      eventsCaptured := (shim.eventsCaptured + 1) % 2 ^ 64
      pendingEvents := shim.pendingEvents ++ [{ event with lsn := shim.walPosition.lsn }] }, true)
  else (shim, false)

def pushToRing (event : CdcEvent Value) : CdcShim Value :=
  let publishedRing := if shim.ringCapacity ≤ shim.publishedRing.length then
    shim.publishedRing.tail else shim.publishedRing
  { shim with publishedRing := publishedRing ++ [event] }

def countPublished : CdcShim Value :=
  { shim with eventsPublished := (shim.eventsPublished + 1) % 2 ^ 64 }

def countFailed : CdcShim Value :=
  { shim with eventsFailed := (shim.eventsFailed + 1) % 2 ^ 64 }

/-- The number of events that got through; the outcome of an event goes by its
place in the batch. -/
def publishViaWebhook (events : List (CdcEvent Value)) (outcomes : Nat → Outcome) : Nat :=
  if shim.webhookUrl.isSome && shim.httpClient then
    (events.zipIdx.filter fun event => outcomes event.2 = .delivered).length
  else 0

def batch : List (CdcEvent Value) :=
  shim.pendingEvents.take (min shim.batchSize shim.pendingEvents.length)

def publishBatch (outcomes : Nat → Outcome) (now : String) : CdcShim Value × Nat :=
  let batch := shim.batch
  let shim := { shim with pendingEvents := shim.pendingEvents.drop batch.length }
  let count := batch.length
  if count = 0 then (shim, 0)
  else
    let shim := if shim.output = "webhook" then
        let published := shim.publishViaWebhook batch outcomes
        batch.foldl (fun shim event =>
          if 0 < published then shim.countPublished.pushToRing event else shim.countFailed) shim
      else
        batch.zipIdx.foldl (fun shim event =>
          (match outcomes event.2 with
            | .unserializable => shim.countFailed
            | _ => shim.countPublished).pushToRing event.1) shim
    ({ shim with walPosition := { shim.walPosition with lastFlush := now } }, count)

def failPending : CdcShim Value × Nat :=
  let count := shim.pendingEvents.length
  ({ shim with
    eventsFailed := (shim.eventsFailed + count) % 2 ^ 64
    pendingEvents := [] }, count)

def setWalPosition (lsn : String) (segment offset : Nat) (now : String) : CdcShim Value :=
  { shim with walPosition := ⟨lsn, segment, offset, now⟩ }

def advanceWal (delta : Nat) : CdcShim Value :=
  let offset := (shim.walPosition.offset + delta) % 2 ^ 64
  let (segment, offset) := if 0x1000000 ≤ offset then
      ((shim.walPosition.segment + 1) % 2 ^ 64, 0)
    else (shim.walPosition.segment, offset)
  { shim with walPosition :=
    { shim.walPosition with segment, offset, lsn := s!"{segment}/{offset}" } }

end CdcShim

inductive Call (Value : Type) where
  | init (built : Bool)
  | capture (event : CdcEvent Value)
  | publishBatch (outcomes : Nat → Outcome) (now : String)
  | failPending
  | setWalPosition (lsn : String) (segment offset : Nat) (now : String)
  | advanceWal (delta : Nat)

def CdcShim.call (shim : CdcShim Value) : Call Value → CdcShim Value
  | .init built => shim.init built
  | .capture event => (shim.capture event).1
  | .publishBatch outcomes now => (shim.publishBatch outcomes now).1
  | .failPending => shim.failPending.1
  | .setWalPosition lsn segment offset now => shim.setWalPosition lsn segment offset now
  | .advanceWal delta => shim.advanceWal delta

def calls : Machine (CdcShim Value) (Call Value) := .ofFunction CdcShim.call

end Evergreen.Cdc
