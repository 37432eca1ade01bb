import Evergreen.Bus.Publish
import Evergreen.Machine.ConsumerGroup

namespace Evergreen.Bus

/-! # The Redis bridge

Every instance publishes its events to one stream, and every instance reads that
stream as a consumer of the one group `CONSUMER_GROUP`, under its own id.  What
it reads it relays to its local bus, unless the event's source is its id.
-/

universe u v

def maxStreamLen : Nat := 10000

/-- The `COUNT` of a read. -/
def readCount : Nat := 10

/-- `serde_json` on events. -/
structure EventCodec (Payload : Type v) where
  encode : ShimEvent Payload → Option String
  decode : String → Option (ShimEvent Payload)

/-- Redis keeps the fields; beside them stand the event they were made from and
the instance that published it. -/
structure StreamEntry (Instance : Type u) (Payload : Type v) where
  origin : Instance
  event : ShimEvent Payload
  fields : List (String × String)
deriving DecidableEq, Repr

/-- One consuming loop: the entry it has to acknowledge, and what it has given
to the local bus, under the position it was read at. -/
structure RedisBridge (Payload : Type v) where
  lastId : Option Nat := none
  relayed : List (Nat × ShimEvent Payload) := []
deriving DecidableEq, Repr

structure Deployment (Instance : Type u) (Payload : Type v) where
  stream : GroupStream Instance (StreamEntry Instance Payload) := {}
  acknowledged : List Nat := []
  bridges : Instance → RedisBridge Payload := fun _ => {}

variable {Instance : Type u} {Payload : Type v}

namespace EventCodec

variable (codec : EventCodec Payload)

/-- What `publish` adds; it fails where the event cannot be encoded. -/
def entry (origin : Instance) (event : ShimEvent Payload) :
    Option (StreamEntry Instance Payload) :=
  (codec.encode event).map fun json =>
    { origin, event, fields := [("source", event.source), ("json", json)] }

/-- What the `json` field of an entry parses to. -/
def decoded (fields : List (String × String)) : Option (ShimEvent Payload) :=
  (fields.find? (·.1 = "json")).bind fun json => codec.decode json.2

/-- The event that the loop publishes for an entry, if any. -/
def incoming (instanceId : String) (fields : List (String × String)) :
    Option (ShimEvent Payload) :=
  (codec.decoded fields).filter (·.source ≠ instanceId)

end EventCodec

/-- One turn of the loop over the messages of a reply. -/
def RedisBridge.handle (codec : EventCodec Payload) (instanceId : String)
    (delivery : Delivery (StreamEntry Instance Payload)) (bridge : RedisBridge Payload) :
    RedisBridge Payload where
  lastId := some delivery.position
  relayed := bridge.relayed ++
    ((codec.incoming instanceId delivery.entry.fields).map fun event =>
      (delivery.position, event)).toList

namespace Deployment

inductive Label (Instance : Type u) (Payload : Type v) where
  | publish (origin : Instance) (event : ShimEvent Payload) (trimTo : Nat)
  | read (reader : Instance)
  | handle (reader : Instance)
  | acknowledge (reader : Instance)

/-- The acknowledgement of the last entry comes once a reply has been handled. -/
def step [DecidableEq Instance] (codec : EventCodec Payload) (instanceId : Instance → String)
    (state : Deployment Instance Payload) :
    Label Instance Payload → Option (Deployment Instance Payload)
  | .publish origin event trimTo =>
      (codec.entry origin event).bind fun entry =>
        (state.stream.add maxStreamLen trimTo entry).map fun stream => { state with stream }
  | .read reader =>
      (state.stream.read readCount reader).map fun stream => { state with stream }
  | .handle reader =>
      (state.stream.take reader).map fun taken =>
        { state with
          stream := taken.2
          bridges := Function.update state.bridges reader
            ((state.bridges reader).handle codec (instanceId reader) taken.1) }
  | .acknowledge reader =>
      if state.stream.held reader = [] then
        (state.bridges reader).lastId.map fun lastId =>
          { state with acknowledged := state.acknowledged ++ [lastId] }
      else none

end Deployment

/-- Any number of instances, in any order of their steps. -/
def bridged [DecidableEq Instance] (codec : EventCodec Payload) (instanceId : Instance → String) :
    Machine (Deployment Instance Payload) (Deployment.Label Instance Payload) where
  step state := state.step codec instanceId

end Evergreen.Bus
