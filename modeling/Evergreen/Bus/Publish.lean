import Evergreen.Machine.Broadcast
import Evergreen.Machine.Run
import Mathlib.Algebra.Order.Ring.Nat

namespace Evergreen.Bus

/-! # Publishing on the bus

A call of `publish` takes three steps of its own: under the lock it takes the
next sequence of its source, then it sends, then it counts.  `emit` publishes
an event it has just made.  The broadcast channel is a parameter, and so is
what an event carries besides its source and its sequence.
-/

universe u v

structure ShimEvent (Payload : Type u) where
  source : String
  sequence : Nat
  payload : Payload
deriving DecidableEq, Repr

/-- Where a call of `publish` is. -/
inductive PublishCall (Payload : Type u) where
  | assigned (event : ShimEvent Payload)
  | sent (sequence : Nat)
  | returned (sequence : Nat)
deriving DecidableEq, Repr

structure ShimBus {Payload : Type u} (tx : BroadcastChannel.{u, v} (ShimEvent Payload)) where
  channel : Feed tx := {}
  sequences : String → Nat := fun _ => 0
  totalPublished : Nat := 0
  calls : List (PublishCall Payload) := []

namespace ShimBus

variable {Payload : Type u} {tx : BroadcastChannel.{u, v} (ShimEvent Payload)}

/-- The part of `publish` under the lock. -/
def assign (bus : ShimBus tx) (event : ShimEvent Payload) : ShimBus tx :=
  let next := (bus.sequences event.source + 1) % 2 ^ 64
  { bus with
    sequences := Function.update bus.sequences event.source next
    calls := bus.calls ++ [.assigned { event with sequence := next }] }

/-- The next step of one call. -/
def advance (bus : ShimBus tx) (call : Nat) : Option (ShimBus tx) :=
  match bus.calls[call]? with
  | some (.assigned event) => some { bus with
      channel := bus.channel.send event
      calls := bus.calls.set call (.sent event.sequence) }
  | some (.sent sequence) => some { bus with
      totalPublished := (bus.totalPublished + 1) % 2 ^ 64
      calls := bus.calls.set call (.returned sequence) }
  | some (.returned _) => none
  | none => none

end ShimBus

inductive Label (Payload : Type u) where
  | publish (event : ShimEvent Payload)
  | advance (call : Nat)
  | subscribe
  | recv (receiver : Nat)
deriving DecidableEq, Repr

/-- Any number of publishers and subscribers, in any order of their steps. -/
def machine {Payload : Type u} (tx : BroadcastChannel.{u, v} (ShimEvent Payload)) :
    Machine (ShimBus tx) (Label Payload) where
  step bus
    | .publish event => some (bus.assign event)
    | .advance call => bus.advance call
    | .subscribe => some { bus with channel := bus.channel.subscribe }
    | .recv receiver => (bus.channel.recv receiver).map fun channel => { bus with channel }

end Evergreen.Bus
