import Mathlib.Data.List.Infix

namespace Evergreen

/-! # Broadcast channels

`BroadcastChannel` is what the documentation of a broadcast channel promises.  A
`Feed` is such a channel in use: beside the channel it records what was sent and
what each subscriber has received.  `BroadcastChannel.ring` is one channel.
-/

universe u v

/-- What a receiver is given once it does not wait. -/
inductive Received (Event : Type u) where
  | event (value : Event)
  | lagged (skipped : Nat)
deriving DecidableEq, Repr

/-- How far a receiver moves on. -/
def Received.width {Event : Type u} : Received Event → Nat
  | .event _ => 1
  | .lagged skipped => skipped

def Received.values {Event : Type u} : Received Event → List Event
  | .event value => [value]
  | .lagged _ => []

/-- A value is the one sent at the receiver's position. -/
def Received.OfSent {Event : Type u} (sent : List Event) (position : Nat) : Received Event → Prop
  | .event value => sent[position]? = some value
  | .lagged _ => True

/-- Every receiver is given the values sent after it joined, in the order of
sending, except those it is told to have lagged behind. -/
structure BroadcastChannel (Event : Type u) where
  State : Type v
  new : State
  send : State → Event → State
  subscribe : State → State
  recv : State → Nat → Option (State × Received Event)
  /-- These values were sent, and the receivers are at these positions. -/
  Holds : State → List Event → List Nat → Prop
  holds_new : Holds new [] []
  holds_send : ∀ {state sent positions} event, Holds state sent positions →
    Holds (send state event) (sent ++ [event]) positions
  holds_subscribe : ∀ {state sent positions}, Holds state sent positions →
    Holds (subscribe state) sent (positions ++ [sent.length])
  holds_recv : ∀ {state later sent positions receiver item}, Holds state sent positions →
    recv state receiver = some (later, item) →
    ∃ position, positions[receiver]? = some position ∧ item.OfSent sent position ∧
      Holds later sent (positions.set receiver (position + item.width))

structure Subscriber (Event : Type u) where
  joined : Nat
  next : Nat
  received : List Event := []
  lagged : Bool := false
deriving DecidableEq, Repr

def Subscriber.take {Event : Type u} (subscriber : Subscriber Event) (item : Received Event) :
    Subscriber Event :=
  let moved := { subscriber with next := subscriber.next + item.width }
  match item with
  | .event value => { moved with received := subscriber.received ++ [value] }
  | .lagged _ => { moved with lagged := true }

structure Feed {Event : Type u} (channel : BroadcastChannel.{u, v} Event) where
  state : channel.State := channel.new
  sent : List Event := []
  subscribers : List (Subscriber Event) := []

namespace Feed

variable {Event : Type u} {channel : BroadcastChannel.{u, v} Event} {feed later : Feed channel}
variable {subscriber : Subscriber Event}

def send (feed : Feed channel) (event : Event) : Feed channel :=
  { feed with state := channel.send feed.state event, sent := feed.sent ++ [event] }

def subscribe (feed : Feed channel) : Feed channel :=
  { feed with
    state := channel.subscribe feed.state
    subscribers := feed.subscribers ++
      [{ joined := feed.sent.length, next := feed.sent.length }] }

def recv (feed : Feed channel) (receiver : Nat) : Option (Feed channel) :=
  match channel.recv feed.state receiver with
  | none => none
  | some (state, item) => some { feed with
      state := state
      subscribers := feed.subscribers.modify receiver (·.take item) }

/-- A subscriber that never lagged has received, in order, the first of the
values sent since it joined. -/
def InStep (sent : List Event) (subscriber : Subscriber Event) : Prop :=
  subscriber.lagged = false →
    subscriber.next = subscriber.joined + subscriber.received.length ∧
      subscriber.received <+: sent.drop subscriber.joined

/-- The channel stands where the records say, and the subscribers are in step. -/
structure Delivers (feed : Feed channel) : Prop where
  holds : channel.Holds feed.state feed.sent (feed.subscribers.map (·.next))
  inStep : ∀ subscriber ∈ feed.subscribers, InStep feed.sent subscriber

theorem Delivers.new : ({} : Feed channel).Delivers where
  holds := channel.holds_new
  inStep := by simp

theorem Delivers.send (delivers : feed.Delivers) (event : Event) :
    (feed.send event).Delivers where
  holds := channel.holds_send event delivers.holds
  inStep := by
    intro subscriber joined kept
    obtain ⟨position, received⟩ := delivers.inStep subscriber joined kept
    refine ⟨position, received.trans ?_⟩
    simp only [Feed.send, List.drop_append]
    exact List.prefix_append _ _

theorem Delivers.subscribe (delivers : feed.Delivers) : feed.subscribe.Delivers where
  holds := by simpa [Feed.subscribe] using channel.holds_subscribe delivers.holds
  inStep := by
    intro subscriber joined
    rcases List.mem_append.mp joined with earlier | new
    · exact delivers.inStep subscriber earlier
    · obtain rfl := List.mem_singleton.mp new
      intro _
      exact ⟨rfl, List.nil_prefix⟩

theorem InStep.take {sent : List Event} {item : Received Event} (inStep : InStep sent subscriber)
    (ofSent : item.OfSent sent subscriber.next) : InStep sent (subscriber.take item) := by
  cases item with
  | lagged skipped =>
      intro kept
      cases kept
  | event value =>
      intro kept
      obtain ⟨position, received⟩ := inStep kept
      refine ⟨by simp [Subscriber.take, Received.width, position, Nat.add_assoc], ?_⟩
      obtain ⟨rest, split⟩ := received
      have front : sent[subscriber.joined + subscriber.received.length]? = rest[0]? := by
        rw [← List.getElem?_drop, ← split, List.getElem?_append_right (Nat.le_refl _),
          Nat.sub_self]
      simp only [Received.OfSent, position, front] at ofSent
      cases rest with
      | nil => simp at ofSent
      | cons first rest =>
          obtain rfl : first = value := by simpa using ofSent
          exact ⟨rest, by simpa [Subscriber.take] using split⟩

theorem recv_eq_some {receiver : Nat} (taken : feed.recv receiver = some later) :
    ∃ state item, channel.recv feed.state receiver = some (state, item) ∧
      later = { feed with
        state := state
        subscribers := feed.subscribers.modify receiver (·.take item) } := by
  unfold Feed.recv at taken
  cases served : channel.recv feed.state receiver with
  | none => simp [served] at taken
  | some outcome =>
      obtain ⟨state, item⟩ := outcome
      simp only [served, Option.some.injEq] at taken
      exact ⟨state, item, rfl, taken.symm⟩

theorem Delivers.recv {receiver : Nat} (delivers : feed.Delivers)
    (taken : feed.recv receiver = some later) : later.Delivers := by
  obtain ⟨state, item, served, rfl⟩ := recv_eq_some taken
  obtain ⟨position, found, ofSent, holds⟩ := channel.holds_recv delivers.holds served
  obtain ⟨subscriber, present, rfl⟩ : ∃ subscriber,
      feed.subscribers[receiver]? = some subscriber ∧ subscriber.next = position := by
    simpa using found
  have moved : (subscriber.take item).next = subscriber.next + item.width := by
    cases item <;> rfl
  constructor
  · have positions : (feed.subscribers.modify receiver (·.take item)).map (·.next) =
        (feed.subscribers.map (·.next)).set receiver (subscriber.next + item.width) := by
      apply List.ext_getElem?
      intro index
      by_cases same : receiver = index
      · subst same
        obtain ⟨bound, rfl⟩ := List.getElem?_eq_some_iff.mp present
        simp [moved, bound]
      · simp [same]
    rw [positions]
    exact holds
  · intro other joined
    obtain ⟨index, found⟩ := List.mem_iff_getElem?.mp joined
    by_cases same : receiver = index
    · subst same
      obtain rfl : subscriber.take item = other := by
        simpa [List.getElem?_modify, present] using found
      exact (delivers.inStep subscriber (List.mem_of_getElem? present)).take ofSent
    · have earlier : feed.subscribers[index]? = some other := by
        simpa [List.getElem?_modify, same] using found
      exact delivers.inStep other (List.mem_of_getElem? earlier)

theorem recv_sent {receiver : Nat} (taken : feed.recv receiver = some later) :
    later.sent = feed.sent := by
  obtain ⟨_, _, _, rfl⟩ := recv_eq_some taken
  rfl

/-! ## What one subscriber is given -/

/-- Receiving, with what was received. -/
def recvItem (feed : Feed channel) (receiver : Nat) : Option (Received Event × Feed channel) :=
  (channel.recv feed.state receiver).map fun (state, item) => (item, { feed with
    state := state
    subscribers := feed.subscribers.modify receiver (·.take item) })

def receivedBy (feed : Feed channel) (receiver : Nat) : List Event :=
  match feed.subscribers[receiver]? with
  | none => []
  | some subscriber => subscriber.received

variable {receiver other : Nat} {item : Received Event}

theorem recvItem_eq_some (taken : feed.recvItem receiver = some (item, later)) :
    ∃ state, channel.recv feed.state receiver = some (state, item) ∧
      later = { feed with
        state := state
        subscribers := feed.subscribers.modify receiver (·.take item) } := by
  obtain ⟨⟨state, found⟩, served, both⟩ := Option.map_eq_some_iff.mp taken
  cases both
  exact ⟨state, served, rfl⟩

theorem recv_of_recvItem (taken : feed.recvItem receiver = some (item, later)) :
    feed.recv receiver = some later := by
  obtain ⟨state, served, rfl⟩ := recvItem_eq_some taken
  rw [Feed.recv, served]

theorem receivedBy_subscribe (joined : receiver < feed.subscribers.length) :
    feed.subscribe.receivedBy receiver = feed.receivedBy receiver := by
  simp only [receivedBy, Feed.subscribe, List.getElem?_append_left joined]

theorem receivedBy_recv_other (taken : feed.recv receiver = some later) (differs : receiver ≠ other) :
    later.receivedBy other = feed.receivedBy other := by
  obtain ⟨state, item, _, rfl⟩ := recv_eq_some taken
  simp only [receivedBy, List.getElem?_modify, differs, if_false, id_map']

theorem receivedBy_recvItem (taken : feed.recvItem receiver = some (item, later))
    (joined : receiver < feed.subscribers.length) :
    later.receivedBy receiver = feed.receivedBy receiver ++ item.values := by
  obtain ⟨state, _, rfl⟩ := recvItem_eq_some taken
  have present : feed.subscribers[receiver]? = some feed.subscribers[receiver] :=
    List.getElem?_eq_getElem joined
  simp only [receivedBy, List.getElem?_modify, present, if_true, Option.map_eq_map, Option.map_some]
  cases item with
  | event value => rfl
  | lagged skipped => exact (List.append_nil _).symm

theorem joined_recv (taken : feed.recv receiver = some later)
    (present : feed.subscribers[other]? = some subscriber) :
    ∃ moved, later.subscribers[other]? = some moved ∧ moved.joined = subscriber.joined := by
  obtain ⟨state, item, _, rfl⟩ := recv_eq_some taken
  rw [List.getElem?_modify, present, Option.map_eq_map, Option.map_some]
  split_ifs
  · exact ⟨_, rfl, by cases item <;> rfl⟩
  · exact ⟨_, rfl, rfl⟩

/-! ## Subscribers that lag -/

/-- Lagging or not, a subscriber has received some of the values before its
position, each at most once and in the order of sending. -/
def Samples (sent : List Event) (subscriber : Subscriber Event) : Prop :=
  subscriber.received.Sublist (sent.take subscriber.next)

theorem Samples.send {sent : List Event} (samples : Samples sent subscriber) (event : Event) :
    Samples (sent ++ [event]) subscriber := by
  refine List.Sublist.trans samples ?_
  rw [List.take_append]
  exact List.sublist_append_left _ _

theorem Samples.take {sent : List Event} {item : Received Event}
    (samples : Samples sent subscriber) (ofSent : item.OfSent sent subscriber.next) :
    Samples sent (subscriber.take item) := by
  cases item with
  | lagged skipped =>
      have further : subscriber.next ≤ subscriber.next + skipped := Nat.le_add_right _ _
      exact List.Sublist.trans samples (List.take_sublist_take_left further)
  | event value =>
      have longer : sent.take (subscriber.next + 1) = sent.take subscriber.next ++ [value] := by
        rw [List.take_add_one, ofSent, Option.toList_some]
      change (subscriber.received ++ [value]).Sublist (sent.take (subscriber.next + 1))
      rw [longer]
      exact List.Sublist.append samples (List.Sublist.refl _)

/-- Every subscriber has samples of what was sent. -/
def Sampled (feed : Feed channel) : Prop :=
  ∀ subscriber ∈ feed.subscribers, Samples feed.sent subscriber

theorem Sampled.send (sampled : feed.Sampled) (event : Event) : (feed.send event).Sampled :=
  fun subscriber joined => (sampled subscriber joined).send event

theorem Sampled.subscribe (sampled : feed.Sampled) : feed.subscribe.Sampled := by
  intro subscriber joined
  rcases List.mem_append.mp joined with earlier | new
  · exact sampled subscriber earlier
  · obtain rfl := List.mem_singleton.mp new
    exact List.nil_sublist _

theorem Sampled.recv {receiver : Nat} (sampled : feed.Sampled) (delivers : feed.Delivers)
    (taken : feed.recv receiver = some later) : later.Sampled := by
  obtain ⟨state, item, served, rfl⟩ := recv_eq_some taken
  obtain ⟨position, found, ofSent, _⟩ := channel.holds_recv delivers.holds served
  obtain ⟨subscriber, present, rfl⟩ : ∃ subscriber,
      feed.subscribers[receiver]? = some subscriber ∧ subscriber.next = position := by
    simpa using found
  intro other joined
  obtain ⟨index, found⟩ := List.mem_iff_getElem?.mp joined
  by_cases same : receiver = index
  · subst same
    obtain rfl : subscriber.take item = other := by
      simpa [List.getElem?_modify, present] using found
    exact (sampled subscriber (List.mem_of_getElem? present)).take ofSent
  · have earlier : feed.subscribers[index]? = some other := by
      simpa [List.getElem?_modify, same] using found
    exact sampled other (List.mem_of_getElem? earlier)

end Feed

/-! ## A ring of slots -/

structure Ring (Event : Type u) where
  sent : List Event := []
  positions : List Nat := []
deriving DecidableEq, Repr

/-- The channel keeps its last `slots` values, and a receiver further behind
than that goes on with the oldest of them. -/
def Ring.recv {Event : Type u} (slots : Nat) (ring : Ring Event) (receiver : Nat) :
    Option (Ring Event × Received Event) :=
  match ring.positions[receiver]? with
  | none => none
  | some position =>
      let moved := fun width => { ring with
        positions := ring.positions.set receiver (position + width) }
      let behind := ring.sent.length - position
      if slots < behind then some (moved (behind - slots), .lagged (behind - slots))
      else ring.sent[position]?.map fun value => (moved 1, .event value)

def BroadcastChannel.ring (Event : Type u) (slots : Nat) : BroadcastChannel.{u, u} Event where
  State := Ring Event
  new := {}
  send ring event := { ring with sent := ring.sent ++ [event] }
  subscribe ring := { ring with positions := ring.positions ++ [ring.sent.length] }
  recv := Ring.recv slots
  Holds ring sent positions := ring.sent = sent ∧ ring.positions = positions
  holds_new := ⟨rfl, rfl⟩
  holds_send := by
    rintro ring _ _ event ⟨rfl, rfl⟩
    exact ⟨rfl, rfl⟩
  holds_subscribe := by
    rintro ring _ _ ⟨rfl, rfl⟩
    exact ⟨rfl, rfl⟩
  holds_recv := by
    rintro ring later _ _ receiver item ⟨rfl, rfl⟩ taken
    unfold Ring.recv at taken
    cases found : ring.positions[receiver]? with
    | none => simp [found] at taken
    | some position =>
        refine ⟨position, rfl, ?_⟩
        by_cases behind : slots < ring.sent.length - position
        · simp only [found, if_pos behind, Option.some.injEq, Prod.mk.injEq] at taken
          obtain ⟨rfl, rfl⟩ := taken
          exact ⟨trivial, rfl, rfl⟩
        · simp only [found, if_neg behind, Option.map_eq_some_iff, Prod.mk.injEq] at taken
          obtain ⟨value, present, rfl, rfl⟩ := taken
          exact ⟨present, rfl, rfl⟩

end Evergreen
