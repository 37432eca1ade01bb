import Evergreen.Bus.Bridge

namespace Evergreen.Bus

/-! # What the bridges relay

All instances read as consumers of one group, so an entry reaches one of them,
which may be the instance that published it.  That one relays it unless the
event's source, the name of a shim, is the instance's id.
-/

universe u v

variable {Instance : Type u} {Payload : Type v}

namespace Deployment

/-- The entries that nobody can still handle are on the bus of every other
instance, and none is on the bus of its own. -/
structure Relayed (state : Deployment Instance Payload) : Prop where
  noEcho : ∀ position entry, state.stream.entries[position]? = some entry →
    ∀ event, (position, event) ∉ (state.bridges entry.origin).relayed
  delivered : ∀ position entry, state.stream.entries[position]? = some entry →
    state.stream.Settled position → ∀ other, other ≠ entry.origin →
      (position, entry.event) ∈ (state.bridges other).relayed

/-- What a reader decodes bears its id if it is the publisher, and is the event
under another name if it is not. -/
structure Told (codec : EventCodec Payload) (instanceId : Instance → String) (reader : Instance)
    (entry : StreamEntry Instance Payload) : Prop where
  own : reader = entry.origin → ∀ event, codec.decoded entry.fields = some event →
    event.source = instanceId reader
  others : reader ≠ entry.origin → codec.decoded entry.fields = some entry.event ∧
    entry.event.source ≠ instanceId reader

/-- An entry is handled where its publisher and the reader are all the instances
there are, and no entry that another instance waits for is trimmed. -/
def RelaysAlone (codec : EventCodec Payload) (instanceId : Instance → String)
    (state : Deployment Instance Payload) : Label Instance Payload → Prop
  | .publish _ _ trimTo => ∀ position entry, state.stream.entries[position]? = some entry →
      state.stream.upcoming ≤ position → position < trimTo → ∀ other, other = entry.origin
  | .handle reader => ∀ delivery rest, state.stream.held reader = delivery :: rest →
      (∀ other, other = delivery.entry.origin ∨ other = reader) ∧
      Told codec instanceId reader delivery.entry
  | .read _ => True
  | .acknowledge _ => True

/-- Nothing is on a bus that can still be handled. -/
structure Consistent (state : Deployment Instance Payload) : Prop where
  sound : state.stream.Sound
  settled : ∀ reader position event, (position, event) ∈ (state.bridges reader).relayed →
    state.stream.Settled position

variable {codec : EventCodec Payload} {instanceId : Instance → String}
variable {state next : Deployment Instance Payload} {label : Label Instance Payload}
variable {reader other : Instance} {delivery : Delivery (StreamEntry Instance Payload)}
variable {position : Nat}

/-! ## What a step does to the buses -/

theorem incoming_eq_some {name : String} {fields : List (String × String)}
    {event : ShimEvent Payload} : codec.incoming name fields = some event ↔
      codec.decoded fields = some event ∧ event.source ≠ name := by
  simp [EventCodec.incoming, Option.filter_eq_some_iff]

theorem mem_handle {bridge : RedisBridge Payload} {event : ShimEvent Payload} :
    (position, event) ∈ (bridge.handle codec (instanceId reader) delivery).relayed ↔
      (position, event) ∈ bridge.relayed ∨ position = delivery.position ∧
        codec.incoming (instanceId reader) delivery.entry.fields = some event := by
  simp only [RedisBridge.handle]
  cases codec.incoming (instanceId reader) delivery.entry.fields with
  | none => simp
  | some incoming => simp [eq_comm]

theorem getElem?_append_entry {entries : List (StreamEntry Instance Payload)}
    {entry added : StreamEntry Instance Payload}
    (there : (entries ++ [added])[position]? = some entry) :
    entries[position]? = some entry ∨ position = entries.length := by
  rcases Nat.lt_trichotomy position entries.length with old | new | beyond
  · exact .inl ((List.getElem?_append_left old).symm.trans there)
  · exact .inr new
  · obtain ⟨small, _⟩ := List.getElem?_eq_some_iff.mp there
    rw [List.length_append, List.length_singleton] at small
    omega

variable [DecidableEq Instance]

theorem mem_relayed {event : ShimEvent Payload} : (position, event) ∈ (Function.update state.bridges
      reader ((state.bridges reader).handle codec (instanceId reader) delivery) other).relayed ↔
    (position, event) ∈ (state.bridges other).relayed ∨ other = reader ∧
      position = delivery.position ∧
      codec.incoming (instanceId reader) delivery.entry.fields = some event := by
  by_cases own : other = reader
  · subst own
    rw [Function.update_self, mem_handle]
    simp
  · simp [own]

theorem step_publish {event : ShimEvent Payload} {origin : Instance} {trimTo : Nat}
    (taken : state.step codec instanceId (.publish origin event trimTo) = some next) :
    ∃ entry stream, codec.entry origin event = some entry ∧
      state.stream.add maxStreamLen trimTo entry = some stream ∧ next = { state with stream } := by
  obtain ⟨entry, encoded, taken⟩ := Option.bind_eq_some_iff.mp taken
  obtain ⟨stream, added, rfl⟩ := Option.map_eq_some_iff.mp taken
  exact ⟨entry, stream, encoded, added, rfl⟩

theorem step_handle (taken : state.step codec instanceId (.handle reader) = some next) :
    ∃ delivery stream, state.stream.take reader = some (delivery, stream) ∧
      next = { state with
        stream := stream
        bridges := Function.update state.bridges reader
          ((state.bridges reader).handle codec (instanceId reader) delivery) } := by
  obtain ⟨⟨delivery, stream⟩, took, rfl⟩ := Option.map_eq_some_iff.mp taken
  exact ⟨delivery, stream, took, rfl⟩

theorem step_acknowledge (taken : state.step codec instanceId (.acknowledge reader) = some next) :
    ∃ lastId, next = { state with acknowledged := state.acknowledged ++ [lastId] } := by
  obtain ⟨_, taken⟩ := Option.ite_none_right_eq_some.mp taken
  obtain ⟨lastId, _, rfl⟩ := Option.map_eq_some_iff.mp taken
  exact ⟨lastId, rfl⟩

theorem Consistent.step (consistent : state.Consistent)
    (taken : state.step codec instanceId label = some next) : next.Consistent := by
  obtain ⟨sound, settled⟩ := consistent
  cases label with
  | publish origin event trimTo =>
      obtain ⟨entry, stream, _, added, rfl⟩ := step_publish taken
      refine ⟨sound.add added, fun reader position event member => ?_⟩
      exact (GroupStream.settled_add sound added).mpr (.inl (settled reader position event member))
  | read reader =>
      obtain ⟨stream, read, rfl⟩ := Option.map_eq_some_iff.mp taken
      refine ⟨sound.read read, fun reader position event member => ?_⟩
      exact (GroupStream.settled_read read).mpr (settled reader position event member)
  | handle reader =>
      obtain ⟨delivery, stream, took, rfl⟩ := step_handle taken
      refine ⟨sound.take took, fun other position event member => ?_⟩
      apply (GroupStream.settled_take sound took).mpr
      rcases mem_relayed.mp member with old | ⟨_, here, _⟩
      · exact .inl (settled other position event old)
      · exact .inr here
  | acknowledge reader =>
      obtain ⟨lastId, rfl⟩ := step_acknowledge taken
      exact ⟨sound, settled⟩

/-! ## A step that relays alone -/

theorem Relayed.publish {event : ShimEvent Payload} {origin : Instance} {trimTo : Nat}
    (relayed : state.Relayed) (consistent : state.Consistent)
    (alone : state.RelaysAlone codec instanceId (.publish origin event trimTo))
    (taken : state.step codec instanceId (.publish origin event trimTo) = some next) :
    next.Relayed := by
  obtain ⟨added, stream, _, grown, rfl⟩ := step_publish taken
  have bounded := consistent.sound.bounded
  have settled_iff : ∀ position, stream.Settled position ↔ state.stream.Settled position ∨
      state.stream.upcoming ≤ position ∧ position < trimTo :=
    fun position => GroupStream.settled_add consistent.sound grown
  obtain ⟨allowed, rfl⟩ := GroupStream.add_eq_some grown
  have kept : trimTo ≤ state.stream.entries.length := by
    have trimmed : state.stream.trimmed ≤ state.stream.upcoming := Nat.le_max_right _ _
    simp only [maxStreamLen] at allowed
    omega
  constructor
  · intro position entry there event echoed
    rcases getElem?_append_entry there with old | new
    · exact relayed.noEcho position entry old event echoed
    · have handled := (consistent.settled _ position event echoed).1
      omega
  · intro position entry there settled other elsewhere
    rcases (settled_iff position).mp settled with before | ⟨unread, gone⟩
    · rcases getElem?_append_entry there with old | new
      · exact relayed.delivered position entry old before other elsewhere
      · have handled := before.1
        omega
    · rcases getElem?_append_entry there with old | new
      · exact absurd (alone position entry old unread gone other) elsewhere
      · omega

theorem Relayed.handle (relayed : state.Relayed) (consistent : state.Consistent)
    (alone : state.RelaysAlone codec instanceId (.handle reader))
    (taken : state.step codec instanceId (.handle reader) = some next) : next.Relayed := by
  obtain ⟨delivery, stream, took, rfl⟩ := step_handle taken
  obtain ⟨rest, holds, rfl⟩ := GroupStream.take_eq_some took
  obtain ⟨only, told⟩ := alone delivery rest holds
  have own : state.stream.entries[delivery.position]? = some delivery.entry :=
    (consistent.sound.genuine reader delivery (by rw [holds]; exact List.mem_cons_self)).1
  constructor
  · intro position entry there event echoed
    rcases mem_relayed.mp echoed with old | ⟨same, rfl, relays⟩
    · exact relayed.noEcho position entry there event old
    · obtain rfl : entry = delivery.entry := Option.some.inj (there.symm.trans own)
      obtain ⟨decoded, foreign⟩ := incoming_eq_some.mp relays
      exact foreign (told.own same.symm event decoded)
  · intro position entry there settled other elsewhere
    rcases (GroupStream.settled_take consistent.sound took).mp settled with before | rfl
    · exact mem_relayed.mpr (.inl (relayed.delivered position entry there before other elsewhere))
    · obtain rfl : entry = delivery.entry := Option.some.inj (there.symm.trans own)
      have read : other = reader := (only other).resolve_left elsewhere
      have incoming := incoming_eq_some.mpr (told.others (read ▸ elsewhere))
      exact mem_relayed.mpr (.inr ⟨read, rfl, incoming⟩)

theorem Relayed.step (relayed : state.Relayed) (consistent : state.Consistent)
    (alone : state.RelaysAlone codec instanceId label)
    (taken : state.step codec instanceId label = some next) : next.Relayed := by
  cases label with
  | publish origin event trimTo => exact relayed.publish consistent alone taken
  | read reader =>
      obtain ⟨stream, read, rfl⟩ := Option.map_eq_some_iff.mp taken
      have settled_iff : ∀ position, stream.Settled position ↔ state.stream.Settled position :=
        fun position => GroupStream.settled_read read
      obtain ⟨_, rfl⟩ := GroupStream.read_eq_some read
      exact ⟨relayed.noEcho, fun position entry there settled =>
        relayed.delivered position entry there ((settled_iff position).mp settled)⟩
  | handle reader => exact relayed.handle consistent alone taken
  | acknowledge reader =>
      obtain ⟨lastId, rfl⟩ := step_acknowledge taken
      exact ⟨relayed.noEcho, relayed.delivered⟩

/-! ## A step that does not -/

theorem not_relayed_publish {event : ShimEvent Payload} {origin : Instance} {trimTo : Nat}
    (consistent : state.Consistent)
    (loses : ¬ state.RelaysAlone codec instanceId (.publish origin event trimTo))
    (taken : state.step codec instanceId (.publish origin event trimTo) = some next) :
    ¬ next.Relayed := by
  obtain ⟨added, stream, _, grown, rfl⟩ := step_publish taken
  intro relayed
  refine loses fun position entry there unread gone other => ?_
  have settled := (GroupStream.settled_add consistent.sound grown).mpr (.inr ⟨unread, gone⟩)
  obtain ⟨_, rfl⟩ := GroupStream.add_eq_some grown
  by_contra elsewhere
  obtain ⟨small, _⟩ := List.getElem?_eq_some_iff.mp there
  have heard := relayed.delivered position entry ((List.getElem?_append_left small).trans there)
    settled other elsewhere
  exact absurd (consistent.settled other position entry.event heard).1 (Nat.not_lt.mpr unread)

theorem not_relayed_handle (consistent : state.Consistent)
    (loses : ¬ state.RelaysAlone codec instanceId (.handle reader))
    (taken : state.step codec instanceId (.handle reader) = some next) : ¬ next.Relayed := by
  obtain ⟨delivery, stream, took, rfl⟩ := step_handle taken
  have settled : stream.Settled delivery.position :=
    (GroupStream.settled_take consistent.sound took).mpr (.inr rfl)
  have fresh : ∀ other event, (delivery.position, event) ∉ (state.bridges other).relayed :=
    fun other event old => GroupStream.not_settled_of_take took
      (consistent.settled other delivery.position event old)
  obtain ⟨rest, holds, rfl⟩ := GroupStream.take_eq_some took
  have own : state.stream.entries[delivery.position]? = some delivery.entry :=
    (consistent.sound.genuine reader delivery (by rw [holds]; exact List.mem_cons_self)).1
  intro relayed
  have heard : ∀ other, other ≠ delivery.entry.origin → other = reader ∧
      codec.incoming (instanceId reader) delivery.entry.fields = some delivery.entry.event := by
    intro other elsewhere
    rcases mem_relayed.mp (relayed.delivered _ _ own settled other elsewhere) with old | new
    · exact absurd old (fresh other _)
    · exact ⟨new.1, new.2.2⟩
  refine loses fun first others held => ?_
  obtain ⟨rfl, rfl⟩ := List.cons.inj (holds.symm.trans held)
  refine ⟨fun other => ?_, ⟨fun publisher event decoded => ?_, fun elsewhere => ?_⟩⟩
  · by_cases elsewhere : other = delivery.entry.origin
    · exact .inl elsewhere
    · exact .inr (heard other elsewhere).1
  · by_contra foreign
    have echoed := relayed.noEcho delivery.position delivery.entry own event
    rw [← publisher] at echoed
    exact echoed (mem_relayed.mpr (.inr ⟨rfl, rfl, incoming_eq_some.mpr ⟨decoded, foreign⟩⟩))
  · exact incoming_eq_some.mp (heard reader elsewhere).2

end Deployment

open Deployment

/-- In every state of a run the bridges have relayed every event to every other
instance and to no publisher, exactly when every step of the run relays alone. -/
theorem always_relayed_iff [DecidableEq Instance] (codec : EventCodec Payload)
    (instanceId : Instance → String) (labels : List (Deployment.Label Instance Payload)) :
    (bridged codec instanceId).Always Relayed {} labels ↔
      (bridged codec instanceId).Along (RelaysAlone codec instanceId) {} labels := by
  refine Machine.always_iff_along (fun state => state.Relayed ∧ state.Consistent) ?_ ?_ ?_ ?_
  · exact fun state holds => holds.1
  · intro state label next ⟨relayed, consistent⟩ alone taken
    exact ⟨relayed.step consistent alone taken, consistent.step taken⟩
  · intro state label next ⟨_, consistent⟩ loses taken
    cases label with
    | publish origin event trimTo => exact not_relayed_publish consistent loses taken
    | handle reader => exact not_relayed_handle consistent loses taken
    | read reader => exact absurd trivial loses
    | acknowledge reader => exact absurd trivial loses
  · refine ⟨⟨?_, ?_⟩, GroupStream.sound_empty, ?_⟩
    · intro position entry there
      cases there
    · intro position entry there
      cases there
    · intro reader position event member
      cases member

/-- Two pods, one of which publishes an event and reads it back. -/
def ownEvent : List (Deployment.Label (Fin 2) Unit) :=
  [.publish 0 ⟨"backup-shim", 0, ()⟩ 0, .read 0, .handle 0]

def podId (pod : Fin 2) : String := if pod = 0 then "pod-a" else "pod-b"

/-- Writes the source of an event and nothing else. -/
def sourceCodec : EventCodec Unit where
  encode := fun event => some event.source
  decode := fun text => some ⟨text, 0, ()⟩

/-- The event comes back to the bus of its publisher, and the other pod never
sees it. -/
theorem not_always_relayed : ¬ (bridged sourceCodec podId).Always Relayed {} ownEvent := by
  intro always
  have relayed := always.last rfl
  exact relayed.noEcho 0 _ rfl ⟨"backup-shim", 0, ()⟩ (by decide)

end Evergreen.Bus
