import Evergreen.Bus.Relay

namespace Evergreen.Bus

/-! # One bus at most

The instances compete for the entries of the stream.  A reply may be lost on its
way, and an instance may die and come back under its id with nothing in hand.
Neither is made up for: a loop only asks for entries that nobody was handed.
-/

universe u v

variable {Instance : Type u} {Payload : Type v}

/-- `lost` are the positions that were handed to an instance which never saw
them, or forgot them. -/
structure Fleet (Instance : Type u) (Payload : Type v) where
  deployment : Deployment Instance Payload := {}
  lost : List Nat := []

namespace Fleet

inductive Label (Instance : Type u) (Payload : Type v) where
  | live (label : Deployment.Label Instance Payload)
  | loseReply (reader : Instance)
  | restart (reader : Instance)

variable [DecidableEq Instance]

/-- What the reader holds is gone. -/
def forget (fleet : Fleet Instance Payload) (reader : Instance) : Fleet Instance Payload where
  deployment := { fleet.deployment with stream := fleet.deployment.stream.abandon reader }
  lost := fleet.lost ++ (fleet.deployment.stream.held reader).map (·.position)

/-- A loop starts with the entry id `0-0`, which it does not acknowledge. -/
def startLoop (fleet : Fleet Instance Payload) (reader : Instance) : Fleet Instance Payload :=
  { fleet with
    deployment := { fleet.deployment with
      bridges := Function.update fleet.deployment.bridges reader
        { fleet.deployment.bridges reader with lastId := none } } }

def step (codec : EventCodec Payload) (instanceId : Instance → String)
    (fleet : Fleet Instance Payload) : Label Instance Payload → Option (Fleet Instance Payload)
  | .live label =>
      (fleet.deployment.step codec instanceId label).map fun deployment =>
        { fleet with deployment }
  | .loseReply reader =>
      (fleet.deployment.step codec instanceId (.read reader)).map fun deployment =>
        ({ fleet with deployment } : Fleet Instance Payload).forget reader
  | .restart reader => some ((fleet.forget reader).startLoop reader)

def machine (codec : EventCodec Payload) (instanceId : Instance → String) :
    Machine (Fleet Instance Payload) (Label Instance Payload) where
  step fleet := fleet.step codec instanceId

end Fleet

/-- Every bus has what was published, in the order of the stream, and no two
buses have the same entry.  An entry that is still in the stream and that nobody
can handle any more is on a bus, unless it was lost or some instance refuses it.
No entry is acknowledged before it is done with. -/
structure DeliversOnce (codec : EventCodec Payload) (instanceId : Instance → String)
    (fleet : Fleet Instance Payload) : Prop where
  published : ∀ reader position event,
    (position, event) ∈ (fleet.deployment.bridges reader).relayed →
      ∃ entry, fleet.deployment.stream.entries[position]? = some entry ∧
        codec.incoming (instanceId reader) entry.fields = some event
  once : ∀ reader other position event copy,
    (position, event) ∈ (fleet.deployment.bridges reader).relayed →
      (position, copy) ∈ (fleet.deployment.bridges other).relayed → reader = other
  ordered : ∀ reader, (fleet.deployment.bridges reader).relayed.Pairwise fun first second =>
    first.1 < second.1
  arrives : ∀ position entry, fleet.deployment.stream.entries[position]? = some entry →
    fleet.deployment.stream.trimmed ≤ position → fleet.deployment.stream.Settled position →
      position ∈ fleet.lost ∨
        (∃ reader event, (position, event) ∈ (fleet.deployment.bridges reader).relayed) ∨
        ∃ reader, codec.incoming (instanceId reader) entry.fields = none
  acknowledged : ∀ position ∈ fleet.deployment.acknowledged,
    fleet.deployment.stream.Settled position

/-- `DeliversOnce`, and what it takes to keep it: each loop is past what it
relayed and what it is about to acknowledge. -/
structure Delivering (codec : EventCodec Payload) (instanceId : Instance → String)
    (fleet : Fleet Instance Payload) : Prop where
  delivers : DeliversOnce codec instanceId fleet
  consistent : fleet.deployment.Consistent
  past : ∀ reader position event, (position, event) ∈ (fleet.deployment.bridges reader).relayed →
    ∀ delivery ∈ fleet.deployment.stream.held reader, position < delivery.position
  handled : ∀ reader, ∀ position ∈ (fleet.deployment.bridges reader).lastId,
    fleet.deployment.stream.Settled position

variable [DecidableEq Instance] {codec : EventCodec Payload} {instanceId : Instance → String}
variable {fleet next : Fleet Instance Payload} {deployment : Deployment Instance Payload}
variable {reader : Instance}

namespace Delivering

open Deployment

/-! ## The steps of the loops -/

theorem publish {origin : Instance} {event : ShimEvent Payload} {trimTo : Nat}
    (delivering : Delivering codec instanceId fleet)
    (taken : fleet.deployment.step codec instanceId (.publish origin event trimTo) =
      some deployment) : Delivering codec instanceId { fleet with deployment } := by
  have consistent := delivering.consistent.step taken
  have bounded := delivering.consistent.sound.bounded
  obtain ⟨delivers, ⟨sound, _⟩, past, handled⟩ := delivering
  obtain ⟨added, stream, _, grown, rfl⟩ := step_publish taken
  have settled_iff : ∀ position, stream.Settled position ↔
      fleet.deployment.stream.Settled position ∨
        fleet.deployment.stream.upcoming ≤ position ∧ position < trimTo :=
    fun position => GroupStream.settled_add sound grown
  obtain ⟨allowed, rfl⟩ := GroupStream.add_eq_some grown
  constructor
  · constructor
    · intro reader position event member
      obtain ⟨entry, there, incoming⟩ := delivers.published reader position event member
      obtain ⟨small, _⟩ := List.getElem?_eq_some_iff.mp there
      exact ⟨entry, (List.getElem?_append_left small).trans there, incoming⟩
    · exact delivers.once
    · exact delivers.ordered
    · intro position entry there kept settled
      have kept : trimTo ≤ position := kept
      rcases (settled_iff position).mp settled with before | ⟨_, gone⟩
      · rcases getElem?_append_entry there with old | new
        · exact delivers.arrives position entry old (by omega) before
        · have handed := before.1
          omega
      · omega
    · exact fun position member => (settled_iff position).mpr (.inl (delivers.acknowledged _ member))
  · exact consistent
  · exact past
  · exact fun reader position last => (settled_iff position).mpr (.inl (handled reader _ last))

theorem read (delivering : Delivering codec instanceId fleet)
    (taken : fleet.deployment.step codec instanceId (.read reader) = some deployment) :
    Delivering codec instanceId { fleet with deployment } := by
  have consistent := delivering.consistent.step taken
  obtain ⟨delivers, ⟨_, settled⟩, past, handled⟩ := delivering
  obtain ⟨stream, read, rfl⟩ := Option.map_eq_some_iff.mp taken
  have settled_iff : ∀ position,
      stream.Settled position ↔ fleet.deployment.stream.Settled position :=
    fun position => GroupStream.settled_read read
  obtain ⟨_, rfl⟩ := GroupStream.read_eq_some read
  constructor
  · constructor
    · exact delivers.published
    · exact delivers.once
    · exact delivers.ordered
    · exact fun position entry there kept done =>
        delivers.arrives position entry there kept ((settled_iff position).mp done)
    · exact fun position member => (settled_iff position).mpr (delivers.acknowledged _ member)
  · exact consistent
  · intro other position event member delivery held
    rcases GroupStream.mem_update_held.mp held with ⟨_, unread⟩ | ⟨_, held⟩
    · exact Nat.lt_of_lt_of_le (settled other position event member).1
        (GroupStream.mem_reply.mp unread).1
    · exact past other position event member delivery held
  · exact fun reader position last => (settled_iff position).mpr (handled reader _ last)

theorem handle (delivering : Delivering codec instanceId fleet)
    (taken : fleet.deployment.step codec instanceId (.handle reader) = some deployment) :
    Delivering codec instanceId { fleet with deployment } := by
  have consistent := delivering.consistent.step taken
  obtain ⟨delivers, ⟨sound, settled⟩, past, handled⟩ := delivering
  obtain ⟨delivery, stream, took, rfl⟩ := step_handle taken
  have settled_iff : ∀ position, stream.Settled position ↔
      fleet.deployment.stream.Settled position ∨ position = delivery.position :=
    fun position => GroupStream.settled_take sound took
  have fresh : ∀ other event,
      (delivery.position, event) ∉ (fleet.deployment.bridges other).relayed :=
    fun other event old => GroupStream.not_settled_of_take took (settled other _ event old)
  obtain ⟨rest, holds, rfl⟩ := GroupStream.take_eq_some took
  have own : delivery ∈ fleet.deployment.stream.held reader := holds ▸ List.mem_cons_self
  have there := (sound.genuine reader delivery own).1
  constructor
  · constructor
    · intro other position event member
      rcases mem_relayed.mp member with old | ⟨rfl, rfl, incoming⟩
      · exact delivers.published other position event old
      · exact ⟨delivery.entry, there, incoming⟩
    · intro first second position event copy member also
      rcases mem_relayed.mp member with old | ⟨rfl, rfl, _⟩
      · rcases mem_relayed.mp also with known | ⟨_, rfl, _⟩
        · exact delivers.once first second position event copy old known
        · exact absurd old (fresh first event)
      · rcases mem_relayed.mp also with known | ⟨rfl, _, _⟩
        · exact absurd known (fresh second copy)
        · rfl
    · intro other
      by_cases here : other = reader
      · subst here
        simp only [Function.update_self, RedisBridge.handle]
        refine List.pairwise_append.mpr ⟨delivers.ordered other, ?_, ?_⟩
        · cases codec.incoming (instanceId other) delivery.entry.fields <;> simp
        · intro first member second new
          obtain ⟨event, _, rfl⟩ := Option.map_eq_some_iff.mp (Option.mem_toList.mp new)
          exact past other first.1 first.2 member delivery own
      · simpa [here] using delivers.ordered other
    · intro position entry found kept done
      rcases (settled_iff position).mp done with before | rfl
      · rcases delivers.arrives position entry found kept before with lost | ⟨other, event, old⟩ | refused
        · exact .inl lost
        · exact .inr (.inl ⟨other, event, mem_relayed.mpr (.inl old)⟩)
        · exact .inr (.inr refused)
      · obtain rfl : entry = delivery.entry := Option.some.inj (found.symm.trans there)
        cases incoming : codec.incoming (instanceId reader) delivery.entry.fields with
        | none => exact .inr (.inr ⟨reader, incoming⟩)
        | some event =>
            exact .inr (.inl ⟨reader, event, mem_relayed.mpr (.inr ⟨rfl, rfl, incoming⟩)⟩)
    · exact fun position member => (settled_iff position).mpr (.inl (delivers.acknowledged _ member))
  · exact consistent
  · intro other position event member copy held
    rcases GroupStream.mem_update_held.mp held with ⟨rfl, later⟩ | ⟨elsewhere, held⟩
    · have once := sound.once other
      rw [holds] at once
      have after := (List.pairwise_cons.mp once).1 copy later
      rcases mem_relayed.mp member with old | ⟨_, rfl, _⟩
      · exact (past other position event old delivery own).trans after
      · exact after
    · rcases mem_relayed.mp member with old | ⟨here, _, _⟩
      · exact past other position event old copy held
      · exact absurd here elsewhere
  · intro other position last
    by_cases here : other = reader
    · subst here
      simp only [Function.update_self, RedisBridge.handle, Option.mem_def, Option.some.injEq] at last
      exact (settled_iff position).mpr (.inr last.symm)
    · simp only [Function.update_of_ne here] at last
      exact (settled_iff position).mpr (.inl (handled other position last))

theorem acknowledge (delivering : Delivering codec instanceId fleet)
    (taken : fleet.deployment.step codec instanceId (.acknowledge reader) = some deployment) :
    Delivering codec instanceId { fleet with deployment } := by
  have consistent := delivering.consistent.step taken
  obtain ⟨_, taken⟩ := Option.ite_none_right_eq_some.mp taken
  obtain ⟨lastId, last, rfl⟩ := Option.map_eq_some_iff.mp taken
  have settled := delivering.handled reader lastId last
  obtain ⟨delivers, _, past, handled⟩ := delivering
  refine ⟨⟨delivers.published, delivers.once, delivers.ordered, delivers.arrives, ?_⟩, consistent,
    past, handled⟩
  intro position member
  rcases List.mem_append.mp member with old | new
  · exact delivers.acknowledged position old
  · obtain rfl := List.mem_singleton.mp new
    exact settled

theorem live {label : Deployment.Label Instance Payload}
    (delivering : Delivering codec instanceId fleet)
    (taken : fleet.deployment.step codec instanceId label = some deployment) :
    Delivering codec instanceId { fleet with deployment } := by
  cases label with
  | publish origin event trimTo => exact delivering.publish taken
  | read reader => exact delivering.read taken
  | handle reader => exact delivering.handle taken
  | acknowledge reader => exact delivering.acknowledge taken

/-! ## The faults -/

theorem forget (delivering : Delivering codec instanceId fleet) (reader : Instance) :
    Delivering codec instanceId (fleet.forget reader) := by
  obtain ⟨delivers, ⟨sound, settled⟩, past, handled⟩ := delivering
  have settled_iff : ∀ position, (fleet.deployment.stream.abandon reader).Settled position ↔
      fleet.deployment.stream.Settled position ∨
        ∃ delivery ∈ fleet.deployment.stream.held reader, delivery.position = position :=
    fun position => GroupStream.settled_abandon sound
  constructor
  · constructor
    · exact delivers.published
    · exact delivers.once
    · exact delivers.ordered
    · intro position entry there kept done
      rcases (settled_iff position).mp done with before | ⟨delivery, held, rfl⟩
      · rcases delivers.arrives position entry there kept before with lost | otherwise
        · exact .inl (List.mem_append_left _ lost)
        · exact .inr otherwise
      · exact .inl (List.mem_append_right _ (List.mem_map_of_mem held))
    · exact fun position member => (settled_iff position).mpr (.inl (delivers.acknowledged _ member))
  · exact ⟨sound.abandon, fun reader position event member =>
      (settled_iff position).mpr (.inl (settled reader position event member))⟩
  · exact fun other position event member delivery held =>
      past other position event member delivery (GroupStream.abandon_held_subset other held)
  · exact fun other position last => (settled_iff position).mpr (.inl (handled other position last))

theorem relayed_startLoop (other : Instance) :
    ((fleet.startLoop reader).deployment.bridges other).relayed =
      (fleet.deployment.bridges other).relayed := by
  by_cases here : other = reader
  · subst here
    simp [Fleet.startLoop]
  · simp [Fleet.startLoop, here]

theorem startLoop (delivering : Delivering codec instanceId fleet) (reader : Instance) :
    Delivering codec instanceId (fleet.startLoop reader) := by
  obtain ⟨delivers, ⟨sound, settled⟩, past, handled⟩ := delivering
  constructor
  · constructor
    · simp only [relayed_startLoop]
      exact delivers.published
    · simp only [relayed_startLoop]
      exact delivers.once
    · simp only [relayed_startLoop]
      exact delivers.ordered
    · simp only [relayed_startLoop]
      exact delivers.arrives
    · exact delivers.acknowledged
  · refine ⟨sound, ?_⟩
    simp only [relayed_startLoop]
    exact settled
  · simp only [relayed_startLoop]
    exact past
  · intro other position last
    by_cases here : other = reader
    · subst here
      simp [Fleet.startLoop] at last
    · simp only [Fleet.startLoop, Function.update_of_ne here] at last
      exact handled other position last

theorem step {label : Fleet.Label Instance Payload} (delivering : Delivering codec instanceId fleet)
    (taken : fleet.step codec instanceId label = some next) :
    Delivering codec instanceId next := by
  cases label with
  | live label =>
      obtain ⟨deployment, moved, rfl⟩ := Option.map_eq_some_iff.mp taken
      exact delivering.live moved
  | loseReply reader =>
      obtain ⟨deployment, moved, rfl⟩ := Option.map_eq_some_iff.mp taken
      exact (delivering.live moved).forget reader
  | restart reader =>
      obtain rfl := Option.some.inj taken
      exact (delivering.forget reader).startLoop reader

omit [DecidableEq Instance] in
theorem start : Delivering codec instanceId ({} : Fleet Instance Payload) where
  delivers :=
    { published := fun _ _ _ member => by cases member
      once := fun _ _ _ _ _ member => by cases member
      ordered := fun _ => .nil
      arrives := fun _ _ there => by cases there
      acknowledged := fun _ member => by cases member }
  consistent := ⟨GroupStream.sound_empty, fun _ _ _ member => by cases member⟩
  past _ _ _ member := by cases member
  handled _ _ last := by cases last

end Delivering

/-- However the instances publish, read, handle and acknowledge, whatever
replies are lost, and whenever instances restart. -/
theorem always_deliversOnce (codec : EventCodec Payload) (instanceId : Instance → String)
    (labels : List (Fleet.Label Instance Payload)) :
    (Fleet.machine codec instanceId).Always (DeliversOnce codec instanceId) {} labels := by
  have always : (Fleet.machine codec instanceId).Always (Delivering codec instanceId) {} labels :=
    Machine.always_of_step (Delivering codec instanceId)
      (fun _ _ _ delivering taken => delivering.step taken) Delivering.start
  exact always.imp fun _ delivering => delivering.delivers

end Evergreen.Bus
