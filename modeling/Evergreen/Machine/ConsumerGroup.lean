import Mathlib.Data.List.Infix
import Mathlib.Logic.Function.Basic

namespace Evergreen

/-! # Streams read by one consumer group

A `GroupStream` keeps every entry that was ever added, so that a position names
an entry for good; trimming only takes the oldest ones away from readers.  A
read hands the next entries to one consumer, which holds them until it has taken
them one by one.  An entry is `Settled` when no consumer can still take it.
-/

universe u v

structure Delivery (Entry : Type v) where
  position : Nat
  entry : Entry
deriving DecidableEq, Repr

structure GroupStream (Consumer : Type u) (Entry : Type v) where
  entries : List Entry := []
  trimmed : Nat := 0
  lastDelivered : Nat := 0
  held : Consumer → List (Delivery Entry) := fun _ => []

namespace GroupStream

variable {Consumer : Type u} {Entry : Type v}
variable {stream next : GroupStream Consumer Entry} {consumer : Consumer} {entry : Entry}
variable {maxLength trimTo count position : Nat} {delivery : Delivery Entry}

/-- The position the next read starts from. -/
def upcoming (stream : GroupStream Consumer Entry) : Nat := max stream.lastDelivered stream.trimmed

def deliveries (entries : List Entry) : List (Delivery Entry) :=
  entries.mapIdx fun position entry => ⟨position, entry⟩

/-- The stream may be trimmed as an entry is added, never to less than `maxLength`. -/
def add (stream : GroupStream Consumer Entry) (maxLength trimTo : Nat) (entry : Entry) :
    Option (GroupStream Consumer Entry) :=
  if trimTo = stream.trimmed ∨
      stream.trimmed ≤ trimTo ∧ maxLength + trimTo ≤ stream.entries.length + 1 then
    some { stream with entries := stream.entries ++ [entry], trimmed := trimTo }
  else none

def reply (stream : GroupStream Consumer Entry) (count : Nat) : List (Delivery Entry) :=
  ((deliveries stream.entries).drop stream.upcoming).take count

/-- A consumer reads once it holds nothing. -/
def read [DecidableEq Consumer] (stream : GroupStream Consumer Entry) (count : Nat)
    (consumer : Consumer) : Option (GroupStream Consumer Entry) :=
  if stream.held consumer = [] then
    some { stream with
      lastDelivered := stream.upcoming + (stream.reply count).length
      held := Function.update stream.held consumer (stream.reply count) }
  else none

def take [DecidableEq Consumer] (stream : GroupStream Consumer Entry) (consumer : Consumer) :
    Option (Delivery Entry × GroupStream Consumer Entry) :=
  match stream.held consumer with
  | [] => none
  | delivery :: rest =>
      some (delivery, { stream with held := Function.update stream.held consumer rest })

/-- A consumer that lost what it was handed. -/
def abandon [DecidableEq Consumer] (stream : GroupStream Consumer Entry) (consumer : Consumer) :
    GroupStream Consumer Entry :=
  { stream with held := Function.update stream.held consumer [] }

/-- The entry at this position was handed out or trimmed, and nobody holds it. -/
def Settled (stream : GroupStream Consumer Entry) (position : Nat) : Prop :=
  position < stream.upcoming ∧
    ∀ consumer, ∀ delivery ∈ stream.held consumer, delivery.position ≠ position

/-- What consumers hold are entries of the stream, each in one pair of hands. -/
structure Sound (stream : GroupStream Consumer Entry) : Prop where
  bounded : stream.upcoming ≤ stream.entries.length
  genuine : ∀ consumer, ∀ delivery ∈ stream.held consumer,
    stream.entries[delivery.position]? = some delivery.entry ∧
      delivery.position < stream.lastDelivered
  once : ∀ consumer, (stream.held consumer).Pairwise fun first second =>
    first.position < second.position
  apart : ∀ consumer other, ∀ delivery ∈ stream.held consumer, ∀ copy ∈ stream.held other,
    delivery.position = copy.position → consumer = other

theorem sound_empty : ({} : GroupStream Consumer Entry).Sound where
  bounded := Nat.le_refl 0
  genuine _ _ member := by cases member
  once _ := List.Pairwise.nil
  apart _ _ _ member := by cases member

/-! ## Reading the stream -/

theorem getElem?_deliveries (entries : List Entry) (index : Nat) :
    (deliveries entries)[index]? = entries[index]?.map (Delivery.mk index) :=
  List.getElem?_mapIdx

theorem getElem?_reply {index : Nat} (small : index < count) :
    (stream.reply count)[index]? =
      stream.entries[stream.upcoming + index]?.map (Delivery.mk (stream.upcoming + index)) := by
  rw [reply, List.getElem?_take_of_lt small, List.getElem?_drop, getElem?_deliveries]

theorem length_reply : (stream.reply count).length =
    min count (stream.entries.length - stream.upcoming) := by
  simp [reply, deliveries]

theorem mem_reply : delivery ∈ stream.reply count ↔
    stream.upcoming ≤ delivery.position ∧
      delivery.position < stream.upcoming + (stream.reply count).length ∧
      stream.entries[delivery.position]? = some delivery.entry := by
  have short : (stream.reply count).length ≤ count := by
    rw [length_reply]
    exact Nat.min_le_left _ _
  constructor
  · intro member
    obtain ⟨index, small, found⟩ := List.mem_iff_getElem.mp member
    have found := List.getElem?_eq_some_iff.mpr ⟨small, found⟩
    rw [getElem?_reply (by omega), Option.map_eq_some_iff] at found
    obtain ⟨entry, there, rfl⟩ := found
    exact ⟨Nat.le_add_right _ _, Nat.add_lt_add_left small _, there⟩
  · intro ⟨lower, upper, there⟩
    obtain ⟨index, place⟩ := Nat.exists_eq_add_of_le lower
    refine List.mem_of_getElem? (i := index) ?_
    rw [getElem?_reply (by omega), ← place, there]
    rfl

theorem reply_sorted : (stream.reply count).Pairwise fun first second =>
    first.position < second.position := by
  have sorted : (deliveries stream.entries).Pairwise fun first second =>
      first.position < second.position := by
    rw [List.pairwise_iff_getElem]
    intro first second _ _ before
    simpa [deliveries] using before
  exact (sorted.sublist (List.drop_sublist _ _)).sublist (List.take_sublist _ _)

/-! ## What each operation settles -/

theorem add_eq_some (added : stream.add maxLength trimTo entry = some next) :
    (trimTo = stream.trimmed ∨
        stream.trimmed ≤ trimTo ∧ maxLength + trimTo ≤ stream.entries.length + 1) ∧
      next = { stream with entries := stream.entries ++ [entry], trimmed := trimTo } := by
  obtain ⟨allowed, same⟩ := Option.ite_none_right_eq_some.mp added
  exact ⟨allowed, (Option.some.inj same).symm⟩

theorem Sound.add (sound : stream.Sound) (added : stream.add maxLength trimTo entry = some next) :
    next.Sound := by
  have bounded : max stream.lastDelivered stream.trimmed ≤ stream.entries.length := sound.bounded
  obtain ⟨allowed, rfl⟩ := add_eq_some added
  have grown : max stream.lastDelivered trimTo ≤ (stream.entries ++ [entry]).length := by
    rw [List.length_append, List.length_singleton]
    omega
  refine ⟨grown, fun consumer delivery member => ?_, sound.once, sound.apart⟩
  obtain ⟨there, earlier⟩ := sound.genuine consumer delivery member
  obtain ⟨small, _⟩ := List.getElem?_eq_some_iff.mp there
  exact ⟨(List.getElem?_append_left small).trans there, earlier⟩

theorem settled_add (sound : stream.Sound)
    (added : stream.add maxLength trimTo entry = some next) :
    next.Settled position ↔
      stream.Settled position ∨ stream.upcoming ≤ position ∧ position < trimTo := by
  obtain ⟨allowed, rfl⟩ := add_eq_some added
  have later : stream.trimmed ≤ trimTo := by omega
  simp only [Settled, upcoming]
  constructor
  · intro ⟨past, free⟩
    by_cases before : position < max stream.lastDelivered stream.trimmed
    · exact .inl ⟨before, free⟩
    · have past : position < max stream.lastDelivered trimTo := past
      exact .inr (by omega)
  · intro settled
    rcases settled with ⟨past, free⟩ | ⟨unread, gone⟩
    · refine ⟨?_, free⟩
      show position < max stream.lastDelivered trimTo
      omega
    · have past : position < max stream.lastDelivered trimTo := by omega
      refine ⟨past, fun consumer delivery member same => ?_⟩
      have earlier := (sound.genuine consumer delivery member).2
      omega

variable [DecidableEq Consumer]

theorem read_eq_some (taken : stream.read count consumer = some next) :
    stream.held consumer = [] ∧ next = { stream with
      lastDelivered := stream.upcoming + (stream.reply count).length
      held := Function.update stream.held consumer (stream.reply count) } := by
  obtain ⟨idle, same⟩ := Option.ite_none_right_eq_some.mp taken
  exact ⟨idle, (Option.some.inj same).symm⟩

theorem take_eq_some (taken : stream.take consumer = some (delivery, next)) :
    ∃ rest, stream.held consumer = delivery :: rest ∧
      next = { stream with held := Function.update stream.held consumer rest } := by
  simp only [GroupStream.take] at taken
  split at taken
  · cases taken
  · rename_i first rest holds
    cases taken
    exact ⟨rest, holds, rfl⟩

theorem mem_update_held {held : List (Delivery Entry)} {other : Consumer} :
    delivery ∈ Function.update stream.held consumer held other ↔
      other = consumer ∧ delivery ∈ held ∨ other ≠ consumer ∧ delivery ∈ stream.held other := by
  by_cases same : other = consumer
  · subst same
    simp
  · simp [same]

theorem Sound.read (sound : stream.Sound) (taken : stream.read count consumer = some next) :
    next.Sound := by
  have bounded := sound.bounded
  have trimmed : stream.trimmed ≤ stream.upcoming := Nat.le_max_right _ _
  obtain ⟨idle, rfl⟩ := read_eq_some taken
  have fresh : ∀ other, ∀ delivery ∈ stream.held other, ∀ copy ∈ stream.reply count,
      delivery.position ≠ copy.position := by
    intro other delivery member copy unread same
    have earlier := (sound.genuine other delivery member).2
    have later := (mem_reply.mp unread).1
    have bound : stream.lastDelivered ≤ stream.upcoming := Nat.le_max_left _ _
    omega
  constructor
  · show max (stream.upcoming + (stream.reply count).length) stream.trimmed ≤ stream.entries.length
    rw [length_reply]
    omega
  · intro other delivery member
    rcases mem_update_held.mp member with ⟨_, unread⟩ | ⟨_, member⟩
    · exact ⟨(mem_reply.mp unread).2.2, (mem_reply.mp unread).2.1⟩
    · obtain ⟨there, earlier⟩ := sound.genuine other delivery member
      exact ⟨there, Nat.lt_of_lt_of_le earlier
        ((Nat.le_max_left _ _).trans (Nat.le_add_right _ _))⟩
  · intro other
    by_cases same : other = consumer
    · subst same
      simpa using reply_sorted
    · simpa [same] using sound.once other
  · intro first second delivery member copy also same
    rcases mem_update_held.mp member with ⟨one, unread⟩ | ⟨_, member⟩
    · rcases mem_update_held.mp also with ⟨two, _⟩ | ⟨_, also⟩
      · rw [one, two]
      · exact absurd same.symm (fresh second copy also delivery unread)
    · rcases mem_update_held.mp also with ⟨_, unread⟩ | ⟨_, also⟩
      · exact absurd same (fresh first delivery member copy unread)
      · exact sound.apart first second delivery member copy also same

theorem settled_read (taken : stream.read count consumer = some next) :
    next.Settled position ↔ stream.Settled position := by
  obtain ⟨idle, rfl⟩ := read_eq_some taken
  have trimmed : stream.trimmed ≤ stream.upcoming := Nat.le_max_right _ _
  have length := @length_reply _ _ stream count
  constructor
  · intro ⟨past, free⟩
    have past : position < max (stream.upcoming + (stream.reply count).length) stream.trimmed := past
    have before : position < stream.upcoming := by
      by_contra unread
      have small : position < stream.entries.length := by omega
      have lower : stream.upcoming ≤ position := by omega
      have upper : position < stream.upcoming + (stream.reply count).length := by omega
      have handed : ⟨position, stream.entries[position]⟩ ∈ stream.reply count :=
        mem_reply.mpr ⟨lower, upper, List.getElem?_eq_getElem small⟩
      exact free consumer _ (mem_update_held.mpr (.inl ⟨rfl, handed⟩)) rfl
    refine ⟨before, fun other delivery member => ?_⟩
    refine free other delivery (mem_update_held.mpr (.inr ⟨fun same => ?_, member⟩))
    rw [same, idle] at member
    cases member
  · intro ⟨past, free⟩
    have later : position < max (stream.upcoming + (stream.reply count).length) stream.trimmed := by
      omega
    refine ⟨later, fun other delivery member => ?_⟩
    rcases mem_update_held.mp member with ⟨_, unread⟩ | ⟨_, member⟩
    · have start := (mem_reply.mp unread).1
      omega
    · exact free other delivery member

theorem Sound.take (sound : stream.Sound)
    (taken : stream.take consumer = some (delivery, next)) : next.Sound := by
  obtain ⟨rest, holds, rfl⟩ := take_eq_some taken
  have kept : ∀ other, (Function.update stream.held consumer rest other).Sublist
      (stream.held other) := by
    intro other
    by_cases same : other = consumer
    · subst same
      simp [holds]
    · simp [same]
  exact
    { bounded := sound.bounded
      genuine := fun other delivery member =>
        sound.genuine other delivery ((kept other).subset member)
      once := fun other => (sound.once other).sublist (kept other)
      apart := fun first second delivery member copy also =>
        sound.apart first second delivery ((kept first).subset member) copy
          ((kept second).subset also) }

theorem settled_take (sound : stream.Sound)
    (taken : stream.take consumer = some (delivery, next)) :
    next.Settled position ↔ stream.Settled position ∨ position = delivery.position := by
  have genuine := sound.genuine consumer
  have once := sound.once consumer
  have apart := sound.apart consumer
  obtain ⟨rest, holds, rfl⟩ := take_eq_some taken
  rw [holds] at genuine once apart
  have own : delivery ∈ delivery :: rest := List.mem_cons_self
  constructor
  · intro ⟨past, free⟩
    by_cases same : position = delivery.position
    · exact .inr same
    · refine .inl ⟨past, fun other copy member => ?_⟩
      by_cases here : other = consumer
      · rw [here, holds] at member
        rcases List.mem_cons.mp member with rfl | member
        · exact fun equal => same equal.symm
        · exact free consumer copy (mem_update_held.mpr (.inl ⟨rfl, member⟩))
      · exact free other copy (mem_update_held.mpr (.inr ⟨here, member⟩))
  · intro settled
    rcases settled with ⟨past, free⟩ | rfl
    · refine ⟨past, fun other copy member => ?_⟩
      rcases mem_update_held.mp member with ⟨here, member⟩ | ⟨_, member⟩
      · exact free other copy (by rw [here, holds]; exact List.mem_cons_of_mem _ member)
      · exact free other copy member
    · have past : delivery.position < max stream.lastDelivered stream.trimmed :=
        lt_of_lt_of_le (genuine delivery own).2 (Nat.le_max_left _ _)
      refine ⟨past, fun other copy member same => ?_⟩
      rcases mem_update_held.mp member with ⟨_, member⟩ | ⟨elsewhere, member⟩
      · have before := (List.pairwise_cons.mp once).1 copy member
        omega
      · exact elsewhere (apart other delivery own copy member same.symm).symm

theorem abandon_held_subset (other : Consumer) :
    (stream.abandon consumer).held other ⊆ stream.held other := by
  intro delivery member
  rcases mem_update_held.mp member with ⟨_, member⟩ | ⟨_, member⟩
  · cases member
  · exact member

theorem Sound.abandon (sound : stream.Sound) : (stream.abandon consumer).Sound where
  bounded := sound.bounded
  genuine other delivery member := sound.genuine other delivery (abandon_held_subset other member)
  once other := by
    by_cases same : other = consumer
    · subst same
      simp [GroupStream.abandon]
    · simpa [GroupStream.abandon, same] using sound.once other
  apart first second delivery member copy also :=
    sound.apart first second delivery (abandon_held_subset first member) copy
      (abandon_held_subset second also)

theorem settled_abandon (sound : stream.Sound) : (stream.abandon consumer).Settled position ↔
    stream.Settled position ∨ ∃ delivery ∈ stream.held consumer, delivery.position = position := by
  constructor
  · intro ⟨past, free⟩
    by_cases lost : ∃ delivery ∈ stream.held consumer, delivery.position = position
    · exact .inr lost
    · refine .inl ⟨past, fun other delivery member same => ?_⟩
      by_cases here : other = consumer
      · exact lost ⟨delivery, here ▸ member, same⟩
      · exact free other delivery (mem_update_held.mpr (.inr ⟨here, member⟩)) same
  · intro settled
    rcases settled with ⟨past, free⟩ | ⟨delivery, member, rfl⟩
    · exact ⟨past, fun other copy held => free other copy (abandon_held_subset other held)⟩
    · have past : delivery.position < max stream.lastDelivered stream.trimmed :=
        lt_of_lt_of_le (sound.genuine consumer delivery member).2 (Nat.le_max_left _ _)
      refine ⟨past, fun other copy held same => ?_⟩
      rcases mem_update_held.mp held with ⟨_, held⟩ | ⟨elsewhere, held⟩
      · cases held
      · exact elsewhere (sound.apart consumer other delivery member copy held same.symm).symm

theorem not_settled_of_take (taken : stream.take consumer = some (delivery, next)) :
    ¬ stream.Settled delivery.position := by
  obtain ⟨rest, holds, _⟩ := take_eq_some taken
  intro settled
  exact settled.2 consumer delivery (by rw [holds]; exact List.mem_cons_self) rfl

end GroupStream

end Evergreen
