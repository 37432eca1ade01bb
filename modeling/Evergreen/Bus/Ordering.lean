import Evergreen.Bus.Publish

namespace Evergreen.Bus

/-! # The order a subscriber sees

The sequence is taken under the lock, but the event is sent after the lock is
released, so a later sequence can overtake an earlier one.  While every send is
that of the lowest sequence still unsent, what was sent and what is about to be
sent are together the numbers from one on.
-/

universe u v

variable {Payload : Type u} {tx : BroadcastChannel.{u, v} (ShimEvent Payload)}
variable {bus next : ShimBus tx} {source : String}

/-- The sequences of one source among some events, in their order. -/
def sequencesOf (source : String) (events : List (ShimEvent Payload)) : List Nat :=
  (events.filter (·.source = source)).map (·.sequence)

/-- Every subscriber that has not lagged received each source's events with
consecutive sequences, from the first that was sent after it subscribed. -/
def InOrder (bus : ShimBus tx) : Prop :=
  ∀ subscriber ∈ bus.channel.subscribers, subscriber.lagged = false → ∀ source,
    sequencesOf source subscriber.received =
      List.range' ((sequencesOf source (bus.channel.sent.take subscriber.joined)).length + 1)
        (sequencesOf source subscriber.received).length

def unsentSequence (source : String) : PublishCall Payload → Option Nat
  | .assigned event => if event.source = source then some event.sequence else none
  | .sent _ => none
  | .returned _ => none

/-- The sequences of one source that are assigned and not sent yet. -/
def unsent (source : String) (calls : List (PublishCall Payload)) : List Nat :=
  calls.filterMap (unsentSequence source)

/-- The counter of the source has a next value. -/
def HasNext (bus : ShimBus tx) (source : String) : Prop := bus.sequences source + 1 < 2 ^ 64

/-- No other call holds a lower sequence of the same source. -/
def LowestUnsent (bus : ShimBus tx) : PublishCall Payload → Prop
  | .assigned event => ∀ other ∈ unsent event.source bus.calls, event.sequence ≤ other
  | .sent _ => True
  | .returned _ => True

/-- The step does not overtake. -/
def InTurn (bus : ShimBus tx) : Label Payload → Prop
  | .publish event => HasNext bus event.source
  | .advance call => ∀ current, bus.calls[call]? = some current → LowestUnsent bus current
  | .subscribe => True
  | .recv _ => True

/-- What was sent and what is still unsent are numbered from one on. -/
def Numbered (bus : ShimBus tx) : Prop :=
  ∀ source, sequencesOf source bus.channel.sent ++ unsent source bus.calls =
    List.range' 1 (bus.sequences source)

/-! ## The numbers of one source -/

theorem sequencesOf_append (events later : List (ShimEvent Payload)) :
    sequencesOf source (events ++ later) = sequencesOf source events ++ sequencesOf source later := by
  simp [sequencesOf]

theorem unsent_append (calls later : List (PublishCall Payload)) :
    unsent source (calls ++ later) = unsent source calls ++ unsent source later := by
  simp [unsent]

theorem sequencesOf_of_isPrefix {events later : List (ShimEvent Payload)} (first : events <+: later) :
    sequencesOf source events <+: sequencesOf source later :=
  (first.filter _).map _

/-- In a run of consecutive numbers, one that no other is below comes first. -/
theorem lowest_first {start count lowest : Nat} {earlier before after : List Nat}
    (consecutive : earlier ++ (before ++ lowest :: after) = List.range' start count)
    (least : ∀ number ∈ before, lowest ≤ number) : before = [] := by
  have sorted : (earlier ++ (before ++ lowest :: after)).Pairwise (· < ·) :=
    consecutive ▸ List.pairwise_lt_range'
  have split := (List.pairwise_append.mp (List.pairwise_append.mp sorted).2.1).2.2
  cases before with
  | nil => rfl
  | cons number before =>
      have below : number < lowest := split number (by simp) lowest (by simp)
      have above : lowest ≤ number := least number (by simp)
      omega

theorem consecutive_of_prefix {count : Nat} {earlier received rest : List Nat} {later : List Nat}
    (numbered : earlier ++ rest ++ later = List.range' 1 count) (first : received <+: rest) :
    received = List.range' (earlier.length + 1) received.length := by
  obtain ⟨tail, rfl⟩ := first
  rw [List.append_assoc] at numbered
  obtain ⟨joined, _, front, back⟩ := List.range'_eq_append_iff.mp numbered.symm
  rw [List.append_assoc] at back
  obtain ⟨seen, _, own, _⟩ := List.range'_eq_append_iff.mp back.symm
  rw [own, front]
  simp [Nat.add_comm]

theorem Numbered.inOrder (numbered : Numbered bus) (delivers : bus.channel.Delivers) :
    InOrder bus := by
  intro subscriber joined kept source
  have received := (delivers.inStep subscriber joined kept).2
  have split : sequencesOf source (bus.channel.sent.take subscriber.joined) ++
      sequencesOf source (bus.channel.sent.drop subscriber.joined) ++ unsent source bus.calls =
      List.range' 1 (bus.sequences source) := by
    rw [← sequencesOf_append, List.take_append_drop]
    exact numbered source
  exact consecutive_of_prefix split (sequencesOf_of_isPrefix received)

/-! ## The steps of a call -/

theorem Numbered.assign {event : ShimEvent Payload} (numbered : Numbered bus)
    (hasNext : HasNext bus event.source) : Numbered (bus.assign event) := by
  intro source
  have before := numbered source
  have counted : (bus.sequences event.source + 1) % 2 ^ 64 = bus.sequences event.source + 1 :=
    Nat.mod_eq_of_lt hasNext
  simp only [ShimBus.assign, counted, unsent_append]
  by_cases same : event.source = source
  · subst same
    have own : unsent event.source [PublishCall.assigned
        { event with sequence := bus.sequences event.source + 1 }] =
        [bus.sequences event.source + 1] := by simp [unsent, unsentSequence]
    rw [own, ← List.append_assoc, before, Function.update_self, List.range'_concat]
    simp [Nat.add_comm]
  · have other : unsent source [PublishCall.assigned
        { event with sequence := bus.sequences event.source + 1 }] = [] := by
      simp [unsent, unsentSequence, same]
    rw [other, List.append_nil, before, Function.update_of_ne (Ne.symm same)]

theorem split_of_getElem? {Item : Type u} {items : List Item} {index : Nat} {item : Item}
    (found : items[index]? = some item) : ∃ before after, items = before ++ item :: after ∧
      ∀ other, items.set index other = before ++ other :: after := by
  obtain ⟨bound, rfl⟩ := List.getElem?_eq_some_iff.mp found
  refine ⟨items.take index, items.drop (index + 1), ?_, fun other => ?_⟩
  · rw [List.cons_getElem_drop_succ, List.take_append_drop]
  · rw [List.set_eq_take_append_cons_drop, if_pos bound]

theorem unsent_set_sent {calls : List (PublishCall Payload)} {call sequence : Nat}
    (found : calls[call]? = some (.sent sequence)) :
    unsent source (calls.set call (.returned sequence)) = unsent source calls := by
  obtain ⟨before, after, split, replaced⟩ := split_of_getElem? found
  rw [replaced, split]
  simp [unsent, unsentSequence, List.filterMap_cons]

theorem unsent_set_lowest {event : ShimEvent Payload} {calls : List (PublishCall Payload)}
    {call count : Nat} {earlier : List Nat} (found : calls[call]? = some (.assigned event))
    (least : ∀ other ∈ unsent event.source calls, event.sequence ≤ other)
    (numbered : earlier ++ unsent event.source calls = List.range' 1 count) :
    earlier ++ [event.sequence] ++
      unsent event.source (calls.set call (.sent event.sequence)) = List.range' 1 count := by
  obtain ⟨before, after, split, replaced⟩ := split_of_getElem? found
  have held : unsent event.source calls =
      unsent event.source before ++ event.sequence :: unsent event.source after := by
    simp [split, unsent, unsentSequence]
  have freed : unsent event.source (calls.set call (.sent event.sequence)) =
      unsent event.source before ++ unsent event.source after := by
    simp [replaced, unsent, unsentSequence, List.filterMap_cons]
  rw [held] at numbered least
  have first : unsent event.source before = [] :=
    lowest_first numbered fun other earlier => least other (List.mem_append_left _ earlier)
  rw [freed, ← numbered, first]
  simp

theorem unsent_set_other {event : ShimEvent Payload} {calls : List (PublishCall Payload)}
    {call : Nat} (found : calls[call]? = some (.assigned event)) (other : event.source ≠ source) :
    unsent source (calls.set call (.sent event.sequence)) = unsent source calls := by
  obtain ⟨before, after, split, replaced⟩ := split_of_getElem? found
  rw [replaced, split]
  simp [unsent, unsentSequence, List.filterMap_cons, other]

theorem Numbered.advance {call : Nat} (numbered : Numbered bus)
    (inTurn : ∀ current, bus.calls[call]? = some current → LowestUnsent bus current)
    (taken : bus.advance call = some next) : Numbered next := by
  unfold ShimBus.advance at taken
  cases found : bus.calls[call]? with
  | none => simp [found] at taken
  | some current =>
      cases current with
      | returned sequence => simp [found] at taken
      | sent sequence =>
          simp only [found, Option.some.injEq] at taken
          subst taken
          intro source
          simpa only [unsent_set_sent found] using numbered source
      | assigned event =>
          simp only [found, Option.some.injEq] at taken
          subst taken
          intro source
          simp only [Feed.send, sequencesOf_append]
          by_cases same : event.source = source
          · subst same
            have own : sequencesOf event.source [event] = [event.sequence] := by
              simp [sequencesOf]
            rw [own]
            exact unsent_set_lowest found (inTurn _ found) (numbered event.source)
          · have other : sequencesOf source [event] = [] := by simp [sequencesOf, same]
            rw [other, List.append_nil, unsent_set_other found same]
            exact numbered source

theorem channel_advance {call : Nat} (taken : bus.advance call = some next) :
    next.channel = bus.channel ∨ ∃ event, next.channel = bus.channel.send event := by
  unfold ShimBus.advance at taken
  split at taken
  case h_1 event _ => exact .inr ⟨event, by rw [← Option.some.inj taken]⟩
  case h_2 => exact .inl (by rw [← Option.some.inj taken])
  case h_3 => cases taken
  case h_4 => cases taken

/-! ## The runs of the bus -/

structure Kept (bus : ShimBus tx) : Prop where
  delivers : bus.channel.Delivers
  numbered : Numbered bus

theorem Kept.step {label : Label Payload} (kept : Kept bus) (inTurn : InTurn bus label)
    (taken : (machine tx).step bus label = some next) : Kept next := by
  obtain ⟨delivers, numbered⟩ := kept
  cases label with
  | publish event =>
      cases taken
      exact ⟨delivers, numbered.assign inTurn⟩
  | subscribe =>
      cases taken
      exact ⟨delivers.subscribe, numbered⟩
  | recv receiver =>
      obtain ⟨channel, received, rfl⟩ := Option.map_eq_some_iff.mp taken
      refine ⟨delivers.recv received, fun source => ?_⟩
      rw [← numbered source, Feed.recv_sent received]
  | advance call =>
      refine ⟨?_, numbered.advance inTurn taken⟩
      rcases channel_advance taken with same | ⟨event, sent⟩
      · rw [same]
        exact delivers
      · rw [sent]
        exact delivers.send event

/-- While no event is sent before one of the same source with a lower sequence,
and no counter runs out, the subscribers see each source in order. -/
theorem always_inOrder (tx : BroadcastChannel.{u, v} (ShimEvent Payload))
    (labels : List (Label Payload)) (inTurn : (machine tx).Along InTurn {} labels) :
    (machine tx).Always InOrder {} labels := by
  have start : Kept ({} : ShimBus tx) := ⟨.new, fun _ => rfl⟩
  have kept := Machine.always_of_along Kept
    (fun bus label next kept inTurn taken => kept.step inTurn taken) start inTurn
  exact kept.imp fun bus kept => kept.numbered.inOrder kept.delivers

/-! ## Two publishers of one source -/

def event (payload : Nat) : ShimEvent Nat where
  source := "backup-shim"
  sequence := 0
  payload := payload

def overtaking : List (Label Nat) :=
  [.subscribe, .publish (event 1), .publish (event 2), .advance 1, .advance 0, .recv 0, .recv 0]

def waiting : List (Label Nat) :=
  [.subscribe, .publish (event 1), .publish (event 2), .advance 0, .advance 1, .recv 0, .recv 0]

abbrev defaultChannel : BroadcastChannel (ShimEvent Nat) := .ring (ShimEvent Nat) 1024

theorem always_inOrder_waiting : (machine defaultChannel).Always InOrder {} waiting := by
  have first : ∀ other ∈ [1, 2], 1 ≤ other := by decide
  have second : ∀ other ∈ [2], 2 ≤ other := by decide
  apply always_inOrder
  refine .cons rfl trivial ?_
  refine .cons rfl (show 1 < 2 ^ 64 by decide) ?_
  refine .cons rfl (show 2 < 2 ^ 64 by decide) ?_
  refine .cons rfl (fun current found => ?_) ?_
  · cases found
    exact first
  refine .cons rfl (fun current found => ?_) ?_
  · cases found
    exact second
  refine .cons rfl trivial ?_
  exact .cons rfl trivial trivial

/-- The second publisher sends first. -/
theorem not_always_inOrder : ¬ (machine defaultChannel).Always InOrder {} overtaking := by
  intro always
  have swapped := always.last rfl _ (.head _) rfl "backup-shim"
  exact absurd swapped (by decide)

end Evergreen.Bus
