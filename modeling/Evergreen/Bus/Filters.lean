import Evergreen.Bus.Event

namespace Evergreen.Bus

/-! # Filtered subscriptions

Three ways to receive the events of some types only.  `recv_filtered` and
`BusSubscriber` pass over what they are not asked for; `subscribe_filtered`
drops the types it is given.
-/

abbrev PublishedEvent := ShimEvent Body

/-- What a receiver is given, in order, until the bus is closed. -/
abbrev Receiver := List (Received PublishedEvent)

/-- A receiver that keeps up is given what is published after it subscribed. -/
def subscribe (published : List PublishedEvent) : Receiver :=
  published.map .event

def subscribeFiltered (published : List PublishedEvent) (_types : List String) : Receiver :=
  subscribe published

/-- The receiving loop: on to the next accepted event, with the number of events
lost on the way. -/
def scan (accepts : PublishedEvent → Bool) : Receiver → Option PublishedEvent × Receiver × Nat
  | [] => (none, [], 0)
  | .event event :: rx => if accepts event then (some event, rx, 0) else scan accepts rx
  | .lagged skipped :: rx =>
      let (found, rest, lost) := scan accepts rx
      (found, rest, skipped + lost)

/-- A receiver read as it is. -/
def Receiver.recv (rx : Receiver) : Option PublishedEvent × Receiver :=
  let (found, rest, _) := scan (fun _ => true) rx
  (found, rest)

def recvFiltered (totalDropped : Nat) (rx : Receiver) (filter : List String) :
    Option PublishedEvent × Receiver × Nat :=
  let (found, rest, lost) := scan
    (fun event => filter.isEmpty || filter.any (· == eventTypeTag event.payload.event)) rx
  (found, rest, (totalDropped + lost) % 2 ^ 64)

structure BusSubscriber where
  rx : Receiver
  interestedTags : List String
  minSeverity : Severity

namespace BusSubscriber

def matchesEvent (subscriber : BusSubscriber) (event : PublishedEvent) : Bool :=
  (subscriber.interestedTags.isEmpty ||
    subscriber.interestedTags.any (· == eventTypeTag event.payload.event)) &&
      decide (severityRank subscriber.minSeverity ≤ severityRank event.payload.severity)

def recv (subscriber : BusSubscriber) : Option PublishedEvent × BusSubscriber :=
  let (found, rest, _) := scan subscriber.matchesEvent subscriber.rx
  (found, { subscriber with rx := rest })

/-- The subscriber filters by these types and by nothing else. -/
def FiltersBy (types : List String) (subscriber : BusSubscriber) : Prop :=
  subscriber.interestedTags = types ∧ subscriber.minSeverity = .info

end BusSubscriber

/-! ## Receiving one event after another -/

section Drain

universe u

variable {State : Type u}

/-- What the calls deliver, up to the first that has nothing. -/
def drain (next : State → Option PublishedEvent × State) : Nat → State → List PublishedEvent
  | 0, _ => []
  | calls + 1, state =>
      match next state with
      | (some event, later) => event :: drain next calls later
      | (none, _) => []

def eventsOf (rx : Receiver) : List PublishedEvent :=
  rx.filterMap fun
    | .event event => some event
    | .lagged _ => none

variable {accepts : PublishedEvent → Bool} {rx : Receiver}

theorem eventsOf_subscribe (published : List PublishedEvent) :
    eventsOf (subscribe published) = published := by
  induction published with
  | nil => rfl
  | cons event rest ih => exact congrArg (event :: ·) ih

/-- The loop stops at the first accepted event, or has seen that there is none. -/
theorem scan_cases (accepts : PublishedEvent → Bool) (rx : Receiver) :
    ((scan accepts rx).1 = none ∧ (eventsOf rx).filter accepts = []) ∨
      ∃ event, (scan accepts rx).1 = some event ∧
        (scan accepts rx).2.1.length < rx.length ∧
        (eventsOf rx).filter accepts = event :: (eventsOf (scan accepts rx).2.1).filter accepts := by
  induction rx with
  | nil => exact .inl ⟨rfl, rfl⟩
  | cons item rx ih =>
      cases item with
      | lagged skipped =>
          rcases ih with ⟨nothing, none⟩ | ⟨event, found, shorter, split⟩
          · exact .inl ⟨nothing, none⟩
          · exact .inr ⟨event, found, shorter.trans (Nat.lt_succ_self _), split⟩
      | event event =>
          cases accepted : accepts event with
          | true =>
              refine .inr ⟨event, ?_, ?_, ?_⟩
              · simp only [scan, accepted, if_true]
              · simp only [scan, accepted, if_true, List.length_cons]
                exact Nat.lt_succ_self _
              · simp only [scan, accepted, if_true]
                exact List.filter_cons_of_pos accepted
          | false =>
              have passed : scan accepts (.event event :: rx) = scan accepts rx := by
                simp only [scan, accepted, Bool.false_eq_true, if_false]
              have dropped : (eventsOf (.event event :: rx)).filter accepts =
                  (eventsOf rx).filter accepts :=
                List.filter_cons_of_neg (by simp [accepted])
              rw [passed, dropped]
              rcases ih with nothing | ⟨event, found, shorter, split⟩
              · exact .inl nothing
              · exact .inr ⟨event, found, shorter.trans (Nat.lt_succ_self _), split⟩

/-- Calls that are the loop on their receiver deliver what it accepts. -/
theorem drain_eq_filter {next : State → Option PublishedEvent × State} (queue : State → Receiver)
    (Keeps : State → Prop) (kept : ∀ state, Keeps state → Keeps (next state).2)
    (scans : ∀ state, Keeps state → (next state).1 = (scan accepts (queue state)).1 ∧
      queue (next state).2 = (scan accepts (queue state)).2.1)
    {calls : Nat} {state : State} (keeps : Keeps state) (enough : (queue state).length ≤ calls) :
    drain next calls state = (eventsOf (queue state)).filter accepts := by
  induction calls generalizing state with
  | zero =>
      have empty : queue state = [] := List.length_eq_zero_iff.mp (Nat.le_zero.mp enough)
      rw [empty]
      rfl
  | succ calls ih =>
      obtain ⟨first, rest⟩ := scans state keeps
      have later := kept state keeps
      rw [drain]
      rcases scan_cases accepts (queue state) with ⟨nothing, none⟩ | ⟨event, found, shorter, split⟩
      · rw [nothing] at first
        rw [none]
        cases called : next state with
        | mk answer after =>
            rw [called] at first
            cases first
            rfl
      · rw [found] at first
        rw [split, ← rest]
        rw [← rest] at shorter
        cases called : next state with
        | mk answer after =>
            rw [called] at first shorter later
            cases first
            have fewer : (queue after).length < (queue state).length := shorter
            exact congrArg (event :: ·) (ih later (by omega))

end Drain

/-! ## The three subscriptions -/

/-- Deliveries to a subscriber that asks until nothing is left. -/
def viaSubscribeFiltered (types : List String) (published : List PublishedEvent) : List PublishedEvent :=
  drain Receiver.recv published.length (subscribeFiltered published types)

def viaRecvFiltered (types : List String) (published : List PublishedEvent) : List PublishedEvent :=
  drain (fun ((totalDropped, rx) : Nat × Receiver) =>
    let (found, rest, dropped) := recvFiltered totalDropped rx types
    (found, dropped, rest)) published.length (0, subscribe published)

def viaBusSubscriber (types : List String) (published : List PublishedEvent) : List PublishedEvent :=
  drain BusSubscriber.recv published.length
    { rx := subscribe published, interestedTags := types, minSeverity := .info }

/-- The event's tag is in the set, the empty set standing for all. -/
def Wanted (types : List String) (event : PublishedEvent) : Prop :=
  types = [] ∨ eventTypeTag event.payload.event ∈ types

instance (types : List String) : DecidablePred (Wanted types) :=
  fun _ => inferInstanceAs (Decidable (_ ∨ _))

variable {types : List String} {published : List PublishedEvent}

theorem wanted_iff {event : PublishedEvent} : Wanted types event ↔
    (types.isEmpty || types.any (· == eventTypeTag event.payload.event)) = true := by
  simp [Wanted]

theorem length_subscribe : (subscribe published).length = published.length :=
  List.length_map _

theorem viaSubscribeFiltered_eq (types : List String) (published : List PublishedEvent) :
    viaSubscribeFiltered types published = published := by
  have drained := @drain_eq_filter Receiver (fun _ => true) Receiver.recv id (fun _ => True)
    (fun _ _ => trivial) (fun _ _ => ⟨rfl, rfl⟩) published.length (subscribe published) trivial
    length_subscribe.le
  rw [List.filter_true] at drained
  exact drained.trans (eventsOf_subscribe published)

theorem viaRecvFiltered_eq (types : List String) (published : List PublishedEvent) :
    viaRecvFiltered types published = published.filter (Wanted types) := by
  refine (drain_eq_filter Prod.snd (fun _ => True) (fun _ _ => trivial) (fun _ _ => ⟨rfl, rfl⟩)
    trivial length_subscribe.le).trans ?_
  rw [eventsOf_subscribe]
  refine List.filter_congr fun event _ => ?_
  exact Bool.eq_iff_iff.mpr (wanted_iff.symm.trans decide_eq_true_iff.symm)

theorem BusSubscriber.FiltersBy.matchesEvent_eq {subscriber : BusSubscriber}
    (filters : subscriber.FiltersBy types) :
    subscriber.matchesEvent = fun event => decide (Wanted types event) := by
  obtain ⟨tags, severity⟩ := filters
  funext event
  have least : decide (severityRank .info ≤ severityRank event.payload.severity) = true :=
    decide_eq_true (Nat.zero_le _)
  rw [matchesEvent, tags, severity, least, Bool.and_true]
  exact Bool.eq_iff_iff.mpr (wanted_iff.symm.trans decide_eq_true_iff.symm)

theorem viaBusSubscriber_eq (types : List String) (published : List PublishedEvent) :
    viaBusSubscriber types published = published.filter (Wanted types) := by
  have drained : viaBusSubscriber types published =
      (eventsOf (subscribe published)).filter (Wanted types) := by
    refine drain_eq_filter BusSubscriber.rx (BusSubscriber.FiltersBy types)
      (fun _ filters => filters) ?_ ⟨rfl, rfl⟩ length_subscribe.le
    intro subscriber filters
    rw [← filters.matchesEvent_eq]
    exact ⟨rfl, rfl⟩
  rw [drained, eventsOf_subscribe]

/-- The three agree on the wanted events exactly when all events are wanted, for
`subscribe_filtered` delivers them all. -/
theorem subscriptions_agree_iff (types : List String) (published : List PublishedEvent) :
    (viaSubscribeFiltered types published = published.filter (Wanted types) ∧
        viaRecvFiltered types published = published.filter (Wanted types) ∧
        viaBusSubscriber types published = published.filter (Wanted types)) ↔
      types = [] ∨ ∀ event ∈ published, eventTypeTag event.payload.event ∈ types := by
  rw [viaSubscribeFiltered_eq, viaRecvFiltered_eq, viaBusSubscriber_eq]
  have all : published = published.filter (Wanted types) ↔ ∀ event ∈ published, Wanted types event :=
    eq_comm.trans (List.filter_eq_self.trans (by simp))
  rw [all]
  constructor
  · rintro ⟨wanted, _⟩
    by_cases every : types = []
    · exact .inl every
    · exact .inr fun event member => (wanted event member).resolve_left every
  · rintro (every | listed)
    · exact ⟨fun _ _ => .inl every, rfl, rfl⟩
    · exact ⟨fun event member => .inr (listed event member), rfl, rfl⟩

def dailyBackup : PublishedEvent where
  source := "backup-shim"
  sequence := 1
  payload := { event := .backupStarted "daily", severity := .info }

theorem subscribeFiltered_delivers_unwanted :
    ¬ (viaSubscribeFiltered ["backup_failed"] [dailyBackup] =
        [dailyBackup].filter (Wanted ["backup_failed"]) ∧
      viaRecvFiltered ["backup_failed"] [dailyBackup] =
        [dailyBackup].filter (Wanted ["backup_failed"]) ∧
      viaBusSubscriber ["backup_failed"] [dailyBackup] =
        [dailyBackup].filter (Wanted ["backup_failed"])) := by
  rintro ⟨delivered, _⟩
  exact absurd (congrArg List.length delivered) (by decide)

end Evergreen.Bus
