import Evergreen.Machine.Reactor
import Evergreen.Text.Parse
import Evergreen.Wiring.HealthFailover

namespace Evergreen.Wiring

/-! # The wired handlers

Four handlers read the bus in tasks of their own, and three of them publish what
they answer on the same bus.  Their turns, the steps of every call that
publishes, and what the shims and other subscribers do come in any order.
-/

open Bus (ShimEvent Body EventType Severity ShimBus PublishCall)

inductive HandlerName where
  | healthFailover
  | backupEncryption
  | alertFanIn
  | schedulerBackup
deriving DecidableEq, Repr

/-- The handlers subscribe in this order. -/
def HandlerName.receiver : HandlerName → Nat
  | .healthFailover => 0
  | .backupEncryption => 1
  | .alertFanIn => 2
  | .schedulerBackup => 3

def BackupEncryptionHandler.handle (event : ShimEvent Body) : Option Emission :=
  match event.payload.event with
  | .backupCompleted name _ _ => some {
      source := "encryption-shim"
      event := .encryptionKeyRotated ("backup-" ++ name) "AES-256-GCM"
      severity := .info }
  | _ => none

/-- The fan-in writes to the log and publishes nothing. -/
def AlertFanInHandler.handle (_event : ShimEvent Body) : Option Emission := none

def namesBackup (taskName : String) : Bool :=
  Text.containsText "backup" taskName || Text.containsText "daily" taskName

def SchedulerBackupHandler.handle (event : ShimEvent Body) : Option Emission :=
  match event.payload.event with
  | .schedulerTaskFired taskName _ =>
      if namesBackup taskName then
        some { source := "backup-shim", event := .backupStarted taskName, severity := .info }
      else none
  | _ => none

/-- What a handler keeps between two events is the counter of the first one. -/
def handlerOf : HandlerName → Reactor HealthFailoverHandler (ShimEvent Body) Emission
  | .healthFailover => ⟨HealthFailoverHandler.handle⟩
  | .backupEncryption => ⟨fun state event => (state, BackupEncryptionHandler.handle event)⟩
  | .alertFanIn => ⟨fun state event => (state, AlertFanInHandler.handle event)⟩
  | .schedulerBackup => ⟨fun state event => (state, SchedulerBackupHandler.handle event)⟩

/-- What an event carries, and the handler that answered with it; no handler
reads the second. -/
structure Note where
  body : Body
  answerOf : Option HandlerName := none

def told (event : ShimEvent Note) : ShimEvent Body :=
  { source := event.source, sequence := event.sequence, payload := event.payload.body }

def Emission.note (emission : Emission) (handler : HandlerName) : ShimEvent Note where
  source := emission.source
  sequence := 0
  payload := { body := { event := emission.event, severity := emission.severity }
               answerOf := some handler }

def emissionOf (event : ShimEvent Note) : Emission where
  source := event.source
  event := event.payload.body.event
  severity := event.payload.body.severity

universe v

variable {tx : BroadcastChannel.{0, v} (ShimEvent Note)}

structure Network (tx : BroadcastChannel.{0, v} (ShimEvent Note)) where
  bus : ShimBus tx
  state : HandlerName → HealthFailoverHandler
  /-- The call of `emit` a handler has made last. -/
  call : HandlerName → Option Nat := fun _ => none
  ended : HandlerName → Bool := fun _ => false

namespace Network

/-- A handler receives again only after its call of `emit` has returned. -/
def idle (network : Network tx) (handler : HandlerName) : Bool :=
  match network.call handler with
  | none => true
  | some call =>
      match network.bus.calls[call]? with
      | some (.returned _) => true
      | _ => false

def answer (network : Network tx) (handler : HandlerName) (event : ShimEvent Note) : Network tx :=
  let (state, emitted) := (handlerOf handler).react (network.state handler) (told event)
  let network := { network with state := Function.update network.state handler state }
  match emitted with
  | none => network
  | some emission => { network with
      bus := network.bus.assign (emission.note handler)
      call := Function.update network.call handler (some network.bus.calls.length) }

/-- One turn of the loop of a handler. -/
def turn (network : Network tx) (handler : HandlerName) : Option (Network tx) :=
  if network.ended handler || !network.idle handler then none
  else
    (network.bus.channel.recvItem handler.receiver).map fun (item, channel) =>
      let network := { network with bus := { network.bus with channel } }
      match item with
      | .lagged _ => network
      | .event event => network.answer handler event

end Network

inductive NetworkLabel where
  /-- A shim publishes an event of its own. -/
  | publish (source : String) (body : Body)
  | advance (call : Nat)
  | subscribe
  /-- A subscriber other than the handlers receives. -/
  | recv (subscriber : Nat)
  | turn (handler : HandlerName)
  /-- A handler is stopped. -/
  | stop (handler : HandlerName)

def network (tx : BroadcastChannel.{0, v} (ShimEvent Note)) : Machine (Network tx) NetworkLabel where
  step network
    | .publish source body => some { network with
        bus := network.bus.assign { source, sequence := 0, payload := { body } } }
    | .advance call => (network.bus.advance call).map fun bus => { network with bus }
    | .subscribe => some { network with
        bus := { network.bus with channel := network.bus.channel.subscribe } }
    | .recv subscriber => (network.bus.channel.recv (subscriber + 4)).map fun channel =>
        { network with bus := { network.bus with channel } }
    | .turn handler => network.turn handler
    | .stop handler => some { network with ended := Function.update network.ended handler true }

/-- A failover takes three bad statuses. -/
def threshold : UInt32 := 3

/-- A bus that the four handlers have just subscribed to. -/
def wireAllHandlers (tx : BroadcastChannel.{0, v} (ShimEvent Note)) : Network tx where
  bus := { channel := Feed.subscribe (Feed.subscribe (Feed.subscribe (Feed.subscribe {}))) }
  state _ := { failoverThreshold := threshold }

/-! ## What a handler has answered -/

def pending : PublishCall Note → List Emission
  | .assigned event => [emissionOf event]
  | .sent _ => []
  | .returned _ => []

/-- The answers of a handler among some events, in their order. -/
def answersOf (handler : HandlerName) (events : List (ShimEvent Note)) : List Emission :=
  (events.filter (·.payload.answerOf = some handler)).map emissionOf

namespace Network

variable (network : Network tx) (handler : HandlerName)

/-- The call of `emit` that a handler has made last. -/
def lastCall : Option (PublishCall Note) :=
  (network.call handler).bind fun call => network.bus.calls[call]?

/-- The answer that a handler has begun to publish and not sent yet. -/
def unsent : List Emission := ((network.lastCall handler).map pending).getD []

def received : List (ShimEvent Note) := network.bus.channel.receivedBy handler.receiver

/-- What a handler has published, and is about to publish, is what it would have
answered alone to the events it received, and it received events of the bus in
the order of the bus. -/
structure Sequential : Prop where
  answers : answersOf handler network.bus.channel.sent ++ network.unsent handler =
    (handlerOf handler).answers { failoverThreshold := threshold }
      ((network.received handler).map told)
  order : (network.received handler).Sublist network.bus.channel.sent
  inStep : ∀ subscriber, network.bus.channel.subscribers[handler.receiver]? = some subscriber →
    subscriber.lagged = false → network.received handler <+: network.bus.channel.sent

end Network

/-- The handlers' subscribers are in place, and a call that has yet to send an
answer of a handler is the one the handler waits for. -/
structure Wired (network : Network tx) : Prop where
  delivers : network.bus.channel.Delivers
  sampled : network.bus.channel.Sampled
  joined : ∀ handler : HandlerName, ∃ subscriber,
    network.bus.channel.subscribers[handler.receiver]? = some subscriber ∧ subscriber.joined = 0
  made : ∀ handler call, network.call handler = some call → call < network.bus.calls.length
  owns : ∀ handler call event, network.bus.calls[call]? = some (.assigned event) →
    (network.call handler = some call ↔ event.payload.answerOf = some handler)
  state : ∀ handler, network.state handler = (handlerOf handler).after
    { failoverThreshold := threshold } ((network.received handler).map told)
  answers : ∀ handler, answersOf handler network.bus.channel.sent ++ network.unsent handler =
    (handlerOf handler).answers { failoverThreshold := threshold }
      ((network.received handler).map told)

variable {net next : Network tx} {handler other : HandlerName} {event : ShimEvent Note}

theorem receiver_injective (same : handler.receiver = other.receiver) : handler = other := by
  cases handler <;> cases other <;> first | rfl | cases same

theorem answersOf_append (events later : List (ShimEvent Note)) :
    answersOf handler (events ++ later) = answersOf handler events ++ answersOf handler later := by
  simp [answersOf]

theorem answersOf_own (own : event.payload.answerOf = some handler) :
    answersOf handler [event] = [emissionOf event] := by
  simp [answersOf, own]

theorem answersOf_other (differs : event.payload.answerOf ≠ some handler) :
    answersOf handler [event] = [] := by
  simp [answersOf, differs]

/-! ## The calls that publish -/

section Calls

variable {call : Nat}

theorem unsent_of_idle (idle : net.idle handler = true) : net.unsent handler = [] := by
  unfold Network.idle at idle
  rw [Network.unsent, Network.lastCall]
  split at idle
  case h_1 none =>
      rw [none]
      rfl
  case h_2 call made =>
      rw [made, Option.bind_some]
      split at idle
      case h_1 sequence returned =>
          rw [returned]
          rfl
      case h_2 => cases idle

theorem unsent_of_found {current : PublishCall Note} (made : net.call handler = some call)
    (found : net.bus.calls[call]? = some current) : net.unsent handler = pending current := by
  rw [Network.unsent, Network.lastCall, made, Option.bind_some, found]
  rfl

/-- A handler's part depends on its own call only. -/
theorem unsent_congr (same : next.call handler = net.call handler)
    (found : ∀ call, net.call handler = some call → next.bus.calls[call]? = net.bus.calls[call]?) :
    next.unsent handler = net.unsent handler := by
  rw [Network.unsent, Network.unsent, Network.lastCall, Network.lastCall, same]
  cases made : net.call handler with
  | none => rfl
  | some call => rw [Option.bind_some, Option.bind_some, found call made]

theorem getElem?_concat {calls : List (PublishCall Note)} {new current : PublishCall Note}
    (found : (calls ++ [new])[call]? = some current) :
    calls[call]? = some current ∨ call = calls.length ∧ new = current := by
  rcases Nat.lt_or_ge call calls.length with old | beyond
  · exact .inl ((List.getElem?_append_left old).symm.trans found)
  · rw [List.getElem?_append_right beyond, List.getElem?_singleton] at found
    obtain ⟨last, same⟩ := Option.ite_none_right_eq_some.mp found
    exact .inr ⟨by omega, Option.some.inj same⟩

theorem unsent_set {bus : ShimBus tx} {current after : PublishCall Note}
    (moved : bus.calls = net.bus.calls.set call after)
    (found : net.bus.calls[call]? = some current) :
    Network.unsent { net with bus } handler =
      if net.call handler = some call then pending after else net.unsent handler := by
  obtain ⟨bound, _⟩ := List.getElem?_eq_some_iff.mp found
  split_ifs with own
  · have there : bus.calls[call]? = some after := by rw [moved, List.getElem?_set_self bound]
    exact unsent_of_found own there
  · refine unsent_congr rfl fun other made => ?_
    have differs : call ≠ other := fun same => own (same ▸ made)
    rw [moved, List.getElem?_set_ne differs]

/-- Only the call itself changes, and it is past its sending. -/
theorem assigned_of_set {calls : List (PublishCall Note)} {current after : PublishCall Note}
    {other : Nat} (found : calls[call]? = some current) (past : after ≠ .assigned event)
    (assigned : (calls.set call after)[other]? = some (.assigned event)) :
    calls[other]? = some (.assigned event) := by
  by_cases same : call = other
  · subst same
    obtain ⟨bound, _⟩ := List.getElem?_eq_some_iff.mp found
    rw [List.getElem?_set_self bound] at assigned
    exact absurd (Option.some.inj assigned) past
  · rwa [List.getElem?_set_ne same] at assigned

/-- What the next step of a call may be. -/
inductive Advance (bus : ShimBus tx) (call : Nat) : ShimBus tx → Prop where
  | sends (event : ShimEvent Note) (found : bus.calls[call]? = some (.assigned event)) :
      Advance bus call { bus with
        channel := bus.channel.send event
        calls := bus.calls.set call (.sent event.sequence) }
  | counts (sequence : Nat) (found : bus.calls[call]? = some (.sent sequence)) :
      Advance bus call { bus with
        totalPublished := (bus.totalPublished + 1) % 2 ^ 64
        calls := bus.calls.set call (.returned sequence) }

theorem advance_cases {bus later : ShimBus tx} (taken : bus.advance call = some later) :
    Advance bus call later := by
  unfold ShimBus.advance at taken
  split at taken
  case h_1 event found =>
      cases taken
      exact .sends event found
  case h_2 sequence found =>
      cases taken
      exact .counts sequence found
  case h_3 => cases taken
  case h_4 => cases taken

end Calls

/-! ## What a step leaves of the wiring -/

theorem received_def (net : Network tx) (handler : HandlerName) :
    net.received handler = net.bus.channel.receivedBy handler.receiver := rfl

theorem Wired.inRange (wired : Wired net) (handler : HandlerName) :
    handler.receiver < net.bus.channel.subscribers.length := by
  obtain ⟨subscriber, present, _⟩ := wired.joined handler
  exact (List.getElem?_eq_some_iff.mp present).choose

/-- A step that hands no event to a handler keeps the wiring if it keeps what the
handlers have published. -/
theorem Wired.keep (wired : Wired net) (delivers : next.bus.channel.Delivers)
    (sampled : next.bus.channel.Sampled)
    (joined : ∀ handler : HandlerName, ∃ subscriber,
      next.bus.channel.subscribers[handler.receiver]? = some subscriber ∧ subscriber.joined = 0)
    (made : ∀ handler call, next.call handler = some call → call < next.bus.calls.length)
    (owns : ∀ handler call event, next.bus.calls[call]? = some (.assigned event) →
      (next.call handler = some call ↔ event.payload.answerOf = some handler))
    (state : next.state = net.state)
    (received : ∀ handler, next.received handler = net.received handler)
    (published : ∀ handler, answersOf handler next.bus.channel.sent ++ next.unsent handler =
      answersOf handler net.bus.channel.sent ++ net.unsent handler) : Wired next where
  delivers := delivers
  sampled := sampled
  joined := joined
  made := made
  owns := owns
  state handler := by rw [state, received, wired.state]
  answers handler := by rw [published, received, wired.answers]

theorem Wired.publish (wired : Wired net) {source : String} {body : Body} :
    Wired { net with bus := net.bus.assign { source, sequence := 0, payload := { body } } } := by
  refine wired.keep ?delivers ?sampled ?joined ?made ?owns rfl (fun _ => rfl) ?published
  case delivers => exact wired.delivers
  case sampled => exact wired.sampled
  case joined => exact wired.joined
  case made =>
      intro handler call own
      have made := wired.made handler call own
      rw [ShimBus.assign, List.length_append]
      exact Nat.lt_add_right 1 made
  case owns =>
      intro handler call event found
      rcases getElem?_concat found with earlier | ⟨last, new⟩
      · exact wired.owns handler call event earlier
      · cases new
        subst last
        refine ⟨fun own => absurd (wired.made handler _ own) (Nat.lt_irrefl _), fun own => ?_⟩
        cases own
  case published =>
      intro handler
      refine congrArg (answersOf handler net.bus.channel.sent ++ ·) (unsent_congr rfl ?_)
      intro call own
      exact List.getElem?_append_left (wired.made handler call own)

theorem Wired.advance (wired : Wired net) {call : Nat} {bus : ShimBus tx}
    (taken : net.bus.advance call = some bus) : Wired { net with bus } := by
  cases advance_cases taken with
  | counts sequence found =>
      refine wired.keep ?delivers ?sampled ?joined ?made ?owns rfl (fun _ => rfl) ?published
      case delivers => exact wired.delivers
      case sampled => exact wired.sampled
      case joined => exact wired.joined
      case made =>
          intro handler own made
          simpa using wired.made handler own made
      case owns =>
          intro handler own event assigned
          exact wired.owns handler own event (assigned_of_set found (by simp) assigned)
      case published =>
          intro handler
          refine congrArg (answersOf handler net.bus.channel.sent ++ ·) ?_
          rw [unsent_set rfl found]
          split_ifs with own
          · exact (unsent_of_found own found).symm
          · rfl
  | sends event found =>
      refine wired.keep ?delivers ?sampled ?joined ?made ?owns rfl (fun _ => rfl) ?published
      case delivers => exact wired.delivers.send event
      case sampled => exact wired.sampled.send event
      case joined => exact wired.joined
      case made =>
          intro handler own made
          simpa using wired.made handler own made
      case owns =>
          intro handler own event assigned
          exact wired.owns handler own event (assigned_of_set found (by simp) assigned)
      case published =>
          intro handler
          change answersOf handler (net.bus.channel.sent ++ [event]) ++ _ = _
          rw [answersOf_append, List.append_assoc]
          refine congrArg (answersOf handler net.bus.channel.sent ++ ·) ?_
          rw [unsent_set rfl found]
          split_ifs with own
          · rw [unsent_of_found own found, answersOf_own ((wired.owns handler call event found).mp own)]
            rfl
          · have other : event.payload.answerOf ≠ some handler := fun answer =>
              own ((wired.owns handler call event found).mpr answer)
            rw [answersOf_other other, List.nil_append]

theorem Wired.joined_recv (wired : Wired net) {receiver : Nat} {channel : Feed tx}
    (taken : net.bus.channel.recv receiver = some channel) (handler : HandlerName) :
    ∃ subscriber, channel.subscribers[handler.receiver]? = some subscriber ∧
      subscriber.joined = 0 := by
  obtain ⟨subscriber, present, start⟩ := wired.joined handler
  obtain ⟨moved, found, same⟩ := Feed.joined_recv taken present
  exact ⟨moved, found, same.trans start⟩

/-- A subscriber that receives nothing for a handler. -/
theorem Wired.recv (wired : Wired net) {receiver : Nat} {channel : Feed tx}
    (taken : net.bus.channel.recv receiver = some channel)
    (received : ∀ handler : HandlerName,
      channel.receivedBy handler.receiver = net.bus.channel.receivedBy handler.receiver) :
    Wired { net with bus := { net.bus with channel } } := by
  refine wired.keep ?delivers ?sampled ?joined ?made ?owns rfl received ?published
  case delivers => exact wired.delivers.recv taken
  case sampled => exact wired.sampled.recv wired.delivers taken
  case joined => exact wired.joined_recv taken
  case made => exact wired.made
  case owns => exact wired.owns
  case published =>
      intro handler
      rw [Feed.recv_sent taken]
      rfl

theorem Wired.subscribe (wired : Wired net) :
    Wired { net with bus := { net.bus with channel := net.bus.channel.subscribe } } := by
  refine wired.keep ?delivers ?sampled ?joined ?made ?owns rfl ?received (fun _ => rfl)
  case delivers => exact wired.delivers.subscribe
  case sampled => exact wired.sampled.subscribe
  case joined =>
      intro handler
      obtain ⟨subscriber, present, start⟩ := wired.joined handler
      exact ⟨subscriber, (List.getElem?_append_left (wired.inRange handler)).trans present, start⟩
  case made => exact wired.made
  case owns => exact wired.owns
  case received => exact fun handler => Feed.receivedBy_subscribe (wired.inRange handler)

/-! ## A turn of a handler -/

theorem turn_cases (taken : net.turn handler = some next) : net.idle handler = true ∧
    ∃ item channel, net.bus.channel.recvItem handler.receiver = some (item, channel) ∧
      next = match item with
        | .lagged _ => { net with bus := { net.bus with channel } }
        | .event event => Network.answer { net with bus := { net.bus with channel } } handler event := by
  unfold Network.turn at taken
  split_ifs at taken with stays
  obtain ⟨⟨item, channel⟩, received, rfl⟩ := Option.map_eq_some_iff.mp taken
  exact ⟨by simp_all, item, channel, received, rfl⟩

section Turn

variable {channel : Feed tx}

theorem received_turn (wired : Wired net) {item : Received (ShimEvent Note)}
    (taken : net.bus.channel.recvItem handler.receiver = some (item, channel)) :
    channel.receivedBy handler.receiver = net.received handler ++ item.values :=
  Feed.receivedBy_recvItem taken (wired.inRange handler)

theorem received_turn_other {item : Received (ShimEvent Note)}
    (taken : net.bus.channel.recvItem handler.receiver = some (item, channel))
    (differs : other ≠ handler) :
    channel.receivedBy other.receiver = net.received other :=
  Feed.receivedBy_recv_other (Feed.recv_of_recvItem taken) fun same =>
    differs (receiver_injective same).symm

/-- What a handler answers to the event it is given. -/
def reply (net : Network tx) (handler : HandlerName) (event : ShimEvent Note) :
    HealthFailoverHandler × Option Emission :=
  (handlerOf handler).react (net.state handler) (told event)

theorem answer_silent (mid : Network tx) (silent : (reply mid handler event).2 = none) :
    mid.answer handler event =
      { mid with state := Function.update mid.state handler (reply mid handler event).1 } := by
  unfold reply at silent
  simp only [Network.answer, silent]
  rfl

theorem answer_emits (mid : Network tx) {emission : Emission}
    (emits : (reply mid handler event).2 = some emission) :
    mid.answer handler event = { mid with
      state := Function.update mid.state handler (reply mid handler event).1
      bus := mid.bus.assign (emission.note handler)
      call := Function.update mid.call handler (some mid.bus.calls.length) } := by
  unfold reply at emits
  simp only [Network.answer, emits]
  rfl

/-- The state of the handlers after one was given an event. -/
theorem Wired.state_turn (wired : Wired net)
    (taken : net.bus.channel.recvItem handler.receiver = some (.event event, channel)) :
    Function.update net.state handler (reply net handler event).1 other =
      (handlerOf other).after { failoverThreshold := threshold }
        ((channel.receivedBy other.receiver).map told) := by
  by_cases same : other = handler
  · subst same
    rw [Function.update_self, received_turn wired taken, Received.values, List.map_append,
      List.map_singleton, Reactor.after_concat, ← wired.state other]
    rfl
  · rw [Function.update_of_ne same, received_turn_other taken same, wired.state other]

theorem Wired.answers_turn (wired : Wired net) (idle : net.idle handler = true)
    (taken : net.bus.channel.recvItem handler.receiver = some (.event event, channel)) :
    (handlerOf handler).answers { failoverThreshold := threshold }
        ((channel.receivedBy handler.receiver).map told) =
      answersOf handler net.bus.channel.sent ++ (reply net handler event).2.toList := by
  rw [received_turn wired taken, Received.values, List.map_append, List.map_singleton,
    Reactor.answers_concat, ← wired.state handler, ← wired.answers handler, unsent_of_idle idle,
    List.append_nil]
  rfl

theorem Wired.answers_turn_other (wired : Wired net)
    {item : Received (ShimEvent Note)}
    (taken : net.bus.channel.recvItem handler.receiver = some (item, channel))
    (differs : other ≠ handler) :
    (handlerOf other).answers { failoverThreshold := threshold }
        ((channel.receivedBy other.receiver).map told) =
      answersOf other net.bus.channel.sent ++ net.unsent other := by
  rw [received_turn_other taken differs, wired.answers other]

theorem Wired.silent (wired : Wired net) (idle : net.idle handler = true)
    (taken : net.bus.channel.recvItem handler.receiver = some (.event event, channel))
    (silent : (reply net handler event).2 = none) :
    Wired { net with
      bus := { net.bus with channel }
      state := Function.update net.state handler (reply net handler event).1 } where
  delivers := wired.delivers.recv (Feed.recv_of_recvItem taken)
  sampled := wired.sampled.recv wired.delivers (Feed.recv_of_recvItem taken)
  joined := wired.joined_recv (Feed.recv_of_recvItem taken)
  made := wired.made
  owns := wired.owns
  state other := wired.state_turn taken
  answers other := by
    rw [Network.received]
    by_cases same : other = handler
    · subst same
      rw [wired.answers_turn idle taken, silent, Feed.recv_sent (Feed.recv_of_recvItem taken)]
      exact congrArg (_ ++ ·) (unsent_of_idle idle)
    · rw [wired.answers_turn_other taken same, Feed.recv_sent (Feed.recv_of_recvItem taken)]
      rfl

theorem not_assigned_of_idle {call : Nat} (idle : net.idle handler = true)
    (made : net.call handler = some call) : net.bus.calls[call]? ≠ some (.assigned event) := by
  intro found
  simp [Network.idle, made, found] at idle

/-- A handler that was idle owns the call it has just made and no other. -/
theorem Wired.owns_emits (wired : Wired net) (idle : net.idle handler = true)
    {answer assigned : ShimEvent Note} {call : Nat} (own : answer.payload.answerOf = some handler)
    (found : (net.bus.calls ++ [PublishCall.assigned answer])[call]? = some (.assigned assigned)) :
    Function.update net.call handler (some net.bus.calls.length) other = some call ↔
      assigned.payload.answerOf = some other := by
  rcases getElem?_concat found with earlier | ⟨rfl, new⟩
  · have owns := wired.owns other call assigned earlier
    by_cases same : other = handler
    · subst same
      have older : net.bus.calls.length ≠ call :=
        (List.getElem?_eq_some_iff.mp earlier).choose.ne'
      rw [Function.update_self, Option.some.injEq, ← owns]
      exact ⟨fun new => absurd new older, fun made => absurd earlier (not_assigned_of_idle idle made)⟩
    · rw [Function.update_of_ne same, owns]
  · cases new
    by_cases same : other = handler
    · subst same
      simp [own]
    · rw [Function.update_of_ne same, own, Option.some.injEq]
      exact ⟨fun made => absurd (wired.made other _ made) (Nat.lt_irrefl _),
        fun answers => absurd answers.symm same⟩

theorem Wired.made_emits (wired : Wired net) {answer : ShimEvent Note} {call : Nat}
    (made : Function.update net.call handler (some net.bus.calls.length) other = some call) :
    call < (net.bus.calls ++ [PublishCall.assigned answer]).length := by
  rw [List.length_append, List.length_singleton]
  by_cases same : other = handler
  · subst same
    rw [Function.update_self] at made
    cases made
    exact Nat.lt_succ_self _
  · rw [Function.update_of_ne same] at made
    exact (wired.made other call made).trans (Nat.lt_succ_self _)

theorem Wired.emits (wired : Wired net) (idle : net.idle handler = true) {emission : Emission}
    (taken : net.bus.channel.recvItem handler.receiver = some (.event event, channel))
    (emits : (reply net handler event).2 = some emission) :
    Wired { net with
      bus := ShimBus.assign { net.bus with channel } (emission.note handler)
      state := Function.update net.state handler (reply net handler event).1
      call := Function.update net.call handler (some net.bus.calls.length) } where
  delivers := wired.delivers.recv (Feed.recv_of_recvItem taken)
  sampled := wired.sampled.recv wired.delivers (Feed.recv_of_recvItem taken)
  joined := wired.joined_recv (Feed.recv_of_recvItem taken)
  made other call := wired.made_emits
  owns other call assigned := wired.owns_emits idle rfl
  state other := wired.state_turn taken
  answers other := by
    rw [Network.received]
    change answersOf other channel.sent ++ _ = _
    rw [Feed.recv_sent (Feed.recv_of_recvItem taken)]
    by_cases same : other = handler
    · subst same
      refine Eq.trans ?_ (wired.answers_turn idle taken).symm
      refine congrArg (answersOf other net.bus.channel.sent ++ ·) ?_
      rw [emits]
      simp only [Network.unsent, Network.lastCall, Function.update_self, Option.bind_some,
        ShimBus.assign, List.getElem?_concat_length]
      rfl
    · refine Eq.trans ?_ (wired.answers_turn_other taken same).symm
      refine congrArg (answersOf other net.bus.channel.sent ++ ·) ?_
      refine unsent_congr (Function.update_of_ne same _ _) fun call made => ?_
      exact List.getElem?_append_left (wired.made other call made)

theorem Wired.turn (wired : Wired net) (taken : net.turn handler = some next) : Wired next := by
  obtain ⟨idle, item, channel, received, rfl⟩ := turn_cases taken
  cases item with
  | lagged skipped =>
      refine wired.recv (Feed.recv_of_recvItem received) fun other => ?_
      by_cases same : other = handler
      · subst same
        exact (received_turn wired received).trans (List.append_nil _)
      · exact received_turn_other received same
  | event event =>
      cases answered : (reply net handler event).2 with
      | none =>
          refine (congrArg Wired ?_).mp (wired.silent idle received answered)
          exact (answer_silent { net with bus := { net.bus with channel } } answered).symm
      | some emission =>
          refine (congrArg Wired ?_).mp (wired.emits idle received answered)
          exact (answer_emits { net with bus := { net.bus with channel } } answered).symm

end Turn

/-! ## The runs of the network -/

theorem Wired.step (wired : Wired net) {label : NetworkLabel}
    (taken : (network tx).step net label = some next) : Wired next := by
  cases label with
  | publish source body =>
      cases taken
      exact wired.publish
  | advance call =>
      obtain ⟨bus, advanced, rfl⟩ := Option.map_eq_some_iff.mp taken
      exact wired.advance advanced
  | subscribe =>
      cases taken
      exact wired.subscribe
  | recv subscriber =>
      obtain ⟨channel, received, rfl⟩ := Option.map_eq_some_iff.mp taken
      refine wired.recv received fun handler => Feed.receivedBy_recv_other received ?_
      cases handler <;> exact Nat.ne_of_gt (Nat.lt_add_left subscriber (by decide))
  | turn handler => exact wired.turn taken
  | stop handler =>
      cases taken
      exact wired.keep wired.delivers wired.sampled wired.joined wired.made wired.owns rfl
        (fun _ => rfl) (fun _ => rfl)

theorem wired_wireAllHandlers : Wired (wireAllHandlers tx) where
  delivers := Feed.Delivers.new.subscribe.subscribe.subscribe.subscribe
  sampled := (((show Feed.Sampled ({} : Feed tx) from fun _ joined => absurd joined
    List.not_mem_nil).subscribe).subscribe).subscribe.subscribe
  joined handler := by cases handler <;> exact ⟨_, rfl, rfl⟩
  made handler call made := by cases made
  owns handler call event found := by cases found
  state handler := by cases handler <;> rfl
  answers handler := by cases handler <;> rfl

theorem Wired.sequential (wired : Wired net) (handler : HandlerName) :
    net.Sequential handler where
  answers := wired.answers handler
  order := by
    obtain ⟨subscriber, present, _⟩ := wired.joined handler
    have samples := wired.sampled subscriber (List.mem_of_getElem? present)
    have received : net.received handler = subscriber.received := by
      simp only [Network.received, Feed.receivedBy, present]
    rw [received]
    exact List.Sublist.trans samples (List.take_sublist _ _)
  inStep subscriber present kept := by
    obtain ⟨first, found, start⟩ := wired.joined handler
    obtain rfl : first = subscriber := Option.some.inj (found.symm.trans present)
    have inStep := (wired.delivers.inStep first (List.mem_of_getElem? present) kept).2
    rw [start, List.drop_zero] at inStep
    simpa only [Network.received, Feed.receivedBy, present] using inStep

/-- Whatever the order of all their steps, each handler publishes what it would
publish alone on the events it received. -/
theorem always_sequential (tx : BroadcastChannel.{0, v} (ShimEvent Note))
    (labels : List NetworkLabel) :
    (network tx).Always (fun net => ∀ handler, net.Sequential handler) (wireAllHandlers tx) labels :=
  (Machine.always_of_step Wired (fun _ _ _ wired taken => wired.step taken)
    wired_wireAllHandlers).imp fun _ wired handler => wired.sequential handler

end Evergreen.Wiring
