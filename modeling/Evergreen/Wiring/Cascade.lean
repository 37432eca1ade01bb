import Evergreen.Wiring.Network

namespace Evergreen.Wiring

/-! # Answers set nothing off

What one handler publishes, every handler reads.  None of them takes up an
answer, so each answer is paid for by events the shims published themselves.
-/

open Bus (ShimEvent Body)

/-- The events that may make a handler answer. -/
def takesUp (handler : HandlerName) (event : ShimEvent Body) : Bool :=
  match handler, event.payload.event with
  | .healthFailover, .healthStatusChanged _ current => isBad current
  | .backupEncryption, .backupCompleted .. => true
  | .schedulerBackup, .schedulerTaskFired taskName _ => namesBackup taskName
  | _, _ => false

/-- How many of these events one answer takes. -/
def price : HandlerName → Nat
  | .healthFailover => 3
  | .backupEncryption => 1
  | .alertFanIn => 1
  | .schedulerBackup => 1

universe v

variable {tx : BroadcastChannel.{0, v} (ShimEvent Note)}

/-- The events that the shims published themselves. -/
def outside (events : List (ShimEvent Note)) : List (ShimEvent Note) :=
  events.filter (·.payload.answerOf = none)

/-- No answer is taken up, and the answers are paid for by the events of the shims. -/
structure NoCascade (sent : List (ShimEvent Note)) : Prop where
  ignored : ∀ event ∈ sent, event.payload.answerOf ≠ none → ∀ handler,
    takesUp handler (told event) = false
  paid : ∀ handler, price handler * (answersOf handler sent).length ≤
    (outside sent).countP fun event => takesUp handler (told event)
  bounded : sent.length ≤ 2 * (outside sent).length

variable {handler : HandlerName} {event : ShimEvent Note} {sent : List (ShimEvent Note)}
variable {emission : Emission}

/-! ## What a handler answers -/

/-- The handler is as it was wired, and is short of the threshold. -/
structure Short (state : HealthFailoverHandler) : Prop where
  wired : state.failoverThreshold = threshold
  short : state.unhealthyCount < threshold

def saved (handler : HandlerName) (state : HealthFailoverHandler) : Nat :=
  match handler with
  | .healthFailover => state.unhealthyCount.toNat
  | _ => 0

theorem Short.count_succ {state : HealthFailoverHandler} (short : Short state) :
    (state.unhealthyCount + 1).toNat = state.unhealthyCount.toNat + 1 := by
  have below : state.unhealthyCount.toNat < 3 := UInt32.lt_iff_toNat_lt.mp short.short
  rw [UInt32.toNat_add]
  exact Nat.mod_eq_of_lt (by simp; omega)

theorem short_start : Short { failoverThreshold := threshold } :=
  ⟨rfl, by decide⟩

/-- A turn at a bad status pays for the trigger, or saves. -/
theorem Short.handle {state : HealthFailoverHandler} (short : Short state)
    (event : ShimEvent Body) : Short (state.handle event).1 ∧
      3 * (state.handle event).2.toList.length + (state.handle event).1.unhealthyCount.toNat ≤
        state.unhealthyCount.toNat + if takesUp .healthFailover event then 1 else 0 := by
  have below : state.unhealthyCount.toNat < 3 := UInt32.lt_iff_toNat_lt.mp short.short
  have succ := short.count_succ
  cases status : statusOf event with
  | none =>
      have silent : state.handle event = (state, none) := @handle_silent ⟨state, []⟩ event status
      rw [silent]
      exact ⟨short, by simp⟩
  | some current =>
      have taken : takesUp .healthFailover event = isBad current := by
        unfold statusOf at status
        split at status
        case h_1 shown =>
            cases status
            simp only [takesUp, shown]
        case h_2 => cases status
      cases bad : isBad current with
      | false =>
          have good : state.handle event = ({ state with unhealthyCount := 0 }, none) :=
            @handle_good ⟨state, []⟩ event current status bad
          rw [good]
          exact ⟨⟨short.wired, show (0 : UInt32) < threshold by decide⟩, by simp⟩
      | true =>
          simp only [HealthFailoverHandler.handle, status, bad, if_true, taken, short.wired]
          split_ifs with reached
          · have three : 3 ≤ (state.unhealthyCount + 1).toNat := UInt32.le_iff_toNat_le.mp reached
            exact ⟨⟨rfl, show (0 : UInt32) < threshold by decide⟩, by simp; omega⟩
          · refine ⟨⟨rfl, UInt32.not_le.mp reached⟩, by simp; omega⟩

theorem pays (handler : HandlerName) :
    (handlerOf handler).Pays Short (saved handler) (price handler) (takesUp handler) := by
  cases handler with
  | healthFailover =>
      exact ⟨fun state event short => (short.handle event).1, fun state event short =>
        (short.handle event).2⟩
  | backupEncryption =>
      refine ⟨fun state event short => short, fun state event short => ?_⟩
      simp only [handlerOf, BackupEncryptionHandler.handle, saved, price]
      split
      case h_1 _ _ _ _ completed => simp [takesUp, completed]
      case h_2 => simp
  | alertFanIn => exact ⟨fun state event short => short, fun state event short => Nat.zero_le _⟩
  | schedulerBackup =>
      refine ⟨fun state event short => short, fun state event short => ?_⟩
      simp only [handlerOf, SchedulerBackupHandler.handle, saved, price]
      split
      case h_1 _ taskName _ fired =>
          cases named : namesBackup taskName <;> simp [takesUp, fired, named]
      case h_2 => simp

/-- An answer is none of the events that are taken up. -/
def Answers (emission : Emission) : Prop :=
  ∀ source sequence handler, takesUp handler { source, sequence, payload :=
    { event := emission.event, severity := emission.severity } } = false

theorem Answers.triggered : Answers .triggered := by
  intro source sequence handler
  cases handler <;> rfl

theorem answers_react (state : HealthFailoverHandler) (event : ShimEvent Body)
    (emits : ((handlerOf handler).react state event).2 = some emission) : Answers emission := by
  cases handler with
  | healthFailover =>
      simp only [handlerOf, HealthFailoverHandler.handle] at emits
      split at emits
      · cases emits
      · split_ifs at emits
        cases emits
        exact .triggered
  | alertFanIn => cases emits
  | backupEncryption =>
      simp only [handlerOf, BackupEncryptionHandler.handle] at emits
      split at emits
      · cases emits
        intro source sequence handler
        cases handler <;> rfl
      · cases emits
  | schedulerBackup =>
      simp only [handlerOf, SchedulerBackupHandler.handle] at emits
      split at emits
      · split_ifs at emits
        cases emits
        intro source sequence handler
        cases handler <;> rfl
      · cases emits

/-! ## Counting -/

theorem answersOf_length :
    (answersOf handler sent).length = sent.countP (·.payload.answerOf = some handler) := by
  rw [answersOf, List.length_map, List.countP_eq_length_filter]

theorem length_eq_outside_add :
    sent.length = (outside sent).length + ((answersOf .healthFailover sent).length +
      (answersOf .backupEncryption sent).length + (answersOf .alertFanIn sent).length +
      (answersOf .schedulerBackup sent).length) := by
  simp only [answersOf_length, outside, ← List.countP_eq_length_filter]
  induction sent with
  | nil => rfl
  | cons event sent ih =>
      simp only [List.length_cons, List.countP_cons, ih]
      cases event.payload.answerOf with
      | none => simp; omega
      | some handler => cases handler <;> simp <;> omega

/-- No event is taken up by two handlers. -/
theorem countP_takesUp_le (events : List (ShimEvent Note)) :
    events.countP (fun event => takesUp .healthFailover (told event)) +
      events.countP (fun event => takesUp .backupEncryption (told event)) +
      events.countP (fun event => takesUp .alertFanIn (told event)) +
      events.countP (fun event => takesUp .schedulerBackup (told event)) ≤ events.length := by
  induction events with
  | nil => exact Nat.le_refl 0
  | cons event events ih =>
      have one : (if takesUp .healthFailover (told event) then 1 else 0) +
          (if takesUp .backupEncryption (told event) then 1 else 0) +
          (if takesUp .alertFanIn (told event) then 1 else 0) +
          (if takesUp .schedulerBackup (told event) then 1 else 0) ≤ 1 := by
        cases kind : event.payload.body.event <;> simp [takesUp, told, kind] <;> split <;> omega
      simp only [List.countP_cons, List.length_cons]
      omega

theorem answers_length_le (handler : HandlerName) (inputs : List (ShimEvent Body)) :
    price handler * ((handlerOf handler).answers { failoverThreshold := threshold } inputs).length ≤
      inputs.countP (takesUp handler) := by
  have start : saved handler { failoverThreshold := threshold } = 0 := by cases handler <;> rfl
  have paid := @Reactor.Pays.answers_le _ _ _ _ _ inputs _ _ _ _ (pays handler) short_start
  rwa [start, Nat.zero_add] at paid

variable {net : Network tx}

theorem ignored_of_sequential (sequential : ∀ handler, net.Sequential handler)
    (there : event ∈ net.bus.channel.sent) (answers : event.payload.answerOf ≠ none)
    (handler : HandlerName) : takesUp handler (told event) = false := by
  obtain ⟨origin, own⟩ := Option.ne_none_iff_exists'.mp answers
  have member : emissionOf event ∈ answersOf origin net.bus.channel.sent :=
    List.mem_map_of_mem (List.mem_filter.mpr ⟨there, by simp [own]⟩)
  have given := (sequential origin).answers ▸ List.mem_append_left _ member
  exact Reactor.forall_mem_answers (fun state event emission => answers_react state event) _ given
    event.source event.sequence handler

/-- Where answers are ignored, a handler takes up events of the shims only. -/
theorem countP_takesUp_outside
    (ignored : ∀ event ∈ sent, event.payload.answerOf ≠ none → takesUp handler (told event) = false) :
    sent.countP (fun event => takesUp handler (told event)) =
      (outside sent).countP fun event => takesUp handler (told event) := by
  rw [outside, List.countP_filter]
  refine List.countP_congr fun event there => ?_
  have ignored := ignored event there
  cases own : event.payload.answerOf with
  | none => simp
  | some origin => simp [ignored (own ▸ Option.some_ne_none origin)]

theorem noCascade (sequential : ∀ handler, net.Sequential handler) :
    NoCascade net.bus.channel.sent := by
  have paid : ∀ handler, price handler * (answersOf handler net.bus.channel.sent).length ≤
      (outside net.bus.channel.sent).countP fun event => takesUp handler (told event) := by
    intro handler
    have whole := answers_length_le handler ((net.received handler).map told)
    rw [← (sequential handler).answers, List.length_append, List.countP_map, Nat.mul_add] at whole
    have fewer := (sequential handler).order.countP_le (p := takesUp handler ∘ told)
    rw [← countP_takesUp_outside fun event there answers =>
      ignored_of_sequential sequential there answers handler]
    exact (Nat.le_add_right _ _).trans (whole.trans fewer)
  refine ⟨fun event there answers => ignored_of_sequential sequential there answers, paid, ?_⟩
  have split := @length_eq_outside_add net.bus.channel.sent
  have disjoint := countP_takesUp_le (outside net.bus.channel.sent)
  have health := paid .healthFailover
  have backup := paid .backupEncryption
  have alert := paid .alertFanIn
  have scheduler := paid .schedulerBackup
  simp only [price] at health backup alert scheduler
  omega

/-- In every run at most half of what is on the bus is answers. -/
theorem always_noCascade (tx : BroadcastChannel.{0, v} (ShimEvent Note))
    (labels : List NetworkLabel) :
    (network tx).Always (fun net => NoCascade net.bus.channel.sent) (wireAllHandlers tx) labels :=
  (Machine.always_of_step Wired (fun _ _ _ wired taken => wired.step taken)
    wired_wireAllHandlers).imp fun _ wired => noCascade wired.sequential

end Evergreen.Wiring
