import Evergreen.Cdc.Shim

namespace Evergreen.Cdc

/-! # Watching a position

The loops for PostgreSQL and MariaDB read a position at every poll, make one
number of it, and capture an event when the number is above the last they took.
-/

/-- A position as a poll reports it, the number that is made of it, and the
fields of the event that goes with it. -/
structure Sighting (Key Value : Type) where
  key : Key
  number : Nat
  eventId : String
  lsn : String
  timestamp : String
  table : String
  after : Nat → Value

/-- One turn of a loop: what it sees, if anything, and what becomes of the batch
it publishes. -/
structure Turn (Key Value : Type) where
  sighting : Option (Sighting Key Value)
  outcomes : Nat → Outcome
  now : String

variable {Key Value : Type}

/-- The bytes advanced go into what the event says. -/
def Sighting.event (sighting : Sighting Key Value) (diff : Nat) : CdcEvent Value where
  eventId := sighting.eventId
  lsn := sighting.lsn
  timestamp := sighting.timestamp
  table := sighting.table
  operation := .update
  before := none
  after := some (sighting.after diff)
  published := false

/-- A shim with the variable that its loop compares with. -/
structure Watcher (Value : Type) where
  shim : CdcShim Value
  mark : Nat

namespace Watcher

def observe (watcher : Watcher Value) : Option (Sighting Key Value) → Watcher Value
  | none => watcher
  | some sighting =>
      if watcher.mark < sighting.number then
        ⟨(watcher.shim.capture (sighting.event (sighting.number - watcher.mark))).1, sighting.number⟩
      else watcher

def turn (watcher : Watcher Value) (turn : Turn Key Value) : Watcher Value :=
  let watcher := watcher.observe turn.sighting
  { watcher with shim := (watcher.shim.publishBatch turn.outcomes turn.now).1 }

end Watcher

/-- A watcher with the position reported last, and the highest number so far. -/
structure Followed (Key Value : Type) where
  watcher : Watcher Value
  previous : Option Key
  highest : Nat

def Followed.start (shim : CdcShim Value) (previous : Option Key) : Followed Key Value :=
  ⟨⟨shim, 0⟩, previous, 0⟩

def Followed.turn (state : Followed Key Value) (turn : Turn Key Value) : Followed Key Value where
  watcher := state.watcher.turn turn
  previous := turn.sighting.elim state.previous fun sighting => some sighting.key
  highest := turn.sighting.elim state.highest fun sighting => max state.highest sighting.number

def turns : Machine (Followed Key Value) (Turn Key Value) := .ofFunction Followed.turn

def Followed.Advances (ahead : Key → Key → Prop) (state : Followed Key Value)
    (sighting : Sighting Key Value) : Prop :=
  ∃ previous, state.previous = some previous ∧ ahead previous sighting.key

/-- One event is captured when the position advanced. -/
def CapturesAdvance (ahead : Key → Key → Prop) (state : Followed Key Value) (turn : Turn Key Value) :
    Prop :=
  ∀ sighting, turn.sighting = some sighting → state.Advances ahead sighting →
    ∃ event, (state.watcher.observe turn.sighting).shim.pendingEvents =
      state.watcher.shim.pendingEvents ++ [event]

/-- When the position advanced, its number is the highest so far, and the filter
lets the event through. -/
def AdvancesMark (ahead : Key → Key → Prop) (state : Followed Key Value) (turn : Turn Key Value) :
    Prop :=
  ∀ sighting, turn.sighting = some sighting → state.Advances ahead sighting →
    state.highest < sighting.number ∧ state.watcher.shim.shouldCapture sighting.table = true

variable {ahead : Key → Key → Prop} {state : Followed Key Value} {turn : Turn Key Value}

theorem pendingEvents_capture (shim : CdcShim Value) (event : CdcEvent Value) :
    (∃ captured, (shim.capture event).1.pendingEvents = shim.pendingEvents ++ [captured]) ↔
      shim.shouldCapture event.table = true := by
  cases allowed : shim.shouldCapture event.table with
  | false => simp [CdcShim.capture, allowed]
  | true => simp [CdcShim.capture, allowed]

theorem Followed.mark_turn (marked : state.watcher.mark = state.highest) :
    (state.turn turn).watcher.mark = (state.turn turn).highest := by
  cases seen : turn.sighting with
  | none => simp only [Followed.turn, Watcher.turn, Watcher.observe, seen, Option.elim, marked]
  | some sighting =>
      simp only [Followed.turn, Watcher.turn, Watcher.observe, seen, Option.elim, marked]
      split
      · next above => exact (max_eq_right above.le).symm
      · next below => exact marked.trans (max_eq_left (Nat.not_lt.mp below)).symm

theorem Followed.capturesAdvance_iff (marked : state.watcher.mark = state.highest) :
    CapturesAdvance ahead state turn ↔ AdvancesMark ahead state turn := by
  cases seen : turn.sighting with
  | none => simp [CapturesAdvance, AdvancesMark, seen]
  | some sighting =>
      simp only [CapturesAdvance, AdvancesMark, seen, Option.some.injEq, forall_eq']
      apply forall_congr'
      intro _
      rw [Watcher.observe, marked]
      by_cases above : state.highest < sighting.number
      · rw [if_pos above, and_iff_right above]
        exact pendingEvents_capture _ (sighting.event _)
      · simp [above]

/-- Every advance of the position is captured exactly when it is an advance of
the number beyond all before, and the filter allows it. -/
theorem capturesAdvance_iff_advancesMark (ahead : Key → Key → Prop) (shim : CdcShim Value)
    (previous : Option Key) (labels : List (Turn Key Value)) :
    turns.Along (CapturesAdvance ahead) (.start shim previous) labels ↔
      turns.Along (AdvancesMark ahead) (.start shim previous) labels := by
  apply Machine.along_ofFunction_iff_along fun state => state.watcher.mark = state.highest
  · intro state turn marked
    exact Followed.capturesAdvance_iff marked
  · intro state turn marked _
    exact Followed.mark_turn marked
  · rfl

end Evergreen.Cdc
