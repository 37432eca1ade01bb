import Mathlib.Algebra.Order.Ring.Nat
import Mathlib.Data.List.Destutter
import Mathlib.Data.List.ReduceOption
import Mathlib.Data.List.Sublists

namespace Evergreen

/-! # Processes that answer what they read

A reactor takes its inputs one at a time and may answer each.  What it answers
to a list of inputs, taken alone and in order, is the meaning of a process that
takes the same inputs between the steps of others.
-/

universe u v w

structure Reactor (State : Type u) (Input : Type v) (Output : Type w) where
  react : State → Input → State × Option Output

namespace Reactor

variable {State : Type u} {Input : Type v} {Output : Type w}
variable {reactor : Reactor State Input Output} {state : State} {input : Input}
variable {inputs later : List Input} {price : Nat}

def after (reactor : Reactor State Input Output) (state : State) (inputs : List Input) : State :=
  inputs.foldl (fun state input => (reactor.react state input).1) state

def answers (reactor : Reactor State Input Output) : State → List Input → List Output
  | _, [] => []
  | state, input :: inputs =>
      (reactor.react state input).2.toList ++ answers reactor (reactor.react state input).1 inputs

theorem after_append : reactor.after state (inputs ++ later) =
    reactor.after (reactor.after state inputs) later :=
  List.foldl_append

theorem answers_append : reactor.answers state (inputs ++ later) =
    reactor.answers state inputs ++ reactor.answers (reactor.after state inputs) later := by
  induction inputs generalizing state with
  | nil => rfl
  | cons input inputs ih =>
      rw [List.cons_append, answers, answers, ih, List.append_assoc]
      rfl

theorem after_concat : reactor.after state (inputs ++ [input]) =
    (reactor.react (reactor.after state inputs) input).1 := by
  rw [after_append]
  rfl

theorem answers_concat : reactor.answers state (inputs ++ [input]) =
    reactor.answers state inputs ++ (reactor.react (reactor.after state inputs) input).2.toList := by
  rw [answers_append, answers, answers, List.append_nil]

/-- Every answer costs its price, and only the accepted inputs bring anything in:
what is left over is held as a potential of the state. -/
structure Pays (reactor : Reactor State Input Output) (Keeps : State → Prop)
    (potential : State → Nat) (price : Nat) (accepts : Input → Bool) : Prop where
  keeps : ∀ state input, Keeps state → Keeps (reactor.react state input).1
  pays : ∀ state input, Keeps state →
    price * (reactor.react state input).2.toList.length + potential (reactor.react state input).1 ≤
      potential state + (if accepts input then 1 else 0)

/-- The number of answers is bounded by what the accepted inputs bring in. -/
theorem Pays.answers_le {Keeps : State → Prop} {potential : State → Nat} {accepts : Input → Bool}
    (paying : reactor.Pays Keeps potential price accepts) (holds : Keeps state) :
    price * (reactor.answers state inputs).length ≤ potential state + inputs.countP accepts := by
  induction inputs generalizing state with
  | nil => exact Nat.zero_le _
  | cons input inputs ih =>
      have first := paying.pays state input holds
      have rest := ih (paying.keeps state input holds)
      rw [answers, List.length_append, Nat.mul_add, List.countP_cons]
      omega

/-- What every single answer satisfies, all of them do. -/
theorem forall_mem_answers {Meets : Output → Prop}
    (meets : ∀ state input output, (reactor.react state input).2 = some output → Meets output) :
    ∀ output ∈ reactor.answers state inputs, Meets output := by
  induction inputs generalizing state with
  | nil => exact fun output member => absurd member List.not_mem_nil
  | cons input inputs ih =>
      intro output member
      rcases List.mem_append.mp member with first | rest
      · exact meets state input output (Option.mem_toList.mp first)
      · exact ih output rest

/-! ## Reading the outputs of a process -/

/-- All that a process gives out which may give several outputs at once. -/
def outputs (step : State → Input → State × List Output) : State → List Input → List Output
  | _, [] => []
  | state, input :: inputs => (step state input).2 ++ outputs step (step state input).1 inputs

theorem outputs_append {step : State → Input → State × List Output} (state : State)
    (first second : List Input) : outputs step state (first ++ second) =
      outputs step state first ++
        outputs step (first.foldl (fun state input => (step state input).1) state) second := by
  induction first generalizing state with
  | nil => rfl
  | cons input rest ih =>
      rw [List.cons_append, outputs, ih, outputs, List.foldl_cons, List.append_assoc]

variable {Seen : Type u} {Reading : Type v} {Answer : Type w} {Sign : Type w}
variable {step : State → Input → State × List Output} {observer : Reactor Seen Reading Answer}
variable {view : State → Seen} {reading : Input → Reading}
variable {shown : Output → Option Sign} {sign : Answer → Sign}

/-- Some of the outputs are those of a reactor that sees a part of the state and
of the inputs. -/
structure Shows (step : State → Input → State × List Output) (observer : Reactor Seen Reading Answer)
    (view : State → Seen) (reading : Input → Reading) (shown : Output → Option Sign)
    (sign : Answer → Sign) : Prop where
  state : ∀ state input, view (step state input).1 = (observer.react (view state) (reading input)).1
  output : ∀ state input, (step state input).2.filterMap shown =
    ((observer.react (view state) (reading input)).2.map sign).toList

theorem Shows.outputs (shows : Shows step observer view reading shown sign) (state : State)
    (inputs : List Input) : (outputs step state inputs).filterMap shown =
      (observer.answers (view state) (inputs.map reading)).map sign := by
  induction inputs generalizing state with
  | nil => rfl
  | cons input inputs ih =>
      rw [Reactor.outputs, List.filterMap_append, ih, shows.output, shows.state, List.map_cons,
        answers, List.map_append, Option.toList_map]

/-- The reactor that answers each input by itself. -/
def answering (answer : Input → Option Output) : Reactor Unit Input Output where
  react _ input := ((), answer input)

theorem answers_answering {answer : Input → Option Output} :
    (answering answer).answers () inputs = inputs.filterMap answer := by
  induction inputs with
  | nil => rfl
  | cons input inputs ih =>
      rw [answers, List.filterMap_cons]
      cases answered : answer input with
      | none => simpa [answering, answered] using ih
      | some output => simpa [answering, answered] using ih

/-! ## Announcing changes -/

variable {Value : Type v} [DecidableEq Value]

/-- A change is announced when a reading differs from the one before it; where
nothing is read, that one is kept. -/
def detector (Value : Type v) [DecidableEq Value] : Reactor (Option Value) (Option Value) Value where
  react last reading :=
    match reading with
    | none => (last, none)
    | some value => (some value, if last.any (· ≠ value) then some value else none)

theorem destutter'_eq_cons (first : Value) (values : List Value) :
    values.destutter' (· ≠ ·) first = first :: (values.destutter' (· ≠ ·) first).tail := by
  induction values with
  | nil => rfl
  | cons value values ih =>
      by_cases same : first = value
      · rw [List.destutter'_cons_neg _ (not_not_intro same)]
        exact ih
      · rw [List.destutter'_cons_pos _ same, List.tail_cons]

theorem answers_detector_some {last : Value} {readings : List (Option Value)} :
    (detector Value).answers (some last) readings =
      (readings.reduceOption.destutter' (· ≠ ·) last).tail := by
  induction readings generalizing last with
  | nil => rfl
  | cons reading readings ih =>
      cases reading with
      | none => exact ih
      | some value =>
          rw [answers, List.reduceOption_cons_of_some]
          by_cases same : last = value
          · subst same
            rw [List.destutter'_cons_neg _ (not_not_intro rfl), ← ih]
            simp [detector]
          · rw [List.destutter'_cons_pos _ same, List.tail_cons]
            rw [destutter'_eq_cons, ← ih]
            simp [detector, same]

/-- What is announced is each reading that differs from the one before it. -/
theorem answers_detector {readings : List (Option Value)} :
    (detector Value).answers none readings = (readings.reduceOption.destutter (· ≠ ·)).tail := by
  induction readings with
  | nil => rfl
  | cons reading readings ih =>
      cases reading with
      | none => exact ih
      | some value =>
          rw [List.reduceOption_cons_of_some, List.destutter_cons', ← answers_detector_some]
          rfl

end Reactor

end Evergreen
