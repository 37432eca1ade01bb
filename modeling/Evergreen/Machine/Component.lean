import Mathlib.Data.List.Basic

namespace Evergreen

/-! # Components of a shared state

A view is a component when the labels that do not concern it leave it as it is
and those that do act on it, and are answered, as a machine of its own would.
What the component answers then depends on nothing else.
-/

universe u v w x

variable {State : Type u} {Label : Type v} {Answer : Type w} {View : Type x}

/-- Every label of a run with its answer. -/
def transcript (perform : State → Label → State × Answer) : State → List Label → List (Label × Answer)
  | _, [] => []
  | state, label :: rest =>
      (label, (perform state label).2) :: transcript perform (perform state label).1 rest

structure Component (perform : State → Label → State × Answer) (concerns : Label → Bool)
    (view : State → View) (locally : View → Label → View × Answer) (invariant : State → Prop) :
    Prop where
  kept : ∀ state label, invariant state → invariant (perform state label).1
  ignored : ∀ state label, invariant state → concerns label = false →
    view (perform state label).1 = view state
  decided : ∀ state label, invariant state → concerns label = true →
    (view (perform state label).1, (perform state label).2) = locally (view state) label

namespace Component

variable {perform : State → Label → State × Answer} {concerns : Label → Bool}
variable {view : State → View} {locally : View → Label → View × Answer} {invariant : State → Prop}
variable {state other : State} {labels more : List Label}

/-- What a run answers to the component is what the component's own machine
answers to the labels that concern it. -/
theorem transcript_eq (component : Component perform concerns view locally invariant)
    (holds : invariant state) :
    (transcript perform state labels).filter (fun entry => concerns entry.1) =
      transcript locally (view state) (labels.filter concerns) := by
  induction labels generalizing state with
  | nil => rfl
  | cons label rest ih =>
      have later := ih (component.kept state label holds)
      cases concern : concerns label with
      | false =>
          rw [component.ignored state label holds concern] at later
          simpa [transcript, concern] using later
      | true =>
          have stepped := component.decided state label holds concern
          have moved := congrArg Prod.fst stepped
          have answered := congrArg Prod.snd stepped
          dsimp only at moved answered
          rw [moved] at later
          simpa [transcript, concern, answered] using later

/-- Where a run leaves the component is where its own machine goes. -/
theorem view_foldl (component : Component perform concerns view locally invariant)
    (holds : invariant state) :
    view (labels.foldl (fun state label => (perform state label).1) state) =
      (labels.filter concerns).foldl (fun view label => (locally view label).1) (view state) := by
  induction labels generalizing state with
  | nil => rfl
  | cons label rest ih =>
      rw [List.foldl_cons, ih (component.kept state label holds)]
      cases concern : concerns label with
      | false => simp [concern, component.ignored state label holds concern]
      | true =>
          have moved := congrArg Prod.fst (component.decided state label holds concern)
          dsimp only at moved
          simp [concern, moved]

/-- Two runs that agree on the component and on what concerns it cannot be told
apart by its answers. -/
theorem noninterference (component : Component perform concerns view locally invariant)
    (holds : invariant state) (also : invariant other) (same : view state = view other)
    (agree : labels.filter concerns = more.filter concerns) :
    (transcript perform state labels).filter (fun entry => concerns entry.1) =
      (transcript perform other more).filter (fun entry => concerns entry.1) := by
  rw [component.transcript_eq holds, component.transcript_eq also, same, agree]

end Component

end Evergreen
