import Mathlib.Logic.Basic
import Mathlib.Data.Option.Basic

namespace Evergreen

/-! # Step machines and guarded runs

A machine consumes one label at a time.  Labels carry every choice the
environment makes (clock readings, outcomes of calls, the scheduler's next
pick), so a step is a partial function and a run is a list of labels.

`Always` speaks about the states a run visits, `Along` about the steps it
takes.  Safety results have the shape "along these steps, always that".
-/

universe u v

/-- A labelled step machine; `none` means that the label is not enabled. -/
structure Machine (State : Type u) (Label : Type v) where
  step : State → Label → Option State

namespace Machine

variable {State : Type u} {Label : Type v} {machine : Machine State Label}
variable {state next final : State} {label : Label} {labels rest : List Label}

/-- A machine that can take every label in every state. -/
def ofFunction (update : State → Label → State) : Machine State Label where
  step state label := some (update state label)

@[simp] theorem ofFunction_step (update : State → Label → State) (state : State) (label : Label) :
    (ofFunction update).step state label = some (update state label) := rfl

/-- The state after all labels, or `none` once a label is not enabled. -/
def run (machine : Machine State Label) : State → List Label → Option State
  | state, [] => some state
  | state, label :: rest => (machine.step state label).bind fun next => run machine next rest

@[simp] theorem run_nil : machine.run state [] = some state := rfl

theorem run_cons : machine.run state (label :: rest) =
    (machine.step state label).bind fun next => machine.run next rest := rfl

theorem run_cons_of_step (taken : machine.step state label = some next) :
    machine.run state (label :: rest) = machine.run next rest := by
  rw [run_cons, taken, Option.bind_some]

theorem run_ofFunction (update : State → Label → State) (state : State) (labels : List Label) :
    (ofFunction update).run state labels = some (labels.foldl update state) := by
  induction labels generalizing state with
  | nil => rfl
  | cons label labels ih => simp [run_cons, ih]

/-- Every state the run visits, first and last included, satisfies `property`. -/
def Always (machine : Machine State Label) (property : State → Prop) :
    State → List Label → Prop
  | state, [] => property state
  | state, label :: rest => property state ∧
      ∀ next, machine.step state label = some next → Always machine property next rest

/-- Every step the run takes satisfies `guard` in the state it is taken from. -/
def Along (machine : Machine State Label) (guard : State → Label → Prop) :
    State → List Label → Prop
  | _, [] => True
  | state, label :: rest =>
      ∀ next, machine.step state label = some next →
        guard state label ∧ Along machine guard next rest

theorem Along.cons {guard : State → Label → Prop} (taken : machine.step state label = some next)
    (guarded : guard state label) (along : machine.Along guard next rest) :
    machine.Along guard state (label :: rest) := by
  intro other enabled
  obtain rfl : next = other := Option.some.inj (taken.symm.trans enabled)
  exact ⟨guarded, along⟩

instance decidableAlong (guard : State → Label → Prop) [∀ state label, Decidable (guard state label)] :
    ∀ state labels, Decidable (machine.Along guard state labels)
  | _, [] => .isTrue trivial
  | state, label :: rest =>
      match taken : machine.step state label with
      | none => .isTrue fun next enabled => by simp [taken] at enabled
      | some next =>
          have := decidableAlong guard next rest
          decidable_of_iff (guard state label ∧ machine.Along guard next rest)
            ⟨fun holds => .cons taken holds.1 holds.2, fun holds => holds next taken⟩

theorem Always.head {property : State → Prop} (always : machine.Always property state labels) :
    property state := by
  cases labels with
  | nil => exact always
  | cons label labels => exact always.1

theorem Always.imp {property weaker : State → Prop} (weaken : ∀ state, property state → weaker state)
    (always : machine.Always property state labels) : machine.Always weaker state labels := by
  induction labels generalizing state with
  | nil => exact weaken state always
  | cons label labels ih =>
      exact ⟨weaken state always.1, fun next taken => ih (always.2 next taken)⟩

theorem Always.and {property other : State → Prop} (always : machine.Always property state labels)
    (also : machine.Always other state labels) :
    machine.Always (fun state => property state ∧ other state) state labels := by
  induction labels generalizing state with
  | nil => exact ⟨always, also⟩
  | cons label labels ih =>
      exact ⟨⟨always.1, also.1⟩, fun next taken => ih (always.2 next taken) (also.2 next taken)⟩

theorem always_iff_prefix {property : State → Prop} :
    machine.Always property state labels ↔
      ∀ before after final, before ++ after = labels →
        machine.run state before = some final → property final := by
  constructor
  · intro always before
    induction before generalizing state labels with
    | nil =>
        intro after final _ ran
        cases ran
        exact always.head
    | cons label before ih =>
        intro after final split ran
        subst split
        obtain ⟨next, taken, ran⟩ := Option.bind_eq_some_iff.mp ran
        exact ih (always.2 next taken) after final rfl ran
  · intro prefixes
    induction labels generalizing state with
    | nil => exact prefixes [] [] state rfl rfl
    | cons label labels ih =>
        refine ⟨prefixes [] (label :: labels) state rfl rfl, fun next taken => ih ?_⟩
        intro before after final split ran
        exact prefixes (label :: before) after final (by rw [← split]; rfl)
          ((run_cons_of_step taken).trans ran)

theorem Always.last {property : State → Prop} (always : machine.Always property state labels)
    (ran : machine.run state labels = some final) : property final :=
  always_iff_prefix.mp always labels [] final (List.append_nil labels) ran

/-- The invariant rule: what holds at the start and is kept by every guarded
step holds in every state of a guarded run. -/
theorem always_of_along {guard : State → Label → Prop} (invariant : State → Prop)
    (kept : ∀ state label next, invariant state → guard state label →
      machine.step state label = some next → invariant next)
    (start : invariant state) (along : machine.Along guard state labels) :
    machine.Always invariant state labels := by
  induction labels generalizing state with
  | nil => exact start
  | cons label labels ih =>
      refine ⟨start, fun next taken => ?_⟩
      obtain ⟨guarded, along⟩ := along next taken
      exact ih (kept state label next start guarded taken) along

/-- Two guards that agree on the steps taken where an invariant holds, which one
of them keeps, admit the same runs. -/
theorem along_iff_along {guard other : State → Label → Prop} (invariant : State → Prop)
    (agree : ∀ state label next, invariant state → machine.step state label = some next →
      (guard state label ↔ other state label))
    (kept : ∀ state label next, invariant state → other state label →
      machine.step state label = some next → invariant next)
    (start : invariant state) :
    machine.Along guard state labels ↔ machine.Along other state labels := by
  induction labels generalizing state with
  | nil => exact Iff.rfl
  | cons label labels ih =>
      constructor
      · intro along next taken
        obtain ⟨guarded, along⟩ := along next taken
        have allowed := (agree state label next start taken).mp guarded
        exact ⟨allowed, (ih (kept state label next start allowed taken)).mp along⟩
      · intro along next taken
        obtain ⟨allowed, along⟩ := along next taken
        exact ⟨(agree state label next start taken).mpr allowed,
          (ih (kept state label next start allowed taken)).mpr along⟩

theorem along_and {guard other : State → Label → Prop} :
    machine.Along (fun state label => guard state label ∧ other state label) state labels ↔
      machine.Along guard state labels ∧ machine.Along other state labels := by
  induction labels generalizing state with
  | nil => exact (and_self_iff).symm
  | cons label labels ih =>
      constructor
      · intro along
        exact ⟨fun next taken => ⟨(along next taken).1.1, (ih.mp (along next taken).2).1⟩,
          fun next taken => ⟨(along next taken).1.2, (ih.mp (along next taken).2).2⟩⟩
      · intro ⟨first, second⟩ next taken
        obtain ⟨guarded, first⟩ := first next taken
        obtain ⟨allowed, second⟩ := second next taken
        exact ⟨⟨guarded, allowed⟩, ih.mpr ⟨first, second⟩⟩

theorem along_of_all {guard : State → Label → Prop} (all : ∀ state label, guard state label) :
    machine.Along guard state labels := by
  induction labels generalizing state with
  | nil => trivial
  | cons label labels ih => exact fun next _ => ⟨all state label, ih⟩

theorem along_of_forall_mem {allowed : Label → Prop} (all : ∀ label ∈ labels, allowed label) :
    machine.Along (fun _ label => allowed label) state labels := by
  induction labels generalizing state with
  | nil => trivial
  | cons label labels ih =>
      exact fun next _ => ⟨all label List.mem_cons_self,
        ih fun later member => all later (List.mem_cons_of_mem _ member)⟩

theorem always_of_step (invariant : State → Prop)
    (kept : ∀ state label next, invariant state →
      machine.step state label = some next → invariant next)
    (start : invariant state) : machine.Always invariant state labels :=
  always_of_along invariant (fun state label next holds _ taken => kept state label next holds taken)
    start (along_of_all fun _ _ => trivial)

/-- A guard is exact for a property when guarded steps keep an invariant that
implies it and every unguarded step out of the invariant breaks it.  A run that
keeps its promises then satisfies the property throughout if and only if it
keeps to the guard. -/
theorem always_iff_along_of_promise {promise guard : State → Label → Prop}
    {property : State → Prop} (invariant : State → Prop)
    (sound : ∀ state, invariant state → property state)
    (kept : ∀ state label next, invariant state → promise state label → guard state label →
      machine.step state label = some next → invariant next)
    (exact : ∀ state label next, invariant state → promise state label → ¬ guard state label →
      machine.step state label = some next → ¬ property next)
    (start : invariant state) (promised : machine.Along promise state labels) :
    machine.Always property state labels ↔ machine.Along guard state labels := by
  constructor
  · intro always
    induction labels generalizing state with
    | nil => trivial
    | cons label labels ih =>
        intro next taken
        obtain ⟨promise, promised⟩ := promised next taken
        have guarded : guard state label := by
          by_contra unguarded
          exact exact state label next start promise unguarded taken (always.2 next taken).head
        exact ⟨guarded, ih (kept state label next start promise guarded taken) promised
          (always.2 next taken)⟩
  · intro along
    refine (always_of_along invariant ?_ start (along_and.mpr ⟨promised, along⟩)).imp sound
    intro state label next holds both taken
    exact kept state label next holds both.1 both.2 taken

theorem always_iff_along {guard : State → Label → Prop} {property : State → Prop}
    (invariant : State → Prop)
    (sound : ∀ state, invariant state → property state)
    (kept : ∀ state label next, invariant state → guard state label →
      machine.step state label = some next → invariant next)
    (exact : ∀ state label next, invariant state → ¬ guard state label →
      machine.step state label = some next → ¬ property next)
    (start : invariant state) :
    machine.Always property state labels ↔ machine.Along guard state labels :=
  always_iff_along_of_promise invariant sound
    (fun state label next holds _ guarded taken => kept state label next holds guarded taken)
    (fun state label next holds _ unguarded taken => exact state label next holds unguarded taken)
    start (along_of_all fun _ _ => trivial)

theorem Always.along {guard : State → Label → Prop} {property : State → Prop}
    (always : machine.Always property state labels)
    (guarded : ∀ state label, property state → guard state label) :
    machine.Along guard state labels := by
  induction labels generalizing state with
  | nil => trivial
  | cons label labels ih =>
      exact fun next taken => ⟨guarded state label always.1, ih (always.2 next taken)⟩

/-- What grows by one at each step at most stays below a limit that the number
of labels keeps to. -/
theorem along_small {limit : Nat} (size : State → Nat)
    (grows : ∀ state label next, machine.step state label = some next → size next ≤ size state + 1)
    (room : size state + labels.length < limit) :
    machine.Along (fun state _ => size state + 1 < limit) state labels := by
  induction labels generalizing state with
  | nil => trivial
  | cons label labels ih =>
      intro next taken
      have grown := grows state label next taken
      rw [List.length_cons] at room
      exact ⟨by omega, ih (by omega)⟩

/-! ## What later states keep -/

/-- Every state of the run stands in the relation to every later one. -/
def Ordered (machine : Machine State Label) (relation : State → State → Prop) (state : State)
    (labels : List Label) : Prop :=
  ∀ before middle after earlier later, before ++ (middle ++ after) = labels →
    machine.run state before = some earlier → machine.run earlier middle = some later →
      relation earlier later

/-- A preorder relates every state to every later one exactly when each step
stays in it. -/
theorem ordered_iff_along {relation : State → State → Prop}
    (reflexive : ∀ state, relation state state)
    (transitive : ∀ first second third, relation first second → relation second third →
      relation first third) :
    machine.Ordered relation state labels ↔
      machine.Along (fun state label => ∀ next, machine.step state label = some next →
        relation state next) state labels := by
  constructor
  · intro ordered
    induction labels generalizing state with
    | nil => trivial
    | cons label labels ih =>
        intro next taken
        refine ⟨fun other enabled => ?_, ih ?_⟩
        · exact ordered [] [label] labels state other rfl rfl (run_cons_of_step enabled)
        · intro before middle after earlier later split reached continued
          refine ordered (label :: before) middle after earlier later (by rw [← split]; rfl) ?_
            continued
          exact (run_cons_of_step taken).trans reached
  · intro along before
    induction before generalizing state labels with
    | cons label before ih =>
        intro middle after earlier later split reached continued
        subst split
        obtain ⟨next, taken, reached⟩ := Option.bind_eq_some_iff.mp reached
        exact ih (along next taken).2 middle after earlier later rfl reached continued
    | nil =>
        intro middle
        induction middle generalizing state labels with
        | nil =>
            intro after earlier later _ reached continued
            cases reached
            cases continued
            exact reflexive state
        | cons label middle ih =>
            intro after earlier later split reached continued
            subst split
            cases reached
            obtain ⟨next, taken, continued⟩ := Option.bind_eq_some_iff.mp continued
            obtain ⟨step, along⟩ := along next taken
            exact transitive _ _ _ (step next taken)
              (ih along after next later rfl rfl continued)

/-! ## Machines that take every label -/

section OfFunction

variable {update : State → Label → State} {guard : State → Label → Prop}

theorem always_ofFunction (invariant : State → Prop)
    (kept : ∀ state label, invariant state → invariant (update state label))
    (start : invariant state) : (ofFunction update).Always invariant state labels := by
  apply always_of_step invariant ?_ start
  intro state label next holds taken
  cases taken
  exact kept state label holds

/-- What an invariant implies of every step holds along the whole run. -/
theorem along_ofFunction (invariant : State → Prop)
    (kept : ∀ state label, invariant state → invariant (update state label))
    (guarded : ∀ state label, invariant state → guard state label)
    (start : invariant state) : (ofFunction update).Along guard state labels := by
  induction labels generalizing state with
  | nil => trivial
  | cons label labels ih =>
      exact .cons rfl (guarded state label start) (ih (kept state label start))

theorem along_ofFunction_iff_along {other : State → Label → Prop} (invariant : State → Prop)
    (agree : ∀ state label, invariant state → (guard state label ↔ other state label))
    (kept : ∀ state label, invariant state → other state label → invariant (update state label))
    (start : invariant state) :
    (ofFunction update).Along guard state labels ↔ (ofFunction update).Along other state labels := by
  apply along_iff_along invariant (fun state label _ holds _ => agree state label holds) ?_ start
  intro state label next holds allowed taken
  cases taken
  exact kept state label holds allowed

theorem along_ofFunction_iff_forall_mem {allowed : Label → Prop} :
    (ofFunction update).Along (fun _ label => allowed label) state labels ↔
      ∀ label ∈ labels, allowed label := by
  refine ⟨fun along => ?_, along_of_forall_mem⟩
  induction labels generalizing state with
  | nil => exact fun label member => nomatch member
  | cons label labels ih =>
      obtain ⟨first, rest⟩ := along (update state label) rfl
      exact List.forall_mem_cons.mpr ⟨first, ih rest⟩

theorem always_ofFunction_iff_along {property : State → Prop} (invariant : State → Prop)
    (sound : ∀ state, invariant state → property state)
    (kept : ∀ state label, invariant state → guard state label → invariant (update state label))
    (exact : ∀ state label, invariant state → ¬ guard state label →
      ¬ property (update state label))
    (start : invariant state) :
    (ofFunction update).Always property state labels ↔
      (ofFunction update).Along guard state labels := by
  apply always_iff_along invariant sound ?_ ?_ start
  · intro state label next holds guarded taken
    cases taken
    exact kept state label holds guarded
  · intro state label next holds unguarded taken
    cases taken
    exact exact state label holds unguarded

end OfFunction

/-! ## Fallible folds -/

/-- The invariant rule of a fold that may fail. -/
theorem keeps_foldlM {Item Error : Type v} {attempt : State → Item → Except Error State}
    {Keeps : State → Prop} {items : List Item} (holds : Keeps state)
    (folded : items.foldlM attempt state = .ok final)
    (kept : ∀ item ∈ items, ∀ state next, attempt state item = .ok next → Keeps state →
      Keeps next) : Keeps final := by
  induction items generalizing state with
  | nil =>
      cases folded
      exact holds
  | cons item rest ih =>
      rw [List.foldlM_cons] at folded
      cases first : attempt state item with
      | error error =>
          rw [first] at folded
          cases folded
      | ok next =>
          rw [first] at folded
          exact ih (kept item List.mem_cons_self state next first holds) folded
            fun other member => kept other (List.mem_cons_of_mem item member)

end Machine

end Evergreen
