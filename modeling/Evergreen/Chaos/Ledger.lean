import Evergreen.Chaos.Orchestrator

namespace Evergreen.Chaos

/-! # Every experiment is accounted for

Beside the orchestrator a record of what was started.  Stopping an experiment
leaves it among the active ones; only its completion and the end of its time
move it to the history.
-/

inductive OrchestratorCall where
  | setEnabled (enabled : Bool)
  | setBlastRadiusLimit (limit : Float)
  | startExperiment (name : String) (faultType : FaultType) (target : String) (blastRadius : Float)
      (durationSecs : Nat) (now : Int)
  | stopExperiment (id : String) (now : Int)
  | stopAll (now : String → Int)
  | completeExperiment (id : String) (success : Bool) (now : Int)
  | registerSchedule (experimentId cron : String) (maxRuns : Option Nat)
  | recordScheduledRun (experimentId : String)
  | tick (now : Int) (order : List String)

def ChaosOrchestrator.perform (orchestrator : ChaosOrchestrator) :
    OrchestratorCall → Option ChaosOrchestrator
  | .setEnabled enabled => some { orchestrator with enabled }
  | .setBlastRadiusLimit limit => some (orchestrator.setBlastRadiusLimit limit)
  | .startExperiment name faultType target blastRadius durationSecs now => some
      (orchestrator.startExperiment name faultType target blastRadius durationSecs now).1
  | .stopExperiment id now => some (orchestrator.stopExperiment id now).1
  | .stopAll now => some (orchestrator.stopAll now)
  | .completeExperiment id success now => some (orchestrator.completeExperiment id success now).1
  | .registerSchedule experimentId cron maxRuns =>
      some (orchestrator.registerSchedule experimentId cron maxRuns)
  | .recordScheduledRun experimentId => some (orchestrator.recordScheduledRun experimentId)
  | .tick now order => orchestrator.tick now order

/-- What an experiment is from its start on. -/
structure Launch where
  id : String
  name : String
  faultType : FaultType
  target : String
  startedAt : Option Int
deriving DecidableEq, Repr

def ChaosExperiment.launch (experiment : ChaosExperiment) : Launch where
  id := experiment.id
  name := experiment.name
  faultType := experiment.faultType
  target := experiment.target
  startedAt := experiment.startedAt

def ExperimentResult.launch (result : ExperimentResult) : Launch where
  id := result.experimentId
  name := result.name
  faultType := result.faultType
  target := result.target
  startedAt := result.startedAt

/-- What a call starts. -/
def launched (orchestrator : ChaosOrchestrator) : OrchestratorCall → List Launch
  | .startExperiment name faultType target _ _ now =>
      if orchestrator.enabled then
        [{ id := experimentId ((orchestrator.experimentCounter + 1) % 2 ^ 64)
           name, faultType, target, startedAt := some now }]
      else []
  | _ => []

structure Recorded where
  orchestrator : ChaosOrchestrator
  launches : List Launch := []

def orchestration : Machine Recorded OrchestratorCall where
  step recorded call := (recorded.orchestrator.perform call).map fun orchestrator =>
    { orchestrator, launches := recorded.launches ++ launched recorded.orchestrator call }

/-- Everything that was started is active or in the history, once and as it was
started, under an id of its own.  No call ever counts a fault. -/
structure Ledger (recorded : Recorded) : Prop where
  accounted : (recorded.orchestrator.activeExperiments.map ChaosExperiment.launch ++
    recorded.orchestrator.experimentHistory.map ExperimentResult.launch).Perm recorded.launches
  ids : recorded.launches.map Launch.id =
    (List.range' 1 recorded.launches.length).map experimentId
  counter : recorded.orchestrator.experimentCounter = recorded.launches.length
  faultless : ∀ experiment ∈ recorded.orchestrator.activeExperiments, experiment.faultsInjected = 0
  total : recorded.orchestrator.totalFaultsInjected = 0

/-- A tick completes the enabled experiments whose time is up, and leaves every
other one as it is. -/
def TicksExactly (recorded : Recorded) : OrchestratorCall → Prop
  | .tick now order => ∀ next, recorded.orchestrator.tick now order = some next →
      next.activeExperiments = recorded.orchestrator.activeExperiments.filter
          (fun experiment => experiment.expired now ≠ some true) ∧
        next.experimentHistory = recorded.orchestrator.experimentHistory ++ order.filterMap
          fun id => (recorded.orchestrator.getExperiment id).map fun experiment =>
            (experiment.stopAt now).result now true
  | _ => True

variable {orchestrator next : ChaosOrchestrator} {recorded later : Recorded}
variable {experiment : ChaosExperiment} {call : OrchestratorCall} {calls : List OrchestratorCall}
variable {id other : String} {now : Int} {success : Bool}

/-! ## Ids -/

theorem experimentId_injective {first second : Nat}
    (same : experimentId first = experimentId second) : first = second :=
  Text.padDecimal_injective ((String.append_right_inj _).mp same)

theorem notMem_numbered {name : Nat → String} (injective : Function.Injective name) {count : Nat} :
    name (count + 1) ∉ (List.range' 1 count).map name := by
  intro listed
  obtain ⟨number, within, numbered⟩ := List.mem_map.mp listed
  have taken : number = count + 1 := injective numbered
  have bound := (List.mem_range'_1.mp within).2
  omega

theorem Ledger.nodup_launches (ledger : Ledger recorded) :
    (recorded.launches.map Launch.id).Nodup := by
  rw [ledger.ids]
  exact List.Nodup.map (fun _ _ => experimentId_injective) List.nodup_range'

theorem Ledger.nodup (ledger : Ledger recorded) :
    (recorded.orchestrator.activeExperiments.map (·.id)).Nodup := by
  have whole := (ledger.accounted.map Launch.id).nodup_iff.mpr ledger.nodup_launches
  rw [List.map_append, List.map_map] at whole
  exact (List.nodup_append.mp whole).1

theorem Ledger.fresh (ledger : Ledger recorded)
    (member : experiment ∈ recorded.orchestrator.activeExperiments) :
    experiment.id ≠ experimentId (recorded.launches.length + 1) := by
  intro same
  have launched : experiment.launch ∈ recorded.launches :=
    ledger.accounted.subset (List.mem_append_left _ (List.mem_map_of_mem member))
  have listed : experiment.id ∈ recorded.launches.map Launch.id := List.mem_map_of_mem launched
  rw [ledger.ids, same] at listed
  exact notMem_numbered (fun _ _ => experimentId_injective) listed

theorem getExperiment_eq_some (unique : (orchestrator.activeExperiments.map (·.id)).Nodup) :
    orchestrator.getExperiment id = some experiment ↔
      experiment ∈ orchestrator.activeExperiments ∧ experiment.id = id :=
  KeyedList.find?_eq_some unique

/-! ## What the calls keep -/

@[simp] theorem stopAt_id : (experiment.stopAt now).id = experiment.id := rfl

@[simp] theorem stopAt_launch : (experiment.stopAt now).launch = experiment.launch := rfl

/-- A call that starts nothing and moves nothing. -/
theorem Ledger.keep (ledger : Ledger recorded)
    (active : next.activeExperiments.map ChaosExperiment.launch =
      recorded.orchestrator.activeExperiments.map ChaosExperiment.launch)
    (history : next.experimentHistory = recorded.orchestrator.experimentHistory)
    (counter : next.experimentCounter = recorded.orchestrator.experimentCounter)
    (total : next.totalFaultsInjected = recorded.orchestrator.totalFaultsInjected)
    (faultless : ∀ experiment ∈ next.activeExperiments, experiment.faultsInjected = 0) :
    Ledger { recorded with orchestrator := next } where
  accounted := by
    rw [active, history]
    exact ledger.accounted
  ids := ledger.ids
  counter := counter.trans ledger.counter
  faultless := faultless
  total := total.trans ledger.total

theorem Ledger.stop (ledger : Ledger recorded) (id : String) (now : Int) :
    Ledger { recorded with orchestrator := recorded.orchestrator.update id (·.stopAt now) } :=
  ledger.keep (KeyedList.map_update fun _ => rfl) rfl rfl rfl
    (KeyedList.forall_mem_update (fun _ faultless => faultless) ledger.faultless)

theorem Ledger.stopAll (ledger : Ledger recorded) {time : String → Int} (ids : List String) :
    Ledger { recorded with
      orchestrator := ids.foldl
        (fun orchestrator id => (orchestrator.stopExperiment id (time id)).1)
        recorded.orchestrator } := by
  induction ids generalizing recorded with
  | nil => exact ledger
  | cons id ids ih => exact ih (ledger.stop id (time id))

/-- The experiment goes from the active ones to the end of the history. -/
theorem completeExperiment_of_found (found : orchestrator.getExperiment id = some experiment) :
    (orchestrator.completeExperiment id success now).1 = { orchestrator with
      activeExperiments := orchestrator.activeExperiments.filter (·.id ≠ id)
      experimentHistory := orchestrator.experimentHistory ++ [experiment.result now success]
      totalFaultsInjected :=
        (orchestrator.totalFaultsInjected + experiment.faultsInjected) % 2 ^ 64 } := by
  rw [ChaosOrchestrator.completeExperiment, found]

theorem completeExperiment_of_absent (absent : orchestrator.getExperiment id = none) :
    (orchestrator.completeExperiment id success now).1 = orchestrator := by
  rw [ChaosOrchestrator.completeExperiment, absent]

theorem Ledger.complete (ledger : Ledger recorded) (id : String) (success : Bool) (now : Int) :
    Ledger { recorded with
      orchestrator := (recorded.orchestrator.completeExperiment id success now).1 } := by
  cases found : recorded.orchestrator.getExperiment id with
  | none =>
      rw [completeExperiment_of_absent found]
      exact ledger
  | some experiment =>
      rw [completeExperiment_of_found found]
      obtain ⟨member, rfl⟩ := (getExperiment_eq_some ledger.nodup).mp found
      refine ⟨?_, ledger.ids, ledger.counter, ?_, ?_⟩
      · have moved := (KeyedList.perm_cons_filter ledger.nodup member).map ChaosExperiment.launch
        rw [List.map_cons] at moved
        refine List.Perm.trans ?_ ((moved.symm.append_right _).trans ledger.accounted)
        rw [List.map_append, List.map_singleton, ← List.append_assoc]
        exact (List.perm_append_singleton _ _)
      · exact fun other inside => ledger.faultless other (List.mem_of_mem_filter inside)
      · change (recorded.orchestrator.totalFaultsInjected + experiment.faultsInjected) % 2 ^ 64 = 0
        rw [ledger.total, ledger.faultless experiment member]
        rfl

theorem Ledger.expire (ledger : Ledger recorded) (now : Int) (id : String) :
    Ledger { recorded with orchestrator := recorded.orchestrator.expire now id } :=
  (ledger.stop id now).complete id true now

theorem Ledger.expireAll (ledger : Ledger recorded) (now : Int) (ids : List String) :
    Ledger { recorded with
      orchestrator := ids.foldl (fun orchestrator id => orchestrator.expire now id)
        recorded.orchestrator } := by
  induction ids generalizing recorded with
  | nil => exact ledger
  | cons id ids ih => exact ih (ledger.expire now id)

theorem tick_eq_some {order : List String} (taken : orchestrator.tick now order = some next) :
    order.Perm ((orchestrator.activeExperiments.filter
      fun experiment => experiment.expired now = some true).map (·.id)) ∧
      next = order.foldl (fun orchestrator id => orchestrator.expire now id) orchestrator := by
  obtain ⟨expired, found, taken⟩ := Option.bind_eq_some_iff.mp taken
  obtain ⟨_, same⟩ := Option.ite_none_right_eq_some.mp found
  cases same
  obtain ⟨permuted, same⟩ := Option.ite_none_right_eq_some.mp taken
  cases same
  exact ⟨List.isPerm_iff.mp permuted, rfl⟩

/-! ## Starting -/

def Fits (recorded : Recorded) (_call : OrchestratorCall) : Prop :=
  recorded.launches.length + 1 < 2 ^ 64

theorem Ledger.start (ledger : Ledger recorded) {name target : String} {faultType : FaultType}
    {blastRadius : Float} {durationSecs : Nat} (fits : recorded.launches.length + 1 < 2 ^ 64) :
    Ledger {
      orchestrator := (recorded.orchestrator.startExperiment name faultType target blastRadius
        durationSecs now).1
      launches := recorded.launches ++ launched recorded.orchestrator
        (.startExperiment name faultType target blastRadius durationSecs now) } := by
  have next : (recorded.orchestrator.experimentCounter + 1) % 2 ^ 64 =
      recorded.launches.length + 1 := by
    rw [ledger.counter]
    exact Nat.mod_eq_of_lt fits
  cases enabled : recorded.orchestrator.enabled with
  | false =>
      simp only [ChaosOrchestrator.startExperiment, launched, enabled, Bool.false_eq_true, if_false,
        List.append_nil]
      exact ledger
  | true =>
      simp only [ChaosOrchestrator.startExperiment, launched, enabled, if_true, next]
      have kept : recorded.orchestrator.activeExperiments.filter
          (fun experiment => experiment.id ≠ experimentId (recorded.launches.length + 1)) =
          recorded.orchestrator.activeExperiments :=
        List.filter_eq_self.mpr fun experiment member => decide_eq_true (ledger.fresh member)
      refine ⟨?_, ?_, ?_, ?_, ledger.total⟩
      · simp only [kept, List.map_append, List.map_singleton, List.append_assoc]
        refine List.Perm.trans ?_ (ledger.accounted.append_right _)
        rw [List.append_assoc]
        exact (List.perm_append_comm).append_left _
      · rw [List.length_append, List.length_singleton, List.range'_concat, List.map_append,
          List.map_append, ledger.ids, Nat.add_comm recorded.launches.length]
        simp
      · simp
      · intro experiment member
        rw [kept] at member
        rcases List.mem_append.mp member with earlier | new
        · exact ledger.faultless experiment earlier
        · rw [List.mem_singleton.mp new]

/-- A call that starts nothing adds nothing to the record. -/
theorem Ledger.silent (ledger : Ledger { recorded with orchestrator := next }) :
    Ledger { orchestrator := next, launches := recorded.launches ++ [] } := by
  rw [List.append_nil]
  exact ledger

theorem Ledger.step (ledger : Ledger recorded) (fits : Fits recorded call)
    (taken : orchestration.step recorded call = some later) : Ledger later := by
  obtain ⟨orchestrator, performed, rfl⟩ := Option.map_eq_some_iff.mp taken
  cases call with
  | startExperiment name faultType target blastRadius durationSecs now =>
      cases performed
      exact ledger.start fits
  | stopExperiment id now =>
      cases performed
      exact (ledger.stop id now).silent
  | stopAll time =>
      cases performed
      exact (ledger.stopAll _).silent
  | completeExperiment id success now =>
      cases performed
      exact (ledger.complete id success now).silent
  | tick now order =>
      obtain ⟨_, rfl⟩ := tick_eq_some performed
      exact (ledger.expireAll now order).silent
  | _ =>
      cases performed
      refine Ledger.silent ?_
      exact ledger.keep rfl rfl rfl rfl ledger.faultless

/-! ## The history only grows -/

theorem history_complete (orchestrator : ChaosOrchestrator) (id : String) (success : Bool)
    (now : Int) : orchestrator.experimentHistory <+:
      (orchestrator.completeExperiment id success now).1.experimentHistory := by
  cases found : orchestrator.getExperiment id with
  | none =>
      have same : (orchestrator.completeExperiment id success now).1 = orchestrator :=
        completeExperiment_of_absent found
      exact same.symm ▸ List.prefix_refl orchestrator.experimentHistory
  | some experiment =>
      rw [completeExperiment_of_found found]
      exact List.prefix_append _ _

theorem history_foldl {Item : Type} {change : ChaosOrchestrator → Item → ChaosOrchestrator}
    (grows : ∀ orchestrator item,
      orchestrator.experimentHistory <+: (change orchestrator item).experimentHistory)
    (orchestrator : ChaosOrchestrator) (items : List Item) :
    orchestrator.experimentHistory <+: (items.foldl change orchestrator).experimentHistory := by
  induction items generalizing orchestrator with
  | nil => exact List.prefix_refl _
  | cons item items ih => exact (grows orchestrator item).trans (ih (change orchestrator item))

theorem history_perform (performed : orchestrator.perform call = some next) :
    orchestrator.experimentHistory <+: next.experimentHistory := by
  cases call with
  | startExperiment name faultType target blastRadius durationSecs now =>
      cases performed
      unfold ChaosOrchestrator.startExperiment
      split_ifs <;> exact List.prefix_refl _
  | stopAll time =>
      cases performed
      apply history_foldl
      exact fun _ _ => List.prefix_refl _
  | completeExperiment id success now =>
      cases performed
      exact history_complete orchestrator id success now
  | tick now order =>
      obtain ⟨_, rfl⟩ := tick_eq_some performed
      apply history_foldl
      exact fun orchestrator id =>
        history_complete (orchestrator.update id (·.stopAt now)) id true now
  | _ =>
      cases performed
      exact List.prefix_refl _

/-! ## Ticks -/

theorem expire_eq (found : orchestrator.getExperiment id = some experiment) :
    (orchestrator.expire now id).activeExperiments =
        orchestrator.activeExperiments.filter (·.id ≠ id) ∧
      (orchestrator.expire now id).experimentHistory =
        orchestrator.experimentHistory ++ [(experiment.stopAt now).result now true] := by
  have stopped : (orchestrator.update id (·.stopAt now)).getExperiment id =
      some (experiment.stopAt now) := by
    have kept : ∀ experiment : ChaosExperiment, (experiment.stopAt now).id = experiment.id :=
      fun _ => rfl
    exact (KeyedList.find?_update kept).trans (congrArg (Option.map _) found)
  rw [ChaosOrchestrator.expire, completeExperiment_of_found stopped]
  exact ⟨KeyedList.filter_update fun _ => rfl, rfl⟩

/-- The order in which the experiments expire is the order of their records. -/
theorem foldl_expire {order : List String} (distinct : order.Nodup)
    (active : ∀ id ∈ order, (orchestrator.getExperiment id).isSome) :
    (order.foldl (fun orchestrator id => orchestrator.expire now id) orchestrator).activeExperiments =
        orchestrator.activeExperiments.filter (·.id ∉ order) ∧
      (order.foldl (fun orchestrator id => orchestrator.expire now id)
          orchestrator).experimentHistory =
        orchestrator.experimentHistory ++ order.filterMap
          fun id => (orchestrator.getExperiment id).map fun experiment =>
            (experiment.stopAt now).result now true := by
  induction order generalizing orchestrator with
  | nil => simp
  | cons id order ih =>
      obtain ⟨absent, distinct⟩ := List.nodup_cons.mp distinct
      obtain ⟨experiment, found⟩ := Option.isSome_iff_exists.mp (active id List.mem_cons_self)
      obtain ⟨rest, history⟩ := @expire_eq orchestrator experiment id now found
      have others : ∀ other ∈ order, (orchestrator.expire now id).getExperiment other =
          orchestrator.getExperiment other := by
        intro other member
        rw [ChaosOrchestrator.getExperiment, rest]
        exact KeyedList.find?_filter_ne fun same => absent (same ▸ member)
      have still : ∀ other ∈ order,
          ((orchestrator.expire now id).getExperiment other).isSome := by
        intro other member
        rw [others other member]
        exact active other (List.mem_cons_of_mem _ member)
      obtain ⟨left, recorded⟩ := ih distinct still
      rw [List.foldl_cons]
      refine ⟨?_, ?_⟩
      · rw [left, rest, List.filter_filter]
        refine List.filter_congr fun experiment _ => ?_
        simp only [List.mem_cons, not_or, Bool.decide_and]
        exact Bool.and_comm _ _
      · rw [recorded, history, List.append_assoc, List.filterMap_cons, found]
        refine congrArg (orchestrator.experimentHistory ++ _ :: ·) ?_
        exact List.filterMap_congr fun other member => by rw [others other member]

theorem Ledger.ticksExactly (ledger : Ledger recorded) : TicksExactly recorded call := by
  cases call with
  | tick now order =>
      intro next taken
      obtain ⟨permuted, rfl⟩ := tick_eq_some taken
      have distinct : order.Nodup := permuted.nodup_iff.mpr
        (ledger.nodup.sublist (List.filter_sublist.map _))
      have active : ∀ id ∈ order, (recorded.orchestrator.getExperiment id).isSome := by
        intro id member
        obtain ⟨experiment, inside, named⟩ := List.mem_map.mp (permuted.subset member)
        have found := (getExperiment_eq_some ledger.nodup).mpr ⟨List.mem_of_mem_filter inside, named⟩
        rw [found]
        rfl
      obtain ⟨left, history⟩ := @foldl_expire recorded.orchestrator now order distinct active
      refine ⟨left.trans (List.filter_congr fun experiment member => ?_), history⟩
      have named : experiment.id ∈ order ↔ experiment.expired now = some true := by
        rw [permuted.mem_iff, List.mem_map]
        constructor
        · rintro ⟨other, inside, same⟩
          obtain ⟨there, expired⟩ := List.mem_filter.mp inside
          rw [← List.inj_on_of_nodup_map ledger.nodup there member same]
          exact of_decide_eq_true expired
        · exact fun expired => ⟨experiment, List.mem_filter.mpr ⟨member, decide_eq_true expired⟩, rfl⟩
      simp only [ne_eq, named]
  | _ => trivial

/-! ## The runs -/

def Recorded.start (enabled : Bool) : Recorded where
  orchestrator := { enabled }

theorem ledger_start (enabled : Bool) : Ledger (.start enabled) :=
  ⟨List.Perm.refl _, rfl, rfl, fun _ member => absurd member List.not_mem_nil, rfl⟩

theorem launches_grow (taken : orchestration.step recorded call = some later) :
    later.launches.length ≤ recorded.launches.length + 1 := by
  obtain ⟨orchestrator, _, rfl⟩ := Option.map_eq_some_iff.mp taken
  rw [List.length_append]
  apply Nat.add_le_add_left
  unfold launched
  split
  · split_ifs
    · exact Nat.le_refl 1
    · exact Nat.zero_le 1
  · exact Nat.zero_le 1

/-- No run loses an experiment, starts two under one id, or takes a record back,
and each tick completes exactly what is due. -/
theorem orchestration_ledger (enabled : Bool) (calls : List OrchestratorCall)
    (few : calls.length < 2 ^ 64) :
    orchestration.Always Ledger (.start enabled) calls ∧
      orchestration.Ordered (fun earlier later => earlier.orchestrator.experimentHistory <+:
        later.orchestrator.experimentHistory) (.start enabled) calls ∧
      orchestration.Along TicksExactly (.start enabled) calls := by
  have fits : orchestration.Along Fits (.start enabled) calls :=
    Machine.along_small (fun recorded => recorded.launches.length)
      (fun _ _ _ taken => launches_grow taken) ((Nat.zero_add _).trans_lt few)
  have ledger := Machine.always_of_along Ledger (fun _ _ _ ledger fits taken => ledger.step fits taken)
    (ledger_start enabled) fits
  refine ⟨ledger, ?_, ledger.along fun _ _ ledger => ledger.ticksExactly⟩
  refine (Machine.ordered_iff_along ?_ ?_).mpr ?_
  · exact fun recorded => List.prefix_refl recorded.orchestrator.experimentHistory
  · exact fun _ _ _ first second => first.trans second
  refine Machine.along_of_all fun recorded call later taken => ?_
  obtain ⟨orchestrator, performed, rfl⟩ := Option.map_eq_some_iff.mp taken
  exact history_perform performed

/-- Two experiments, one of which is stopped before its time is up. -/
def twoExperiments : List OrchestratorCall :=
  [.startExperiment "cache" .latency "cache" 1 10 0, .startExperiment "queue" .error "queue" 1 10 0,
    .stopExperiment (experimentId 1) 5000000000, .tick 10000000000 [experimentId 2],
    .completeExperiment (experimentId 1) true 20000000000]

theorem orchestration_ledger_two : orchestration.Always Ledger (.start true) twoExperiments :=
  (orchestration_ledger true twoExperiments (by decide)).1

end Evergreen.Chaos
