import Evergreen.Chaos.Ledger
import Evergreen.Machine.Reactor

namespace Evergreen.Chaos

/-! # Injecting faults

`ChaosShim` decides for each request whether a fault is injected.  It keeps
experiments too, with targets and blast radii of their own, but asks its settings
and its rolls only.
-/

structure InjectionResult where
  injected : Bool
  faultType : FaultType
  reason : Option String
  delayMs : Nat
deriving DecidableEq, Repr

/-- The fields of `ChaosShim` that come from the environment or a setter. -/
structure ChaosSettings where
  enabled : Bool
  latencyMs : Nat
  errorRate : Float
  partition : Bool
  killProbability : Float
  target : String
  blastRadius : Float

/-- The map of experiments as a list in which no id occurs twice. -/
structure ChaosShim extends ChaosSettings where
  faultsInjected : Nat := 0
  faultsSuppressed : Nat := 0
  experiments : List ChaosExperiment := []
  experimentCounter : Nat := 0

/-- The values of `fastrand::f64`, where it is called. -/
structure Rolls where
  radius : Float
  error : Float

namespace ChaosSettings

variable (settings : ChaosSettings)

def targetMatches (requestTarget : String) : Bool :=
  settings.target = "all" || Text.eqIgnoreAsciiCase settings.target requestTarget

def activeFaultType : FaultType :=
  if settings.partition then .partition
  else if 0 < settings.latencyMs then .latency
  else if 0 < settings.errorRate then .error
  else if 0 < settings.killProbability then .kill
  else .latency

def setEnabled (enabled : Bool) : ChaosSettings := { settings with enabled }

def setErrorRate (rate : Float) : ChaosSettings := { settings with errorRate := clamp rate }

def setLatency (ms : Nat) : ChaosSettings := { settings with latencyMs := ms }

end ChaosSettings

def shimExperimentId (number : Nat) : String := "exp-" ++ Text.padDecimal 3 number

namespace ChaosShim

variable (shim : ChaosShim)

def startExperiment (name : String) (faultType : FaultType) (target : String) (blastRadius : Float)
    (durationSecs : Nat) (now : Int) : ChaosShim :=
  let counter := (shim.experimentCounter + 1) % 2 ^ 64
  { shim with
    experimentCounter := counter
    experiments := KeyedList.insert ChaosExperiment.id
      { id := shimExperimentId counter
        name, faultType, target, durationSecs
        enabled := true
        blastRadius := clamp blastRadius
        startedAt := some now
        endedAt := none
        faultsInjected := 0 } shim.experiments }

def getExperiment (id : String) : Option ChaosExperiment := shim.experiments.find? (·.id = id)

def stopExperiment (id : String) (now : Int) : ChaosShim × Bool :=
  ({ shim with
    experiments := KeyedList.update ChaosExperiment.id id (·.stopAt now) shim.experiments },
    (shim.getExperiment id).isSome)

/-- `none` is a panic. -/
def stopExpiredExperiments (now : Int) : Option ChaosShim :=
  if shim.experiments.all fun experiment => (experiment.expired now).isSome then
    some { shim with
      experiments := shim.experiments.map fun experiment =>
        if experiment.expired now = some true then experiment.stopAt now else experiment }
  else none

def suppress (faultType : FaultType) (reason : String) : ChaosShim × InjectionResult :=
  ({ shim with faultsSuppressed := (shim.faultsSuppressed + 1) % 2 ^ 64 },
    { injected := false, faultType, reason := some reason, delayMs := 0 })

/-- The rest of `evaluate`, once the expired experiments are stopped. -/
def decideFault (requestTarget : String) (rolls : Rolls) : ChaosShim × InjectionResult :=
  if !shim.targetMatches requestTarget then shim.suppress .latency "Target mismatch"
  else if shim.blastRadius < 1 ∧ shim.blastRadius < rolls.radius then
    shim.suppress .latency "Blast radius exclusion"
  else
    let faultType := shim.activeFaultType
    let delay := if faultType = .latency then shim.latencyMs else 0
    if faultType = .error ∧ shim.errorRate < rolls.error ∧ shim.errorRate < 1 then
      shim.suppress .error "Below error rate threshold"
    else ({ shim with faultsInjected := (shim.faultsInjected + 1) % 2 ^ 64 },
      { injected := true, faultType, reason := none, delayMs := delay })

def evaluate (requestTarget : String) (now : Int) (rolls : Rolls) :
    Option (ChaosShim × InjectionResult) :=
  if shim.enabled then
    (shim.stopExpiredExperiments now).map fun shim => shim.decideFault requestTarget rolls
  else some (shim.suppress .latency "Chaos disabled globally")

end ChaosShim

inductive ChaosCall where
  | startExperiment (name : String) (faultType : FaultType) (target : String) (blastRadius : Float)
      (durationSecs : Nat) (now : Int)
  | stopExperiment (id : String) (now : Int)
  | setEnabled (enabled : Bool)
  | setErrorRate (rate : Float)
  | setLatency (ms : Nat)
  | evaluate (requestTarget : String) (now : Int) (rolls : Rolls)

/-- The answer is that of `evaluate`. -/
def ChaosShim.perform (shim : ChaosShim) : ChaosCall → Option (ChaosShim × Option InjectionResult)
  | .startExperiment name faultType target blastRadius durationSecs now =>
      some (shim.startExperiment name faultType target blastRadius durationSecs now, none)
  | .stopExperiment id now => some ((shim.stopExperiment id now).1, none)
  | .setEnabled enabled =>
      some ({ shim with toChaosSettings := shim.toChaosSettings.setEnabled enabled }, none)
  | .setErrorRate rate =>
      some ({ shim with toChaosSettings := shim.toChaosSettings.setErrorRate rate }, none)
  | .setLatency ms =>
      some ({ shim with toChaosSettings := shim.toChaosSettings.setLatency ms }, none)
  | .evaluate requestTarget now rolls => (shim.evaluate requestTarget now rolls).map fun evaluated =>
      (evaluated.1, some evaluated.2)

/-! ## The settings alone -/

namespace ChaosSettings

variable (settings : ChaosSettings) (requestTarget : String) (rolls : Rolls)

/-- A request is not spared. -/
structure Exposes : Prop where
  enabled : settings.enabled = true
  targeted : settings.targetMatches requestTarget = true
  struck : settings.blastRadius < 1 → ¬ settings.blastRadius < rolls.radius
  fails : settings.activeFaultType = .error → settings.errorRate < rolls.error →
    ¬ settings.errorRate < 1

def exposed : InjectionResult where
  injected := true
  faultType := settings.activeFaultType
  reason := none
  delayMs := if settings.activeFaultType = .latency then settings.latencyMs else 0

/-- The first reason to spare a request. -/
def spared (faultType : FaultType) (reason : String) : InjectionResult where
  injected := false
  faultType := faultType
  reason := some reason
  delayMs := 0

def answer : InjectionResult :=
  if settings.enabled = false then spared .latency "Chaos disabled globally"
  else if settings.targetMatches requestTarget = false then spared .latency "Target mismatch"
  else if settings.blastRadius < 1 ∧ settings.blastRadius < rolls.radius then
    spared .latency "Blast radius exclusion"
  else if settings.activeFaultType = .error ∧ settings.errorRate < rolls.error ∧
      settings.errorRate < 1 then
    spared .error "Below error rate threshold"
  else settings.exposed

end ChaosSettings

/-- A shim without experiments. -/
def injector : Reactor ChaosSettings ChaosCall InjectionResult where
  react settings
    | .setEnabled enabled => (settings.setEnabled enabled, none)
    | .setErrorRate rate => (settings.setErrorRate rate, none)
    | .setLatency ms => (settings.setLatency ms, none)
    | .evaluate requestTarget _ rolls => (settings, some (settings.answer requestTarget rolls))
    | .startExperiment _ _ _ _ _ _ | .stopExperiment _ _ => (settings, none)

/-! ## Runs -/

def ChaosCall.launched (shim : ChaosShim) : ChaosCall → List Launch
  | .startExperiment name faultType target _ _ now =>
      [{ id := shimExperimentId ((shim.experimentCounter + 1) % 2 ^ 64)
         name, faultType, target, startedAt := some now }]
  | _ => []

/-- The shim, with what it was asked, what it answered and what it has started. -/
structure Trial where
  shim : ChaosShim
  calls : List ChaosCall := []
  results : List InjectionResult := []
  launches : List Launch := []

def Trial.start (settings : ChaosSettings) : Trial where
  shim := { toChaosSettings := settings }

def chaos : Machine Trial ChaosCall where
  step trial call := (trial.shim.perform call).map fun performed =>
    { shim := performed.1
      calls := trial.calls ++ [call]
      results := trial.results ++ performed.2.toList
      launches := trial.launches ++ call.launched trial.shim }

/-- The answers are those of a shim without experiments, each is counted once, and
every experiment that was started is kept as it was started, dated once it is
stopped, and without a fault. -/
structure Injects (settings : ChaosSettings) (trial : Trial) : Prop where
  inForce : trial.shim.toChaosSettings = injector.after settings trial.calls
  results : trial.results = injector.answers settings trial.calls
  injected : trial.shim.faultsInjected = trial.results.countP (·.injected) % 2 ^ 64
  suppressed : trial.shim.faultsSuppressed = trial.results.countP (!·.injected) % 2 ^ 64
  kept : trial.shim.experiments.map ChaosExperiment.launch = trial.launches
  ids : trial.launches.map Launch.id =
    (List.range' 1 trial.launches.length).map shimExperimentId
  counter : trial.shim.experimentCounter = trial.launches.length
  faultless : ∀ experiment ∈ trial.shim.experiments, experiment.faultsInjected = 0
  dated : ∀ experiment ∈ trial.shim.experiments, experiment.enabled = experiment.endedAt.isNone

/-- The duration is one that `Duration::seconds` takes. -/
def ChaosCall.Bounded : ChaosCall → Prop
  | .startExperiment _ _ _ _ durationSecs _ => (durationSeconds (asI64 durationSecs)).isSome = true
  | _ => True

variable {settings : ChaosSettings} {shim next : ChaosShim} {trial later : Trial} {call : ChaosCall}
variable {calls : List ChaosCall} {requestTarget : String} {rolls : Rolls} {now : Int}
variable {result : InjectionResult} {before after : List ChaosExperiment}

theorem answer_injected :
    (settings.answer requestTarget rolls).injected = true ↔ settings.Exposes requestTarget rolls := by
  unfold ChaosSettings.answer
  split_ifs with disabled elsewhere missed lucky
  · exact ⟨fun injected => absurd injected Bool.false_ne_true,
      fun exposes => absurd (exposes.enabled.symm.trans disabled) (by decide)⟩
  · exact ⟨fun injected => absurd injected Bool.false_ne_true,
      fun exposes => absurd (exposes.targeted.symm.trans elsewhere) (by decide)⟩
  · exact ⟨fun injected => absurd injected Bool.false_ne_true,
      fun exposes => absurd missed.2 (exposes.struck missed.1)⟩
  · exact ⟨fun injected => absurd injected Bool.false_ne_true,
      fun exposes => absurd lucky.2.2 (exposes.fails lucky.1 lucky.2.1)⟩
  · refine ⟨fun _ => ⟨?_, ?_, ?_, ?_⟩, fun _ => rfl⟩
    · exact eq_true_of_ne_false disabled
    · exact eq_true_of_ne_false elsewhere
    · exact fun within beyond => missed ⟨within, beyond⟩
    · exact fun fault beyond within => lucky ⟨fault, beyond, within⟩

/-! ## What stopping changes -/

/-- Some of the experiments are stopped. -/
def StopsSome (before after : List ChaosExperiment) : Prop :=
  ∃ change : ChaosExperiment → ChaosExperiment, after = before.map change ∧
    ∀ experiment, change experiment = experiment ∨ ∃ now, change experiment = experiment.stopAt now

namespace StopsSome

theorem refl (experiments : List ChaosExperiment) : StopsSome experiments experiments :=
  ⟨id, (List.map_id experiments).symm, fun _ => .inl rfl⟩

theorem launches (stops : StopsSome before after) :
    after.map ChaosExperiment.launch = before.map ChaosExperiment.launch := by
  obtain ⟨change, rfl, changes⟩ := stops
  rw [List.map_map]
  refine List.map_congr_left fun experiment _ => ?_
  rcases changes experiment with same | ⟨now, stopped⟩
  · exact congrArg ChaosExperiment.launch same
  · exact (congrArg ChaosExperiment.launch stopped).trans stopAt_launch

theorem forall_mem {Meets : ChaosExperiment → Prop} (stops : StopsSome before after)
    (kept : ∀ experiment now, Meets experiment → Meets (experiment.stopAt now))
    (meets : ∀ experiment ∈ before, Meets experiment) : ∀ experiment ∈ after, Meets experiment := by
  obtain ⟨change, rfl, changes⟩ := stops
  intro experiment member
  obtain ⟨earlier, inside, rfl⟩ := List.mem_map.mp member
  rcases changes earlier with same | ⟨now, stopped⟩
  · exact same.symm ▸ meets earlier inside
  · exact stopped.symm ▸ kept earlier now (meets earlier inside)

end StopsSome

theorem stopsSome_stopExperiment (id : String) :
    StopsSome shim.experiments (shim.stopExperiment id now).1.experiments := by
  refine ⟨_, rfl, fun experiment => ?_⟩
  split_ifs
  · exact .inr ⟨now, rfl⟩
  · exact .inl rfl

theorem stopExpiredExperiments_eq_some (stopped : shim.stopExpiredExperiments now = some next) :
    StopsSome shim.experiments next.experiments ∧
      next = { shim with experiments := next.experiments } := by
  obtain ⟨_, same⟩ := Option.ite_none_right_eq_some.mp stopped
  cases same
  refine ⟨⟨_, rfl, fun experiment => ?_⟩, rfl⟩
  split_ifs
  · exact .inr ⟨now, rfl⟩
  · exact .inl rfl

/-! ## One request -/

/-- An answer is counted. -/
def ChaosShim.count (shim : ChaosShim) (result : InjectionResult) : ChaosShim :=
  if result.injected then { shim with faultsInjected := (shim.faultsInjected + 1) % 2 ^ 64 }
  else { shim with faultsSuppressed := (shim.faultsSuppressed + 1) % 2 ^ 64 }

theorem decideFault_eq (enabled : shim.enabled = true) : shim.decideFault requestTarget rolls =
    (shim.count (shim.answer requestTarget rolls), shim.answer requestTarget rolls) := by
  unfold ChaosShim.decideFault ChaosSettings.answer
  simp only [Bool.not_eq_true', enabled, Bool.true_eq_false, if_false]
  split_ifs with elsewhere missed lucky late
  · rfl
  · rfl
  · rfl
  · rw [ChaosSettings.exposed, if_pos late]
    rfl
  · rw [ChaosSettings.exposed, if_neg late]
    rfl

theorem evaluate_eq_some
    (evaluated : shim.evaluate requestTarget now rolls = some (next, result)) :
    result = shim.answer requestTarget rolls ∧ ∃ experiments,
      StopsSome shim.experiments experiments ∧
        next = { shim with experiments }.count (shim.answer requestTarget rolls) := by
  unfold ChaosShim.evaluate at evaluated
  split_ifs at evaluated with enabled
  · obtain ⟨between, stopped, decided⟩ := Option.map_eq_some_iff.mp evaluated
    obtain ⟨stops, same⟩ := stopExpiredExperiments_eq_some stopped
    have decision := @decideFault_eq { shim with experiments := between.experiments } requestTarget
      rolls enabled
    rw [← same] at decision
    cases decision.symm.trans decided
    exact ⟨by rw [same], between.experiments, stops, by rw [same]⟩
  · cases evaluated
    have refused : shim.answer requestTarget rolls =
        ChaosSettings.spared .latency "Chaos disabled globally" := by
      rw [ChaosSettings.answer, if_pos (Bool.eq_false_iff.mpr enabled)]
    exact ⟨refused.symm, shim.experiments, .refl _, by rw [refused]; rfl⟩

theorem Injects.stop (injects : Injects settings trial) {experiments : List ChaosExperiment}
    (stops : StopsSome trial.shim.experiments experiments) :
    Injects settings { trial with shim := { trial.shim with experiments } } where
  inForce := injects.inForce
  results := injects.results
  injected := injects.injected
  suppressed := injects.suppressed
  kept := stops.launches.trans injects.kept
  ids := injects.ids
  counter := injects.counter
  faultless := stops.forall_mem (fun _ _ faultless => faultless) injects.faultless
  dated := stops.forall_mem (fun _ _ _ => rfl) injects.dated

/-- A call that answers nothing and starts nothing. -/
theorem Injects.silent (injects : Injects settings trial) (shim : ChaosShim)
    (answered : (injector.react trial.shim.toChaosSettings call) = (shim.toChaosSettings, none))
    (same : shim = { trial.shim with toChaosSettings := shim.toChaosSettings }) :
    Injects settings { trial with
      shim
      calls := trial.calls ++ [call]
      results := trial.results ++ []
      launches := trial.launches ++ [] } := by
  obtain ⟨inForce, results, injected, suppressed, kept, ids, counter, faultless, dated⟩ := injects
  rw [inForce] at answered
  rw [same]
  simp only [List.append_nil]
  refine ⟨?_, ?_, injected, suppressed, kept, ids, counter, faultless, dated⟩
  · rw [Reactor.after_concat, answered]
  · rw [Reactor.answers_concat, answered, ← results]
    exact (List.append_nil _).symm

theorem Injects.evaluate (injects : Injects settings trial) :
    Injects settings { trial with
      shim := trial.shim.count (trial.shim.answer requestTarget rolls)
      calls := trial.calls ++ [.evaluate requestTarget now rolls]
      results := trial.results ++ [trial.shim.answer requestTarget rolls]
      launches := trial.launches ++ [] } := by
  obtain ⟨inForce, results, injected, suppressed, kept, ids, counter, faultless, dated⟩ := injects
  simp only [List.append_nil]
  have answered : injector.answers settings (trial.calls ++ [.evaluate requestTarget now rolls]) =
      trial.results ++ [trial.shim.answer requestTarget rolls] := by
    rw [Reactor.answers_concat, ← results, ← inForce]
    rfl
  have settled : injector.after settings (trial.calls ++ [.evaluate requestTarget now rolls]) =
      trial.shim.toChaosSettings := by
    rw [Reactor.after_concat, ← inForce]
    rfl
  unfold ChaosShim.count
  split_ifs with exposed
  · refine ⟨settled.symm, answered.symm, ?_, ?_, kept, ids, counter, faultless, dated⟩
    · rw [List.countP_append, List.countP_singleton, if_pos exposed]
      change (trial.shim.faultsInjected + 1) % 2 ^ 64 = _
      rw [injected, Nat.mod_add_mod]
    · rw [List.countP_append, List.countP_singleton, if_neg (by simp [exposed]), Nat.add_zero]
      exact suppressed
  · refine ⟨settled.symm, answered.symm, ?_, ?_, kept, ids, counter, faultless, dated⟩
    · rw [List.countP_append, List.countP_singleton, if_neg exposed, Nat.add_zero]
      exact injected
    · rw [List.countP_append, List.countP_singleton, if_pos (by simp [exposed])]
      change (trial.shim.faultsSuppressed + 1) % 2 ^ 64 = _
      rw [suppressed, Nat.mod_add_mod]

/-! ## Starting -/

def Countable (trial : Trial) (_call : ChaosCall) : Prop := trial.launches.length + 1 < 2 ^ 64

theorem shimExperimentId_injective {first second : Nat}
    (same : shimExperimentId first = shimExperimentId second) : first = second :=
  Text.padDecimal_injective ((String.append_right_inj _).mp same)

theorem Injects.fresh (injects : Injects settings trial) {experiment : ChaosExperiment}
    (member : experiment ∈ trial.shim.experiments) :
    experiment.id ≠ shimExperimentId (trial.launches.length + 1) := by
  intro same
  have launched : experiment.launch ∈ trial.launches :=
    injects.kept ▸ List.mem_map_of_mem member
  have listed : experiment.id ∈ trial.launches.map Launch.id := List.mem_map_of_mem launched
  rw [injects.ids, same] at listed
  exact notMem_numbered (fun _ _ => shimExperimentId_injective) listed

theorem Injects.startExperiment (injects : Injects settings trial) {name target : String}
    {faultType : FaultType} {blastRadius : Float} {durationSecs : Nat}
    (countable : trial.launches.length + 1 < 2 ^ 64) :
    Injects settings { trial with
      shim := trial.shim.startExperiment name faultType target blastRadius durationSecs now
      calls := trial.calls ++ [.startExperiment name faultType target blastRadius durationSecs now]
      results := trial.results ++ []
      launches := trial.launches ++ (ChaosCall.startExperiment name faultType target blastRadius
        durationSecs now).launched trial.shim } := by
  have numbered : (trial.shim.experimentCounter + 1) % 2 ^ 64 = trial.launches.length + 1 := by
    rw [injects.counter]
    exact Nat.mod_eq_of_lt countable
  have spared : trial.shim.experiments.filter
      (fun other => other.id ≠ shimExperimentId (trial.launches.length + 1)) =
      trial.shim.experiments :=
    List.filter_eq_self.mpr fun other member => decide_eq_true (injects.fresh member)
  obtain ⟨inForce, results, injected, suppressed, kept, ids, counter, faultless, dated⟩ := injects
  simp only [ChaosShim.startExperiment, ChaosCall.launched, KeyedList.insert, numbered, spared,
    List.append_nil]
  refine ⟨?_, ?_, injected, suppressed, ?_, ?_, ?_, ?_, ?_⟩
  · rw [Reactor.after_concat, ← inForce]
    rfl
  · rw [Reactor.answers_concat, ← results]
    exact (List.append_nil _).symm
  · rw [List.map_append, kept]
    rfl
  · rw [List.length_append, List.length_singleton, List.range'_concat, List.map_append,
      List.map_append, ids, Nat.add_comm trial.launches.length]
    simp
  · simp
  · intro experiment member
    rcases List.mem_append.mp member with earlier | new
    · exact faultless experiment earlier
    · rw [List.mem_singleton.mp new]
  · intro experiment member
    rcases List.mem_append.mp member with earlier | new
    · exact dated experiment earlier
    · rw [List.mem_singleton.mp new]
      rfl

theorem Injects.step (injects : Injects settings trial) (countable : Countable trial call)
    (taken : chaos.step trial call = some later) : Injects settings later := by
  obtain ⟨⟨next, answered⟩, performed, rfl⟩ := Option.map_eq_some_iff.mp taken
  cases call with
  | startExperiment name faultType target blastRadius durationSecs now =>
      cases performed
      exact injects.startExperiment countable
  | stopExperiment id now =>
      cases performed
      exact (injects.stop (stopsSome_stopExperiment id)).silent _ rfl rfl
  | setEnabled enabled =>
      cases performed
      exact injects.silent _ rfl rfl
  | setErrorRate rate =>
      cases performed
      exact injects.silent _ rfl rfl
  | setLatency ms =>
      cases performed
      exact injects.silent _ rfl rfl
  | evaluate requestTarget now rolls =>
      obtain ⟨⟨next, result⟩, evaluated, same⟩ := Option.map_eq_some_iff.mp performed
      cases same
      obtain ⟨rfl, experiments, stops, rfl⟩ := evaluate_eq_some evaluated
      exact (injects.stop stops).evaluate

theorem launches_length_step (taken : chaos.step trial call = some later) :
    later.launches.length ≤ trial.launches.length + 1 := by
  obtain ⟨performed, _, rfl⟩ := Option.map_eq_some_iff.mp taken
  rw [List.length_append]
  refine Nat.add_le_add_left ?_ _
  cases call with
  | startExperiment _ _ _ _ _ _ => exact Nat.le_refl 1
  | _ => exact Nat.zero_le 1

/-! ## Durations -/

/-- No experiment lasts longer than `Duration::seconds` takes. -/
def ChaosShim.Bounded (shim : ChaosShim) : Prop :=
  ∀ experiment ∈ shim.experiments, (durationSeconds (asI64 experiment.durationSecs)).isSome = true

theorem ChaosExperiment.expired_isSome {experiment : ChaosExperiment}
    (bounded : (durationSeconds (asI64 experiment.durationSecs)).isSome = true) :
    (experiment.expired now).isSome = true := by
  unfold ChaosExperiment.expired
  split_ifs
  · cases experiment.startedAt with
    | none => rfl
    | some started => rw [Option.isSome_map, bounded]
  · rfl

theorem ChaosShim.Bounded.evaluate (bounded : shim.Bounded) :
    (shim.evaluate requestTarget now rolls).isSome = true := by
  unfold ChaosShim.evaluate
  split_ifs
  · rw [Option.isSome_map, ChaosShim.stopExpiredExperiments, if_pos]
    · rfl
    · exact List.all_eq_true.mpr fun experiment member =>
        ChaosExperiment.expired_isSome (bounded experiment member)
  · rfl

theorem ChaosShim.Bounded.stop (bounded : shim.Bounded)
    (stops : StopsSome shim.experiments next.experiments) : next.Bounded :=
  stops.forall_mem (fun _ _ bounded => bounded) bounded

theorem experiments_count : (shim.count result).experiments = shim.experiments := by
  unfold ChaosShim.count
  split_ifs <;> rfl

theorem ChaosShim.Bounded.perform (bounded : shim.Bounded) (short : call.Bounded) :
    ∃ next answered, shim.perform call = some (next, answered) ∧ next.Bounded := by
  cases call with
  | startExperiment name faultType target blastRadius durationSecs now =>
      refine ⟨_, _, rfl, fun experiment member => ?_⟩
      rcases List.mem_append.mp member with earlier | new
      · exact bounded experiment (List.mem_of_mem_filter earlier)
      · rw [List.mem_singleton.mp new]
        exact short
  | stopExperiment id now =>
      exact ⟨_, _, rfl, bounded.stop (stopsSome_stopExperiment id)⟩
  | setEnabled _ | setErrorRate _ | setLatency _ => exact ⟨_, _, rfl, bounded⟩
  | evaluate requestTarget now rolls =>
      obtain ⟨⟨next, result⟩, evaluated⟩ := Option.isSome_iff_exists.mp
        (@bounded.evaluate _ requestTarget rolls now)
      obtain ⟨_, experiments, stops, same⟩ := evaluate_eq_some evaluated
      refine ⟨next, some result, Option.map_eq_some_iff.mpr ⟨_, evaluated, rfl⟩, bounded.stop ?_⟩
      rw [same, experiments_count]
      exact stops

theorem run_isSome (bounded : trial.shim.Bounded) (short : ∀ call ∈ calls, call.Bounded) :
    (chaos.run trial calls).isSome = true := by
  induction calls generalizing trial with
  | nil => rfl
  | cons call rest ih =>
      obtain ⟨next, answered, performed, bounded⟩ := bounded.perform (short call List.mem_cons_self)
      have taken : chaos.step trial call = some _ := Option.map_eq_some_iff.mpr ⟨_, performed, rfl⟩
      rw [Machine.run_cons_of_step taken]
      exact ih bounded fun later member => short later (List.mem_cons_of_mem _ member)

def certainErrors : ChaosSettings where
  enabled := true
  latencyMs := 0
  errorRate := 1
  partition := false
  killProbability := 0
  target := "all"
  blastRadius := 1

end Evergreen.Chaos
