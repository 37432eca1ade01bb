import Evergreen.Machine.Run
import Evergreen.Webhooks.Shim

namespace Evergreen.Webhooks

/-! # Whom an alert is delivered to

A target is looked up by its name when its turn comes, and its backoff is never
looked at.
-/

inductive Event where
  | processAlert (alert : Alert) (reception : Reception)
  | clearDedupCache
  | cleanDedupCache (now : Nat)

namespace AlertingShim

variable (shim : AlertingShim)

def init : AlertingShim := { shim with httpClient := true }

def observe (checks : Bool) (shim : AlertingShim) : Event → AlertingShim
  | .processAlert alert reception => (shim.processAlert checks alert reception).2.1
  | .clearDedupCache => shim.clearDedupCache
  | .cleanDedupCache now => shim.cleanDedupCache now

/-- The webhooks that are routed to, with their places. -/
def targets (alert : Alert) : List (WebhookConfig × Nat) :=
  shim.webhooks.zipIdx.filter fun target => target.1.accepts alert.severity

/-- The shim when a turn comes. -/
def atTurn (checks : Bool) (alert : Alert) (reception : Reception) (turn : Nat) : AlertingShim :=
  ((shim.recordAlert alert reception.recorded).deliver checks reception.turns 0
    (((shim.targets alert).map (·.1.name)).take turn)).2.1

/-- The webhook at the place accepts the alert and is not in backoff when its turn
comes. -/
def Due (checks : Bool) (alert : Alert) (reception : Reception) (place : Nat) : Prop :=
  ∃ turn webhook, (shim.targets alert)[turn]? = some (webhook, place) ∧
    (shim.atTurn checks alert reception turn).isInBackoff webhook.name
      (reception.turns turn).now = false

/-- The end of the backoff after one more failure can be computed. -/
def Dated (checks : Bool) (name : String) (ended : Nat) : Prop :=
  let failures := ((shim.endpointStates name).getD {}).consecutiveFailures + 1
  ¬ (checks = true ∧ failures = 2 ^ 32) ∧
    ((shim.calculateBackoff checks (failures % 2 ^ 32)).bind (addSeconds ended)).isSome = true

end AlertingShim

def Turn.outcomes (turn : Turn) : List Bool :=
  Retry.attempts turn.delivered (webhookRetryCount + 1) 0

section

variable (checks : Bool) (shim : AlertingShim) (alert : Alert) (reception : Reception)

/-- The due webhooks are attempted and no others, each up to the limit and not
after a success, and counted once. -/
structure Delivers : Prop where
  returns : (shim.processAlert checks alert reception).1.isSome = true
  attempted : ∀ place,
    Retry.outcomesAt (shim.processAlert checks alert reception).2.2 place ≠ [] ↔
      shim.Due checks alert reception place
  bounded : ∀ place, (Retry.outcomesAt (shim.processAlert checks alert reception).2.2 place).length ≤
    webhookRetryCount + 1
  stops : ∀ place, Retry.Stops (Retry.outcomesAt (shim.processAlert checks alert reception).2.2 place)
  sent : (shim.processAlert checks alert reception).2.1.alertsSent = shim.alertsSent +
    ((shim.processAlert checks alert reception).2.2.map Prod.fst).dedup.countP fun place =>
      (Retry.outcomesAt (shim.processAlert checks alert reception).2.2 place).contains true
  failed : (shim.processAlert checks alert reception).2.1.alertsFailed = shim.alertsFailed +
    ((shim.processAlert checks alert reception).2.2.map Prod.fst).dedup.countP fun place =>
      !(Retry.outcomesAt (shim.processAlert checks alert reception).2.2 place).contains true

/-- Every target is the first webhook of its name and not in backoff, and if it
fails its next backoff can be dated. -/
structure Ready : Prop where
  first : ∀ webhook place, (webhook, place) ∈ shim.targets alert →
    shim.webhooks.findIdx? (·.name = webhook.name) = some place
  rested : ∀ turn webhook place, (shim.targets alert)[turn]? = some (webhook, place) →
    shim.isInBackoff webhook.name (reception.turns turn).now = false
  dated : ∀ turn webhook place, (shim.targets alert)[turn]? = some (webhook, place) →
    (∀ attempt ≤ webhookRetryCount, (reception.turns turn).delivered attempt = false) →
      shim.Dated checks webhook.name (reception.turns turn).ended

end

def DeliversStep (checks : Bool) (shim : AlertingShim) : Event → Prop
  | .processAlert alert reception =>
      shim.isDuplicate alert reception.now = false → Delivers checks shim alert reception
  | _ => True

def ReadyStep (checks : Bool) (shim : AlertingShim) : Event → Prop
  | .processAlert alert reception =>
      shim.isDuplicate alert reception.now = false → Ready checks shim alert reception
  | _ => True

def deliveries (checks : Bool) : Machine AlertingShim Event := .ofFunction (.observe checks)

variable {checks : Bool} {shim next : AlertingShim} {alert : Alert} {reception : Reception}
variable {name : String} {names : List String} {turns : Nat → Turn} {turn : Nat}

/-! ## What a turn leaves alone -/

/-- The configuration is the same, and so is what is known of an endpoint. -/
structure SameFor (name : String) (shim next : AlertingShim) : Prop where
  webhooks : next.webhooks = shim.webhooks
  backoffBase : next.backoffBase = shim.backoffBase
  backoffMax : next.backoffMax = shim.backoffMax
  httpClient : next.httpClient = shim.httpClient
  state : next.endpointStates name = shim.endpointStates name

theorem SameFor.trans {last : AlertingShim} (first : SameFor name shim next)
    (second : SameFor name next last) : SameFor name shim last where
  webhooks := second.webhooks.trans first.webhooks
  backoffBase := second.backoffBase.trans first.backoffBase
  backoffMax := second.backoffMax.trans first.backoffMax
  httpClient := second.httpClient.trans first.httpClient
  state := second.state.trans first.state

theorem sameFor_setEndpoint {other : String} (differs : name ≠ other) (state : EndpointState) :
    SameFor name shim (shim.setEndpoint other state) :=
  ⟨rfl, rfl, rfl, rfl, Function.update_of_ne differs _ _⟩

theorem recordFailure_setEndpoint (checks : Bool) (shim : AlertingShim) (name : String)
    (attempted ended : Nat) : ∃ state,
      (shim.recordFailure checks name attempted ended).2 = shim.setEndpoint name state := by
  unfold AlertingShim.recordFailure
  dsimp only
  split
  · exact ⟨_, rfl⟩
  · split
    · exact ⟨_, rfl⟩
    · exact ⟨_, rfl⟩

theorem sameFor_conclude {other : String} (differs : name ≠ other) (turn : Turn) (success : Bool) :
    SameFor name shim (shim.conclude checks turn other success).2 := by
  cases success with
  | true => exact ⟨rfl, rfl, rfl, rfl, Function.update_of_ne differs _ _⟩
  | false =>
      have counted : SameFor name shim { shim with alertsFailed := shim.alertsFailed + 1 } :=
        ⟨rfl, rfl, rfl, rfl, rfl⟩
      obtain ⟨state, recorded⟩ := recordFailure_setEndpoint checks
        { shim with alertsFailed := shim.alertsFailed + 1 } other turn.attempted turn.ended
      have concluded : (shim.conclude checks turn other false).2 = _ := recorded
      rw [concluded]
      exact counted.trans (sameFor_setEndpoint differs state)

theorem SameFor.isInBackoff (same : SameFor name shim next) (now : Nat) :
    next.isInBackoff name now = shim.isInBackoff name now := by
  rw [AlertingShim.isInBackoff, AlertingShim.isInBackoff, same.state]

theorem SameFor.dated_iff (same : SameFor name shim next) (ended : Nat) :
    next.Dated checks name ended ↔ shim.Dated checks name ended := by
  rw [AlertingShim.Dated, AlertingShim.Dated, AlertingShim.calculateBackoff,
    AlertingShim.calculateBackoff, same.state, same.backoffBase, same.backoffMax]

theorem conclude_counts (outcome : Turn) (success : Bool) :
    (shim.conclude checks outcome name success).2.webhooks = shim.webhooks ∧
      (shim.conclude checks outcome name success).2.httpClient = shim.httpClient ∧
      (shim.conclude checks outcome name success).2.alertsSent =
        shim.alertsSent + success.toNat ∧
      (shim.conclude checks outcome name success).2.alertsFailed =
        shim.alertsFailed + (!success).toNat := by
  cases success with
  | true => exact ⟨rfl, rfl, rfl, rfl⟩
  | false =>
      obtain ⟨state, recorded⟩ := recordFailure_setEndpoint checks
        { shim with alertsFailed := shim.alertsFailed + 1 } name outcome.attempted outcome.ended
      have concluded : (shim.conclude checks outcome name false).2 = _ := recorded
      rw [concluded]
      exact ⟨rfl, rfl, rfl, rfl⟩

theorem recordFailure_returns_iff {attempted ended : Nat} :
    (shim.recordFailure checks name attempted ended).1 = true ↔ shim.Dated checks name ended := by
  unfold AlertingShim.recordFailure AlertingShim.Dated
  dsimp only
  split
  · next overflows => exact iff_of_false Bool.false_ne_true fun dated => dated.1 overflows
  · next fits =>
    rw [and_iff_right fits]
    split
    · next missing =>
      rw [missing]
      exact .rfl
    · next later =>
      rw [later]
      exact .rfl

theorem conclude_returns_iff {outcome : Turn} {success : Bool} :
    (shim.conclude checks outcome name success).1 = true ↔
      (success = false → shim.Dated checks name outcome.ended) := by
  cases success with
  | true => exact iff_of_true rfl fun impossible => Bool.noConfusion impossible
  | false =>
      refine Iff.trans recordFailure_returns_iff ?_
      exact ⟨fun dated _ => dated, fun dated => dated rfl⟩

/-! ## The loop -/

variable {place : String → Nat}

theorem deliver_of_found {found : Nat}
    (lookup : shim.webhooks.findIdx? (·.name = name) = some found) :
    shim.deliver checks turns turn (name :: names) =
      let concluded := shim.conclude checks (turns turn) name ((turns turn).outcomes.contains true)
      let rest := concluded.2.deliver checks turns (turn + 1) names
      if concluded.1 then (rest.1, rest.2.1, (found, (turns turn).outcomes) :: rest.2.2)
      else (false, concluded.2, [(found, (turns turn).outcomes)]) := by
  rw [AlertingShim.deliver, lookup]
  dsimp only [Turn.outcomes]
  split
  · next stopped =>
    rw [stopped]
    rfl
  · next returned =>
    rw [returned]
    rfl

/-- What the loop knows of an endpoint changes with its own turns only. -/
theorem sameFor_deliver (absent : name ∉ names) :
    SameFor name shim (shim.deliver checks turns turn names).2.1 := by
  induction names generalizing shim turn with
  | nil => exact ⟨rfl, rfl, rfl, rfl, rfl⟩
  | cons other names ih =>
      obtain ⟨differs, absent⟩ := not_or.mp (mt List.mem_cons.mpr absent)
      cases lookup : shim.webhooks.findIdx? (·.name = other) with
      | none =>
          rw [AlertingShim.deliver, lookup]
          exact ih absent
      | some found =>
          have own := @sameFor_conclude checks shim name other differs (turns turn)
            ((turns turn).outcomes.contains true)
          rw [deliver_of_found lookup]
          dsimp only
          split
          · exact own.trans (ih absent)
          · exact own

theorem httpClient_deliver :
    (shim.deliver checks turns turn names).2.1.httpClient = shim.httpClient := by
  induction names generalizing shim turn with
  | nil => rfl
  | cons name names ih =>
      cases lookup : shim.webhooks.findIdx? (·.name = name) with
      | none =>
          rw [AlertingShim.deliver, lookup]
          exact ih
      | some found =>
          have own := (@conclude_counts checks shim name (turns turn)
            ((turns turn).outcomes.contains true)).2.1
          rw [deliver_of_found lookup]
          dsimp only
          split
          · exact ih.trans own
          · exact own

theorem deliver_alerts : (shim.deliver checks turns turn names).2.1.alertsSent = shim.alertsSent +
      (shim.deliver checks turns turn names).2.2.countP (fun round => round.2.contains true) ∧
    (shim.deliver checks turns turn names).2.1.alertsFailed = shim.alertsFailed +
      (shim.deliver checks turns turn names).2.2.countP (fun round => !round.2.contains true) := by
  induction names generalizing shim turn with
  | nil => exact ⟨rfl, rfl⟩
  | cons name names ih =>
      cases lookup : shim.webhooks.findIdx? (·.name = name) with
      | none =>
          rw [AlertingShim.deliver, lookup]
          exact ih
      | some found =>
          obtain ⟨_, _, sent, failed⟩ := @conclude_counts checks shim name (turns turn)
            ((turns turn).outcomes.contains true)
          rw [deliver_of_found lookup]
          dsimp only
          split
          · obtain ⟨sentLater, failedLater⟩ := @ih
              (shim.conclude checks (turns turn) name ((turns turn).outcomes.contains true)).2
              (turn + 1)
            rw [List.countP_cons, List.countP_cons, sentLater, failedLater, sent, failed]
            cases (turns turn).outcomes.contains true <;> refine ⟨?_, ?_⟩ <;> simp <;> omega
          · rw [sent, failed]
            cases success : (turns turn).outcomes.contains true <;>
              simp only [List.countP_singleton, success] <;> exact ⟨rfl, rfl⟩

theorem deliver_rounds (lookup : ∀ name ∈ names,
      shim.webhooks.findIdx? (·.name = name) = some (place name))
    (returned : (shim.deliver checks turns turn names).1 = true) :
    (shim.deliver checks turns turn names).2.2 =
      (names.zipIdx turn).map fun target => (place target.1, (turns target.2).outcomes) := by
  induction names generalizing shim turn with
  | nil => rfl
  | cons name names ih =>
      have own := @conclude_counts checks shim name (turns turn)
        ((turns turn).outcomes.contains true)
      rw [deliver_of_found (lookup name List.mem_cons_self)] at returned ⊢
      dsimp only at returned ⊢
      split at returned
      · next concluded =>
        rw [if_pos concluded, ih _ returned]
        · rfl
        · rw [own.1]
          exact fun other member => lookup other (List.mem_cons_of_mem _ member)
      · cases returned

theorem deliver_returns_iff (distinct : names.Nodup) (lookup : ∀ name ∈ names,
      shim.webhooks.findIdx? (·.name = name) = some (place name)) :
    (shim.deliver checks turns turn names).1 = true ↔
      ∀ index name, names[index]? = some name →
        (turns (turn + index)).outcomes.contains true = false →
          shim.Dated checks name (turns (turn + index)).ended := by
  induction names generalizing shim turn with
  | nil => exact iff_of_true rfl nofun
  | cons name names ih =>
      obtain ⟨fresh, distinct⟩ := List.nodup_cons.mp distinct
      have own := @conclude_returns_iff checks shim name (turns turn)
        ((turns turn).outcomes.contains true)
      have kept := @conclude_counts checks shim name (turns turn)
        ((turns turn).outcomes.contains true)
      have later : ∀ (index : Nat) other, names[index]? = some other → SameFor other shim
          (shim.conclude checks (turns turn) name ((turns turn).outcomes.contains true)).2 := by
        intro index other found
        have differs : other ≠ name := fun same => fresh (same ▸ List.mem_of_getElem? found)
        exact sameFor_conclude differs _ _
      rw [deliver_of_found (lookup name List.mem_cons_self)]
      dsimp only
      split
      · next returned =>
        rw [ih distinct (by
          rw [kept.1]
          exact fun other member => lookup other (List.mem_cons_of_mem _ member))]
        constructor
        · intro dated index other found failed
          cases index with
          | zero =>
              cases found
              exact own.mp returned failed
          | succ index =>
              rw [Nat.add_comm index, ← Nat.add_assoc] at failed ⊢
              exact ((later index other found).dated_iff _).mp (dated index other found failed)
        · intro dated index other found failed
          refine ((later index other found).dated_iff _).mpr ?_
          rw [Nat.add_assoc, Nat.add_comm 1] at failed ⊢
          exact dated (index + 1) other found failed
      · next stopped =>
        constructor
        · intro impossible
          cases impossible
        · intro dated
          exact absurd (own.mpr (dated 0 name rfl)) stopped

/-! ## The targets -/

theorem mem_targets {webhook : WebhookConfig} {place : Nat}
    (member : (webhook, place) ∈ shim.targets alert) :
    shim.webhooks[place]? = some webhook := by
  have listed := (List.mem_filter.mp member).1
  exact List.mem_zipIdx_iff_getElem?.mp listed

theorem targets_places (shim : AlertingShim) (alert : Alert) :
    ((shim.targets alert).map Prod.snd).Nodup := by
  have all : (shim.webhooks.zipIdx.map Prod.snd).Nodup := by
    rw [List.zipIdx_map_snd]
    exact List.nodup_range'
  exact all.sublist (List.filter_sublist.map _)

theorem targets_names (shim : AlertingShim) (alert : Alert) :
    (shim.route alert).map (·.name) = (shim.targets alert).map (·.1.name) := by
  have routed : shim.route alert = (shim.targets alert).map Prod.fst := by
    calc shim.webhooks.filter (·.accepts alert.severity)
        = (shim.webhooks.zipIdx.map Prod.fst).filter (·.accepts alert.severity) := by
          rw [List.zipIdx_map_fst]
      _ = (shim.targets alert).map Prod.fst := List.filter_map
  rw [routed, List.map_map]
  rfl

/-- Where a name is looked up. -/
def AlertingShim.lookup (shim : AlertingShim) (name : String) : Nat :=
  shim.webhooks.findIdx (·.name = name)

theorem findIdx?_target {webhook : WebhookConfig} {place : Nat}
    (member : (webhook, place) ∈ shim.targets alert) :
    shim.webhooks.findIdx? (·.name = webhook.name) = some (shim.lookup webhook.name) :=
  List.findIdx?_eq_some_of_exists
    ⟨webhook, List.mem_of_getElem? (mem_targets member), decide_eq_true rfl⟩

theorem name_of_lookup {webhook : WebhookConfig}
    (held : shim.webhooks[shim.lookup name]? = some webhook) : webhook.name = name := by
  obtain ⟨less, rfl⟩ := List.getElem?_eq_some_iff.mp held
  exact of_decide_eq_true (List.findIdx_getElem (w := less))

/-! ## One alert -/

namespace AlertingShim

/-- The loop for an alert. -/
def delivery (checks : Bool) (shim : AlertingShim) (alert : Alert) (reception : Reception) :
    Bool × AlertingShim × List (Nat × List Bool) :=
  (shim.recordAlert alert reception.recorded).deliver checks reception.turns 0
    ((shim.targets alert).map (·.1.name))

end AlertingShim

theorem processAlert_eq (checks : Bool) (client : shim.httpClient = true)
    (fresh : shim.isDuplicate alert reception.now = false) :
    (shim.processAlert checks alert reception).1.isSome =
        (shim.delivery checks alert reception).1 ∧
      (shim.processAlert checks alert reception).2 = (shim.delivery checks alert reception).2 := by
  have names : ((shim.recordAlert alert reception.recorded).route alert).map (·.name) =
      (shim.targets alert).map (·.1.name) := targets_names shim alert
  have connected : (shim.recordAlert alert reception.recorded).httpClient = true := client
  rw [AlertingShim.processAlert, fresh, AlertingShim.delivery]
  dsimp only
  rw [names, if_neg Bool.false_ne_true, if_pos connected]
  cases ((shim.recordAlert alert reception.recorded).deliver checks reception.turns 0
    ((shim.targets alert).map (·.1.name))).1 with
  | true => exact ⟨rfl, rfl⟩
  | false => exact ⟨rfl, rfl⟩

theorem lookup_targets (shim : AlertingShim) (alert : Alert) :
    ∀ name ∈ (shim.targets alert).map (·.1.name),
      shim.webhooks.findIdx? (·.name = name) = some (shim.lookup name) := by
  intro name listed
  obtain ⟨target, member, rfl⟩ := List.mem_map.mp listed
  exact findIdx?_target member

theorem delivery_rounds (returned : (shim.delivery checks alert reception).1 = true) :
    (shim.delivery checks alert reception).2.2 = (shim.targets alert).zipIdx.map fun target =>
      (shim.lookup target.1.1.name, (reception.turns target.2).outcomes) := by
  have rounds := @deliver_rounds checks (shim.recordAlert alert reception.recorded) _ _ 0 shim.lookup
    (lookup_targets shim alert) returned
  rw [List.zipIdx_map, List.map_map] at rounds
  exact rounds

theorem delivery_places (returned : (shim.delivery checks alert reception).1 = true) :
    (shim.delivery checks alert reception).2.2.map Prod.fst =
      (shim.targets alert).map fun target => shim.lookup target.1.name := by
  calc (shim.delivery checks alert reception).2.2.map Prod.fst
      = ((shim.targets alert).zipIdx.map Prod.fst).map fun target =>
          shim.lookup target.1.name := by
        rw [delivery_rounds returned, List.map_map, List.map_map]
        rfl
    _ = _ := by rw [List.zipIdx_map_fst]

theorem delivery_settled (returned : (shim.delivery checks alert reception).1 = true) :
    ∀ round ∈ (shim.delivery checks alert reception).2.2,
      Retry.Settled (webhookRetryCount + 1) round.2 := by
  intro round member
  rw [delivery_rounds returned] at member
  obtain ⟨target, _, rfl⟩ := List.mem_map.mp member
  exact Retry.settled_attempts (Nat.succ_pos _)

theorem outcomes_failed_iff {outcome : Turn} : outcome.outcomes.contains true = false ↔
    ∀ attempt ≤ webhookRetryCount, outcome.delivered attempt = false := by
  rw [← Bool.not_eq_true, List.contains_iff_mem, Turn.outcomes, Retry.mem_attempts_iff]
  simp only [Nat.zero_add, not_exists, not_and, Nat.lt_succ_iff, Bool.not_eq_true]

theorem atTurn_isInBackoff (distinct : ((shim.targets alert).map (·.1.name)).Nodup)
    {webhook : WebhookConfig} {place : Nat}
    (found : (shim.targets alert)[turn]? = some (webhook, place)) (now : Nat) :
    (shim.atTurn checks alert reception turn).isInBackoff webhook.name now =
      shim.isInBackoff webhook.name now := by
  have named : ((shim.targets alert).map (·.1.name))[turn]? = some webhook.name := by
    rw [List.getElem?_map, found]
    rfl
  have earlier : webhook.name ∉ ((shim.targets alert).map (·.1.name)).take turn := by
    intro member
    obtain ⟨index, less, same⟩ := List.mem_take_iff_getElem.mp member
    have within : index < ((shim.targets alert).map (·.1.name)).length := by omega
    have held := (List.getElem?_eq_getElem within).trans (congrArg some same)
    have equal := (List.getElem?_inj within distinct).mp (held.trans named.symm)
    omega
  exact (sameFor_deliver earlier).isInBackoff now

theorem delivery_returns_iff (distinct : ((shim.targets alert).map (·.1.name)).Nodup) :
    (shim.delivery checks alert reception).1 = true ↔
      ∀ turn webhook place, (shim.targets alert)[turn]? = some (webhook, place) →
        (∀ attempt ≤ webhookRetryCount, (reception.turns turn).delivered attempt = false) →
          shim.Dated checks webhook.name (reception.turns turn).ended := by
  have all := @deliver_returns_iff checks (shim.recordAlert alert reception.recorded) _
    reception.turns 0 shim.lookup distinct (lookup_targets shim alert)
  refine Iff.trans all ?_
  constructor
  · intro dated turn webhook place found failed
    have named : ((shim.targets alert).map (·.1.name))[turn]? = some webhook.name := by
      rw [List.getElem?_map, found]
      rfl
    have own := dated turn webhook.name named
    rw [Nat.zero_add] at own
    exact own (outcomes_failed_iff.mpr failed)
  · intro dated turn name named failed
    rw [List.getElem?_map] at named
    obtain ⟨⟨webhook, place⟩, found, rfl⟩ := Option.map_eq_some_iff.mp named
    rw [Nat.zero_add] at failed ⊢
    exact dated turn webhook place found (outcomes_failed_iff.mp failed)

/-- Every place that is delivered to is the first of its name. -/
theorem Delivers.ready (client : shim.httpClient = true)
    (fresh : shim.isDuplicate alert reception.now = false)
    (delivers : Delivers checks shim alert reception) : Ready checks shim alert reception := by
  obtain ⟨isSome, same⟩ := processAlert_eq checks client fresh
  obtain ⟨returns, attempted, bounded, stops, _, _⟩ := delivers
  rw [isSome] at returns
  rw [same] at attempted bounded stops
  have settled := delivery_settled returns
  have places := delivery_places returns
  have distinct := Retry.distinct_of_settled settled bounded stops
  have listed : ∀ target ∈ shim.targets alert,
      shim.Due checks alert reception (shim.lookup target.1.name) := by
    intro target member
    refine (attempted _).mp ((Retry.outcomesAt_ne_nil_iff settled).mpr ?_)
    rw [places]
    exact List.mem_map.mpr ⟨target, member, rfl⟩
  rw [places] at distinct
  have first : ∀ target ∈ shim.targets alert, shim.lookup target.1.name = target.2 := by
    intro target member
    obtain ⟨turn, webhook, found, _⟩ := listed target member
    have held := List.mem_of_getElem? found
    have named := name_of_lookup (mem_targets held)
    have equal := List.inj_on_of_nodup_map distinct held member (congrArg shim.lookup named)
    exact congrArg Prod.snd equal
  have names : ((shim.targets alert).map (·.1.name)).Nodup := by
    refine List.Nodup.of_map shim.lookup ?_
    rw [List.map_map]
    exact distinct
  refine ⟨?_, ?_, (delivery_returns_iff names).mp returns⟩
  · intro webhook place member
    exact (findIdx?_target member).trans (congrArg some (first _ member))
  · intro turn webhook place found
    have member := List.mem_of_getElem? found
    obtain ⟨other, held, listing, rested⟩ := listed _ member
    rw [first _ member] at listing
    have within := (List.getElem?_eq_some_iff.mp found).1
    have equal : turn = other := by
      refine (List.getElem?_inj (by simpa using within) (targets_places shim alert)).mp ?_
      rw [List.getElem?_map, List.getElem?_map, found, listing]
      rfl
    subst equal
    obtain ⟨rfl, -⟩ := Prod.mk.inj (Option.some.inj (found.symm.trans listing))
    rwa [atTurn_isInBackoff names found] at rested

theorem Ready.delivers (client : shim.httpClient = true)
    (fresh : shim.isDuplicate alert reception.now = false)
    (ready : Ready checks shim alert reception) : Delivers checks shim alert reception := by
  obtain ⟨isSome, same⟩ := processAlert_eq checks client fresh
  have first : ∀ target ∈ shim.targets alert, shim.lookup target.1.name = target.2 := by
    intro target member
    exact Option.some.inj ((findIdx?_target member).symm.trans (ready.first _ _ member))
  have own : (shim.targets alert).map (fun target => shim.lookup target.1.name) =
      (shim.targets alert).map Prod.snd := List.map_congr_left first
  have names : ((shim.targets alert).map (·.1.name)).Nodup := by
    refine List.Nodup.of_map shim.lookup ?_
    rw [List.map_map]
    exact own ▸ targets_places shim alert
  have returns := (delivery_returns_iff names).mpr ready.dated
  have settled := delivery_settled returns
  have places := (delivery_places returns).trans own
  have distinct : ((shim.delivery checks alert reception).2.2.map Prod.fst).Nodup :=
    places ▸ targets_places shim alert
  have within := Retry.bounded_of_distinct distinct settled
  have alerts := @deliver_alerts checks (shim.recordAlert alert reception.recorded)
    ((shim.targets alert).map (·.1.name)) reception.turns 0
  constructor
  · rw [isSome, returns]
  · intro place
    rw [same, Retry.outcomesAt_ne_nil_iff settled, places]
    constructor
    · intro listed
      obtain ⟨⟨webhook, place⟩, member, rfl⟩ := List.mem_map.mp listed
      obtain ⟨turn, found⟩ := List.mem_iff_getElem?.mp member
      refine ⟨turn, webhook, found, ?_⟩
      rw [atTurn_isInBackoff names found]
      exact ready.rested turn webhook place found
    · rintro ⟨turn, webhook, found, _⟩
      exact List.mem_map.mpr ⟨(webhook, place), List.mem_of_getElem? found, rfl⟩
  · intro place
    rw [same]
    exact (within place).1
  · intro place
    rw [same]
    exact (within place).2
  · rw [same, Retry.countP_dedup distinct (fun outcomes => outcomes.contains true)]
    exact alerts.1
  · rw [same, Retry.countP_dedup distinct (fun outcomes => !outcomes.contains true)]
    exact alerts.2

/-! ## The runs -/

theorem httpClient_observe (client : shim.httpClient = true) (event : Event) :
    (AlertingShim.observe checks shim event).httpClient = true := by
  cases event with
  | clearDedupCache => exact client
  | cleanDedupCache now => exact client
  | processAlert alert reception =>
      cases fresh : shim.isDuplicate alert reception.now with
      | true =>
          rw [AlertingShim.observe, AlertingShim.processAlert, if_pos fresh]
          exact client
      | false =>
          have same := (processAlert_eq checks client fresh).2
          rw [AlertingShim.observe, same]
          exact httpClient_deliver.trans client

end Evergreen.Webhooks
