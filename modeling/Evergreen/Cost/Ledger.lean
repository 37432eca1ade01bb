import Evergreen.Machine.KeyedList
import Evergreen.Machine.Reactor
import Evergreen.Machine.Writes
import Mathlib.Data.List.DropRight

namespace Evergreen.Cost

/-! # The ledger of the cost shim

What the tenants have spent, by any arithmetic: nothing is assumed of the sum,
the product and the order of amounts, so that they may round.  Instants are
seconds since the epoch.
-/

inductive ResourceType where
  | cpu
  | memory
  | storage
  | networkIn
  | networkOut
  | requests
  | databaseReads
  | databaseWrites
deriving DecidableEq, Repr

structure ResourceUsage (Amount : Type) where
  resourceType : ResourceType
  amount : Amount
  unit : String
  costPerUnit : Amount
  recordedAt : Int
deriving DecidableEq, Repr

structure Budget (Amount : Type) where
  tenantId : String
  limit : Amount
  spent : Amount
  currency : String
  periodStart : Int
  periodEnd : Int
deriving DecidableEq, Repr

/-- `budgets` holds one budget a tenant, in the order the map iterates in. -/
structure CostShim (Amount : Type) where
  alertThreshold : Amount
  currency : String
  tenantsTracked : Nat := 0
  resourcesTracked : Nat := 0
  budgets : List (Budget Amount) := []
  usageLog : List (ResourceUsage Amount) := []
  alertThresholdTriggered : Nat := 0

def periodSecs : Int := 30 * 86400

variable {Amount : Type}

section Arithmetic

variable [Zero Amount] [OfNat Amount 100] [Add Amount] [Mul Amount] [Div Amount]
variable [LT Amount] [LE Amount] [DecidableLT Amount] [DecidableLE Amount]

namespace Budget

def usagePercent (budget : Budget Amount) : Amount :=
  if 0 < budget.limit then budget.spent / budget.limit * 100 else 100

def isOverBudget (budget : Budget Amount) : Bool := budget.limit < budget.spent

def isNearLimit (budget : Budget Amount) (thresholdPercent : Amount) : Bool :=
  thresholdPercent ≤ budget.usagePercent

end Budget

namespace CostShim

def createBudget (shim : CostShim Amount) (tenantId : String) (limit : Amount) (now : Int) :
    CostShim Amount :=
  let budgets := KeyedList.insert Budget.tenantId
    { tenantId, limit, spent := 0, currency := shim.currency, periodStart := now
      periodEnd := now + periodSecs } shim.budgets
  { shim with budgets, tenantsTracked := budgets.length }

/-- The usage is logged, and its cost returned, whether the tenant has a budget or not. -/
def recordUsage (shim : CostShim Amount) (tenantId : String) (usage : ResourceUsage Amount) :
    CostShim Amount × Amount :=
  let cost := usage.amount * usage.costPerUnit
  ({ shim with
      budgets := KeyedList.update Budget.tenantId tenantId
        (fun budget => { budget with spent := budget.spent + cost }) shim.budgets
      usageLog := shim.usageLog ++ [usage]
      resourcesTracked := shim.resourcesTracked + 1 },
    cost)

def getBudget (shim : CostShim Amount) (tenantId : String) : Option (Budget Amount) :=
  shim.budgets.find? (·.tenantId = tenantId)

def isOverBudget (shim : CostShim Amount) (tenantId : String) : Bool :=
  ((shim.getBudget tenantId).map Budget.isOverBudget).getD false

def checkAlerts (shim : CostShim Amount) : CostShim Amount × List String :=
  let alerted := (shim.budgets.filter (·.isNearLimit shim.alertThreshold)).map Budget.tenantId
  ({ shim with alertThresholdTriggered := shim.alertThresholdTriggered + alerted.length }, alerted)

/-- The clock is read once for each tenant. -/
def resetBudgets (shim : CostShim Amount) (now : String → Int) : CostShim Amount :=
  { shim with
    budgets := shim.budgets.map fun budget =>
      { budget with
        spent := 0
        periodStart := now budget.tenantId
        periodEnd := now budget.tenantId + periodSecs } }

end CostShim

end Arithmetic

section Lookups

variable {shim : CostShim Amount} {tenantId : String}

theorem getBudget_createBudget [Zero Amount] {created : String} {limit : Amount} {now : Int} :
    (shim.createBudget created limit now).getBudget tenantId =
      if created = tenantId then
        some ⟨created, limit, 0, shim.currency, now, now + periodSecs⟩
      else shim.getBudget tenantId := by
  by_cases same : created = tenantId
  · subst same
    rw [if_pos rfl]
    exact @KeyedList.find?_insert_self _ _ _ Budget.tenantId shim.budgets
      ⟨created, limit, 0, shim.currency, now, now + periodSecs⟩
  · rw [if_neg same]
    exact KeyedList.find?_insert_of_ne (Ne.symm same)

theorem getBudget_recordUsage [Add Amount] [Mul Amount] {billed : String}
    {usage : ResourceUsage Amount} :
    (shim.recordUsage billed usage).1.getBudget tenantId =
      if billed = tenantId then (shim.getBudget tenantId).map fun budget =>
        { budget with spent := budget.spent + usage.amount * usage.costPerUnit }
      else shim.getBudget tenantId := by
  by_cases same : billed = tenantId
  · subst same
    rw [if_pos rfl]
    exact KeyedList.find?_update fun _ => rfl
  · rw [if_neg same]
    exact KeyedList.find?_update_of_ne (fun _ => rfl) (Ne.symm same)

theorem getBudget_resetBudgets [Zero Amount] {now : String → Int} :
    (shim.resetBudgets now).getBudget tenantId = (shim.getBudget tenantId).map fun budget =>
      { budget with
        spent := 0
        periodStart := now tenantId
        periodEnd := now tenantId + periodSecs } := by
  refine List.find?_map.trans ?_
  change (shim.getBudget tenantId).map _ = _
  cases found : shim.getBudget tenantId with
  | none => rfl
  | some budget =>
      have matched := List.find?_some found
      have named : budget.tenantId = tenantId := of_decide_eq_true matched
      rw [Option.map_some, Option.map_some, named]

end Lookups

inductive CostCall (Amount : Type) where
  | createBudget (tenantId : String) (limit : Amount) (now : Int)
  | recordUsage (tenantId : String) (usage : ResourceUsage Amount)
  | checkAlerts
  | resetBudgets (now : String → Int)

/-! ## What the calls of a run come to -/

namespace CostCall

/-- The limit that the call gives the tenant. -/
def limitOf (tenantId : String) : CostCall Amount → Option Amount
  | .createBudget created limit _ => if created = tenantId then some limit else none
  | _ => none

/-- The instant at which the call begins a new period of the tenant. -/
def startOf (tenantId : String) : CostCall Amount → Option Int
  | .createBudget created _ now => if created = tenantId then some now else none
  | .resetBudgets now => some (now tenantId)
  | _ => none

def usage : CostCall Amount → Option (ResourceUsage Amount)
  | .recordUsage _ usage => some usage
  | _ => none

/-- What the call bills to the tenant. -/
def costOf [Mul Amount] (tenantId : String) : CostCall Amount → Option Amount
  | .recordUsage billed usage =>
      if billed = tenantId then some (usage.amount * usage.costPerUnit) else none
  | _ => none

end CostCall

structure Account (Amount : Type) where
  limit : Amount
  spent : Amount
  since : Int
deriving DecidableEq, Repr

/-- The calls of the tenant's current period. -/
def period (tenantId : String) (calls : List (CostCall Amount)) : List (CostCall Amount) :=
  calls.rtakeWhile fun call => (call.startOf tenantId).isNone

/-! ## Accounts, call by call -/

section Accounts

variable {calls : List (CostCall Amount)} {call : CostCall Amount} {tenantId created : String}

theorem exists_start {limit : Amount}
    (limited : (calls.filterMap (CostCall.limitOf tenantId)).getLast? = some limit) :
    ∃ since, (calls.filterMap (CostCall.startOf tenantId)).getLast? = some since := by
  obtain ⟨call, member, given⟩ := List.mem_filterMap.mp (List.mem_of_getLast? limited)
  have starts : ∃ now, call.startOf tenantId = some now := by
    cases call with
    | createBudget created limit now =>
        obtain ⟨same, _⟩ := Option.ite_none_right_eq_some.mp given
        exact ⟨now, if_pos same⟩
    | _ => cases given
  obtain ⟨now, starts⟩ := starts
  have inside : now ∈ calls.filterMap (CostCall.startOf tenantId) :=
    List.mem_filterMap.mpr ⟨call, member, starts⟩
  exact ⟨_, List.getLast?_eq_some_getLast (List.ne_nil_of_mem inside)⟩

variable [Zero Amount] [Add Amount] [Mul Amount]

/-- The last limit, the costs of the current period, and its beginning. -/
def account (tenantId : String)
    (calls : List (CostCall Amount)) : Option (Account Amount) :=
  (calls.filterMap (CostCall.limitOf tenantId)).getLast?.bind fun limit =>
    (calls.filterMap (CostCall.startOf tenantId)).getLast?.map fun since =>
      { limit
        spent := ((period tenantId calls).filterMap (CostCall.costOf tenantId)).foldl (· + ·) 0
        since }

/-- Within a period nothing but costs changes an account. -/
theorem account_within (same : call.limitOf tenantId = none) (within : call.startOf tenantId = none) :
    account tenantId (calls ++ [call]) = (account tenantId calls).map fun account =>
      { account with
        spent := (call.costOf tenantId).elim account.spent (account.spent + ·) } := by
  have longer : period tenantId (calls ++ [call]) = period tenantId calls ++ [call] :=
    List.rtakeWhile_concat_pos _ _ _ (by simp [within])
  unfold account
  rw [getLast?_filterMap_concat, getLast?_filterMap_concat, same, within, longer,
    List.filterMap_append, List.foldl_append]
  cases (calls.filterMap (CostCall.limitOf tenantId)).getLast? with
  | none => rfl
  | some limit =>
      cases (calls.filterMap (CostCall.startOf tenantId)).getLast? with
      | none => rfl
      | some since => cases cost : call.costOf tenantId <;> simp [cost]

theorem account_starts {now : Int} (starts : call.startOf tenantId = some now) :
    account tenantId (calls ++ [call]) =
      ((call.limitOf tenantId).or (calls.filterMap (CostCall.limitOf tenantId)).getLast?).map
        fun limit => ⟨limit, 0, now⟩ := by
  have empty : period tenantId (calls ++ [call]) = [] :=
    List.rtakeWhile_concat_neg _ _ _ (by simp [starts])
  unfold account
  rw [getLast?_filterMap_concat, getLast?_filterMap_concat, starts, empty]
  cases (call.limitOf tenantId).or (calls.filterMap (CostCall.limitOf tenantId)).getLast? <;> rfl

theorem account_resetBudgets (now : String → Int) :
    account tenantId (calls ++ [.resetBudgets now]) = (account tenantId calls).map fun account =>
      { account with spent := 0, since := now tenantId } := by
  have starts : (CostCall.resetBudgets now : CostCall Amount).startOf tenantId =
      some (now tenantId) := rfl
  rw [account_starts starts]
  show ((none : Option Amount).or _).map _ = _
  rw [Option.none_or]
  unfold account
  cases limited : (calls.filterMap (CostCall.limitOf tenantId)).getLast? with
  | none => rfl
  | some limit =>
      obtain ⟨since, started⟩ := exists_start limited
      rw [started]
      rfl

theorem account_createBudget (limit : Amount) (now : Int) :
    account tenantId (calls ++ [.createBudget created limit now]) =
      if created = tenantId then some ⟨limit, 0, now⟩ else account tenantId calls := by
  by_cases same : created = tenantId
  · have starts : (CostCall.createBudget created limit now).startOf tenantId = some now := if_pos same
    have given : (CostCall.createBudget created limit now).limitOf tenantId = some limit := if_pos same
    rw [account_starts starts, given, if_pos same]
    rfl
  · have within : (CostCall.createBudget created limit now).startOf tenantId = none := if_neg same
    have kept : (CostCall.createBudget created limit now).limitOf tenantId = none := if_neg same
    rw [account_within kept within, if_neg same]
    exact Option.map_id'

theorem account_recordUsage (usage : ResourceUsage Amount) :
    account tenantId (calls ++ [.recordUsage created usage]) =
      if created = tenantId then (account tenantId calls).map fun account =>
        { account with spent := account.spent + usage.amount * usage.costPerUnit }
      else account tenantId calls := by
  rw [account_within rfl rfl]
  by_cases same : created = tenantId
  · simp [CostCall.costOf, same]
  · simp [CostCall.costOf, same]

theorem account_checkAlerts : account tenantId (calls ++ [.checkAlerts]) = account tenantId calls := by
  rw [account_within rfl rfl]
  exact Option.map_id'

end Accounts

def Budget.account (budget : Budget Amount) : Account Amount :=
  ⟨budget.limit, budget.spent, budget.periodStart⟩

section Budgets

variable [Zero Amount] [Add Amount] [Mul Amount]
variable {shim : CostShim Amount} {calls : List (CostCall Amount)} {alerted : List String}

/-- The entries of the ledger, without what follows from them. -/
structure Kept (calls : List (CostCall Amount)) (alerted : List String)
    (shim : CostShim Amount) : Prop where
  unique : (shim.budgets.map Budget.tenantId).Nodup
  accounts : ∀ tenantId, (shim.getBudget tenantId).map Budget.account = account tenantId calls
  tenants : shim.tenantsTracked = shim.budgets.length
  usage : shim.usageLog = calls.filterMap CostCall.usage
  resources : shim.resourcesTracked = shim.usageLog.length
  alerts : shim.alertThresholdTriggered = alerted.length

theorem Kept.createBudget {created : String} {limit : Amount} {now : Int}
    (kept : Kept calls alerted shim) :
    Kept (calls ++ [.createBudget created limit now]) alerted
      (shim.createBudget created limit now) where
  unique := KeyedList.nodup_insert kept.unique
  accounts tenantId := by
    rw [account_createBudget, getBudget_createBudget, ← kept.accounts tenantId]
    split <;> rfl
  tenants := rfl
  usage := by
    rw [List.filterMap_append]
    exact kept.usage.trans (List.append_nil _).symm
  resources := kept.resources
  alerts := kept.alerts

theorem Kept.recordUsage {billed : String} {usage : ResourceUsage Amount}
    (kept : Kept calls alerted shim) :
    Kept (calls ++ [.recordUsage billed usage]) alerted (shim.recordUsage billed usage).1 where
  unique := by
    have names : (shim.recordUsage billed usage).1.budgets.map Budget.tenantId =
        shim.budgets.map Budget.tenantId := KeyedList.map_update fun _ => rfl
    exact names ▸ kept.unique
  accounts tenantId := by
    rw [account_recordUsage, getBudget_recordUsage, ← kept.accounts tenantId]
    split
    · rw [Option.map_map, Option.map_map]
      rfl
    · rfl
  tenants := kept.tenants.trans (List.length_map _).symm
  usage := by
    rw [List.filterMap_append, ← kept.usage]
    rfl
  resources := by
    have counted := kept.resources
    simp only [CostShim.recordUsage, List.length_append, List.length_singleton, counted]
  alerts := kept.alerts

theorem Kept.resetBudgets {now : String → Int} (kept : Kept calls alerted shim) :
    Kept (calls ++ [.resetBudgets now]) alerted (shim.resetBudgets now) where
  unique := by
    rw [CostShim.resetBudgets, List.map_map]
    exact kept.unique
  accounts tenantId := by
    rw [account_resetBudgets, getBudget_resetBudgets, ← kept.accounts tenantId, Option.map_map,
      Option.map_map]
    rfl
  tenants := kept.tenants.trans (List.length_map _).symm
  usage := by
    rw [List.filterMap_append]
    exact kept.usage.trans (List.append_nil _).symm
  resources := kept.resources
  alerts := kept.alerts

end Budgets

/-! ## Whole runs -/

variable [Zero Amount] [OfNat Amount 100] [Mul Amount] [Div Amount]
variable [LT Amount] [LE Amount] [DecidableLT Amount] [DecidableLE Amount]
variable {shim : CostShim Amount} {calls : List (CostCall Amount)} {tenantId : String}
variable {alerted : List String}

def Account.isNear (account : Account Amount) (thresholdPercent : Amount) : Prop :=
  thresholdPercent ≤ if 0 < account.limit then account.spent / account.limit * 100 else 100

theorem mem_checkAlerts (unique : (shim.budgets.map Budget.tenantId).Nodup) :
    tenantId ∈ shim.checkAlerts.2 ↔
      ∃ budget, shim.getBudget tenantId = some budget ∧
        budget.account.isNear shim.alertThreshold := by
  have near : ∀ budget : Budget Amount, budget.isNearLimit shim.alertThreshold = true ↔
      budget.account.isNear shim.alertThreshold := fun budget => decide_eq_true_iff
  have found : ∀ budget, shim.getBudget tenantId = some budget ↔
      budget ∈ shim.budgets ∧ budget.tenantId = tenantId :=
    fun budget => KeyedList.find?_eq_some unique
  simp only [CostShim.checkAlerts, List.mem_map, List.mem_filter, near, found]
  constructor
  · intro ⟨budget, ⟨member, isNear⟩, named⟩
    exact ⟨budget, ⟨member, named⟩, isNear⟩
  · intro ⟨budget, ⟨member, named⟩, isNear⟩
    exact ⟨budget, ⟨member, isNear⟩, named⟩

variable [Add Amount]

/-- A call, and the tenants it alerts. -/
def CostShim.perform (shim : CostShim Amount) : CostCall Amount → CostShim Amount × List String
  | .createBudget tenantId limit now => (shim.createBudget tenantId limit now, [])
  | .recordUsage tenantId usage => ((shim.recordUsage tenantId usage).1, [])
  | .checkAlerts => shim.checkAlerts
  | .resetBudgets now => (shim.resetBudgets now, [])

def CostShim.after (shim : CostShim Amount) (calls : List (CostCall Amount)) : CostShim Amount :=
  calls.foldl (fun shim call => (shim.perform call).1) shim

/-- Every tenant's budget is its account, every usage is in the log, and a check
alerts each tenant near its limit once and nobody else.  `alerted` are the alerts
of all checks so far. -/
structure Booked (calls : List (CostCall Amount)) (alerted : List String)
    (shim : CostShim Amount) : Prop where
  unique : (shim.budgets.map Budget.tenantId).Nodup
  accounts : ∀ tenantId, (shim.getBudget tenantId).map Budget.account = account tenantId calls
  tenants : shim.tenantsTracked = shim.budgets.length
  usage : shim.usageLog = calls.filterMap CostCall.usage
  resources : shim.resourcesTracked = shim.usageLog.length
  alerts : shim.alertThresholdTriggered = alerted.length
  overBudget : ∀ tenantId, shim.isOverBudget tenantId = true ↔
    ∃ account, Cost.account tenantId calls = some account ∧ account.limit < account.spent
  noneTwice : shim.checkAlerts.2.Nodup
  near : ∀ tenantId, tenantId ∈ shim.checkAlerts.2 ↔
    ∃ account, Cost.account tenantId calls = some account ∧ account.isNear shim.alertThreshold

theorem Kept.booked (kept : Kept calls alerted shim) : Booked calls alerted shim where
  unique := kept.unique
  accounts := kept.accounts
  tenants := kept.tenants
  usage := kept.usage
  resources := kept.resources
  alerts := kept.alerts
  overBudget tenantId := by
    rw [CostShim.isOverBudget, ← kept.accounts tenantId]
    cases shim.getBudget tenantId with
    | none => simp
    | some budget => simp [Budget.isOverBudget, Budget.account]
  noneTwice := kept.unique.sublist (List.filter_sublist.map Budget.tenantId)
  near tenantId := by
    rw [mem_checkAlerts kept.unique, ← kept.accounts tenantId]
    simp only [Option.map_eq_some_iff]
    constructor
    · rintro ⟨budget, found, isNear⟩
      exact ⟨budget.account, ⟨budget, found, rfl⟩, isNear⟩
    · rintro ⟨_, ⟨budget, found, rfl⟩, isNear⟩
      exact ⟨budget, found, isNear⟩

theorem Kept.checkAlerts (kept : Kept calls alerted shim) :
    Kept (calls ++ [.checkAlerts]) (alerted ++ shim.checkAlerts.2) shim.checkAlerts.1 where
  unique := kept.unique
  accounts tenantId := by
    rw [account_checkAlerts]
    exact kept.accounts tenantId
  tenants := kept.tenants
  usage := by
    rw [List.filterMap_append]
    exact kept.usage.trans (List.append_nil _).symm
  resources := kept.resources
  alerts := by
    rw [List.length_append, ← kept.alerts]
    rfl

theorem Kept.perform {call : CostCall Amount} (kept : Kept calls alerted shim) :
    Kept (calls ++ [call]) (alerted ++ (shim.perform call).2) (shim.perform call).1 := by
  cases call with
  | createBudget tenantId limit now =>
      simpa only [CostShim.perform, List.append_nil] using kept.createBudget
  | recordUsage tenantId usage =>
      simpa only [CostShim.perform, List.append_nil] using kept.recordUsage
  | checkAlerts => exact kept.checkAlerts
  | resetBudgets now =>
      simpa only [CostShim.perform, List.append_nil] using kept.resetBudgets

def CostShim.new (alertThreshold : Amount) (currency : String) : CostShim Amount :=
  { alertThreshold, currency }

end Evergreen.Cost
