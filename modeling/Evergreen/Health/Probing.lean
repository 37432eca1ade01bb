import Evergreen.Health.Server
import Mathlib.Tactic.SplitIfs

namespace Evergreen.Health

/-! # What the probes are told

The requests of a run beside every check that has ended, in the order in which
they ended.
-/

structure Check where
  endpoint : Endpoint
  request : Nat
  status : HealthStatus
deriving DecidableEq, Repr

structure Probed where
  server : HealthServer
  checks : List Check := []

/-- The check that a label ends. -/
def checkOf (server : HealthServer) : ServerLabel → List Check
  | .checked request status =>
      (server.requests[request]?.map fun (endpoint, _) => { endpoint, request, status }).toList
  | _ => []

def probing : Machine Probed ServerLabel where
  step probed label := (probed.server.step label).map fun server =>
    { server, checks := probed.checks ++ checkOf probed.server label }

/-- The checker after these checks. -/
def lastOf (checks : List Check) : HealthChecker :=
  checks.foldl (fun checker check => checker.record check.status check.endpoint) {}

/-- What a status is answered with. -/
def HealthStatus.code : HealthStatus → Nat
  | .unhealthy => 503
  | _ => 200

def Endpoint.probes : Endpoint → Bool
  | .livez | .readyz => true
  | _ => false

def Place.holds : Place → Bool
  | .checking | .failing true => true
  | _ => false

def held (requests : List (Endpoint × Place)) (request : Nat) : Bool :=
  requests[request]?.any fun (_, place) => place.holds

def HealthReport.detailed (report : HealthReport) : DetailedHealthStatus where
  liveness := report.liveness
  readiness := report.readiness
  startup := report.startup
  capabilities := report.capabilities
  uptimeSecs := report.uptimeSecs
  initialized := report.initialized

/-- A failure that was counted and answered. -/
def failed (endpoint : Endpoint) (request : Endpoint × Place) : Bool :=
  request = (endpoint, .answered (.status 503))

variable (shim : HealthShim)

def HealthShim.allHealthy : Bool := shim.capabilities.all (·.healthy)

/-- What the place of a request says of the checks made so far.  A probe is
answered by a check of its own; readiness is checked only if every capability was
healthy when the shim started the server. -/
def Stands (checks : List Check) (request : Nat) (endpoint : Endpoint) : Place → Prop
  | .waiting => endpoint = .readyz → shim.allHealthy = true
  | .checking => endpoint.probes = true ∧ (endpoint = .readyz → shim.allHealthy = true)
  | .failing true => endpoint.probes = true ∧
      { endpoint, request, status := .unhealthy } ∈ checks
  | .failing false => endpoint = .readyz ∧ shim.allHealthy = false
  | .answered response =>
      match endpoint with
      | .livez => ∃ status, { endpoint := .livez, request, status } ∈ checks ∧
          response = .status status.code
      | .readyz => (shim.allHealthy = false ∧ response = .status 503) ∨
          ∃ status, { endpoint := .readyz, request, status } ∈ checks ∧
            response = .status status.code
      | .startupz => response = .status 200 ∨ response = .status 503
      | .healthz => ∃ report : HealthReport, response = .report report ∧
          report.detailed =
            { shim with initialized := report.initialized }.detailedStatus report.uptimeSecs
      | .metrics => ∃ earlier, earlier <+: checks ∧ response = .metrics (lastOf earlier).metrics
  | _ => True

/-- The mutex excludes, the counters count what was answered, and every answer
has its reason. -/
structure Sound (probed : Probed) : Prop where
  capabilities : probed.server.capabilities = shim.capabilities
  stands : ∀ request endpoint place, probed.server.requests[request]? = some (endpoint, place) →
    Stands shim probed.checks request endpoint place
  exclusive : ∀ request, probed.server.lock = some request ↔
    held probed.server.requests request = true
  liveness : probed.server.livenessFailures = probed.server.requests.countP (failed .livez) % 2 ^ 64
  readiness : probed.server.readinessFailures =
    probed.server.requests.countP (failed .readyz) % 2 ^ 64
  last : probed.server.checker = lastOf probed.checks
  ready : ∀ check ∈ probed.checks, check.endpoint = .readyz → shim.allHealthy = true

/-! ## What a step does to one request -/

variable {shim} {server after : HealthServer} {probed next : Probed} {label : ServerLabel}
variable {request : Nat} {endpoint : Endpoint} {before place : Place} {checks : List Check}

/-- Everything but the requests, and where the request gets. -/
inductive Moves (server : HealthServer) (request : Nat) : Endpoint → Place → List Check →
    HealthServer → Place → Prop where
  | awaits (endpoint : Endpoint) (ready : endpoint = .readyz → server.allHealthy = true) :
      Moves server request endpoint .begun [] server .waiting
  | turnsAway : Moves server request .readyz .begun [] server .turnedAway
  | refuses (unhealthy : server.allHealthy = false) :
      Moves server request .readyz .begun [] server (.failing false)
  | answersStartup : Moves server request .startupz .begun [] server
      (.answered (.status (if server.initialized then 200 else 503)))
  | loads (before : Place) (uptimeSecs : Nat) (initialized : Bool) (failures : Option Nat)
      (idle : before.holds = false) (unanswered : ∀ response, before ≠ .answered response) :
      Moves server request .healthz before [] server (.reporting uptimeSecs initialized failures)
  | reports (uptimeSecs : Nat) (initialized : Bool) (failures : Nat) :
      Moves server request .healthz (.reporting uptimeSecs initialized (some failures)) [] server
        (.answered (.report (server.report uptimeSecs initialized failures)))
  | answersMetrics : Moves server request .metrics .waiting [] server
      (.answered (.metrics server.checker.metrics))
  | acquires (endpoint : Endpoint) (probes : endpoint.probes = true) (free : server.lock = none) :
      Moves server request endpoint .waiting [] { server with lock := some request } .checking
  | counts (endpoint : Endpoint) (holding : Bool) : Moves server request endpoint (.failing holding)
      [] ((server.countFailure endpoint).unlock holding) (.answered (.status 503))
  | fails (endpoint : Endpoint) : Moves server request endpoint .checking
      [{ endpoint, request, status := .unhealthy }] (server.record .unhealthy endpoint)
      (.failing true)
  | passes (endpoint : Endpoint) (status : HealthStatus) (passed : status ≠ .unhealthy) :
      Moves server request endpoint .checking [{ endpoint, request, status }]
        ((server.record status endpoint).unlock true) (.answered (.status 200))
  | leaves (endpoint : Endpoint) (before : Place) (idle : before.holds = false)
      (unanswered : ∀ response, before ≠ .answered response) :
      Moves server request endpoint before [] server .dropped
  | cancels (endpoint : Endpoint) :
      Moves server request endpoint .checking [] (server.unlock true) .dropped

theorem turn_moves (taken : server.turn request endpoint before = some (after, place)) :
    Moves server request endpoint before [] after place := by
  cases before with
  | begun =>
      cases endpoint with
      | readyz =>
          simp only [HealthServer.turn] at taken
          split_ifs at taken with uninitialized unhealthy
          · cases taken
            exact .turnsAway
          · cases taken
            exact .refuses (by simpa using unhealthy)
          · cases taken
            exact .awaits _ fun _ => by simpa using unhealthy
      | startupz =>
          cases taken
          exact .answersStartup
      | healthz =>
          cases taken
          exact .loads _ _ _ _ rfl fun _ impossible => by cases impossible
      | _ =>
          cases taken
          exact .awaits _ fun impossible => by cases impossible
  | waiting =>
      cases endpoint with
      | startupz => cases taken
      | healthz => cases taken
      | metrics =>
          simp only [HealthServer.turn] at taken
          split_ifs at taken with free
          cases taken
          exact .answersMetrics
      | _ =>
          simp only [HealthServer.turn] at taken
          split_ifs at taken with free
          cases taken
          exact .acquires _ rfl free
  | failing holding =>
      cases endpoint <;> cases taken <;> exact .counts _ holding
  | reporting uptimeSecs initialized failures =>
      cases endpoint with
      | healthz =>
          cases failures with
          | none =>
              cases taken
              exact .loads _ _ _ _ rfl fun _ impossible => by cases impossible
          | some failures =>
              cases taken
              exact .reports uptimeSecs initialized failures
      | _ => cases taken
  | _ => cases endpoint <;> cases taken

theorem finish_moves {status : HealthStatus}
    (taken : server.finish status endpoint before = some (after, place)) :
    Moves server request endpoint before [{ endpoint, request, status }] after place := by
  cases before with
  | checking =>
      simp only [HealthServer.finish] at taken
      split_ifs at taken with unhealthy
      · cases taken
        exact unhealthy ▸ .fails endpoint
      · cases taken
        exact .passes endpoint status unhealthy
  | _ => cases taken

theorem cancel_moves (taken : server.cancel before = some (after, place)) :
    Moves server request endpoint before [] after place := by
  cases before with
  | begun =>
      cases taken
      exact .leaves _ _ rfl fun _ impossible => by cases impossible
  | waiting =>
      cases taken
      exact .leaves _ _ rfl fun _ impossible => by cases impossible
  | checking =>
      cases taken
      exact .cancels endpoint
  | _ => cases taken

/-! ## The parts of the invariant -/

theorem lastOf_append {made : List Check} : lastOf (checks ++ made) =
    made.foldl (fun checker check => checker.record check.status check.endpoint) (lastOf checks) :=
  List.foldl_append

theorem Stands.mono {later : List Check} (grows : checks <+: later)
    (stands : Stands shim checks request endpoint place) :
    Stands shim later request endpoint place := by
  cases place with
  | failing holding =>
      cases holding with
      | true => exact stands.imp_right fun inside => grows.subset inside
      | false => exact stands
  | answered response =>
      cases endpoint with
      | livez => exact stands.imp fun status told => told.imp_left fun inside => grows.subset inside
      | readyz =>
          exact stands.imp_right fun told => told.imp fun status told =>
            told.imp_left fun inside => grows.subset inside
      | metrics =>
          exact stands.imp fun earlier told => told.imp_left fun early => early.trans grows
      | _ => exact stands
  | _ => exact stands

section Requests

variable {requests : List (Endpoint × Place)} {lock : Option Nat}

theorem held_set (found : requests[request]? = some (endpoint, before)) (other : Nat) :
    held (requests.set request (endpoint, place)) other =
      if other = request then place.holds else held requests other := by
  obtain ⟨inside, _⟩ := List.getElem?_eq_some_iff.mp found
  by_cases same : other = request
  · subst same
    simp [held, inside]
  · simp [held, same, List.getElem?_set_ne (Ne.symm same)]

theorem held_found (found : requests[request]? = some (endpoint, before)) :
    held requests request = before.holds := by
  simp [held, found]

theorem held_begun : held (requests ++ [(endpoint, .begun)]) request = held requests request := by
  rcases Nat.lt_or_ge request requests.length with old | beyond
  · rw [held, held, List.getElem?_append_left old]
  · rw [held, held, List.getElem?_append_right beyond, List.getElem?_eq_none beyond]
    cases request - requests.length with
    | zero => rfl
    | succ more => rfl

theorem exclusive_same (exclusive : ∀ request, lock = some request ↔ held requests request = true)
    (found : requests[request]? = some (endpoint, before)) (same : place.holds = before.holds)
    (other : Nat) :
    lock = some other ↔ held (requests.set request (endpoint, place)) other = true := by
  rw [held_set found, exclusive other]
  split_ifs with here
  · rw [here, held_found found, same]
  · rfl

theorem exclusive_acquire
    (exclusive : ∀ request, lock = some request ↔ held requests request = true)
    (found : requests[request]? = some (endpoint, before)) (free : lock = none)
    (holds : place.holds = true) (other : Nat) :
    some request = some other ↔ held (requests.set request (endpoint, place)) other = true := by
  rw [held_set found, Option.some.injEq, eq_comm]
  split_ifs with here
  · simp [here, holds]
  · rw [← exclusive other, free]
    simp [here]

theorem exclusive_release
    (exclusive : ∀ request, lock = some request ↔ held requests request = true)
    (found : requests[request]? = some (endpoint, before)) (held : before.holds = true)
    (releases : place.holds = false) (other : Nat) :
    none = some other ↔ Health.held (requests.set request (endpoint, place)) other = true := by
  have holder : lock = some request := (exclusive request).mpr ((held_found found).trans held)
  rw [held_set found]
  split_ifs with here
  · simp [releases]
  · rw [← exclusive other, holder]
    simp [Ne.symm here]

theorem countP_set (found : requests[request]? = some (endpoint, before))
    (counted : Endpoint × Place → Bool) (fresh : counted (endpoint, before) = false) :
    (requests.set request (endpoint, place)).countP counted =
      requests.countP counted + if counted (endpoint, place) then 1 else 0 := by
  obtain ⟨inside, here⟩ := List.getElem?_eq_some_iff.mp found
  rw [List.countP_set inside, here, fresh]
  rfl

end Requests

/-! ## A step keeps the invariant -/

theorem Moves.frame {made : List Check} (moves : Moves server request endpoint before made after place) :
    after.requests = server.requests ∧ after.capabilities = server.capabilities ∧
      after.checker = made.foldl
        (fun checker check => checker.record check.status check.endpoint) server.checker := by
  cases moves with
  | counts endpoint holding => cases endpoint <;> cases holding <;> exact ⟨rfl, rfl, rfl⟩
  | _ => exact ⟨rfl, rfl, rfl⟩

theorem Moves.unanswered {made : List Check}
    (moves : Moves server request endpoint before made after place) (other : Endpoint) :
    failed other (endpoint, before) = false := by
  have apart : ∀ response, before ≠ .answered response := by
    cases moves with
    | loads _ _ _ _ _ unanswered => exact unanswered
    | leaves _ _ _ unanswered => exact unanswered
    | _ => exact fun _ impossible => by cases impossible
  exact decide_eq_false fun same => apart _ (Prod.mk.inj same).2

theorem Sound.exclusive_move {made : List Check} (sound : Sound shim { server, checks })
    (found : server.requests[request]? = some (endpoint, before))
    (moves : Moves server request endpoint before made after place) (other : Nat) :
    after.lock = some other ↔ held (server.requests.set request (endpoint, place)) other = true := by
  have exclusive := sound.exclusive
  cases moves with
  | acquires endpoint probes free => exact exclusive_acquire exclusive found free rfl other
  | counts endpoint holding =>
      cases holding with
      | true =>
          have free : ((server.countFailure endpoint).unlock true).lock = none := rfl
          rw [free]
          exact exclusive_release exclusive found rfl rfl other
      | false =>
          have kept : ((server.countFailure endpoint).unlock false).lock = server.lock := by
            cases endpoint <;> rfl
          rw [kept]
          refine exclusive_same exclusive found ?_ other
          rfl
  | passes endpoint status passed => exact exclusive_release exclusive found rfl rfl other
  | cancels endpoint => exact exclusive_release exclusive found rfl rfl other
  | loads before _ _ _ idle _ =>
      refine exclusive_same exclusive found ?_ other
      exact idle.symm
  | leaves endpoint before idle _ =>
      refine exclusive_same exclusive found ?_ other
      exact idle.symm
  | _ =>
      refine exclusive_same exclusive found ?_ other
      rfl

theorem Sound.counts_move {made : List Check} (sound : Sound shim { server, checks })
    (found : server.requests[request]? = some (endpoint, before))
    (moves : Moves server request endpoint before made after place) :
    after.livenessFailures =
        (server.requests.set request (endpoint, place)).countP (failed .livez) % 2 ^ 64 ∧
      after.readinessFailures =
        (server.requests.set request (endpoint, place)).countP (failed .readyz) % 2 ^ 64 := by
  rw [countP_set found _ (moves.unanswered .livez), countP_set found _ (moves.unanswered .readyz)]
  have liveness := sound.liveness
  have readiness := sound.readiness
  simp only at liveness readiness
  cases moves with
  | counts endpoint holding =>
      cases endpoint <;> cases holding <;>
        simp [HealthServer.countFailure, HealthServer.unlock, failed, liveness, readiness]
  | passes endpoint status passed => simpa [failed] using ⟨liveness, readiness⟩
  | answersStartup => simpa [failed] using ⟨liveness, readiness⟩
  | _ => simpa [failed] using ⟨liveness, readiness⟩

theorem Sound.stands_move {made : List Check} (sound : Sound shim { server, checks })
    (found : server.requests[request]? = some (endpoint, before))
    (moves : Moves server request endpoint before made after place) :
    Stands shim (checks ++ made) request endpoint place := by
  have stands := sound.stands request endpoint before found
  have same : server.capabilities = shim.capabilities := sound.capabilities
  have healthy : server.allHealthy = shim.allHealthy := by
    rw [HealthServer.allHealthy, same]
    rfl
  cases moves with
  | awaits endpoint ready => exact fun readyz => healthy ▸ ready readyz
  | refuses unhealthy => exact ⟨rfl, healthy ▸ unhealthy⟩
  | answersStartup =>
      cases server.initialized with
      | true => exact .inl rfl
      | false => exact .inr rfl
  | reports uptimeSecs initialized failures =>
      refine ⟨_, rfl, ?_⟩
      simp only [HealthReport.detailed, HealthServer.report, HealthShim.detailedStatus, healthy, same]
      rfl
  | answersMetrics => exact ⟨checks, List.prefix_append _ _, by rw [← sound.last]⟩
  | acquires endpoint probes free => exact ⟨probes, stands⟩
  | counts endpoint holding =>
      rw [List.append_nil]
      cases holding with
      | false =>
          obtain ⟨rfl, unhealthy⟩ := stands
          exact .inl ⟨unhealthy, rfl⟩
      | true =>
          obtain ⟨probes, checked⟩ := stands
          cases endpoint with
          | livez => exact ⟨.unhealthy, checked, rfl⟩
          | readyz => exact .inr ⟨.unhealthy, checked, rfl⟩
          | _ => cases probes
  | fails endpoint => exact ⟨stands.1, List.mem_append_right _ (List.mem_singleton.mpr rfl)⟩
  | passes endpoint status passed =>
      have checked := List.mem_append_right checks
        (List.mem_singleton.mpr (rfl : Check.mk endpoint request status = _))
      have code : status.code = 200 := by
        cases status with
        | unhealthy => exact absurd rfl passed
        | _ => rfl
      obtain ⟨probes, _⟩ := stands
      cases endpoint with
      | livez => exact ⟨status, checked, by rw [code]⟩
      | readyz => exact .inr ⟨status, checked, by rw [code]⟩
      | _ => cases probes
  | _ => trivial

theorem Sound.ready_move {made : List Check} (sound : Sound shim { server, checks })
    (found : server.requests[request]? = some (endpoint, before))
    (moves : Moves server request endpoint before made after place) :
    ∀ check ∈ checks ++ made, check.endpoint = .readyz → shim.allHealthy = true := by
  have stands := sound.stands request endpoint before found
  intro check inside
  rcases List.mem_append.mp inside with earlier | new
  · exact sound.ready check earlier
  · cases moves with
    | fails endpoint =>
        obtain rfl := List.mem_singleton.mp new
        exact stands.2
    | passes endpoint status passed =>
        obtain rfl := List.mem_singleton.mp new
        exact stands.2
    | _ => cases new

theorem Sound.move {made : List Check} (sound : Sound shim { server, checks })
    (found : server.requests[request]? = some (endpoint, before))
    (moves : Moves server request endpoint before made after place) :
    Sound shim
      { server := { after with requests := after.requests.set request (endpoint, place) }
        checks := checks ++ made } := by
  obtain ⟨requests, capabilities, checker⟩ := moves.frame
  obtain ⟨inside, _⟩ := List.getElem?_eq_some_iff.mp found
  have exclusive := sound.exclusive_move found moves
  obtain ⟨liveness, readiness⟩ := sound.counts_move found moves
  rw [requests]
  refine ⟨capabilities.trans sound.capabilities, ?_, exclusive, liveness, readiness, ?_,
    sound.ready_move found moves⟩
  · intro other otherEndpoint otherPlace stands
    by_cases same : request = other
    · subst same
      rw [List.getElem?_set_self inside] at stands
      cases stands
      exact sound.stands_move found moves
    · rw [List.getElem?_set_ne same] at stands
      exact (sound.stands other otherEndpoint otherPlace stands).mono (List.prefix_append _ _)
  · rw [lastOf_append, ← sound.last]
    exact checker

theorem move_eq_some {next : Endpoint → Place → Option (HealthServer × Place)}
    (taken : server.move request next = some after) : ∃ endpoint before moved place,
      server.requests[request]? = some (endpoint, before) ∧
      next endpoint before = some (moved, place) ∧
      after = { moved with requests := moved.requests.set request (endpoint, place) } := by
  simp only [HealthServer.move, Option.bind_eq_bind, Option.bind_eq_some_iff] at taken
  obtain ⟨⟨endpoint, before⟩, found, ⟨moved, place⟩, taken, made⟩ := taken
  exact ⟨endpoint, before, moved, place, found, taken, (Option.some.inj made).symm⟩

theorem Sound.arrive (sound : Sound shim { server, checks }) (endpoint : Endpoint) :
    Sound shim
      { server := { server with requests := server.requests ++ [(endpoint, .begun)] }, checks } := by
  have fresh : ∀ other, List.countP (failed other) [(endpoint, .begun)] = 0 :=
    fun other => by simp [failed]
  refine ⟨sound.capabilities, ?_, ?_, ?_, ?_, sound.last, sound.ready⟩
  · intro request other place found
    rcases Nat.lt_or_ge request server.requests.length with old | beyond
    · rw [List.getElem?_append_left old] at found
      exact sound.stands request other place found
    · rw [List.getElem?_append_right beyond] at found
      cases List.mem_singleton.mp (List.mem_of_getElem? found)
      trivial
  · intro request
    rw [held_begun]
    exact sound.exclusive request
  · rw [List.countP_append, fresh, Nat.add_zero]
    exact sound.liveness
  · rw [List.countP_append, fresh, Nat.add_zero]
    exact sound.readiness

theorem Sound.step (sound : Sound shim probed) (taken : probing.step probed label = some next) :
    Sound shim next := by
  obtain ⟨after, performed, rfl⟩ := Option.map_eq_some_iff.mp taken
  obtain ⟨server, checks⟩ := probed
  cases label with
  | request endpoint =>
      cases performed
      exact (List.append_nil checks).symm ▸ sound.arrive endpoint
  | advance request =>
      obtain ⟨endpoint, before, moved, place, found, turned, rfl⟩ := move_eq_some performed
      exact sound.move found (turn_moves turned)
  | checked request status =>
      obtain ⟨endpoint, before, moved, place, found, finished, rfl⟩ := move_eq_some performed
      have moves := @finish_moves server moved request endpoint before place status finished
      have whole := sound.move found moves
      simpa [checkOf, found] using whole
  | drop request =>
      have dropped : server.move request (fun _ => server.cancel) = some after := performed
      obtain ⟨endpoint, before, moved, place, found, cancelled, rfl⟩ := move_eq_some dropped
      exact sound.move found (cancel_moves cancelled)
  | setInitialized initialized =>
      cases performed
      exact (List.append_nil checks).symm ▸ ⟨sound.capabilities, sound.stands, sound.exclusive,
        sound.liveness, sound.readiness, sound.last, sound.ready⟩
  | elapse secs =>
      cases performed
      exact (List.append_nil checks).symm ▸ ⟨sound.capabilities, sound.stands, sound.exclusive,
        sound.liveness, sound.readiness, sound.last, sound.ready⟩

/-! ## The runs of a server -/

theorem HealthShim.start_eq_some (started : shim.start.2 = some server) :
    server = { capabilities := shim.capabilities } := by
  rw [HealthShim.start] at started
  split_ifs at started
  exact (Option.some.inj started).symm

theorem sound_start (started : shim.start.2 = some server) : Sound shim { server } := by
  obtain rfl := HealthShim.start_eq_some started
  refine ⟨rfl, ?_, ?_, rfl, rfl, rfl, fun check inside => absurd inside List.not_mem_nil⟩
  · intro request endpoint place found
    cases found
  · intro request
    exact iff_of_false (by simp) (by simp [held])

end Evergreen.Health
