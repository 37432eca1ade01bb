import Evergreen.Queue.Tokens
import Mathlib.Data.List.Perm.Subperm

namespace Evergreen.Queue

/-! # No job is lost

A live job is one that was enqueued and neither completed nor buried.  It stays
in `pending` or `running_jobs` throughout a run exactly as long as `fail_job`
does not take its retry branch on it: that branch holds the job in a local
variable across its sleep, and drops it with the future.
-/

def Live (history : History) (jobId : String) : Prop :=
  .enqueued jobId ∈ history.log ∧ ¬ Settles jobId history.log

instance (history : History) (jobId : String) : Decidable (Live history jobId) :=
  inferInstanceAs (Decidable (_ ∧ ¬ (_ ∨ _)))

/-- Live jobs are where `queue_depth` counts them, and it counts enough. -/
structure NoLoss (history : History) : Prop where
  present : ∀ jobId, Live history jobId →
    jobId ∈ (history.system.shim.inner.pending ++ history.system.shim.inner.runningJobs).map Job.id
  depth : ∀ jobIds : List String, jobIds.Nodup → (∀ jobId ∈ jobIds, Live history jobId) →
    jobIds.length ≤ history.system.shim.queueDepth

/-- `fail_job` is not called on a live job that still has a retry left. -/
def SparesLive (history : History) : Label → Prop
  | .failJob jobId _ => Live history jobId → history.system.shim.retries jobId = false
  | _ => True

/-- A live job has one copy in the collections, and a worker that holds one
holds the running one; an id not handed out yet has no copy anywhere. -/
structure Balanced (history : History) : Prop where
  once : ∀ jobId, Live history jobId →
    (history.system.tokens jobId).pending + (history.system.tokens jobId).running = 1
  held : ∀ jobId, Live history jobId →
    (history.system.tokens jobId).pending + (history.system.tokens jobId).held ≤ 1
  fresh : ∀ jobId, .enqueued jobId ∉ history.log →
    (history.system.tokens jobId).pending = 0 ∧ (history.system.tokens jobId).running = 0 ∧
      (history.system.tokens jobId).held = 0
  asleep : ∀ jobId, Sleeping history jobId →
    .enqueued jobId ∈ history.log ∧ ¬ Live history jobId

variable {history next : History} {label : Label} {events : List Event} {jobId : String}

theorem Balanced.new (shim : QueueShim) (pending : shim.inner.pending = [])
    (runningJobs : shim.inner.runningJobs = []) : Balanced (.new shim) where
  once jobId live := by cases live.1
  held jobId live := by cases live.1
  fresh jobId _ := by
    simp [History.new, System.new, System.tokens, QueueShim.tokens, heldCopies, pending, runningJobs]
  asleep jobId asleep := by
    obtain ⟨_, _, awake, _⟩ := asleep
    cases awake

/-! ## Balance implies that nothing is lost -/

theorem Balanced.present (balanced : Balanced history) (live : Live history jobId) :
    jobId ∈ (history.system.shim.inner.pending ++ history.system.shim.inner.runningJobs).map Job.id := by
  apply copies_pos_iff.mp
  rw [copies_append]
  have once := balanced.once jobId live
  simp only [System.tokens, QueueShim.tokens] at once
  omega

theorem Balanced.noLoss (balanced : Balanced history) : NoLoss history where
  present jobId live := balanced.present live
  depth jobIds distinct live := by
    have contained : jobIds ⊆ (history.system.shim.inner.pending ++
        history.system.shim.inner.runningJobs).map Job.id :=
      fun jobId member => balanced.present (live jobId member)
    have counted := (List.subperm_of_subset distinct contained).length_le
    rw [List.length_map, List.length_append] at counted
    exact counted

/-! ## A step that spares the live jobs keeps the balance -/

theorem live_append (logged : next.log = history.log ++ events) (quiet : .enqueued jobId ∉ events)
    (live : Live next jobId) : Live history jobId ∧ ¬ Settles jobId events := by
  obtain ⟨enqueued, unsettled⟩ := live
  rw [logged] at enqueued unsettled
  have before : .enqueued jobId ∈ history.log := by
    rcases List.mem_append.mp enqueued with before | now
    · exact before
    · exact absurd now quiet
  refine ⟨⟨before, fun settled => unsettled ?_⟩, fun settled => unsettled ?_⟩
  · exact settled.imp (List.mem_append_left _) (List.mem_append_left _)
  · exact settled.imp (List.mem_append_right _) (List.mem_append_right _)

theorem spares_suspends (spares : SparesLive history label) (live : Live history jobId)
    (suspends : Suspends history.system.shim jobId label) : False := by
  cases label with
  | failJob key error =>
      obtain ⟨rfl, retries⟩ := suspends
      rw [spares live] at retries
      cases retries
  | _ => exact suspends

theorem Balanced.live_step (balanced : Balanced history) (spares : SparesLive history label)
    (logged : next.log = history.log ++ events)
    (moves : StepMoves jobId history label next events) (live : Live next jobId) :
    (next.system.tokens jobId).pending + (next.system.tokens jobId).running = 1 ∧
      (next.system.tokens jobId).pending + (next.system.tokens jobId).held ≤ 1 := by
  cases moves with
  | arrive fresh idle arrived pending running held =>
      obtain ⟨noPending, noRunning, noHeld⟩ := balanced.fresh jobId fresh
      omega
  | moves quiet move =>
      obtain ⟨alive, unsettled⟩ := live_append logged quiet live
      have once := balanced.once jobId alive
      have held := balanced.held jobId alive
      cases move with
      | stay same =>
          rw [same]
          exact ⟨once, held⟩
      | settle settled => exact absurd settled unsettled
      | take => omega
      | requeue => omega
      | suspend suspends => exact (spares_suspends spares alive suspends).elim
      | resume asleep => exact absurd alive (balanced.asleep jobId asleep).2

theorem Balanced.fresh_step (balanced : Balanced history)
    (logged : next.log = history.log ++ events)
    (moves : StepMoves jobId history label next events) (fresh : .enqueued jobId ∉ next.log) :
    (next.system.tokens jobId).pending = 0 ∧ (next.system.tokens jobId).running = 0 ∧
      (next.system.tokens jobId).held = 0 := by
  rw [logged, List.mem_append, not_or] at fresh
  cases moves with
  | arrive _ _ arrived => exact absurd (arrived ▸ List.mem_singleton_self _) fresh.2
  | moves quiet move =>
      obtain ⟨noPending, noRunning, noHeld⟩ := balanced.fresh jobId fresh.1
      cases move with
      | stay same =>
          rw [same]
          exact ⟨noPending, noRunning, noHeld⟩
      | resume asleep => exact absurd (balanced.asleep jobId asleep).1 fresh.1
      | _ => omega

theorem Balanced.asleep_step (balanced : Balanced history) (spares : SparesLive history label)
    (taken : machine.step history label = some next) (asleep : Sleeping next jobId) :
    .enqueued jobId ∈ next.log ∧ ¬ Live next jobId := by
  obtain ⟨job, delaySecs, retrying, rfl⟩ := asleep
  obtain ⟨events, logged, moves⟩ := step_moves taken job.id
  rcases step_retrying taken retrying with before | ⟨suspends, running, unlogged⟩
  · obtain ⟨enqueued, dead⟩ := balanced.asleep job.id ⟨job, delaySecs, before, rfl⟩
    refine ⟨logged ▸ List.mem_append_left _ enqueued, fun live => dead ?_⟩
    cases moves with
    | arrive fresh => exact absurd enqueued fresh
    | moves quiet move => exact (live_append logged quiet live).1
  · have enqueued : .enqueued job.id ∈ history.log := by
      by_contra fresh
      have none := (balanced.fresh job.id fresh).2.1
      simp only [System.tokens, QueueShim.tokens] at none
      omega
    refine ⟨unlogged ▸ enqueued, fun live => spares_suspends spares ?_ suspends⟩
    unfold Live at live
    rw [unlogged] at live
    exact live

theorem Balanced.step (balanced : Balanced history) (spares : SparesLive history label)
    (taken : machine.step history label = some next) : Balanced next where
  once jobId live := by
    obtain ⟨events, logged, moves⟩ := step_moves taken jobId
    exact (balanced.live_step spares logged moves live).1
  held jobId live := by
    obtain ⟨events, logged, moves⟩ := step_moves taken jobId
    exact (balanced.live_step spares logged moves live).2
  fresh jobId fresh := by
    obtain ⟨events, logged, moves⟩ := step_moves taken jobId
    exact balanced.fresh_step logged moves fresh
  asleep jobId asleep := balanced.asleep_step spares taken asleep

/-! ## A suspended live job is in no collection -/

theorem failJob_suspends {shim after : QueueShim} {caller : Caller} {error : String}
    (retries : shim.retries jobId = true)
    (called : shim.call (.failJob jobId error) = some (after, caller, events)) :
    events = [] ∧ after.inner.pending = shim.inner.pending ∧
      after.inner.runningJobs = shim.inner.runningJobs.eraseP (withId jobId) := by
  cases found : shim.running jobId with
  | none => simp [QueueShim.retries, found] at retries
  | some job =>
      have retried : nextAttempt job.attempts ≤ job.maxRetries := by
        simpa [QueueShim.retries, found] using retries
      simp only [QueueShim.call, QueueShim.failJob, found, QueueShim.failedOnce, retried,
        if_true] at called
      cases called
      exact ⟨rfl, rfl, rfl⟩

theorem Balanced.step_loses (balanced : Balanced history) (breaks : ¬ SparesLive history label)
    (taken : machine.step history label = some next) : ¬ NoLoss next := by
  cases label with
  | failJob jobId error =>
      obtain ⟨live, retries⟩ := Classical.not_imp.mp breaks
      have retries : history.system.shim.retries jobId = true := by
        simpa using retries
      have awake : history.system.caller = .idle := by
        by_contra suspended
        obtain ⟨shim, resumed, _⟩ := callStep_suspended suspended taken
        cases caller : history.system.caller <;> simp [caller, Caller.resume] at resumed
      rcases callStep_idle awake taken with ⟨start, _⟩ | ⟨stop, _⟩ | ⟨shim, caller, events, _, called, rfl⟩
      · cases start
      · cases stop
      · obtain ⟨rfl, pending, runningJobs⟩ := failJob_suspends retries called
        intro noLoss
        have alive : Live ⟨{ history.system with shim := shim, caller := caller },
            history.log ++ []⟩ jobId := by
          unfold Live
          rw [List.append_nil]
          exact live
        have present := copies_pos_iff.mpr (noLoss.present jobId alive)
        rw [copies_append, pending, runningJobs, copies_eraseP, if_pos rfl] at present
        have once := balanced.once jobId live
        simp only [System.tokens, QueueShim.tokens] at once
        have left : 0 < copies jobId history.system.shim.inner.runningJobs := by
          cases found : history.system.shim.running jobId with
          | none => simp [QueueShim.retries, found] at retries
          | some job => exact running_copies found
        omega
  | _ => exact absurd trivial breaks

/-- No live job is lost throughout a run exactly as long as no live job is sent
through the retry branch of `fail_job`. -/
theorem always_noLoss_iff (maxWorkers maxRetries retryBaseSecs retryMaxSecs jobTimeoutSecs : Nat)
    (labels : List Label) :
    machine.Always NoLoss
        (.new (.new maxWorkers maxRetries retryBaseSecs retryMaxSecs jobTimeoutSecs)) labels ↔
      machine.Along SparesLive
        (.new (.new maxWorkers maxRetries retryBaseSecs retryMaxSecs jobTimeoutSecs)) labels :=
  Machine.always_iff_along Balanced
    (fun _ balanced => balanced.noLoss)
    (fun _ _ _ balanced spares taken => balanced.step spares taken)
    (fun _ _ _ balanced breaks taken => balanced.step_loses breaks taken)
    (.new _ rfl rfl)

/-- One job, failed once and dropped with the future that was to retry it. -/
theorem not_always_noLoss :
    ¬ machine.Always NoLoss (.new (.new 4 3 5 300 300))
      [.enqueue "job" "mail" [] 0, .enqueueCounted, .dequeue 1, .failJob "job" "refused",
        .failDropped] := by
  intro always
  have present := (always.last rfl).present "job" (by decide)
  exact absurd present (by decide)

end Evergreen.Queue
