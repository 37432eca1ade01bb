import Evergreen.Failover.Promotions

namespace Evergreen.Failover

/-! # The master that Sentinel reports

A successful check of the Sentinel connector notes the reported master in a
variable of its own and announces a change on the bus; `current_primary`, from
which `trigger_failover` takes the old primary, is not written.
-/

/-- The loop, the master that Sentinel reported last, unless the shim itself has
promoted the replica since, and every call with the master reported before it. -/
structure SentinelWatch where
  monitor : Monitor
  reported : Option String
  calls : List (Option String × TriggerCall)
deriving DecidableEq, Repr

namespace FailoverShim

variable (shim : FailoverShim)

def reportedMaster (input : TickInput) : Option String :=
  match input.sentinel with
  | .masterInfo ip port => some s!"{ip}:{port}"
  | .unreachable => none

def sentinelTick (watch : SentinelWatch) (input : TickInput) : SentinelWatch :=
  let call := shim.tickCall watch.monitor input
  { monitor := (shim.tick watch.monitor input).1
    reported :=
      if call.any (·.succeeded) then none else reportedMaster input <|> watch.reported
    calls := watch.calls ++ (call.map fun call => (watch.reported, call)).toList }

def sentinelWatched : Machine SentinelWatch TickInput := .ofFunction shim.sentinelTick

def sentinelInitial : SentinelWatch := ⟨shim.initial, none, []⟩

end FailoverShim

/-- `current_primary` is the reported master, and so were the old primaries of
the calls. -/
structure SentinelWatch.TracksMaster (watch : SentinelWatch) : Prop where
  current : ∀ master, watch.reported = some master →
    watch.monitor.shared.currentPrimary = master
  named : ∀ call ∈ watch.calls, ∀ master, call.1 = some master → call.2.oldPrimary = master

/-- The report is of the primary that the shim has already. -/
def SentinelWatch.ReportsCurrent (watch : SentinelWatch) (input : TickInput) : Prop :=
  ∀ master, FailoverShim.reportedMaster input = some master →
    watch.monitor.shared.currentPrimary = master

open FailoverShim

variable {shim : FailoverShim} {monitor : Monitor} {input : TickInput} {watch : SentinelWatch}
variable {master : String}

theorem tick_reported (connected : shim.connector = .redisSentinel)
    (reported : reportedMaster input = some master) :
    shim.tickCall monitor input = none ∧
      (shim.tick monitor input).1.shared.currentPrimary = monitor.shared.currentPrimary := by
  cases answer : input.sentinel with
  | unreachable => simp [reportedMaster, answer] at reported
  | masterInfo ip port =>
      constructor
      · simp [tickCall, checkFailed, connected, answer]
      · simp [tick, connected, handleSentinelCheck, answer, apply_ite SharedState.currentPrimary]

theorem tick_unreported (connected : shim.connector = .redisSentinel)
    (unreported : reportedMaster input = none) (uncalled : shim.tickCall monitor input = none) :
    (shim.tick monitor input).1.shared.currentPrimary = monitor.shared.currentPrimary := by
  have unreachable : input.sentinel = .unreachable := by
    cases answer : input.sentinel with
    | unreachable => rfl
    | masterInfo ip port => simp [reportedMaster, answer] at unreported
  have failed : shim.checkFailed input = true := by simp [checkFailed, connected, unreachable]
  have below : ¬ shim.failureThreshold ≤ incrementU32 monitor.shared.consecutiveFailures := by
    simpa [tickCall, failed] using uncalled
  rw [tick_failed failed, recordFailedCheck_counts below]
  rfl

theorem SentinelWatch.TracksMaster.tick (tracks : watch.TracksMaster)
    (connected : shim.connector = .redisSentinel) (current : watch.ReportsCurrent input) :
    (shim.sentinelTick watch input).TracksMaster := by
  cases reported : reportedMaster input with
  | some master =>
      obtain ⟨uncalled, kept⟩ := @tick_reported shim watch.monitor input master connected reported
      refine ⟨fun other named => ?_, ?_⟩
      · simp only [sentinelTick, uncalled, reported] at named ⊢
        rw [kept, current master reported]
        simpa using named
      · simpa [sentinelTick, uncalled] using tracks.named
  | none =>
      cases called : shim.tickCall watch.monitor input with
      | none =>
          refine ⟨fun other named => ?_, ?_⟩
          · simp only [sentinelTick, called, reported] at named ⊢
            rw [tick_unreported connected reported called]
            exact tracks.current other (by simpa using named)
          · simpa [sentinelTick, called] using tracks.named
      | some call =>
          obtain ⟨served, _⟩ := tick_called called
          obtain ⟨_, _, rfl⟩ := tickCall_eq_some called
          refine ⟨fun other named => ?_, fun made member other named => ?_⟩
          · simp only [sentinelTick, called, reported] at named ⊢
            rw [served]
            cases promoted : input.attempt.result with
            | true => simp [promoted] at named
            | false => exact tracks.current other (by simpa [promoted] using named)
          · simp only [sentinelTick, called, Option.map_some, Option.toList_some, List.mem_append,
              List.mem_singleton] at member
            rcases member with earlier | rfl
            · exact tracks.named made earlier other named
            · exact tracks.current other named

theorem SentinelWatch.not_tracksMaster (connected : shim.connector = .redisSentinel)
    (other : ¬ watch.ReportsCurrent input) : ¬ (shim.sentinelTick watch input).TracksMaster := by
  intro tracks
  refine other fun master reported => ?_
  obtain ⟨uncalled, kept⟩ := @tick_reported shim watch.monitor input master connected reported
  rw [← kept]
  exact tracks.current master (by simp [sentinelTick, uncalled, reported])

/-- In every run of the Sentinel connector the shim's primary is the master last
reported, in every state and in every call, exactly when each report is of the
primary that the shim has already. -/
theorem always_tracksMaster_iff (shim : FailoverShim) (connected : shim.connector = .redisSentinel)
    (inputs : List TickInput) :
    shim.sentinelWatched.Always SentinelWatch.TracksMaster shim.sentinelInitial inputs ↔
      shim.sentinelWatched.Along SentinelWatch.ReportsCurrent shim.sentinelInitial inputs := by
  apply Machine.always_ofFunction_iff_along SentinelWatch.TracksMaster
  · exact fun _ tracks => tracks
  · exact fun _ _ tracks current => tracks.tick connected current
  · exact fun _ _ _ other => SentinelWatch.not_tracksMaster connected other
  · exact ⟨nofun, nofun⟩

def masterInput (ip port : String) : TickInput :=
  { silentInput with sentinel := .masterInfo ip port }

theorem always_tracksMaster_steady :
    (pairedShim .redisSentinel).sentinelWatched.Always SentinelWatch.TracksMaster
      (pairedShim .redisSentinel).sentinelInitial [masterInput "db-1" "5432", silentInput] :=
  (always_tracksMaster_iff (pairedShim .redisSentinel) rfl _).mpr
    (.cons rfl (fun _ reported => by cases reported; decide) (.cons rfl nofun trivial))

/-- Sentinel reports that the replica has become the master; the failover that
follows is made in the name of the old one. -/
theorem not_always_tracksMaster :
    ¬ (pairedShim .redisSentinel).sentinelWatched.Always SentinelWatch.TracksMaster
      (pairedShim .redisSentinel).sentinelInitial
      [masterInput "db-1" "5432", masterInput "db-2" "5432", silentInput] := by
  intro always
  have named := (always.last rfl).named (some "db-2:5432", ⟨"db-1:5432", "db-2:5432", true⟩)
    (by decide) "db-2:5432" rfl
  exact absurd named (by decide)

end Evergreen.Failover
