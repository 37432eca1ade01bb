import Evergreen.Settings.Validate
import Evergreen.Machine.Run

namespace Evergreen.Settings

/-! # The configuration watcher

Both watcher loops take events off a channel, skip a `Modify` event that comes
less than the debounce interval after the last one they acted on, and otherwise
sleep for that interval and read the file.  `start_watching` is the loop whose
validator finds nothing.  Instants and durations count the same unit.
-/

variable {Percent : Type}

/-- What `from_file` makes of the text the file holds. -/
abbrev Content (Percent : Type) := Except String (Config Percent)

structure ReloadMetrics where
  reloadTotal : Nat := 0
  reloadFailedTotal : Nat := 0
  reloadLastTimestamp : Nat := 0
deriving DecidableEq, Repr

namespace ReloadMetrics

def succeeded (metrics : ReloadMetrics) (timestamp : Nat) : ReloadMetrics :=
  { metrics with
    reloadTotal := metrics.reloadTotal + 1
    reloadLastTimestamp := timestamp }

def failed (metrics : ReloadMetrics) : ReloadMetrics :=
  { metrics with reloadFailedTotal := metrics.reloadFailedTotal + 1 }

end ReloadMetrics

/-- `config` is what every holder of the watcher reads. -/
structure ConfigWatcher (Percent : Type) where
  config : Config Percent
  metrics : Option ReloadMetrics
deriving DecidableEq, Repr

abbrev Validator (Percent : Type) := Config Percent → List ConfigValidationError

namespace ConfigWatcher

/-- `new` takes the default configuration where the file cannot be used. -/
def new (content : Content Percent) (metrics : Option ReloadMetrics) : ConfigWatcher Percent where
  config := match content with
    | .ok config => config
    | .error _ => {}
  metrics := metrics

/-- What follows the sleep: read, validate, and replace the configuration. -/
def reload (validator : Validator Percent) (timestamp : Nat) (content : Content Percent)
    (watcher : ConfigWatcher Percent) : ConfigWatcher Percent :=
  match content with
  | .ok newConfig =>
      if validator newConfig = [] then
        { config := newConfig, metrics := watcher.metrics.map (·.succeeded timestamp) }
      else { watcher with metrics := watcher.metrics.map ReloadMetrics.failed }
  | .error _ => { watcher with metrics := watcher.metrics.map ReloadMetrics.failed }

end ConfigWatcher

/-- What `rx.recv()` answers; every kind of event but `Modify` is ignored. -/
inductive Received where
  | modify
  | other
  | watchError
  | channelError
deriving DecidableEq, Repr

inductive Phase where
  | starting
  | receiving
  | sleeping
  | stopped
deriving DecidableEq, Repr

/-- The file, the channel and the loop.  `unannounced` counts the modifications
for which no event has been delivered yet; `started` is the instant that the
loop's first `last_reload` was taken. -/
structure Watching (Percent : Type) where
  content : Content Percent
  unannounced : Nat
  queue : List Received
  watcher : ConfigWatcher Percent
  now : Nat
  started : Nat
  lastReload : Nat
  phase : Phase

namespace Watching

variable (state : Watching Percent)

/-- The watch is in place on the file that `new` has read. -/
def start (content : Content Percent) (metrics : Option ReloadMetrics) (now : Nat) :
    Watching Percent where
  content := content
  unannounced := 0
  queue := []
  watcher := .new content metrics
  now := now
  started := now
  lastReload := now
  phase := .starting

inductive Label (Percent : Type) where
  | modify (content : Content Percent)
  | announce (others : Nat)
  | notify (received : Received)
  | pass (elapsed : Nat)
  | enter
  | recv
  | reload (timestamp : Nat)

def elapsed : Nat := state.now - state.lastReload

/-- One turn of the loop up to the sleep, on what it has received. -/
def handle (debounce : Nat) (received : Received) : Watching Percent :=
  match received with
  | .modify =>
      if state.elapsed < debounce then state
      else { state with lastReload := state.now, phase := .sleeping }
  | .other => state
  | .watchError => { state with phase := .stopped }
  | .channelError => { state with phase := .stopped }

def step (debounce : Nat) (validator : Validator Percent) :
    Label Percent → Option (Watching Percent)
  | .modify content => some { state with content, unannounced := state.unannounced + 1 }
  -- one event may stand for several modifications, and there may be events for none
  | .announce others =>
      if others < state.unannounced then
        some { state with
          unannounced := state.unannounced - (others + 1)
          queue := state.queue ++ [.modify] }
      else none
  | .notify received => some { state with queue := state.queue ++ [received] }
  | .pass elapsed => some { state with now := state.now + elapsed }
  | .enter =>
      if state.phase = .starting then
        some { state with started := state.now, lastReload := state.now, phase := .receiving }
      else none
  | .recv =>
      match state.phase, state.queue with
      | .receiving, received :: queue => some ({ state with queue }.handle debounce received)
      | _, _ => none
  | .reload timestamp =>
      if state.phase = .sleeping ∧ debounce ≤ state.elapsed then
        some { state with
          watcher := state.watcher.reload validator timestamp state.content
          phase := .receiving }
      else none

end Watching

/-- `start_watching_with_validation`. -/
def startWatchingWithValidation (debounce : Nat) (validator : Validator Percent) :
    Machine (Watching Percent) (Watching.Label Percent) where
  step state := state.step debounce validator

def startWatching (debounce : Nat) : Machine (Watching Percent) (Watching.Label Percent) :=
  startWatchingWithValidation debounce fun _ => []

end Evergreen.Settings
