import Evergreen.Bus.Bridge
import Mathlib.Data.List.Induction

namespace Evergreen.Bus

/-! # Acknowledging a batch

One pass of the two consuming loops: what XREADGROUP returned is gone through,
and then one id is acknowledged, the last.
-/

universe u

/-- The streams with their entries, each an id and its fields.  The ids of a
stream are distinct, and none is `0-0`. -/
structure XReadGroupReply where
  streams : List (String × List (String × List (String × String)))
  distinct : ((streams.flatMap Prod.snd).map Prod.fst).Nodup
  proper : "0-0" ∉ (streams.flatMap Prod.snd).map Prod.fst
deriving DecidableEq

def XReadGroupReply.entries (reply : XReadGroupReply) : List (String × List (String × String)) :=
  reply.streams.flatMap Prod.snd

inductive ConsumingLoop where
  | startConsuming
  | startConsumingWithHandler
deriving DecidableEq, Repr

/-- The variable of a loop, the events that the bus or the handler was given, and
the metrics that a loop with a handler keeps. -/
structure Consumer (Payload : Type u) where
  lastId : String := "0-0"
  given : List (ShimEvent Payload) := []
  metered : Bool := false
  eventsConsumed : Nat := 0
  errors : Nat := 0
deriving DecidableEq, Repr

/-- The pending list of the consumer, which XACK takes the id it is given from. -/
structure Served (Payload : Type u) where
  consumer : Consumer Payload := {}
  pending : List String := []
deriving DecidableEq, Repr

variable {Payload : Type u}

namespace Consumer

variable (codec : EventCodec Payload) (instanceId : String) (consumer : Consumer Payload)

def consumeEntry (entry : String × List (String × String)) : Consumer Payload :=
  { consumer with
    given := consumer.given ++ (codec.incoming instanceId entry.2).toList
    lastId := entry.1 }

def handleEntry (entry : String × List (String × String)) : Consumer Payload :=
  let consumer := match entry.2.find? (·.1 = "json") with
    | none => consumer
    | some json =>
        match codec.decode json.2 with
        | some event =>
            if event.source ≠ instanceId then
              { consumer with
                given := consumer.given ++ [event]
                eventsConsumed := consumer.eventsConsumed + if consumer.metered then 1 else 0 }
            else consumer
        | none => { consumer with errors := consumer.errors + if consumer.metered then 1 else 0 }
  { consumer with lastId := entry.1 }

def visit : ConsumingLoop → String × List (String × String) → Consumer Payload
  | .startConsuming, entry => consumer.consumeEntry codec instanceId entry
  | .startConsumingWithHandler, entry => consumer.handleEntry codec instanceId entry

/-- One pass of a loop, with the id that is acknowledged at its end; a read that
fails counts as no reply. -/
def pass (loop : ConsumingLoop) (reply : Option XReadGroupReply) : Consumer Payload × Option String :=
  let consumer := match reply with
    | some reply => reply.streams.foldl (fun consumer stream =>
        stream.2.foldl (fun consumer entry => consumer.visit codec instanceId loop entry) consumer)
        consumer
    | none => consumer
  (consumer, if consumer.lastId ≠ "0-0" then some consumer.lastId else none)

end Consumer

def batchOf (reply : Option XReadGroupReply) : List (String × List (String × String)) :=
  reply.elim [] XReadGroupReply.entries

def Served.pass (codec : EventCodec Payload) (instanceId : String) (loop : ConsumingLoop)
    (served : Served Payload) (reply : Option XReadGroupReply) : Served Payload :=
  let (consumer, acknowledged) := served.consumer.pass codec instanceId loop reply
  { consumer
    pending := (served.pending ++ (batchOf reply).map Prod.fst).filter
      fun id => acknowledged ≠ some id }

def passes (codec : EventCodec Payload) (instanceId : String) (loop : ConsumingLoop) :
    Machine (Served Payload) (Option XReadGroupReply) :=
  .ofFunction (Served.pass codec instanceId loop)

/-- What is asked of a pass: every entry it went through is acknowledged, and none
is pending any more. -/
structure Acknowledges (codec : EventCodec Payload) (instanceId : String) (loop : ConsumingLoop)
    (served : Served Payload) (reply : Option XReadGroupReply) : Prop where
  acknowledged : ∀ entry ∈ batchOf reply,
    (served.consumer.pass codec instanceId loop reply).2 = some entry.1
  settled : (served.pass codec instanceId loop reply).pending = []

variable {codec : EventCodec Payload} {instanceId : String} {loop : ConsumingLoop}
variable {consumer : Consumer Payload} {served : Served Payload}

/-! ## One pass -/

theorem lastId_visit (entry : String × List (String × String)) :
    (consumer.visit codec instanceId loop entry).lastId = entry.1 := by
  cases loop <;> rfl

theorem lastId_visits (entries : List (String × List (String × String))) :
    (entries.foldl (fun consumer entry => consumer.visit codec instanceId loop entry)
      consumer).lastId = (entries.getLast?.map Prod.fst).getD consumer.lastId := by
  induction entries using List.reverseRecOn with
  | nil => rfl
  | append_singleton entries entry ih =>
      rw [List.foldl_append, List.getLast?_concat]
      exact lastId_visit entry

theorem pass_eq (reply : XReadGroupReply) :
    (consumer.pass codec instanceId loop (some reply)).1 = reply.entries.foldl
      (fun consumer entry => consumer.visit codec instanceId loop entry) consumer := by
  have nested : ∀ streams : List (String × List (String × List (String × String))),
      streams.foldl (fun consumer stream => stream.2.foldl
          (fun consumer entry => consumer.visit codec instanceId loop entry) consumer) consumer =
        (streams.flatMap Prod.snd).foldl
          (fun consumer entry => consumer.visit codec instanceId loop entry) consumer := by
    intro streams
    induction streams generalizing consumer with
    | nil => rfl
    | cons stream rest ih =>
        rw [List.foldl_cons, List.flatMap_cons, List.foldl_append]
        exact ih
  exact nested reply.streams

theorem acknowledged_eq {reply : Option XReadGroupReply} {entry : String × List (String × String)}
    (last : (batchOf reply).getLast? = some entry) :
    (consumer.pass codec instanceId loop reply).2 = some entry.1 := by
  cases reply with
  | none => cases last
  | some reply =>
      have id : (consumer.pass codec instanceId loop (some reply)).1.lastId = entry.1 := by
        rw [pass_eq, lastId_visits]
        change ((batchOf (some reply)).getLast?.map Prod.fst).getD _ = _
        rw [last]
        rfl
      have proper : entry.1 ≠ "0-0" := by
        intro same
        exact reply.proper (same ▸ List.mem_map_of_mem (List.mem_of_getLast? last))
      change (if (consumer.pass codec instanceId loop (some reply)).1.lastId ≠ "0-0" then
        some (consumer.pass codec instanceId loop (some reply)).1.lastId else none) = _
      rw [id, if_pos proper]

theorem batch_distinct (reply : Option XReadGroupReply) : ((batchOf reply).map Prod.fst).Nodup := by
  cases reply with
  | none => exact List.nodup_nil
  | some reply => exact reply.distinct

theorem acknowledges_iff (settled : served.pending = []) (reply : Option XReadGroupReply) :
    Acknowledges codec instanceId loop served reply ↔ (batchOf reply).length ≤ 1 := by
  have distinct := batch_distinct reply
  have last : ∀ entry, (batchOf reply).getLast? = some entry →
      (served.consumer.pass codec instanceId loop reply).2 = some entry.1 :=
    fun entry => acknowledged_eq
  have pending : (served.pass codec instanceId loop reply).pending =
      ((batchOf reply).map Prod.fst).filter fun id =>
        (served.consumer.pass codec instanceId loop reply).2 ≠ some id := by
    rw [Served.pass, settled]
    rfl
  cases batch : batchOf reply with
  | nil =>
      rw [batch] at pending
      exact iff_of_true ⟨by simp [batch], pending⟩ (Nat.zero_le 1)
  | cons entry rest =>
      rw [batch] at distinct last pending
      cases rest with
      | nil =>
          have only := last entry rfl
          refine iff_of_true ⟨?_, ?_⟩ (Nat.le_refl 1)
          · intro other member
            rw [batch, List.mem_singleton] at member
            rw [member]
            exact only
          · rw [pending, only]
            simp
      | cons second rest =>
          refine iff_of_false (fun acknowledges => ?_) (by simp)
          have both := acknowledges.acknowledged
          rw [batch] at both
          have first := both entry List.mem_cons_self
          have next := both second (List.mem_cons_of_mem entry List.mem_cons_self)
          rw [first] at next
          rw [List.map_cons, List.map_cons, List.nodup_cons] at distinct
          exact distinct.1 (Option.some.inj next ▸ List.mem_cons_self)

/-! ## Runs -/

/-- In both loops, every entry is acknowledged at the end of its pass if and only
if no batch has more than one. -/
theorem acknowledges_all_iff (codec : EventCodec Payload) (instanceId : String)
    (loop : ConsumingLoop) (metered : Bool) (replies : List (Option XReadGroupReply)) :
    (passes codec instanceId loop).Along (Acknowledges codec instanceId loop)
        { consumer := { metered } } replies ↔
      ∀ reply ∈ replies, (batchOf reply).length ≤ 1 := by
  rw [← Machine.along_ofFunction_iff_forall_mem]
  apply Machine.along_ofFunction_iff_along fun served => served.pending = []
  · intro served reply settled
    exact acknowledges_iff settled reply
  · intro served reply settled few
    exact ((acknowledges_iff settled reply).mpr few).settled
  · rfl

def twoEntries : XReadGroupReply where
  streams := [("events", [("1-0", []), ("2-0", [])])]
  distinct := by decide
  proper := by decide

def silentCodec : EventCodec Unit := ⟨fun _ => none, fun _ => none⟩

/-- The first of two entries is never acknowledged. -/
theorem first_entry_unacknowledged :
    ¬ ∀ replies, (passes silentCodec "pod-a" .startConsuming).Along
      (Acknowledges silentCodec "pod-a" .startConsuming) {} replies := by
  intro acknowledged
  have pass := (acknowledged [some twoEntries] _ rfl).1
  exact absurd (pass.acknowledged ("1-0", []) List.mem_cons_self) (by decide)

end Evergreen.Bus
