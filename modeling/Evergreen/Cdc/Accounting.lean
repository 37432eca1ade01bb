import Evergreen.Cdc.Shim

namespace Evergreen.Cdc

/-! # Accounting for a batch

`publish_batch` learns how many events of a batch got through, not which, and
counts all of them as published as soon as one did.
-/

variable {Value : Type}

namespace CdcShim

variable (shim : CdcShim Value)

/-- Whether an event with this outcome gets through. -/
def delivers (outcome : Outcome) : Bool :=
  if shim.output = "webhook" then shim.webhookUrl.isSome && shim.httpClient && outcome = .delivered
  else outcome ≠ .unserializable

def delivered (outcomes : Nat → Outcome) : List (CdcEvent Value) :=
  (shim.batch.zipIdx.filter fun event => shim.delivers (outcomes event.2)).map Prod.fst

def undelivered (outcomes : Nat → Outcome) : List (CdcEvent Value) :=
  (shim.batch.zipIdx.filter fun event => !shim.delivers (outcomes event.2)).map Prod.fst

/-- The delivered events, and no others, are returned, counted as published and
put into the ring; an undelivered one is kept or counted as failed. -/
structure Accounted (before : CdcShim Value) (outcomes : Nat → Outcome)
    (result : CdcShim Value × Nat) : Prop where
  returned : result.2 = (before.delivered outcomes).length
  published : result.1.eventsPublished = before.eventsPublished + (before.delivered outcomes).length
  ring : result.1.publishedRing =
    ((before.delivered outcomes).foldl CdcShim.pushToRing before).publishedRing
  kept : ∃ kept, kept.Sublist (before.undelivered outcomes) ∧
    result.1.pendingEvents.Perm (kept ++ before.pendingEvents.drop before.batch.length) ∧
    result.1.eventsFailed = before.eventsFailed + ((before.undelivered outcomes).length - kept.length)

/-- Every captured event is pending, published or failed. -/
def Conserved : Prop :=
  shim.eventsCaptured = shim.pendingEvents.length + shim.eventsPublished + shim.eventsFailed

def AllDelivered (outcomes : Nat → Outcome) : Prop :=
  ∀ index < shim.batch.length, shim.delivers (outcomes index) = true

/-- A publication is accounted for. -/
def Accounts : Call Value → Prop
  | .publishBatch outcomes now => Accounted shim outcomes (shim.publishBatch outcomes now)
  | _ => True

/-- No event is captured beyond the greatest count. -/
def InRange : Call Value → Prop
  | .capture event => shim.shouldCapture event.table = true → shim.eventsCaptured + 1 < 2 ^ 64
  | _ => True

def DeliversAll : Call Value → Prop
  | .publishBatch outcomes _ => shim.AllDelivered outcomes
  | _ => True

variable {shim} {outcomes : Nat → Outcome} {now : String}

theorem length_batch_le : shim.batch.length ≤ shim.pendingEvents.length := by
  rw [batch, List.length_take]
  omega

theorem AllDelivered.delivered_eq (all : shim.AllDelivered outcomes) :
    shim.delivered outcomes = shim.batch := by
  have every : (shim.batch.zipIdx.filter fun event => shim.delivers (outcomes event.2)) =
      shim.batch.zipIdx := by
    refine List.filter_eq_self.mpr fun event member => ?_
    exact all event.2 (List.snd_lt_of_mem_zipIdx member)
  rw [delivered, every, List.zipIdx_map_fst]

theorem AllDelivered.undelivered_eq (all : shim.AllDelivered outcomes) :
    shim.undelivered outcomes = [] := by
  have none : (shim.batch.zipIdx.filter fun event => !shim.delivers (outcomes event.2)) = [] := by
    refine List.filter_eq_nil_iff.mpr fun event member => ?_
    simp [all event.2 (List.snd_lt_of_mem_zipIdx member)]
  rw [undelivered, none, List.map_nil]

theorem length_delivered_lt (missing : ¬ shim.AllDelivered outcomes) :
    (shim.delivered outcomes).length < shim.batch.length := by
  simp only [AllDelivered, not_forall] at missing
  obtain ⟨index, bound, undelivered⟩ := missing
  have member : (shim.batch[index], index) ∈ shim.batch.zipIdx :=
    List.mk_mem_zipIdx_iff_getElem?.mpr (List.getElem?_eq_getElem bound)
  rw [delivered, List.length_map, ← @List.length_zipIdx _ shim.batch 0]
  exact List.length_filter_lt_length_iff_exists.mpr ⟨_, member, undelivered⟩

theorem publishViaWebhook_eq (webhook : shim.output = "webhook") :
    shim.publishViaWebhook shim.batch outcomes = (shim.delivered outcomes).length := by
  rw [publishViaWebhook, delivered, List.length_map]
  cases configured : shim.webhookUrl.isSome && shim.httpClient with
  | true => simp [delivers, webhook, configured]
  | false =>
      have none : (shim.batch.zipIdx.filter fun event => shim.delivers (outcomes event.2)) = [] :=
        List.filter_eq_nil_iff.mpr fun event _ => by simp [delivers, webhook, configured]
      rw [none]
      rfl

/-! ## Counting a batch -/

/-- What a turn of either loop does to everything but the ring. -/
structure Settles (before after : CdcShim Value) (publishes : Bool) : Prop where
  published : after.eventsPublished =
    if publishes then (before.eventsPublished + 1) % 2 ^ 64 else before.eventsPublished
  failed : after.eventsFailed =
    if publishes then before.eventsFailed else (before.eventsFailed + 1) % 2 ^ 64
  captured : after.eventsCaptured = before.eventsCaptured
  pending : after.pendingEvents = before.pendingEvents

theorem fold_settles {Item : Type} {turn : CdcShim Value → Item → CdcShim Value}
    {publishes : Item → Bool}
    (settles : ∀ shim item, Settles shim (turn shim item) (publishes item)) (items : List Item)
    (room : shim.eventsPublished + shim.eventsFailed + items.length < 2 ^ 64) :
    (items.foldl turn shim).eventsPublished = shim.eventsPublished + items.countP publishes ∧
      (items.foldl turn shim).eventsFailed =
        shim.eventsFailed + (items.length - items.countP publishes) ∧
      (items.foldl turn shim).eventsCaptured = shim.eventsCaptured ∧
      (items.foldl turn shim).pendingEvents = shim.pendingEvents := by
  induction items generalizing shim with
  | nil => simp
  | cons item rest ih =>
      have turned := settles shim item
      have published := turned.published
      have failed := turned.failed
      have counted := List.countP_le_length (p := publishes) (l := rest)
      rw [List.length_cons] at room
      rw [List.foldl_cons, List.countP_cons, List.length_cons]
      cases publishing : publishes item with
      | true =>
          simp only [publishing, if_true] at published failed ⊢
          rw [Nat.mod_eq_of_lt (by omega)] at published
          obtain ⟨more, lost, captured, pending⟩ := @ih (turn shim item) (by omega)
          exact ⟨by omega, by omega, captured.trans turned.captured, pending.trans turned.pending⟩
      | false =>
          simp only [publishing, Bool.false_eq_true, if_false] at published failed ⊢
          rw [Nat.mod_eq_of_lt (by omega)] at failed
          obtain ⟨more, lost, captured, pending⟩ := @ih (turn shim item) (by omega)
          exact ⟨by omega, by omega, captured.trans turned.captured, pending.trans turned.pending⟩

/-- What the ring is after an event depends on the ring and its capacity. -/
structure SameRing (first second : CdcShim Value) : Prop where
  ring : first.publishedRing = second.publishedRing
  capacity : first.ringCapacity = second.ringCapacity

theorem SameRing.pushToRing {first second : CdcShim Value} (same : SameRing first second)
    (event : CdcEvent Value) : SameRing (first.pushToRing event) (second.pushToRing event) := by
  constructor
  · simp only [CdcShim.pushToRing, same.ring, same.capacity]
  · exact same.capacity

theorem fold_sameRing {Item : Type} {turn : CdcShim Value → Item → CdcShim Value}
    (event : Item → CdcEvent Value) {items : List Item}
    (pushes : ∀ shim, ∀ item ∈ items, SameRing (turn shim item) (shim.pushToRing (event item)))
    {first second : CdcShim Value} (same : SameRing first second) :
    SameRing (items.foldl turn first) ((items.map event).foldl CdcShim.pushToRing second) := by
  induction items generalizing first second with
  | nil => exact same
  | cons item rest ih =>
      have turned := pushes first item List.mem_cons_self
      have pushed := same.pushToRing (event item)
      exact ih (fun shim other member => pushes shim other (List.mem_cons_of_mem item member))
        ⟨turned.ring.trans pushed.ring, turned.capacity.trans pushed.capacity⟩

theorem fold_all {Item : Type} {turn : CdcShim Value → Item → CdcShim Value}
    {publishes : Item → Bool}
    (settles : ∀ shim item, Settles shim (turn shim item) (publishes item))
    (event : Item → CdcEvent Value) {items : List Item}
    (all : ∀ item ∈ items, publishes item = true)
    (pushes : ∀ shim, ∀ item ∈ items, SameRing (turn shim item) (shim.pushToRing (event item)))
    {first second : CdcShim Value} (same : SameRing first second)
    (room : first.eventsPublished + first.eventsFailed + items.length < 2 ^ 64) :
    (items.foldl turn first).eventsPublished = first.eventsPublished + items.length ∧
      (items.foldl turn first).eventsFailed = first.eventsFailed ∧
      (items.foldl turn first).publishedRing =
        ((items.map event).foldl CdcShim.pushToRing second).publishedRing := by
  obtain ⟨published, failed, _⟩ := fold_settles settles items room
  rw [List.countP_eq_length.mpr all] at published failed
  exact ⟨published, by omega, (fold_sameRing event pushes same).ring⟩

/-! ## One publication -/

def drained (shim : CdcShim Value) : CdcShim Value :=
  { shim with pendingEvents := shim.pendingEvents.drop shim.batch.length }

/-- A turn of the webhook loop, given how many events got through. -/
def webhookTurn (published : Nat) (shim : CdcShim Value) (event : CdcEvent Value) : CdcShim Value :=
  if 0 < published then shim.countPublished.pushToRing event else shim.countFailed

def logTurn (outcomes : Nat → Outcome) (shim : CdcShim Value) (event : CdcEvent Value × Nat) :
    CdcShim Value :=
  (match outcomes event.2 with
    | .unserializable => shim.countFailed
    | _ => shim.countPublished).pushToRing event.1

/-- The shim after the loop of its transport. -/
def looped (shim : CdcShim Value) (outcomes : Nat → Outcome) : CdcShim Value :=
  if shim.output = "webhook" then
    shim.batch.foldl (webhookTurn (shim.publishViaWebhook shim.batch outcomes)) shim.drained
  else shim.batch.zipIdx.foldl (logTurn outcomes) shim.drained

theorem publishBatch_eq : shim.publishBatch outcomes now =
    if shim.batch.length = 0 then (shim.drained, 0)
    else ({ shim.looped outcomes with
      walPosition := { (shim.looped outcomes).walPosition with lastFlush := now } },
      shim.batch.length) := rfl

theorem foldl_shouldCapture {Item : Type} {turn : CdcShim Value → Item → CdcShim Value}
    (keeps : ∀ shim item, (turn shim item).shouldCapture = shim.shouldCapture) (items : List Item) :
    (items.foldl turn shim).shouldCapture = shim.shouldCapture := by
  induction items generalizing shim with
  | nil => rfl
  | cons item items ih => exact ih.trans (keeps shim item)

theorem publishBatch_shouldCapture :
    (shim.publishBatch outcomes now).1.shouldCapture = shim.shouldCapture := by
  rw [publishBatch_eq]
  split
  · rfl
  · change (shim.looped outcomes).shouldCapture = shim.shouldCapture
    unfold looped
    split
    · refine foldl_shouldCapture (fun shim event => ?_) _
      unfold webhookTurn
      split <;> rfl
    · refine foldl_shouldCapture (fun shim event => ?_) _
      unfold logTurn
      split <;> rfl

theorem settles_webhookTurn (published : Nat) (shim : CdcShim Value) (event : CdcEvent Value) :
    Settles shim (webhookTurn published shim event) (decide (0 < published)) := by
  unfold webhookTurn
  by_cases some : 0 < published
  · rw [if_pos some, decide_eq_true some]
    exact ⟨rfl, rfl, rfl, rfl⟩
  · rw [if_neg some, decide_eq_false some]
    exact ⟨rfl, rfl, rfl, rfl⟩

theorem settles_logTurn (shim : CdcShim Value) (event : CdcEvent Value × Nat) :
    Settles shim (logTurn outcomes shim event) (decide (outcomes event.2 ≠ .unserializable)) := by
  unfold logTurn
  cases outcomes event.2 <;> exact ⟨rfl, rfl, rfl, rfl⟩

theorem fold_total {Item : Type} {turn : CdcShim Value → Item → CdcShim Value}
    {publishes : Item → Bool}
    (settles : ∀ shim item, Settles shim (turn shim item) (publishes item)) (items : List Item)
    (room : shim.eventsPublished + shim.eventsFailed + items.length < 2 ^ 64) :
    (items.foldl turn shim).eventsPublished + (items.foldl turn shim).eventsFailed =
        shim.eventsPublished + shim.eventsFailed + items.length ∧
      (items.foldl turn shim).eventsCaptured = shim.eventsCaptured ∧
      (items.foldl turn shim).pendingEvents = shim.pendingEvents := by
  obtain ⟨published, failed, kept⟩ := fold_settles settles items room
  have counted := List.countP_le_length (p := publishes) (l := items)
  exact ⟨by omega, kept⟩

theorem looped_total (room : shim.eventsPublished + shim.eventsFailed + shim.batch.length < 2 ^ 64) :
    (shim.looped outcomes).eventsPublished + (shim.looped outcomes).eventsFailed =
        shim.eventsPublished + shim.eventsFailed + shim.batch.length ∧
      (shim.looped outcomes).eventsCaptured = shim.eventsCaptured ∧
      (shim.looped outcomes).pendingEvents = shim.pendingEvents.drop shim.batch.length := by
  unfold looped
  split
  · exact @fold_total _ shim.drained _ _ _ (settles_webhookTurn _) shim.batch room
  · have total := @fold_total _ shim.drained _ _ _ (@settles_logTurn _ outcomes) shim.batch.zipIdx
      (by rw [List.length_zipIdx]; exact room)
    rw [List.length_zipIdx] at total
    exact total

theorem looped_all (all : shim.AllDelivered outcomes) (nonempty : shim.batch.length ≠ 0)
    (room : shim.eventsPublished + shim.eventsFailed + shim.batch.length < 2 ^ 64) :
    (shim.looped outcomes).eventsPublished = shim.eventsPublished + shim.batch.length ∧
      (shim.looped outcomes).eventsFailed = shim.eventsFailed ∧
      (shim.looped outcomes).publishedRing =
        (shim.batch.foldl CdcShim.pushToRing shim).publishedRing := by
  have start : SameRing shim.drained shim := ⟨rfl, rfl⟩
  unfold looped
  split
  · rename_i webhook
    have through : 0 < shim.publishViaWebhook shim.batch outcomes := by
      rw [publishViaWebhook_eq webhook, all.delivered_eq]
      exact Nat.pos_of_ne_zero nonempty
    have pushes : ∀ (before : CdcShim Value), ∀ event ∈ shim.batch, SameRing
        (webhookTurn (shim.publishViaWebhook shim.batch outcomes) before event)
        (before.pushToRing (id event)) := by
      intro before event _
      rw [webhookTurn, if_pos through]
      exact ⟨rfl, rfl⟩
    have folded := fold_all (settles_webhookTurn _) id (fun _ _ => decide_eq_true through) pushes
      start room
    rwa [List.map_id] at folded
  · rename_i webhook
    have readable : ∀ event ∈ shim.batch.zipIdx, outcomes event.2 ≠ .unserializable := by
      intro event member
      have through := all event.2 (List.snd_lt_of_mem_zipIdx member)
      simpa [delivers, webhook] using through
    have pushes : ∀ (before : CdcShim Value), ∀ event ∈ shim.batch.zipIdx,
        SameRing (logTurn outcomes before event) (before.pushToRing event.1) := by
      intro before event member
      have serialized := readable event member
      unfold logTurn
      cases outcome : outcomes event.2 with
      | unserializable => exact absurd outcome serialized
      | delivered => exact ⟨rfl, rfl⟩
      | failed => exact ⟨rfl, rfl⟩
    have folded := fold_all settles_logTurn Prod.fst
      (fun event member => decide_eq_true (readable event member)) pushes start
      (by rw [List.length_zipIdx]; exact room)
    rwa [List.zipIdx_map_fst, List.length_zipIdx] at folded

theorem accounted_iff_allDelivered
    (room : shim.eventsPublished + shim.eventsFailed + shim.batch.length < 2 ^ 64) :
    Accounted shim outcomes (shim.publishBatch outcomes now) ↔ shim.AllDelivered outcomes := by
  constructor
  · intro accounted
    by_contra missing
    have fewer := length_delivered_lt missing
    have returned := accounted.returned
    rw [publishBatch_eq, if_neg (by omega)] at returned
    exact absurd returned (by simp only; omega)
  · intro all
    have length : (shim.delivered outcomes).length = shim.batch.length := by rw [all.delivered_eq]
    have none : (shim.undelivered outcomes).length = 0 := by rw [all.undelivered_eq]; rfl
    rw [publishBatch_eq]
    by_cases empty : shim.batch.length = 0
    · rw [if_pos empty]
      have batch := List.eq_nil_of_length_eq_zero empty
      refine ⟨by omega, by rw [length, empty]; rfl, by rw [all.delivered_eq, batch]; rfl, [], ?_⟩
      exact ⟨List.nil_sublist _, List.Perm.refl _, by rw [none]; rfl⟩
    · rw [if_neg empty]
      obtain ⟨published, failed, ring⟩ := looped_all all empty room
      refine ⟨length.symm, by rw [length]; exact published, by rw [all.delivered_eq]; exact ring, [], ?_⟩
      refine ⟨List.nil_sublist _, ?_, by rw [none]; exact failed⟩
      rw [(looped_total room).2.2]
      exact List.Perm.refl _

/-! ## Runs -/

/-- The counts are exact while they fit. -/
structure Counted (shim : CdcShim Value) : Prop where
  conserved : shim.Conserved
  bound : shim.eventsCaptured < 2 ^ 64

theorem Counted.room (counted : Counted shim) :
    shim.eventsPublished + shim.eventsFailed + shim.batch.length < 2 ^ 64 := by
  have conserved := counted.conserved
  have bound := counted.bound
  have fits := @length_batch_le _ shim
  unfold Conserved at conserved
  omega

theorem Counted.publishBatch (counted : Counted shim) :
    Counted (shim.publishBatch outcomes now).1 := by
  rw [publishBatch_eq]
  have conserved := counted.conserved
  have fits := @length_batch_le _ shim
  unfold Conserved at conserved
  split
  · rename_i empty
    refine ⟨?_, counted.bound⟩
    simpa [Conserved, drained, empty] using conserved
  · obtain ⟨total, captured, pending⟩ := @looped_total _ shim outcomes counted.room
    have left : (shim.pendingEvents.drop shim.batch.length).length =
        shim.pendingEvents.length - shim.batch.length := List.length_drop
    rw [← pending] at left
    refine ⟨?_, by simpa only [captured] using counted.bound⟩
    simp only [Conserved]
    omega

theorem Counted.failPending (counted : Counted shim) : Counted shim.failPending.1 := by
  have conserved := counted.conserved
  have bound := counted.bound
  unfold Conserved at conserved
  refine ⟨?_, bound⟩
  simp only [Conserved, CdcShim.failPending, List.length_nil]
  rw [Nat.mod_eq_of_lt (by omega)]
  omega

theorem Counted.init (counted : Counted shim) (built : Bool) : Counted (shim.init built) := by
  unfold CdcShim.init
  split
  · exact ⟨counted.conserved, counted.bound⟩
  · exact counted

theorem Counted.call (counted : Counted shim) {label : Call Value} (inRange : shim.InRange label) :
    Counted (shim.call label) := by
  cases label with
  | init built => exact counted.init built
  | publishBatch outcomes now => exact counted.publishBatch
  | failPending => exact counted.failPending
  | setWalPosition lsn segment offset now => exact ⟨counted.conserved, counted.bound⟩
  | advanceWal delta => exact ⟨counted.conserved, counted.bound⟩
  | capture event =>
      change Counted (shim.capture event).1
      unfold CdcShim.capture
      split
      · rename_i captured
        have bound := inRange captured
        have conserved := counted.conserved
        unfold Conserved at conserved
        have fits := Nat.mod_eq_of_lt bound
        refine ⟨?_, by simpa only [fits] using bound⟩
        simp only [Conserved, List.length_append, List.length_singleton, fits]
        omega
      · exact counted

/-- A count that wraps around no longer covers the pending events. -/
theorem Counted.not_conserved_call (counted : Counted shim) {label : Call Value}
    (beyond : ¬ shim.InRange label) : ¬ (shim.call label).Conserved := by
  cases label with
  | capture event =>
      obtain ⟨captured, beyond⟩ := Classical.not_imp.mp beyond
      have bound := counted.bound
      have wrapped : (shim.eventsCaptured + 1) % 2 ^ 64 = 0 := by omega
      change ¬ (shim.capture event).1.Conserved
      rw [CdcShim.capture, if_pos captured]
      simp only [Conserved, List.length_append, List.length_singleton, wrapped]
      omega
  | _ => exact absurd trivial beyond

theorem counted_new (output : String) (tables : List String) (webhookUrl : Option String)
    (batchSize : Nat) (now : String) :
    Counted (new output tables webhookUrl batchSize now : CdcShim Value) :=
  ⟨rfl, Nat.two_pow_pos 64⟩

theorem counted_agree (counted : Counted shim) (label : Call Value) :
    shim.InRange label ∧ shim.Accounts label ↔ shim.InRange label ∧ shim.DeliversAll label := by
  cases label with
  | publishBatch outcomes now => exact and_congr_right fun _ => accounted_iff_allDelivered counted.room
  | _ => exact Iff.rfl

/-- Every publication of a run is accounted for and no event is lost from the
counts exactly when every event of every batch is delivered and the count of
captured events does not wrap around. -/
theorem accounts_iff_deliversAll (output : String) (tables : List String) (webhookUrl : Option String)
    (batchSize : Nat) (now : String) (labels : List (Call Value)) :
    calls.Along CdcShim.Accounts (new output tables webhookUrl batchSize now) labels ∧
        calls.Always Conserved (new output tables webhookUrl batchSize now) labels ↔
      calls.Along DeliversAll (new output tables webhookUrl batchSize now) labels ∧
        calls.Along InRange (new output tables webhookUrl batchSize now) labels := by
  have start : Counted (new output tables webhookUrl batchSize now : CdcShim Value) :=
    counted_new output tables webhookUrl batchSize now
  have conserved : calls.Always Conserved (new output tables webhookUrl batchSize now) labels ↔
      calls.Along InRange (new output tables webhookUrl batchSize now) labels :=
    Machine.always_ofFunction_iff_along Counted (fun _ counted => counted.conserved)
      (fun _ _ counted inRange => counted.call inRange)
      (fun _ _ counted beyond => counted.not_conserved_call beyond) start
  have accounted : calls.Along (fun shim label => shim.InRange label ∧ shim.Accounts label)
        (new output tables webhookUrl batchSize now) labels ↔
      calls.Along (fun shim label => shim.InRange label ∧ shim.DeliversAll label)
        (new output tables webhookUrl batchSize now) labels :=
    Machine.along_ofFunction_iff_along Counted (fun _ label counted => counted_agree counted label)
      (fun _ _ counted allowed => counted.call allowed.1) start
  rw [Machine.along_and, Machine.along_and] at accounted
  rw [conserved, and_comm, accounted, and_comm]

/-! ## A batch that half gets through -/

def twoCaptured : CdcShim Nat :=
  let event : CdcEvent Nat := ⟨"cdc-0000000001", "", "", "users", .insert, none, none, false⟩
  let shim := (new "webhook" [] (some "http://sink") 100 "").init true
  ((shim.capture event).1.capture { event with eventId := "cdc-0000000002" }).1

/-- The webhook takes the first event and never the second. -/
def firstOnly (index : Nat) : Outcome := if index = 0 then .delivered else .failed

theorem twoCaptured_published :
    (twoCaptured.publishBatch firstOnly "").2 = 2 ∧
      (twoCaptured.publishBatch firstOnly "").1.eventsPublished = 2 ∧
      (twoCaptured.publishBatch firstOnly "").1.publishedRing.map CdcEvent.eventId =
        ["cdc-0000000001", "cdc-0000000002"] ∧
      (twoCaptured.publishBatch firstOnly "").1.eventsFailed = 0 ∧
      (twoCaptured.delivered firstOnly).map CdcEvent.eventId = ["cdc-0000000001"] ∧
      ¬ Accounted twoCaptured firstOnly (twoCaptured.publishBatch firstOnly "") := by
  refine ⟨by decide, by decide, by decide, by decide, by decide, fun accounted => ?_⟩
  exact absurd accounted.returned (by decide)

end CdcShim

end Evergreen.Cdc
