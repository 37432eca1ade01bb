import Evergreen.Archival.Shim

namespace Evergreen.Archival

/-! # The lifecycle of archived records

`apply_lifecycle` moves hot records to colder tiers by their age in whole days.
It reads the clock for every hot record, and a record that has left the hot tier
is not looked at again.
-/

structure LifecycleRules where
  hotDays : Nat := 0
  warmDays : Nat := 0
  lifecycleDays : Nat := 0
deriving DecidableEq, Repr

/-- `num_days() as u32`. -/
def ageDays (archivedAt now : Int) : Nat :=
  ((now - archivedAt).tdiv dayNanos % 2 ^ 32).toNat

def StorageTier.warmth : StorageTier → Nat
  | hot => 2
  | warm => 1
  | cold => 0

namespace LifecycleRules

/-- The tier of a hot record of this age. -/
def tierAt (rules : LifecycleRules) (ageDays : Nat) : StorageTier :=
  if 0 < rules.hotDays ∧ rules.hotDays ≤ ageDays then .cold
  else if 0 < rules.warmDays ∧ rules.warmDays ≤ ageDays then .warm
  else if rules.hotDays = 0 ∧ rules.warmDays = 0 ∧ 0 < rules.lifecycleDays then
    if rules.lifecycleDays ≤ ageDays then .cold
    else if rules.lifecycleDays / 2 ≤ ageDays then .warm
    else .hot
  else .hot

/-- The tier of a hot record at an instant; a date that does not parse keeps it hot. -/
def tierOn (rules : LifecycleRules) (parse : String → Option Int) (archivedAt : String)
    (now : Int) : StorageTier :=
  match parse archivedAt with
  | some archivedAt => rules.tierAt (ageDays archivedAt now)
  | none => .hot

def transition (rules : LifecycleRules) (parse : String → Option Int) (record : ArchivedRecord)
    (now : Int) : ArchivedRecord :=
  if record.storageTier = .hot then
    { record with storageTier := rules.tierOn parse record.archivedAt now }
  else record

end LifecycleRules

/-- `clock` is what the clock shows for the record with this index.  The second
part of the result is the number of records that were moved. -/
def ArchivalShim.applyLifecycle (rules : LifecycleRules) (parse : String → Option Int)
    (shim : ArchivalShim) (clock : Nat → Int) : ArchivalShim × Nat :=
  let aged := shim.archiveLog.mapIdx fun index record => rules.transition parse record (clock index)
  ({ shim with archiveLog := aged },
    (shim.archiveLog.zip aged).countP fun pair => pair.1.storageTier ≠ pair.2.storageTier)

def lifecycle (rules : LifecycleRules) (parse : String → Option Int) :
    Machine ArchivalShim (Nat → Int) :=
  .ofFunction fun shim clock => (shim.applyLifecycle rules parse clock).1

def ArchivalShim.tierOf (shim : ArchivalShim) (index : Nat) : Option StorageTier :=
  (shim.archiveLog[index]?).map (·.storageTier)

/-- Every record is still there, and in no warmer tier. -/
def NoWarmer (earlier later : ArchivalShim) : Prop :=
  ∀ index before, earlier.tierOf index = some before →
    ∃ after, later.tierOf index = some after ∧ after.warmth ≤ before.warmth

/-- The calls leave the record in the tier that the last one alone would put it
in, and no call makes any record warmer. -/
def RunIndependent (rules : LifecycleRules) (parse : String → Option Int) (shim : ArchivalShim)
    (index : Nat) (calls : List (Nat → Int)) (last : Nat → Int) : Prop :=
  (∀ final, (lifecycle rules parse).run shim (calls ++ [last]) = some final →
    final.tierOf index = (shim.applyLifecycle rules parse last).1.tierOf index) ∧
  (lifecycle rules parse).Ordered NoWarmer shim (calls ++ [last])

/-- The first call that takes the record out of the hot tier takes it to the tier
the record is due for at the last call. -/
def FirstMoveFinal (rules : LifecycleRules) (parse : String → Option Int) (archivedAt : String)
    (times : List Int) (last : Int) : Prop :=
  ∀ time, times.find? (fun time => rules.tierOn parse archivedAt time ≠ .hot) = some time →
    rules.tierOn parse archivedAt time = rules.tierOn parse archivedAt last

/-- The clock is not behind the instant of the archival, and shows an age in days
that is a `u32`. -/
def AgesPlainly (archivedAt now : Int) : Prop :=
  archivedAt ≤ now ∧ now < archivedAt + 2 ^ 32 * dayNanos

instance (archivedAt now : Int) : Decidable (AgesPlainly archivedAt now) :=
  inferInstanceAs (Decidable (_ ∧ _))

variable {rules : LifecycleRules} {parse : String → Option Int} {shim : ArchivalShim}
variable {record : ArchivedRecord} {index : Nat} {times : List Int}

/-! ## One record -/

theorem transition_of_moved (now : Int) (moved : record.storageTier ≠ .hot) :
    rules.transition parse record now = record := if_neg moved

theorem transition_of_hot (now : Int) (hot : record.storageTier = .hot) :
    rules.transition parse record now =
      { record with storageTier := rules.tierOn parse record.archivedAt now } := if_pos hot

theorem warmth_le_hot (tier : StorageTier) : tier.warmth ≤ StorageTier.hot.warmth := by
  cases tier <;> decide

theorem warmth_transition (record : ArchivedRecord) (now : Int) :
    (rules.transition parse record now).storageTier.warmth ≤ record.storageTier.warmth := by
  by_cases hot : record.storageTier = .hot
  · rw [hot]
    exact warmth_le_hot _
  · rw [transition_of_moved now hot]

theorem foldl_transition_of_moved (moved : record.storageTier ≠ .hot) :
    times.foldl (rules.transition parse) record = record := by
  induction times with
  | nil => rfl
  | cons time times ih => rw [List.foldl_cons, transition_of_moved time moved, ih]

/-- The first call that finds the record old enough decides. -/
theorem tier_foldl_transition (times : List Int) (hot : record.storageTier = .hot) :
    (times.foldl (rules.transition parse) record).storageTier =
      ((times.find? fun time => rules.tierOn parse record.archivedAt time ≠ .hot).map
        (rules.tierOn parse record.archivedAt)).getD .hot := by
  induction times with
  | nil => exact hot
  | cons time times ih =>
      rw [List.foldl_cons, transition_of_hot time hot]
      by_cases young : rules.tierOn parse record.archivedAt time = .hot
      · have same : { record with storageTier := rules.tierOn parse record.archivedAt time } =
            record := by rw [young, ← hot]
        rw [same, ih, List.find?_cons_of_neg (by simpa using young)]
      · rw [foldl_transition_of_moved young, List.find?_cons_of_pos (by simpa using young)]
        rfl

theorem tier_foldl_transition_last (times : List Int) (last : Int)
    (hot : record.storageTier = .hot) :
    ((times ++ [last]).foldl (rules.transition parse) record).storageTier =
        (rules.transition parse record last).storageTier ↔
      FirstMoveFinal rules parse record.archivedAt times last := by
  rw [tier_foldl_transition _ hot, transition_of_hot last hot, List.find?_append, FirstMoveFinal]
  cases found : times.find? fun time => rules.tierOn parse record.archivedAt time ≠ .hot with
  | some time => simp
  | none =>
      by_cases young : rules.tierOn parse record.archivedAt last = .hot
      · simp [young]
      · simp [young]

/-! ## The log -/

theorem getElem?_applyLifecycle (clock : Nat → Int) :
    (shim.applyLifecycle rules parse clock).1.archiveLog[index]? =
      shim.archiveLog[index]?.map fun record => rules.transition parse record (clock index) :=
  List.getElem?_mapIdx

theorem getElem?_foldl_applyLifecycle (calls : List (Nat → Int)) :
    (calls.foldl (fun shim clock => (shim.applyLifecycle rules parse clock).1)
        shim).archiveLog[index]? =
      shim.archiveLog[index]?.map fun record =>
        (calls.map fun clock => clock index).foldl (rules.transition parse) record := by
  induction calls generalizing shim with
  | nil => simp
  | cons clock calls ih =>
      rw [List.foldl_cons, ih, getElem?_applyLifecycle, Option.map_map]
      rfl

theorem noWarmer_applyLifecycle (clock : Nat → Int) :
    NoWarmer shim (shim.applyLifecycle rules parse clock).1 := by
  intro index before held
  obtain ⟨record, found, rfl⟩ := Option.map_eq_some_iff.mp held
  refine ⟨(rules.transition parse record (clock index)).storageTier, ?_, warmth_transition _ _⟩
  rw [ArchivalShim.tierOf, getElem?_applyLifecycle, found]
  rfl

theorem ordered_noWarmer (calls : List (Nat → Int)) :
    (lifecycle rules parse).Ordered NoWarmer shim calls := by
  refine (Machine.ordered_iff_along ?_ ?_).mpr (Machine.along_of_all fun shim clock => ?_)
  · exact fun _ _ tier held => ⟨tier, held, Nat.le_refl _⟩
  · intro first second third earlier later index tier held
    obtain ⟨middle, between, cooler⟩ := earlier index tier held
    obtain ⟨after, found, cooled⟩ := later index middle between
    exact ⟨after, found, cooled.trans cooler⟩
  · intro next taken
    cases taken
    exact noWarmer_applyLifecycle clock

theorem runIndependent_iff_firstMove {calls : List (Nat → Int)} {last : Nat → Int}
    (held : shim.archiveLog[index]? = some record) (hot : record.storageTier = .hot) :
    RunIndependent rules parse shim index calls last ↔
      FirstMoveFinal rules parse record.archivedAt (calls.map fun clock => clock index)
        (last index) := by
  rw [RunIndependent, and_iff_left (ordered_noWarmer _), lifecycle, Machine.run_ofFunction,
    ← tier_foldl_transition_last _ _ hot]
  have final := @getElem?_foldl_applyLifecycle rules parse shim index (calls ++ [last])
  have single := @getElem?_applyLifecycle rules parse shim index last
  rw [held, Option.map_some, List.map_append, List.map_singleton] at final
  rw [held, Option.map_some] at single
  simp only [Option.some.injEq, forall_eq', ArchivalShim.tierOf, final, single, Option.map_some]

/-! ## Ages that do not wrap -/

theorem tierAt_eq_cold_iff {ageDays : Nat} : rules.tierAt ageDays = .cold ↔
    0 < rules.hotDays ∧ rules.hotDays ≤ ageDays ∨
      rules.hotDays = 0 ∧ rules.warmDays = 0 ∧ 0 < rules.lifecycleDays ∧
        rules.lifecycleDays ≤ ageDays := by
  simp only [LifecycleRules.tierAt]
  split_ifs <;> simp <;> omega

theorem tierAt_eq_hot_iff {ageDays : Nat} : rules.tierAt ageDays = .hot ↔
    ¬ (0 < rules.hotDays ∧ rules.hotDays ≤ ageDays) ∧
      ¬ (0 < rules.warmDays ∧ rules.warmDays ≤ ageDays) ∧
      ¬ (rules.hotDays = 0 ∧ rules.warmDays = 0 ∧ 0 < rules.lifecycleDays ∧
        rules.lifecycleDays / 2 ≤ ageDays) := by
  simp only [LifecycleRules.tierAt]
  split_ifs <;> simp <;> omega

/-- With age a record stays due for the cold tier. -/
theorem tierAt_cold_of_le {age later : Nat} (le : age ≤ later)
    (cold : rules.tierAt age = .cold) : rules.tierAt later = .cold := by
  rw [tierAt_eq_cold_iff] at cold ⊢
  exact cold.imp (fun due => ⟨due.1, due.2.trans le⟩)
    fun due => ⟨due.1, due.2.1, due.2.2.1, due.2.2.2.trans le⟩

theorem tierAt_hot_of_le {age later : Nat} (le : age ≤ later)
    (hot : rules.tierAt later = .hot) : rules.tierAt age = .hot := by
  rw [tierAt_eq_hot_iff] at hot ⊢
  omega

theorem ageDays_le_ageDays {archivedAt now later : Int} (plain : AgesPlainly archivedAt now)
    (plainly : AgesPlainly archivedAt later) (ordered : now ≤ later) :
    ageDays archivedAt now ≤ ageDays archivedAt later := by
  obtain ⟨before, near⟩ := plain
  obtain ⟨past, bound⟩ := plainly
  rw [ageDays, ageDays, Int.tdiv_eq_ediv_of_nonneg (by omega),
    Int.tdiv_eq_ediv_of_nonneg (by omega)]
  simp only [dayNanos] at *
  omega

/-- On clocks that show plain ages, the first move is final unless a call finds
the record due for the warm tier and the last one finds it due for the cold. -/
theorem firstMoveFinal_iff_of_plain {text : String} {archivedAt last : Int}
    (parsed : parse text = some archivedAt) (ordered : (times ++ [last]).Pairwise (· ≤ ·))
    (plain : ∀ time ∈ times ++ [last], AgesPlainly archivedAt time) :
    FirstMoveFinal rules parse text times last ↔
      ∀ time ∈ times, rules.tierOn parse text time = .warm →
        rules.tierOn parse text last ≠ .cold := by
  obtain ⟨sorted, -, final⟩ := List.pairwise_append.mp ordered
  have tier : ∀ time, rules.tierOn parse text time = rules.tierAt (ageDays archivedAt time) := by
    intro time
    simp only [LifecycleRules.tierOn, parsed]
  have ages : ∀ time ∈ times ++ [last], ∀ later ∈ times ++ [last], time ≤ later →
      ageDays archivedAt time ≤ ageDays archivedAt later := fun time member later also le =>
    ageDays_le_ageDays (plain time member) (plain later also) le
  have isLast : last ∈ times ++ [last] := List.mem_append_right _ List.mem_cons_self
  simp only [tier, FirstMoveFinal]
  constructor
  · intro firstMove time member warm cold
    cases found : times.find? fun time => rules.tierAt (ageDays archivedAt time) ≠ .hot with
    | none =>
        have young := List.find?_eq_none.mp found time member
        simp [warm] at young
    | some first =>
        have coldFirst := (firstMove first found).trans cold
        obtain ⟨-, before, after, rfl, young⟩ := List.find?_eq_some_iff_append.mp found
        have reached : ageDays archivedAt first ≤ ageDays archivedAt time := by
          rcases List.mem_append.mp member with early | late
          · have hot := young time early
            simp [warm] at hot
          · rcases List.mem_cons.mp late with rfl | late
            · exact Nat.le_refl _
            · refine ages first ?_ time (List.mem_append_left _ member) ?_
              · simp
              · exact List.rel_of_pairwise_cons (List.pairwise_append.mp sorted).2.1 late
        have coldTime := tierAt_cold_of_le reached coldFirst
        rw [warm] at coldTime
        cases coldTime
  · intro never first found
    have moves := List.find?_some found
    have member := List.mem_of_find?_eq_some found
    have reached := ages first (List.mem_append_left _ member) last isLast
      (final first member last List.mem_cons_self)
    have moved : rules.tierAt (ageDays archivedAt last) ≠ .hot := by
      intro hot
      simp [tierAt_hot_of_le reached hot] at moves
    cases due : rules.tierAt (ageDays archivedAt first) with
    | hot => simp [due] at moves
    | warm =>
        have notCold := never first member due
        cases final : rules.tierAt (ageDays archivedAt last) with
        | hot => exact absurd final moved
        | warm => rfl
        | cold => exact absurd final notCold
    | cold => exact (tierAt_cold_of_le reached due).symm

/-- How often the lifecycle runs does not matter exactly when the first call that
moves the record moves it to its final tier.  With plain ages that fails only
for a record that is found due for the warm tier first and for the cold later. -/
theorem runIndependent_iff (rules : LifecycleRules) (parse : String → Option Int)
    (shim : ArchivalShim) (index : Nat) (record : ArchivedRecord) (calls : List (Nat → Int))
    (last : Nat → Int) (held : shim.archiveLog[index]? = some record)
    (hot : record.storageTier = .hot)
    (ordered : (calls ++ [last]).Pairwise fun earlier later => earlier index ≤ later index) :
    (RunIndependent rules parse shim index calls last ↔
      FirstMoveFinal rules parse record.archivedAt (calls.map fun clock => clock index)
        (last index)) ∧
    ∀ archivedAt, parse record.archivedAt = some archivedAt →
      (∀ clock ∈ calls ++ [last], AgesPlainly archivedAt (clock index)) →
      (RunIndependent rules parse shim index calls last ↔
        ∀ clock ∈ calls, rules.tierOn parse record.archivedAt (clock index) = .warm →
          rules.tierOn parse record.archivedAt (last index) ≠ .cold) := by
  have first := @runIndependent_iff_firstMove rules parse shim record index calls last held hot
  refine ⟨first, fun archivedAt parsed plain => first.trans ?_⟩
  have times : (calls.map fun clock => clock index) ++ [last index] =
      (calls ++ [last]).map fun clock => clock index := by
    rw [List.map_append, List.map_singleton]
  have settled := @firstMoveFinal_iff_of_plain rules parse (calls.map fun clock => clock index)
    record.archivedAt archivedAt (last index) parsed
  rw [times] at settled
  refine (settled (List.pairwise_map.mpr ordered) ?_).trans List.forall_mem_map
  exact List.forall_mem_map.mpr plain

/-- Hot for 30 days, with a warm tier from 7 days on. -/
def sampleRules : LifecycleRules := { hotDays := 30, warmDays := 7 }

def sampleRecord : ArchivedRecord :=
  ⟨"arc-0000000001", "orders", 100, 50, "path", "0", .hot, "0", false⟩

theorem runIndependent_sample :
    RunIndependent sampleRules (fun _ => some 0) { archiveLog := [sampleRecord] } 0
      [fun _ => 3 * dayNanos] fun _ => 40 * dayNanos :=
  ((runIndependent_iff _ _ _ 0 sampleRecord _ _ rfl rfl (by decide)).2 0 rfl (by decide)).mpr
    (by decide)

/-- A call at ten days moves the record to the warm tier, and it stays there. -/
theorem not_runIndependent_sample :
    ¬ RunIndependent sampleRules (fun _ => some 0) { archiveLog := [sampleRecord] } 0
      [fun _ => 10 * dayNanos] fun _ => 40 * dayNanos := by
  intro independent
  have same := independent.1 _ rfl
  cases same

end Evergreen.Archival
