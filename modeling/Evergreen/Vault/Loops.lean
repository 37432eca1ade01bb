import Evergreen.Vault.Rotation

namespace Evergreen.Vault

open Evergreen.Settings (Checks Config Env)

/-! # What the shim knows of its loops

The loops rotate out of sight: the shim counts the rotations of `start` alone.
One loop at most has not been told to stop, but nothing waits for the others, and
two rotations at once may leave a file that is neither's.
-/

def Phase.rotating : Phase → Bool
  | .requesting | .writing _ => true
  | .idle | .done _ | .ended => false

/-- `start` has a rotation behind it and no loop for it yet. -/
def Phase.pending : Phase → Nat
  | .done _ => 1
  | .idle | .requesting | .writing _ | .ended => 0

/-- The metrics are those of the rotations that returned. -/
structure VaultShim.Counted (shim : VaultShim) : Prop where
  success : shim.rotationSuccess = shim.attempts.countP Option.isSome % 2 ^ 64
  failure : shim.rotationFailure = shim.attempts.countP Option.isNone % 2 ^ 64
  last : shim.lastRotation = (shim.attempts.filterMap id).getLast?

/-- A loop whose interval panics never rotates. -/
def VaultShim.Dormant (shim : VaultShim) : Prop :=
  shim.rotation.rotationSecs = 0 → shim.phase = .ended ∧ shim.attempts = []

/-- The content came from Vault, in answer to what some settings of the shim ask
for, and went where they say. -/
def Opening.Sourced (opening : Opening) (configured : List Rotation)
    (served : List (Request × Credentials)) : Prop :=
  ∃ rotation ∈ configured, ∃ request, rotation.outputFile = some opening.path ∧
    rotation.request = some request ∧ (request, opening.credentials) ∈ served

/-- The metrics count one rotation for each loop that was spawned.  No loop but
the last is left without notice, and that one only until `stop`. -/
structure Supervised (host : Host) : Prop where
  counted : host.shim.Counted
  once : host.shim.attempts.length = host.loops.length + host.shim.phase.pending
  inCharge : ∀ (index : Nat) (loop : Loop), host.loops[index]? = some loop → loop.told = false →
    host.sender = some index
  latest : ∀ index, host.sender = some index → index + 1 = host.loops.length
  dormant : ∀ index shim, host.worker (some index) = some shim → shim.Dormant
  configured : ∀ worker shim, host.worker worker = some shim → shim.rotation ∈ host.configured
  sourced : ∀ opening ∈ host.disk.openings, opening.Sourced host.configured host.served

/-- A file is what the last one to open it has written by now. -/
def Disk.Intact (initial : String → Option (List UInt8)) (disk : Disk) : Prop :=
  ∀ path, disk.files path =
    ((disk.openings.filter (·.path = path)).getLast?).elim (initial path) fun opening =>
      some (opening.credentials.content.take (opening.written.getD 0))

/-- No rotation is on. -/
def Host.Quiet (host : Host) : Prop :=
  ∀ worker shim, host.worker worker = some shim → shim.phase.rotating = false

/-- No rotation begins while another is on. -/
def Alone {Percent : Type} (host : Host) : Label Percent → Prop
  | .start | .tick _ => host.Quiet
  | .init _ | .receive _ _ _ _ | .write _ _ _ | .spawn | .unwind | .resume _ | .notice _ | .stop =>
      True

/-- One rotation at a time, and it writes to the file that was opened last. -/
structure Lone (host : Host) : Prop where
  single : ∀ worker other shim otherShim, host.worker worker = some shim →
    host.worker other = some otherShim → shim.phase.rotating = true →
      otherShim.phase.rotating = true → worker = other
  held : ∀ worker shim index, host.worker worker = some shim → shim.phase = .writing index →
    ∃ before opening, host.disk.openings = before ++ [opening] ∧ before.length = index ∧
      opening.written = none

variable {Percent : Type} {env : Env} {checks : Checks Percent} {representable : Int → Bool}
variable {host next : Host} {label : Label Percent} {worker other : Worker}
variable {shim after : VaultShim} {disk : Disk} {initial : String → Option (List UInt8)}
variable {property : VaultShim → Prop}

/-! ## Workers -/

namespace Host

theorem worker_setWorker_self (there : host.worker worker = some shim) :
    (host.setWorker worker after).worker worker = some after := by
  cases worker with
  | none => rfl
  | some index =>
      obtain ⟨loop, listed, -⟩ := Option.map_eq_some_iff.mp there
      simp [Host.worker, setWorker, listed]

theorem worker_setWorker_of_ne (differs : other ≠ worker) :
    (host.setWorker worker after).worker other = host.worker other := by
  cases worker with
  | none =>
      cases other with
      | none => exact absurd rfl differs
      | some index => rfl
  | some index =>
      cases other with
      | none => rfl
      | some position =>
          have apart : index ≠ position := fun same => differs (by rw [same])
          simp [Host.worker, setWorker, apart]

/-- A shim after `setWorker` is the new one or one of the others. -/
theorem worker_setWorker_cases (there : host.worker worker = some shim) {found : VaultShim}
    (holds : (host.setWorker worker after).worker other = some found) :
    other = worker ∧ found = after ∨ other ≠ worker ∧ host.worker other = some found := by
  by_cases same : other = worker
  · subst same
    rw [worker_setWorker_self there] at holds
    exact .inl ⟨rfl, (Option.some.inj holds).symm⟩
  · exact .inr ⟨same, (worker_setWorker_of_ne same).symm.trans holds⟩

theorem length_setWorker : (host.setWorker worker after).loops.length = host.loops.length := by
  cases worker with
  | none => rfl
  | some index => exact List.length_modify _ _ _

theorem told_setWorker {index : Nat} {loop : Loop}
    (there : (host.setWorker worker after).loops[index]? = some loop) :
    ∃ before, host.loops[index]? = some before ∧ before.told = loop.told := by
  cases worker with
  | none => exact ⟨loop, there, rfl⟩
  | some position =>
      rw [setWorker, List.getElem?_modify, Option.map_eq_map] at there
      obtain ⟨before, listed, rfl⟩ := Option.map_eq_some_iff.mp there
      refine ⟨before, listed, ?_⟩
      split <;> rfl

theorem worker_tell : host.tell.worker other = host.worker other := by
  unfold tell
  cases host.sender with
  | none => cases other <;> rfl
  | some index =>
      cases other with
      | none => rfl
      | some position =>
          rw [Host.worker, Host.worker, Option.elim_some, List.getElem?_modify, Option.map_eq_map,
            Option.map_map]
          congr 1
          funext loop
          rw [Function.comp_apply]
          split <;> rfl

theorem length_tell : host.tell.loops.length = host.loops.length := by
  unfold tell
  cases host.sender with
  | none => rfl
  | some index => exact List.length_modify _ _ _

/-- Once its sender has told them, every loop has been told. -/
theorem told_tell (inCharge : ∀ (index : Nat) (loop : Loop), host.loops[index]? = some loop →
    loop.told = false → host.sender = some index) {index : Nat} {loop : Loop}
    (there : host.tell.loops[index]? = some loop) : loop.told = true := by
  unfold tell at there
  cases sent : host.sender with
  | none =>
      rw [sent] at there
      by_contra untold
      have charged := inCharge index loop there (Bool.eq_false_iff.mpr untold)
      rw [sent] at charged
      cases charged
  | some position =>
      rw [sent, Option.elim_some, List.getElem?_modify, Option.map_eq_map] at there
      obtain ⟨before, listed, rfl⟩ := Option.map_eq_some_iff.mp there
      by_cases same : position = index
      · rw [if_pos same]
      · rw [if_neg same]
        by_contra untold
        have charged := inCharge index before listed (Bool.eq_false_iff.mpr untold)
        rw [sent] at charged
        exact same (Option.some.inj charged)

theorem worker_spawn {found : VaultShim} (there : host.spawn.worker other = some found) :
    other = none ∧ found = { host.shim with phase := .idle } ∨
      other ≠ none ∧ host.worker other = some found ∨
      other = some host.loops.length ∧ found = .ofLoop host.shim.rotation := by
  cases other with
  | none => exact .inl ⟨rfl, (Option.some.inj there).symm⟩
  | some index =>
      simp only [Host.worker, spawn] at there
      rcases Nat.lt_trichotomy index host.loops.length with small | rfl | large
      · rw [List.getElem?_append_left (by rwa [length_tell])] at there
        exact .inr (.inl ⟨by simp, worker_tell.symm.trans there⟩)
      · rw [List.getElem?_append_right (by rw [length_tell]), length_tell, Nat.sub_self] at there
        exact .inr (.inr ⟨rfl, (Option.some.inj there).symm⟩)
      · rw [List.getElem?_eq_none (by rw [List.length_append, length_tell]; exact large)] at there
        cases there

end Host

/-! ## The turns of a worker -/

/-- A rotation begins, hears from Vault, or is written. -/
inductive Turn (representable : Int → Bool) (disk : Disk) (shim : VaultShim) :
    VaultShim → Disk → List (Request × Credentials) → Prop
  | rotate (idle : shim.phase = .idle) : Turn representable disk shim shim.rotate disk []
  | receive (answer : Option Body) (created : Bool) (now : Int)
      (requesting : shim.phase = .requesting) :
      Turn representable disk shim
        (shim.receive now disk (shim.rotation.fetched representable now answer) created).1
        (shim.receive now disk (shim.rotation.fetched representable now answer) created).2
        (handed shim.rotation.request (shim.rotation.fetched representable now answer))
  | write (index reached : Nat) (now : Int) (writing : shim.phase = .writing index) :
      Turn representable disk shim (shim.write now disk index reached).1
        (shim.write now disk index reached).2 []

/-- The host after a turn of a worker. -/
def Host.turned (host : Host) (worker : Worker) (after : VaultShim) (disk : Disk)
    (given : List (Request × Credentials)) : Host :=
  { host.setWorker worker after with
    disk
    served := host.served ++ given }

theorem Host.turned_silent : host.turned worker after disk [] =
    { host.setWorker worker after with disk } := by
  cases worker <;> simp [turned, setWorker]

theorem Host.turned_dry : host.turned worker after host.disk [] = host.setWorker worker after := by
  cases worker <;> simp [turned, setWorker]

theorem Host.worker_turned {given : List (Request × Credentials)} :
    (host.turned worker after disk given).worker other = (host.setWorker worker after).worker other := by
  cases other <;> rfl

/-- What a label does to the host. -/
inductive Effect (representable : Int → Bool) (host : Host) (label : Label Percent) : Host → Prop
  | nothing : Effect representable host label host
  | init (rotation : Rotation) (idle : host.shim.phase = .idle) :
      Effect representable host label { host with
        shim := { host.shim with rotation }
        configured := host.configured ++ [rotation] }
  | turn (worker : Worker) (shim after : VaultShim) (disk : Disk)
      (given : List (Request × Credentials)) (there : host.worker worker = some shim)
      (turn : Turn representable host.disk shim after disk given)
      (begins : shim.phase = .idle → Alone host label → host.Quiet) :
      Effect representable host label (host.turned worker after disk given)
  | rest (index : Nat) (shim : VaultShim) (phase : Phase)
      (there : host.worker (some index) = some shim) (running : shim.phase ≠ .ended)
      (resting : phase.rotating = false) :
      Effect representable host label (host.setWorker (some index) { shim with phase })
  | unwind (ended : host.shim.phase = .ended) :
      Effect representable host label (host.setWorker none { host.shim with phase := .idle })
  | spawn (rotated : Option Int) (done : host.shim.phase = .done rotated) :
      Effect representable host label host.spawn
  | tell (idle : host.shim.phase = .idle) : Effect representable host label host.tell

theorem step_effect (taken : host.step env checks representable label = some next) :
    Effect representable host label next := by
  cases label with
  | init config =>
      obtain ⟨idle, taken⟩ := Option.ite_none_right_eq_some.mp taken
      cases taken
      unfold Host.init
      cases host.shim.rotation.init env checks config with
      | ok rotation => exact .init rotation idle
      | error _ => exact .nothing
  | start =>
      obtain ⟨idle, taken⟩ := Option.ite_none_right_eq_some.mp taken
      cases taken
      rw [← Host.turned_dry]
      exact .turn none host.shim _ _ _ rfl (.rotate idle) fun _ alone => alone
  | stop =>
      obtain ⟨idle, taken⟩ := Option.ite_none_right_eq_some.mp taken
      cases taken
      exact .tell idle
  | unwind =>
      obtain ⟨ended, taken⟩ := Option.ite_none_right_eq_some.mp taken
      cases taken
      exact .unwind ended
  | spawn =>
      simp only [Host.step] at taken
      split at taken <;> cases taken
      next rotated done => exact .spawn rotated done
  | tick index =>
      obtain ⟨shim, there, taken⟩ := Option.bind_eq_some_iff.mp taken
      obtain ⟨idle, taken⟩ := Option.ite_none_right_eq_some.mp taken
      cases taken
      rw [← Host.turned_dry]
      exact .turn (some index) shim _ _ _ there (.rotate idle) fun _ alone => alone
  | resume index =>
      obtain ⟨shim, there, taken⟩ := Option.bind_eq_some_iff.mp taken
      split at taken <;> cases taken
      next rotated done =>
        exact .rest index shim .idle there (by rw [done]; simp) rfl
  | notice index =>
      obtain ⟨loop, there, taken⟩ := Option.bind_eq_some_iff.mp taken
      obtain ⟨⟨_, idle⟩, taken⟩ := Option.ite_none_right_eq_some.mp taken
      cases taken
      exact .rest index loop.shim .ended (by rw [Host.worker, there]; rfl) (by rw [idle]; simp) rfl
  | receive worker answer created now =>
      obtain ⟨shim, there, taken⟩ := Option.bind_eq_some_iff.mp taken
      obtain ⟨requesting, taken⟩ := Option.ite_none_right_eq_some.mp taken
      cases taken
      refine .turn worker shim _ _ _ there (.receive answer created now requesting) fun idle => ?_
      rw [requesting] at idle
      cases idle
  | write worker reached now =>
      obtain ⟨shim, there, taken⟩ := Option.bind_eq_some_iff.mp taken
      split at taken <;> cases taken
      next index writing =>
        rw [Host.write, ← Host.turned_silent]
        refine .turn worker shim _ _ _ there (.write index reached now writing) fun idle => ?_
        rw [writing] at idle
        cases idle

/-! ## What a turn keeps -/

theorem VaultShim.Counted.succeed {now : Int} (counted : shim.Counted) :
    (shim.succeed now).Counted where
  success := by simp [VaultShim.succeed, counted.success]
  failure := by simp [VaultShim.succeed, counted.failure]
  last := by simp [VaultShim.succeed]

theorem VaultShim.Counted.fail (counted : shim.Counted) : shim.fail.Counted where
  success := by simp [VaultShim.fail, counted.success]
  failure := by simp [VaultShim.fail, counted.failure]
  last := by simp [VaultShim.fail, counted.last]

/-- Who waits for an answer has asked. -/
def VaultShim.Asked (shim : VaultShim) : Prop :=
  shim.phase.rotating = true → ∃ request, shim.rotation.request = some request

/-- What a turn leaves of a shim: its settings, and one attempt more where it
ended the rotation. -/
structure Shifts (shim after : VaultShim) : Prop where
  rotation : after.rotation = shim.rotation
  counted : shim.Counted → after.Counted
  once : after.attempts.length = shim.attempts.length + after.phase.pending
  asked : shim.Asked → after.Asked

theorem shifts_fail : Shifts shim shim.fail where
  rotation := rfl
  counted := VaultShim.Counted.fail
  once := List.length_append
  asked _ rotating := by cases rotating

theorem shifts_succeed {now : Int} : Shifts shim (shim.succeed now) where
  rotation := rfl
  counted := VaultShim.Counted.succeed
  once := List.length_append
  asked _ rotating := by cases rotating

theorem shifts_phase {phase : Phase} (goes : phase.pending = 0)
    (asked : shim.Asked → ({ shim with phase } : VaultShim).Asked) :
    Shifts shim { shim with phase } where
  rotation := rfl
  counted counted := ⟨counted.success, counted.failure, counted.last⟩
  once := by simp [goes]
  asked := asked

namespace Turn

variable {given : List (Request × Credentials)}

theorem active {changed : Disk} (turn : Turn representable disk shim after changed given) :
    shim.phase ≠ .ended ∧ shim.phase.pending = 0 := by
  cases turn with
  | rotate idle => simp [idle, Phase.pending]
  | receive answer created now requesting => simp [requesting, Phase.pending]
  | write index reached now writing => simp [writing, Phase.pending]

theorem shifts {changed : Disk} (turn : Turn representable disk shim after changed given) :
    Shifts shim after := by
  cases turn with
  | rotate idle =>
      unfold VaultShim.rotate
      cases asks : shim.rotation.request with
      | none => exact shifts_fail
      | some request => exact shifts_phase rfl fun _ _ => ⟨request, asks⟩
  | receive answer created now requesting =>
      have rotating : shim.phase.rotating = true := by rw [requesting]; rfl
      unfold VaultShim.receive
      cases shim.rotation.fetched representable now answer with
      | failed => exact shifts_fail
      | panicked => exact shifts_phase rfl fun _ ended => by cases ended
      | credentials credentials =>
          cases shim.rotation.outputFile with
          | none => exact shifts_succeed
          | some path =>
              cases created with
              | false => exact shifts_fail
              | true => exact shifts_phase rfl fun asked _ => asked rotating
  | write index reached now writing =>
      simp only [VaultShim.write]
      split
      · exact shifts_succeed
      · exact shifts_fail

/-- Whatever is opened goes where the settings say, with what Vault has just given. -/
theorem opened {changed : Disk} (turn : Turn representable disk shim after changed given)
    (asked : shim.Asked) :
    ∀ opening ∈ changed.openings,
      (∃ old ∈ disk.openings, old.path = opening.path ∧ old.credentials = opening.credentials) ∨
        ∃ request, shim.rotation.outputFile = some opening.path ∧
          shim.rotation.request = some request ∧ (request, opening.credentials) ∈ given := by
  intro opening member
  cases turn with
  | rotate idle => exact .inl ⟨opening, member, rfl, rfl⟩
  | receive answer created now requesting =>
      obtain ⟨request, asks⟩ := asked (by rw [requesting]; rfl)
      unfold VaultShim.receive at member
      cases answered : shim.rotation.fetched representable now answer with
      | failed =>
          rw [answered] at member
          exact .inl ⟨opening, member, rfl, rfl⟩
      | panicked =>
          rw [answered] at member
          exact .inl ⟨opening, member, rfl, rfl⟩
      | credentials credentials =>
          rw [answered] at member
          cases file : shim.rotation.outputFile with
          | none =>
              rw [file] at member
              exact .inl ⟨opening, member, rfl, rfl⟩
          | some path =>
              rw [file] at member
              cases created with
              | false => exact .inl ⟨opening, member, rfl, rfl⟩
              | true =>
                  rcases List.mem_append.mp member with old | new
                  · exact .inl ⟨opening, old, rfl, rfl⟩
                  · obtain rfl := List.mem_singleton.mp new
                    exact .inr ⟨request, rfl, asks, by rw [asks]; exact List.mem_singleton_self _⟩
  | write index reached now writing =>
      simp only [VaultShim.write, Disk.write] at member
      cases there : disk.openings[index]? with
      | none =>
          rw [there] at member
          exact .inl ⟨opening, member, rfl, rfl⟩
      | some old =>
          rw [there] at member
          rcases List.mem_or_eq_of_mem_set member with kept | rfl
          · exact .inl ⟨opening, kept, rfl, rfl⟩
          · exact .inl ⟨old, List.mem_of_getElem? there, rfl, rfl⟩

theorem rotating {changed : Disk} (turn : Turn representable disk shim after changed given) :
    shim.phase.rotating = true ∨ shim.phase = .idle := by
  cases turn with
  | rotate idle => exact .inr idle
  | receive answer created now requesting => exact .inl (by rw [requesting]; rfl)
  | write index reached now writing => exact .inl (by rw [writing]; rfl)

/-- The file of a write is the one that was opened last. -/
theorem writing {changed : Disk} {index : Nat}
    (turn : Turn representable disk shim after changed given)
    (writes : after.phase = .writing index) :
    ∃ opening, changed.openings = disk.openings ++ [opening] ∧ disk.openings.length = index ∧
      opening.written = none := by
  cases turn with
  | rotate idle =>
      unfold VaultShim.rotate at writes
      split at writes <;> cases writes
  | receive answer created now requesting =>
      unfold VaultShim.receive at writes ⊢
      split at writes
      · cases writes
      · cases writes
      · next credentials answered =>
          split at writes
          · cases writes
          · next path file =>
              split at writes
              · next opens =>
                  cases writes
                  rw [if_pos opens]
                  exact ⟨_, rfl, rfl, rfl⟩
              · cases writes
  | write index reached now writing =>
      simp only [VaultShim.write] at writes
      split at writes <;> cases writes

end Turn

/-! ## The files -/

theorem getLast?_filter_concat {Item : Type} (keeps : Item → Bool) (items : List Item) (item : Item) :
    ((items ++ [item]).filter keeps).getLast? =
      if keeps item then some item else (items.filter keeps).getLast? := by
  rw [List.filter_append]
  cases kept : keeps item with
  | true => simp [kept]
  | false => simp [kept]

theorem Disk.Intact.create {path : String} {credentials : Credentials}
    (intact : disk.Intact initial) : (disk.create path credentials).Intact initial := by
  intro other
  rw [Disk.create, getLast?_filter_concat]
  by_cases same : path = other
  · subst same
    simp
  · dsimp only
    rw [Function.update_of_ne (Ne.symm same), if_neg (by simpa using same)]
    exact intact other

theorem Disk.Intact.write {before : List Opening} {opening : Opening} {reached : Nat}
    (intact : disk.Intact initial) (last : disk.openings = before ++ [opening])
    (fresh : opening.written = none) : (disk.write before.length reached).Intact initial := by
  have there : disk.openings[before.length]? = some opening := by simp [last]
  have empty : disk.files opening.path = some [] := by
    rw [intact, last, getLast?_filter_concat, if_pos (by simp)]
    simp [fresh]
  intro other
  have changed : disk.openings.set before.length { opening with written := some reached } =
      before ++ [{ opening with written := some reached }] := by simp [last]
  simp only [Disk.write, there, changed, empty]
  rw [getLast?_filter_concat]
  by_cases same : opening.path = other
  · subst same
    simp
  · have others := intact other
    rw [last, getLast?_filter_concat, if_neg (by simpa using same)] at others
    rw [Function.update_of_ne (Ne.symm same), if_neg (by simpa using same)]
    exact others

theorem Turn.intact {given : List (Request × Credentials)} {changed : Disk}
    (turn : Turn representable disk shim after changed given) (intact : disk.Intact initial)
    (held : ∀ index, shim.phase = .writing index → ∃ before opening,
      disk.openings = before ++ [opening] ∧ before.length = index ∧ opening.written = none) :
    changed.Intact initial := by
  cases turn with
  | rotate idle => exact intact
  | receive answer created now requesting =>
      unfold VaultShim.receive
      cases shim.rotation.fetched representable now answer with
      | failed => exact intact
      | panicked => exact intact
      | credentials credentials =>
          cases shim.rotation.outputFile with
          | none => exact intact
          | some path =>
              cases created with
              | false => exact intact
              | true => exact intact.create
  | write index reached now writing =>
      obtain ⟨before, opening, last, rfl, fresh⟩ := held index writing
      exact intact.write last fresh

/-! ## One rotation at a time -/

theorem Lone.still (lone : Lone host) (disk : next.disk = host.disk)
    (still : ∀ worker found, next.worker worker = some found → found.phase.rotating = true →
      ∃ before, host.worker worker = some before ∧ before.phase = found.phase) : Lone next where
  single worker other shim otherShim there otherThere on otherOn := by
    obtain ⟨before, known, same⟩ := still worker shim there on
    obtain ⟨otherBefore, otherKnown, otherSame⟩ := still other otherShim otherThere otherOn
    exact lone.single worker other before otherBefore known otherKnown (same ▸ on)
      (otherSame ▸ otherOn)
  held worker shim index there writes := by
    obtain ⟨before, known, same⟩ := still worker shim there (by rw [writes]; rfl)
    rw [disk]
    exact lone.held worker before index known (same.trans writes)

theorem Lone.turned {given : List (Request × Credentials)} {changed : Disk} (lone : Lone host)
    (there : host.worker worker = some shim)
    (turn : Turn representable host.disk shim after changed given)
    (begins : shim.phase = .idle → host.Quiet) :
    Lone (host.turned worker after changed given) := by
  have alone : ∀ other otherShim, other ≠ worker → host.worker other = some otherShim →
      otherShim.phase.rotating = false := by
    intro other otherShim differs otherThere
    rcases turn.rotating with on | idle
    · by_contra otherOn
      exact differs (lone.single other worker otherShim shim otherThere there (by simpa using otherOn)
        on)
    · exact begins idle other otherShim otherThere
  have only : ∀ other found, (host.turned worker after changed given).worker other = some found →
      found.phase.rotating = true → other = worker ∧ found = after := by
    intro other found holds on
    rcases Host.worker_setWorker_cases there (Host.worker_turned ▸ holds) with same | ⟨differs, known⟩
    · exact same
    · rw [alone other found differs known] at on
      cases on
  constructor
  · intro first second firstShim secondShim firstThere secondThere firstOn secondOn
    exact (only first firstShim firstThere firstOn).1.trans
      (only second secondShim secondThere secondOn).1.symm
  · intro other found index holds writes
    obtain ⟨rfl, rfl⟩ := only other found holds (by rw [writes]; rfl)
    obtain ⟨opening, last, count, fresh⟩ := turn.writing writes
    exact ⟨_, opening, last, count, fresh⟩

theorem worker_of_rest {index : Nat} {phase : Phase} (there : host.worker (some index) = some shim)
    (resting : phase.rotating = false) {found : VaultShim}
    (holds : (host.setWorker (some index) { shim with phase }).worker worker = some found)
    (on : found.phase.rotating = true) : host.worker worker = some found := by
  rcases Host.worker_setWorker_cases there holds with ⟨_, rfl⟩ | ⟨_, known⟩
  · rw [resting] at on
    cases on
  · exact known

/-- One rotation at a time, as long as none begins while another is on. -/
theorem Lone.effect (lone : Lone host) (effect : Effect representable host label next)
    (alone : Alone host label) : Lone next := by
  cases effect with
  | nothing => exact lone
  | init rotation idle =>
      refine lone.still rfl fun worker found holds on => ?_
      cases worker with
      | none =>
          cases holds
          rw [idle] at on
          cases on
      | some index => exact ⟨found, holds, rfl⟩
  | turn worker shim after disk given there turn begins =>
      exact lone.turned there turn fun idle => begins idle alone
  | rest index shim phase there running resting =>
      exact lone.still rfl fun worker found holds on =>
        ⟨found, worker_of_rest there resting holds on, rfl⟩
  | unwind ended =>
      refine lone.still rfl fun worker found holds on => ?_
      cases worker with
      | none =>
          cases holds
          cases on
      | some index => exact ⟨found, holds, rfl⟩
  | spawn rotated done =>
      refine lone.still rfl fun worker found holds on => ?_
      rcases Host.worker_spawn holds with ⟨_, rfl⟩ | ⟨_, known⟩ | ⟨_, rfl⟩
      · cases on
      · exact ⟨found, known, rfl⟩
      · simp only [VaultShim.ofLoop] at on
        split at on <;> cases on
  | tell idle => exact lone.still rfl fun worker found holds on => ⟨found, Host.worker_tell ▸ holds, rfl⟩

theorem Lone.intact (lone : Lone host) (effect : Effect representable host label next)
    (intact : host.disk.Intact initial) : next.disk.Intact initial := by
  cases effect with
  | turn worker shim after disk given there turn begins =>
      exact turn.intact intact fun index => lone.held worker shim index there
  | rest index shim phase there running resting => exact intact
  | nothing => exact intact
  | init rotation idle => exact intact
  | unwind ended => exact intact
  | spawn rotated done => exact intact
  | tell idle => exact intact

/-! ## All rotations -/

/-- `Supervised`, and that who waits has asked. -/
structure Supervising (host : Host) : Prop extends Supervised host where
  asked : ∀ worker shim, host.worker worker = some shim → shim.Asked

theorem VaultShim.Dormant.of_active (running : shim.phase ≠ .ended) (dormant : shim.Dormant)
    (rotation : after.rotation = shim.rotation) : after.Dormant := fun never =>
  absurd (dormant (rotation ▸ never)).1 running

theorem VaultShim.dormant_ofLoop (rotation : Rotation) : (VaultShim.ofLoop rotation).Dormant := by
  intro never
  exact ⟨if_pos never, rfl⟩

theorem VaultShim.asked_ofLoop (rotation : Rotation) : (VaultShim.ofLoop rotation).Asked := by
  intro on
  simp only [VaultShim.ofLoop] at on
  split at on <;> cases on

theorem supervising_new (rotation : Rotation) : Supervising (.new rotation initial) where
  counted := ⟨rfl, rfl, rfl⟩
  once := rfl
  inCharge _ _ listed := by cases listed
  latest _ sent := by cases sent
  dormant _ _ holds := by cases holds
  configured
    | none, _, rfl => List.mem_singleton_self _
    | some _, _, holds => by cases holds
  sourced _ member := by cases member
  asked
    | none, _, rfl => fun on => by cases on
    | some _, _, holds => by cases holds

theorem lone_new (rotation : Rotation) : Lone (.new rotation initial) where
  single
    | none, none, _, _, _, _ => fun _ _ => rfl
    | none, some _, _, _, _, holds => by cases holds
    | some _, _, _, _, holds, _ => by cases holds
  held
    | none, _, _, rfl => fun writes => by cases writes
    | some _, _, _, holds => by cases holds

namespace Supervising

theorem turned {given : List (Request × Credentials)} {changed : Disk}
    (supervising : Supervising host) (there : host.worker worker = some shim)
    (turn : Turn representable host.disk shim after changed given) :
    Supervising (host.turned worker after changed given) := by
  have shifts := turn.shifts
  have known : ∀ other found, (host.turned worker after changed given).worker other = some found →
      other = worker ∧ found = after ∨ other ≠ worker ∧ host.worker other = some found :=
    fun other found holds => Host.worker_setWorker_cases there (Host.worker_turned ▸ holds)
  have count : (host.turned worker after changed given).loops.length = host.loops.length :=
    Host.length_setWorker
  have sender : (host.turned worker after changed given).sender = host.sender := by
    cases worker <;> rfl
  have configured : (host.turned worker after changed given).configured = host.configured := by
    cases worker <;> rfl
  refine ⟨⟨?_, ?_, ?_, ?_, ?_, ?_, ?_⟩, ?_⟩
  · cases worker with
    | none =>
        cases there
        exact shifts.counted supervising.counted
    | some index => exact supervising.counted
  · rw [count]
    cases worker with
    | none =>
        cases there
        have attempts := shifts.once
        have before := supervising.once
        have started := turn.active.2
        change after.attempts.length = _ + after.phase.pending
        omega
    | some index => exact supervising.once
  · intro index loop listed untold
    obtain ⟨before, known, same⟩ := Host.told_setWorker listed
    rw [sender]
    exact supervising.inCharge index before known (same.trans untold)
  · intro index sent
    rw [count]
    exact supervising.latest index (sender ▸ sent)
  · intro index found holds
    rcases known (some index) found holds with ⟨rfl, rfl⟩ | ⟨_, before⟩
    · exact (supervising.dormant index shim there).of_active turn.active.1 shifts.rotation
    · exact supervising.dormant index found before
  · intro other found holds
    rw [configured]
    rcases known other found holds with ⟨rfl, rfl⟩ | ⟨_, before⟩
    · rw [shifts.rotation]
      exact supervising.configured other shim there
    · exact supervising.configured other found before
  · intro opening member
    have had := supervising.configured worker shim there
    rw [configured]
    rcases turn.opened (supervising.asked worker shim there) opening member with
      ⟨old, listed, path, credentials⟩ | ⟨request, file, asks, new⟩
    · obtain ⟨rotation, known, request, file, asks, served⟩ := supervising.sourced old listed
      rw [path] at file
      rw [credentials] at served
      exact ⟨rotation, known, request, file, asks, List.mem_append_left _ served⟩
    · exact ⟨shim.rotation, had, request, file, asks, List.mem_append_right _ new⟩
  · intro other found holds
    rcases known other found holds with ⟨rfl, rfl⟩ | ⟨_, before⟩
    · exact shifts.asked (supervising.asked other shim there)
    · exact supervising.asked other found before

theorem rest {index : Nat} {phase : Phase} (supervising : Supervising host)
    (there : host.worker (some index) = some shim) (running : shim.phase ≠ .ended)
    (resting : phase.rotating = false) :
    Supervising (host.setWorker (some index) { shim with phase }) := by
  refine ⟨⟨supervising.counted, ?_, ?_, ?_, ?_, ?_, supervising.sourced⟩, ?_⟩
  · rw [Host.length_setWorker]
    exact supervising.once
  · intro position loop listed untold
    obtain ⟨before, known, same⟩ := Host.told_setWorker listed
    exact supervising.inCharge position before known (same.trans untold)
  · intro position sent
    rw [Host.length_setWorker]
    exact supervising.latest position sent
  · intro position found holds
    rcases Host.worker_setWorker_cases there holds with ⟨_, rfl⟩ | ⟨_, before⟩
    · exact (supervising.dormant index shim there).of_active running rfl
    · exact supervising.dormant position found before
  · intro other found holds
    rcases Host.worker_setWorker_cases there holds with ⟨_, rfl⟩ | ⟨_, before⟩
    · exact supervising.configured (some index) shim there
    · exact supervising.configured other found before
  · intro other found holds
    rcases Host.worker_setWorker_cases there holds with ⟨_, rfl⟩ | ⟨_, before⟩
    · intro on
      rw [resting] at on
      cases on
    · exact supervising.asked other found before

theorem init {rotation : Rotation} (supervising : Supervising host)
    (idle : host.shim.phase = .idle) : Supervising { host with
      shim := { host.shim with rotation }
      configured := host.configured ++ [rotation] } where
  counted :=
    ⟨supervising.counted.success, supervising.counted.failure, supervising.counted.last⟩
  once := supervising.once
  inCharge := supervising.inCharge
  latest := supervising.latest
  dormant := supervising.dormant
  configured
    | none, _, rfl => List.mem_append_right _ (List.mem_singleton_self _)
    | some index, found, holds =>
        List.mem_append_left _ (supervising.configured (some index) found holds)
  sourced opening member := by
    obtain ⟨before, had, rest⟩ := supervising.sourced opening member
    exact ⟨before, List.mem_append_left _ had, rest⟩
  asked
    | none, _, rfl => fun on => by
        rw [idle] at on
        cases on
    | some index, found, holds => supervising.asked (some index) found holds

theorem unwind (supervising : Supervising host) (ended : host.shim.phase = .ended) :
    Supervising (host.setWorker none { host.shim with phase := .idle }) where
  counted :=
    ⟨supervising.counted.success, supervising.counted.failure, supervising.counted.last⟩
  once := by
    have once := supervising.once
    rw [ended] at once
    exact once
  inCharge := supervising.inCharge
  latest := supervising.latest
  dormant := supervising.dormant
  configured
    | none, _, rfl => supervising.configured none host.shim rfl
    | some index, found, holds => supervising.configured (some index) found holds
  sourced := supervising.sourced
  asked
    | none, _, rfl => fun on => by cases on
    | some index, found, holds => supervising.asked (some index) found holds

theorem tell (supervising : Supervising host) : Supervising host.tell where
  counted := supervising.counted
  once := by
    rw [Host.length_tell]
    exact supervising.once
  inCharge index loop listed untold := by
    rw [Host.told_tell supervising.inCharge listed] at untold
    cases untold
  latest index sent := by cases sent
  dormant index found holds := supervising.dormant index found (Host.worker_tell ▸ holds)
  configured worker found holds := supervising.configured worker found (Host.worker_tell ▸ holds)
  sourced := supervising.sourced
  asked worker found holds := supervising.asked worker found (Host.worker_tell ▸ holds)

theorem spawn {rotated : Option Int} (supervising : Supervising host)
    (done : host.shim.phase = .done rotated) : Supervising host.spawn where
  counted :=
    ⟨supervising.counted.success, supervising.counted.failure, supervising.counted.last⟩
  once := by
    have once := supervising.once
    rw [done] at once
    rw [Host.spawn, List.length_append, Host.length_tell]
    exact once
  inCharge index loop listed untold := by
    rcases Nat.lt_or_ge index host.loops.length with small | large
    · rw [Host.spawn, List.getElem?_append_left (by rwa [Host.length_tell])] at listed
      rw [Host.told_tell supervising.inCharge listed] at untold
      cases untold
    · obtain ⟨within, _⟩ := List.getElem?_eq_some_iff.mp listed
      rw [Host.spawn, List.length_append, Host.length_tell] at within
      exact congrArg some (Nat.le_antisymm large (Nat.le_of_lt_succ within))
  latest index sent := by
    cases sent
    rw [Host.spawn, List.length_append, Host.length_tell]
    rfl
  dormant index found holds := by
    rcases Host.worker_spawn holds with ⟨none, _⟩ | ⟨_, before⟩ | ⟨_, rfl⟩
    · cases none
    · exact supervising.dormant index found before
    · exact VaultShim.dormant_ofLoop _
  configured worker found holds := by
    rcases Host.worker_spawn holds with ⟨_, rfl⟩ | ⟨_, before⟩ | ⟨_, rfl⟩
    · exact supervising.configured none host.shim rfl
    · exact supervising.configured worker found before
    · exact supervising.configured none host.shim rfl
  sourced := supervising.sourced
  asked worker found holds := by
    rcases Host.worker_spawn holds with ⟨_, rfl⟩ | ⟨_, before⟩ | ⟨_, rfl⟩
    · intro on
      cases on
    · exact supervising.asked worker found before
    · exact VaultShim.asked_ofLoop _

theorem effect (supervising : Supervising host)
    (effect : Effect representable host label next) : Supervising next := by
  cases effect with
  | nothing => exact supervising
  | init rotation idle => exact supervising.init idle
  | turn worker shim after disk given there turn begins => exact supervising.turned there turn
  | rest index shim phase there running resting => exact supervising.rest there running resting
  | unwind ended => exact supervising.unwind ended
  | spawn rotated done => exact supervising.spawn done
  | tell idle => exact supervising.tell

end Supervising

/-- The shim counts the rotations of `start` alone and leaves one loop at most
without notice, in every run.  In a run in which no rotation begins while another
is on, every file is what the last rotation to open it has written. -/
theorem always_supervised (env : Env) (checks : Checks Percent) (representable : Int → Bool)
    (rotation : Rotation) (initial : String → Option (List UInt8)) (labels : List (Label Percent)) :
    (machine env checks representable).Always Supervised (.new rotation initial) labels ∧
      ((machine env checks representable).Along Alone (.new rotation initial) labels →
        (machine env checks representable).Always (fun host => host.disk.Intact initial)
          (.new rotation initial) labels) := by
  constructor
  · refine (Machine.always_of_step Supervising ?_ ?_).imp fun _ supervising =>
      supervising.toSupervised
    · exact fun host label next supervising taken => supervising.effect (step_effect taken)
    · exact supervising_new rotation
  · intro along
    refine (Machine.always_of_along (fun host => Lone host ∧ host.disk.Intact initial) ?_ ?_ along).imp
      fun _ holds => holds.2
    · intro host label next holds alone taken
      exact ⟨holds.1.effect (step_effect taken) alone, holds.1.intact (step_effect taken) holds.2⟩
    · exact ⟨lone_new rotation, fun _ => rfl⟩

def secretBody (password : String) : Body where
  leaseDuration := none
  data := fun _ => none
  secret := some fun key => if key = "password" then some (.string password) else none

/-- A second `start` while the loop of the first is at a rotation. -/
def startedTwice : List (Label Nat) :=
  [.start, .receive none none true 0, .spawn,
    .tick 0, .receive (some 0) (secretBody "a") true 1,
    .start, .receive none (secretBody "bbbb") true 2, .write none 20 3, .write (some 0) 20 4]

example (env : Env) (checks : Checks Nat) (representable : Int → Bool) :
    ((machine env checks representable).run
      (.new { vaultSecret := "pg", outputFile := some "/run/pgpass" } fun _ => none)
        startedTwice).map (fun host => host.disk.files "/run/pgpass") =
      some (some (Evergreen.Auth.utf8 "postgres:a\nbb\n")) := by
  rfl

def anyChecks : Checks Nat where
  isHttpsUrl _ := true
  parseSchedule _ := .ok ()
  pathExists _ := true
  inPercentRange _ := true
  showPercent := toString

def rotatedOnce : List (Label Nat) :=
  [.start, .receive none (secretBody "a") true 0, .write none 12 1, .spawn, .stop]

def secretRotation : Rotation := { vaultSecret := "pg", outputFile := some "/run/pgpass" }

theorem alone_rotatedOnce : (machine (fun _ => none) anyChecks fun _ => true).Along Alone
    (.new secretRotation fun _ => none) rotatedOnce := by
  intro host taken
  refine ⟨?_, ?_⟩
  · rintro (_ | index) shim found
    · cases found
      rfl
    · cases found
  · exact fun _ _ => ⟨trivial, fun _ _ => ⟨trivial, fun _ _ => ⟨trivial, fun _ _ => ⟨trivial, trivial⟩⟩⟩⟩

theorem always_supervised_once :
    (machine (fun _ => none) anyChecks fun _ => true).Always
      (fun host => host.disk.Intact fun _ => none) (.new secretRotation fun _ => none) rotatedOnce :=
  (always_supervised _ _ _ secretRotation _ rotatedOnce).2 alone_rotatedOnce
end Evergreen.Vault
