import Evergreen.Wasm.Host

namespace Evergreen.Wasm

open Evergreen.Usize (Panic)

/-! # Which guest ranges the host survives

The bytes a range names, as the guest means it, against the range check of the
imports, which adds two sign-extended values before it compares.
-/

/-- The bytes of the range, if it lies inside the exported memory. -/
def Caller.guestBytes (caller : Caller) (ptr len : Int32) : Option (List UInt8) :=
  caller.memory.bind fun memory =>
    if 0 ≤ ptr.toInt ∧ 0 ≤ len.toInt ∧ ptr.toInt + len.toInt ≤ memory.data.length then
      some ((memory.data.drop ptr.toInt.toNat).take len.toInt.toNat)
    else none

/-- One of the two values is negative and their sum is back in range; a build
with overflow checks stops at every sum that wraps. -/
def Straddles (checks : Bool) (size : Nat) (ptr len : Int32) : Prop :=
  (ptr.toInt < 0 ∨ len.toInt < 0) ∧
    if checks then 0 ≤ ptr.toInt + len.toInt ∨ (ptr.toInt < 0 ∧ len.toInt < 0)
    else 0 ≤ ptr.toInt + len.toInt ∧ ptr.toInt + len.toInt ≤ size

variable {checks allocates : Bool} {caller : Caller} {memory grown : Memory}
variable {ptr len level : Int32} {value : Float} {data bytes : List UInt8}

theorem Memory.length_le (memory : Memory) : memory.data.length ≤ 2 ^ 32 := by
  have bounded := memory.bounded
  have addressable := memory.addressable
  omega

/-! ## The range check -/

theorem readGuest_of_straddles (small : data.length ≤ 2 ^ 32)
    (straddles : Straddles checks data.length ptr len) :
    ∃ panic, readGuest checks data ptr len = .error panic := by
  obtain ⟨negative, wrapped⟩ := straddles
  have ptrLower := ptr.le_toInt
  have ptrUpper := ptr.toInt_lt
  have lenLower := len.le_toInt
  have lenUpper := len.toInt_lt
  have ptrCases := Usize.ofI32_cases ptr
  have lenCases := Usize.ofI32_cases len
  cases checks with
  | true =>
      simp only [if_true] at wrapped
      have overflows : 2 ^ 64 ≤ Usize.ofI32 ptr + Usize.ofI32 len := by omega
      exact ⟨.addOverflow, by simp [readGuest, Usize.add_of_le overflows]⟩
  | false =>
      simp only [Bool.false_eq_true, if_false] at wrapped
      have overflows : 2 ^ 64 ≤ Usize.ofI32 ptr + Usize.ofI32 len := by omega
      have within : (Usize.ofI32 ptr + Usize.ofI32 len) % 2 ^ 64 ≤ data.length := by omega
      have before : (Usize.ofI32 ptr + Usize.ofI32 len) % 2 ^ 64 < Usize.ofI32 ptr := by omega
      refine ⟨.sliceOrder, ?_⟩
      simp only [readGuest, Usize.add_of_le overflows, Bool.false_eq_true, if_false, Usize.ok_bind,
        if_pos within, Usize.slice, if_pos before]
      rfl

theorem readGuest_of_not_straddles (small : data.length ≤ 2 ^ 32)
    (safe : ¬ Straddles checks data.length ptr len) :
    readGuest checks data ptr len = .ok
      (if 0 ≤ ptr.toInt ∧ 0 ≤ len.toInt ∧ ptr.toInt + len.toInt ≤ data.length then
        some ((data.drop ptr.toInt.toNat).take len.toInt.toNat) else none) := by
  have ptrLower := ptr.le_toInt
  have ptrUpper := ptr.toInt_lt
  have lenLower := len.le_toInt
  have lenUpper := len.toInt_lt
  have ptrCases := Usize.ofI32_cases ptr
  have lenCases := Usize.ofI32_cases len
  by_cases signs : 0 ≤ ptr.toInt ∧ 0 ≤ len.toInt
  · -- no sign is extended, and the sum is what the guest means
    have fits : Usize.ofI32 ptr + Usize.ofI32 len < 2 ^ 64 := by omega
    have start : Usize.ofI32 ptr = ptr.toInt.toNat := by omega
    have stop : Usize.ofI32 ptr + Usize.ofI32 len - Usize.ofI32 ptr = len.toInt.toNat := by omega
    by_cases within : ptr.toInt + len.toInt ≤ data.length
    · have inside : Usize.ofI32 ptr + Usize.ofI32 len ≤ data.length := by omega
      rw [if_pos ⟨signs.1, signs.2, within⟩]
      simp only [readGuest, Usize.add_of_lt fits, Usize.ok_bind, if_pos inside,
        Usize.slice_of_le (Nat.le_add_right _ _) inside, stop]
      rw [start]
      rfl
    · have outside : ¬ Usize.ofI32 ptr + Usize.ofI32 len ≤ data.length := by omega
      rw [if_neg (fun all => within all.2.2)]
      simp [readGuest, Usize.add_of_lt fits, outside]
  · rw [if_neg (fun all => signs ⟨all.1, all.2.1⟩)]
    by_cases fits : Usize.ofI32 ptr + Usize.ofI32 len < 2 ^ 64
    · have outside : ¬ Usize.ofI32 ptr + Usize.ofI32 len ≤ data.length := by omega
      simp [readGuest, Usize.add_of_lt fits, outside]
    · -- the sum wraps, so the build has no checks and the end is past the memory
      have wraps : 2 ^ 64 ≤ Usize.ofI32 ptr + Usize.ofI32 len := by omega
      cases checks with
      | true =>
          refine absurd ⟨by omega, ?_⟩ safe
          simp only [if_true]
          omega
      | false =>
          simp only [Straddles, Bool.false_eq_true, if_false] at safe
          have outside : ¬ (Usize.ofI32 ptr + Usize.ofI32 len) % 2 ^ 64 ≤ data.length := by omega
          simp only [readGuest, Usize.add_of_le wraps, Bool.false_eq_true, if_false, Usize.ok_bind,
            if_neg outside]
          rfl

/-! ## The answer of `config_get` -/

namespace Memory

/-- The pages `config_get` asks for: the difference of two counts in `u32`. -/
def pagesToGrow (size valueLength : Nat) : Nat :=
  (size + valueLength + 4) % 2 ^ 32 / 65536 + 1 - size % 2 ^ 32 / 65536

variable {limit : Option Nat} {valueLength : Nat} {contents : List UInt8}

theorem reserve_eq (small : valueLength < 2 ^ 63) :
    memory.reserve checks limit allocates valueLength =
      .ok (if pagesToGrow memory.data.length valueLength = 0 then some memory
        else memory.grow limit allocates (pagesToGrow memory.data.length valueLength)) := by
  have size := memory.length_le
  have first : memory.data.length + valueLength < 2 ^ 64 := by omega
  have second : memory.data.length + valueLength + 4 < 2 ^ 64 := by omega
  simp only [reserve, Usize.add_of_lt first, Usize.add_of_lt second, Usize.ok_bind,
    Usize.pure_eq_ok]
  split
  · next more =>
    rw [if_neg (by simp only [pagesToGrow]; omega)]
    rfl
  · next enough =>
    rw [if_pos (by simp only [pagesToGrow]; omega)]

theorem grow_length {delta : Nat} (grew : memory.grow limit allocates delta = some grown) :
    grown.data.length = memory.data.length + delta * 65536 := by
  simp only [grow] at grew
  split at grew
  · split at grew
    · cases grew
      simp only [List.length_append, List.length_replicate]
    · cases grew
  · cases grew

theorem copyFromSlice_ok {start stop : Nat} {after : Memory}
    (copied : memory.copyFromSlice start stop contents = .ok after) :
    start + contents.length = stop ∧ stop ≤ memory.data.length ∧
      after.data.length = memory.data.length := by
  simp only [copyFromSlice] at copied
  split at copied
  · cases copied
  · next data success =>
    cases copied
    exact Usize.copyFromSlice_ok success

theorem copyFromSlice_exists {start stop : Nat} (width : start + contents.length = stop)
    (within : stop ≤ memory.data.length) :
    ∃ after, memory.copyFromSlice start stop contents = .ok after ∧
      after.data.length = memory.data.length := by
  have success := Usize.copyFromSlice_of_le (by omega) within
    (show contents.length = stop - start by omega)
  cases copied : memory.copyFromSlice start stop contents with
  | ok after => exact ⟨after, rfl, (copyFromSlice_ok copied).2.2⟩
  | error panic =>
      simp only [copyFromSlice] at copied
      split at copied
      · next failure =>
        rw [failure] at success
        cases success
      · cases copied

theorem placeValue_isOk_iff :
    (∃ placed, memory.placeValue checks contents = .ok placed) ↔
      contents.length + 4 ≤ memory.data.length := by
  have size := memory.length_le
  refine ⟨fun ⟨placed, success⟩ => ?_, fun fits => ?_⟩
  · obtain ⟨rest, _, success⟩ := Usize.bind_eq_ok.mp success
    obtain ⟨ptr, _, success⟩ := Usize.bind_eq_ok.mp success
    obtain ⟨header, _, success⟩ := Usize.bind_eq_ok.mp success
    obtain ⟨headed, first, success⟩ := Usize.bind_eq_ok.mp success
    obtain ⟨written, second, _⟩ := Usize.bind_eq_ok.mp success
    have headerRange := copyFromSlice_ok first
    have valueRange := copyFromSlice_ok second
    simp only [leBytes, List.length_cons, List.length_nil] at headerRange
    omega
  · obtain ⟨headed, first, same⟩ := @copyFromSlice_exists memory
      (leBytes (contents.length % 2 ^ 32)) (memory.data.length - contents.length - 4)
      (memory.data.length - contents.length - 4 + 4) rfl (by omega)
    obtain ⟨written, second, _⟩ := @copyFromSlice_exists headed contents
      (memory.data.length - contents.length - 4 + 4) headed.data.length (by omega) (Nat.le_refl _)
    refine ⟨(memory.data.length - contents.length - 4, written), ?_⟩
    simp only [placeValue, Usize.sub_of_le (show contents.length ≤ memory.data.length by omega),
      Usize.sub_of_le (show 4 ≤ memory.data.length - contents.length by omega),
      Usize.add_of_lt (show memory.data.length - contents.length - 4 + 4 < 2 ^ 64 by omega),
      Usize.ok_bind, first, second, Usize.pure_eq_ok]

end Memory

namespace Caller

/-! ## The three imports -/

/-- Each import returns, and what it does is decided by the bytes of the range:
where there are none, it leaves the caller as it was. -/
def ImportsTotal (checks allocates : Bool) (caller : Caller) (level ptr len : Int32)
    (value : Float) : Prop :=
  caller.log checks level ptr len = .ok ((caller.guestBytes ptr len).elim caller fun bytes =>
    caller.pushLog level (Text.fromUtf8Lossy bytes)) ∧
  caller.metricsSet checks ptr len value = .ok ((caller.guestBytes ptr len).elim caller fun bytes =>
    caller.setMetric (Text.fromUtf8Lossy bytes) value) ∧
  ∃ answer, caller.configGet checks allocates ptr len = .ok answer ∧
    (caller.guestBytes ptr len = none → answer = (-1, caller)) ∧
    ∀ memory bytes, caller.memory = some memory → caller.guestBytes ptr len = some bytes →
      caller.answerKey checks allocates memory bytes = .ok answer

/-- The range does not straddle the end of the address space. -/
def RangeSafe (checks : Bool) (caller : Caller) (ptr len : Int32) : Prop :=
  ∀ memory, caller.memory = some memory → ¬ Straddles checks memory.data.length ptr len

/-- The pages that `config_get` asks for are refused, or are enough for the value. -/
def AnswerFits (allocates : Bool) (caller : Caller) (ptr len : Int32) : Prop :=
  ∀ memory bytes value, caller.memory = some memory → caller.guestBytes ptr len = some bytes →
    caller.state.config (Text.fromUtf8Lossy bytes) = some value →
    let delta := Memory.pagesToGrow memory.data.length (valueBytes value).length
    (delta ≠ 0 ∧ memory.grow caller.state.maxMemoryPages allocates delta = none) ∨
      (valueBytes value).length + 4 ≤ memory.data.length + delta * 65536

theorem valueBytes_length (value : String) : (valueBytes value).length = value.utf8ByteSize := by
  rw [valueBytes, Array.length_toList]
  rfl

theorem writeValue_isOk_iff {value : String} (small : value.utf8ByteSize < 2 ^ 63) :
    (∃ answer, caller.writeValue checks allocates memory value = .ok answer) ↔
      (Memory.pagesToGrow memory.data.length (valueBytes value).length ≠ 0 ∧
        memory.grow caller.state.maxMemoryPages allocates
          (Memory.pagesToGrow memory.data.length (valueBytes value).length) = none) ∨
      (valueBytes value).length + 4 ≤ memory.data.length +
        Memory.pagesToGrow memory.data.length (valueBytes value).length * 65536 := by
  rw [← valueBytes_length] at small
  have reserved := @Memory.reserve_eq checks allocates memory caller.state.maxMemoryPages _ small
  generalize Memory.pagesToGrow memory.data.length (valueBytes value).length = delta at *
  have placed : ∀ grown : Memory, memory.reserve checks caller.state.maxMemoryPages allocates
        (valueBytes value).length = .ok (some grown) →
      ((∃ answer, caller.writeValue checks allocates memory value = .ok answer) ↔
        (valueBytes value).length + 4 ≤ grown.data.length) := by
    intro grown room
    rw [← @Memory.placeValue_isOk_iff checks]
    simp only [writeValue, room, Usize.ok_bind]
    refine ⟨fun ⟨answer, success⟩ => ?_, fun ⟨written, success⟩ => ?_⟩
    · obtain ⟨written, success, _⟩ := Usize.bind_eq_ok.mp success
      exact ⟨written, success⟩
    · exact ⟨_, by rw [success]; rfl⟩
  by_cases stays : delta = 0
  · subst stays
    rw [if_pos rfl] at reserved
    rw [placed memory reserved]
    simp
  · rw [if_neg stays] at reserved
    cases grew : memory.grow caller.state.maxMemoryPages allocates delta with
    | none =>
        refine ⟨fun _ => .inl ⟨stays, rfl⟩, fun _ => ⟨(-1, caller), ?_⟩⟩
        simp only [writeValue, reserved, grew, Usize.ok_bind]
        rfl
    | some grown =>
        rw [grew] at reserved
        rw [placed grown reserved, Memory.grow_length grew]
        simp

theorem readGuest_eq_guestBytes (held : caller.memory = some memory)
    (safe : caller.RangeSafe checks ptr len) :
    readGuest checks memory.data ptr len = .ok (caller.guestBytes ptr len) := by
  rw [readGuest_of_not_straddles memory.length_le (safe memory held), guestBytes, held,
    Option.bind_some]

theorem log_of_rangeSafe (safe : caller.RangeSafe checks ptr len) :
    caller.log checks level ptr len = .ok ((caller.guestBytes ptr len).elim caller fun bytes =>
      caller.pushLog level (Text.fromUtf8Lossy bytes)) := by
  cases held : caller.memory with
  | none => simp only [log, held, guestBytes, Option.bind_none, Option.elim_none]
  | some memory =>
      simp only [log, held, readGuest_eq_guestBytes held safe, Usize.ok_bind]
      cases caller.guestBytes ptr len with
      | none => rfl
      | some bytes => rfl

theorem metricsSet_of_rangeSafe (safe : caller.RangeSafe checks ptr len) :
    caller.metricsSet checks ptr len value =
      .ok ((caller.guestBytes ptr len).elim caller fun bytes =>
        caller.setMetric (Text.fromUtf8Lossy bytes) value) := by
  cases held : caller.memory with
  | none => simp only [metricsSet, held, guestBytes, Option.bind_none, Option.elim_none]
  | some memory =>
      simp only [metricsSet, held, readGuest_eq_guestBytes held safe, Usize.ok_bind]
      cases caller.guestBytes ptr len with
      | none => rfl
      | some bytes => rfl

theorem configGet_of_guestBytes (held : caller.memory = some memory)
    (safe : caller.RangeSafe checks ptr len) (inside : caller.guestBytes ptr len = some bytes) :
    caller.configGet checks allocates ptr len =
      caller.answerKey checks allocates memory bytes := by
  simp only [configGet, held, readGuest_eq_guestBytes held safe, inside, Usize.ok_bind]

theorem configGet_of_outside (safe : caller.RangeSafe checks ptr len)
    (outside : caller.guestBytes ptr len = none) :
    caller.configGet checks allocates ptr len = .ok (-1, caller) := by
  cases held : caller.memory with
  | none => simp only [configGet, held]
  | some memory =>
      simp only [configGet, held, readGuest_eq_guestBytes held safe, outside, Usize.ok_bind]
      rfl

theorem rangeSafe_of_log (total : ∃ after, caller.log checks level ptr len = .ok after) :
    caller.RangeSafe checks ptr len := by
  intro memory held straddles
  obtain ⟨after, success⟩ := total
  obtain ⟨panic, failed⟩ := readGuest_of_straddles memory.length_le straddles
  simp only [log, held, failed, Usize.error_bind] at success
  cases success

theorem answerKey_isOk_iff (held : caller.memory = some memory)
    (inside : caller.guestBytes ptr len = some bytes) :
    (∃ answer, caller.answerKey checks allocates memory bytes = .ok answer) ↔
      caller.AnswerFits allocates ptr len := by
  cases found : caller.state.config (Text.fromUtf8Lossy bytes) with
  | none =>
      refine ⟨fun _ => ?_, fun _ => ⟨(-1, caller), by simp only [answerKey, found]⟩⟩
      intro _ key value _ read known
      rw [inside] at read
      cases read
      rw [found] at known
      cases known
  | some value =>
      have small := caller.state.configBounded _ value found
      simp only [answerKey, found, writeValue_isOk_iff small]
      refine ⟨fun fits => ?_, fun fits => fits memory bytes value held inside found⟩
      intro other key text same read known
      rw [held] at same
      cases same
      rw [inside] at read
      cases read
      rw [found] at known
      cases known
      exact fits

/-- The imports are total exactly on the ranges that do not straddle, with a
value that fits where its pages are granted. -/
theorem imports_total_iff (checks allocates : Bool) (caller : Caller) (level ptr len : Int32)
    (value : Float) :
    caller.ImportsTotal checks allocates level ptr len value ↔
      caller.RangeSafe checks ptr len ∧ caller.AnswerFits allocates ptr len := by
  refine ⟨fun ⟨logged, _, answer, success, _, determined⟩ => ?_, fun ⟨safe, fits⟩ => ?_⟩
  · refine ⟨rangeSafe_of_log ⟨_, logged⟩, ?_⟩
    intro memory bytes value held inside
    exact (answerKey_isOk_iff held inside).mp ⟨answer, determined memory bytes held inside⟩
      memory bytes value held inside
  · refine ⟨log_of_rangeSafe safe, metricsSet_of_rangeSafe safe, ?_⟩
    cases inside : caller.guestBytes ptr len with
    | none =>
        refine ⟨(-1, caller), configGet_of_outside safe inside, fun _ => rfl, ?_⟩
        intro memory bytes _ read
        cases read
    | some bytes =>
        obtain ⟨memory, held, _⟩ := Option.bind_eq_some_iff.mp inside
        obtain ⟨answer, success⟩ := (answerKey_isOk_iff held inside).mpr fits
        refine ⟨answer, (configGet_of_guestBytes held safe inside).trans success, ?_, ?_⟩
        · intro outside
          cases outside
        · intro other key same read
          rw [held] at same
          cases same
          cases read
          exact success

theorem answerFits_of_small (small : ∀ key value, caller.state.config key = some value →
    value.utf8ByteSize + 4 ≤ 2 ^ 31) : caller.AnswerFits allocates ptr len := by
  intro memory bytes value _ _ found
  refine .inr ?_
  have size := memory.length_le
  have whole := memory.wholePages
  have short := small _ value found
  rw [valueBytes_length, Memory.pagesToGrow]
  omega

end Caller

/-- A guest with one page of memory. -/
def onePage : Caller where
  memory := some
    { data := List.replicate 65536 0
      maximum := 256
      wholePages := by rw [List.length_replicate]
      bounded := by rw [List.length_replicate]; decide
      addressable := by decide }
  state := { configBounded := fun key value found => by cases found }

/-- In a release build a pointer of minus one and a length of one pass the range
check with an end of zero, and the slice panics. -/
theorem onePage_not_total : ¬ onePage.ImportsTotal false true 2 (-1) 1 0 := by
  intro ⟨logged, _⟩
  apply Caller.rangeSafe_of_log ⟨_, logged⟩ _ rfl
  refine ⟨.inl (by decide), ?_⟩
  simp only [Bool.false_eq_true, if_false, List.length_replicate]
  decide

end Evergreen.Wasm
