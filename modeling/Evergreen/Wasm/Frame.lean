import Evergreen.Wasm.Totality

namespace Evergreen.Wasm

open Evergreen.Usize (Panic)

/-! # What `config_get` leaves of the guest's memory

The answer is written at the end of the memory, which has just been grown: the
guest's bytes stay below it as long as the count of pages is not cut to 32 bits.
-/

variable {checks allocates : Bool} {caller after : Caller} {memory grown written : Memory}
variable {ptr len : Int32} {bytes contents : List UInt8} {value : String} {start : Nat}

namespace Memory

variable {limit : Option Nat} {delta : Nat}

theorem prefix_grow (grew : memory.grow limit allocates delta = some grown) :
    memory.data <+: grown.data := by
  simp only [grow] at grew
  split at grew
  · split at grew <;> cases grew
    exact List.prefix_append ..
  · cases grew

theorem data_copyFromSlice {stop : Nat}
    (copied : memory.copyFromSlice start stop contents = .ok written) :
    written.data = memory.data.take start ++ contents ++ memory.data.drop stop := by
  obtain ⟨width, within, _⟩ := copyFromSlice_ok copied
  have success := Usize.copyFromSlice_of_le (show start ≤ stop by omega) within
    (show contents.length = stop - start by omega)
  simp only [copyFromSlice] at copied
  split at copied
  · cases copied
  · next data found =>
    cases copied
    exact Except.ok.inj (found.symm.trans success)

/-- The header and the value take the place of the last bytes. -/
theorem placeValue_data (placed : memory.placeValue checks contents = .ok (start, written)) :
    start + (4 + contents.length) = memory.data.length ∧
      written.data = memory.data.take start ++ (leBytes (contents.length % 2 ^ 32) ++ contents) := by
  have size := memory.length_le
  have fits := placeValue_isOk_iff.mp ⟨_, placed⟩
  simp only [placeValue, Usize.sub_of_le (show contents.length ≤ memory.data.length by omega),
    Usize.sub_of_le (show 4 ≤ memory.data.length - contents.length by omega),
    Usize.add_of_lt (show memory.data.length - contents.length - 4 + 4 < 2 ^ 64 by omega),
    Usize.ok_bind] at placed
  obtain ⟨headed, first, placed⟩ := Usize.bind_eq_ok.mp placed
  obtain ⟨_, second, placed⟩ := Usize.bind_eq_ok.mp placed
  cases placed
  have same := (copyFromSlice_ok first).2.2
  have below : (memory.data.take (memory.data.length - contents.length - 4)).length =
      memory.data.length - contents.length - 4 := List.length_take_of_le (by omega)
  refine ⟨by omega, ?_⟩
  rw [data_copyFromSlice second, same, List.drop_of_length_le (Nat.le_of_eq same), List.append_nil,
    data_copyFromSlice first, ← List.append_assoc]
  congr 1
  exact List.take_left' (by simp only [List.length_append, below, leBytes, List.length_cons, List.length_nil])

/-- Below `2 ^ 31` bytes the pages asked for are enough exactly when the total
is not cut. -/
theorem enough_iff {valueLength : Nat} (small : memory.data.length < 2 ^ 31) :
    valueLength + 4 ≤ memory.data.length + pagesToGrow memory.data.length valueLength * 65536 ↔
      memory.data.length + valueLength + 4 < 2 ^ 32 := by
  have whole := memory.wholePages
  simp only [pagesToGrow]
  omega

/-- The new pages hold the header and the value. -/
theorem length_lt_pagesToGrow {valueLength : Nat} (small : memory.data.length < 2 ^ 31)
    (total : memory.data.length + valueLength + 4 < 2 ^ 32) :
    memory.data.length + valueLength + 4 <
      memory.data.length + pagesToGrow memory.data.length valueLength * 65536 := by
  have whole := memory.wholePages
  simp only [pagesToGrow]
  omega

/-- The length in four bytes at the pointer, and the value behind it. -/
def Holds (memory : Memory) (ptr : Nat) (contents : List UInt8) : Prop :=
  (memory.data.drop ptr).take 4 = leBytes contents.length ∧
    (memory.data.drop (ptr + 4)).take contents.length = contents

theorem holds_of_data {below : List UInt8} (short : contents.length < 2 ^ 32)
    (data : memory.data = below ++ (leBytes (contents.length % 2 ^ 32) ++ contents)) :
    memory.Holds below.length contents := by
  refine ⟨?_, ?_⟩
  · rw [data, List.drop_left, Nat.mod_eq_of_lt short]
    exact List.take_left' rfl
  · rw [data, ← List.drop_drop, List.drop_left]
    exact List.take_of_length_le (Nat.le_refl _)

end Memory

namespace Caller

/-- The value stored under the key that the range names. -/
def requested (caller : Caller) (keyPtr keyLen : Int32) : Option String :=
  (caller.guestBytes keyPtr keyLen).bind fun bytes =>
    caller.state.config (Text.fromUtf8Lossy bytes)

/-- Every byte of the memory is still where it was. -/
def Keeps (caller after : Caller) : Prop :=
  ∀ memory, caller.memory = some memory →
    ∃ grown, after.memory = some grown ∧ memory.data <+: grown.data

/-- The call returns, keeps the guest's bytes, and answers minus one or a
pointer to the length and the bytes of the value. -/
def Framed (checks allocates : Bool) (caller : Caller) (keyPtr keyLen : Int32) : Prop :=
  ∃ result after, caller.configGet checks allocates keyPtr keyLen = .ok (result, after) ∧
    caller.Keeps after ∧
    (result = -1 ∨ ∃ value memory, caller.requested keyPtr keyLen = some value ∧
      after.memory = some memory ∧ memory.Holds result.toUInt32.toNat (valueBytes value))

/-- The bytes in all are below `2 ^ 32`, or the pages asked for are refused. -/
def ValueFits (allocates : Bool) (caller : Caller) (keyPtr keyLen : Int32) : Prop :=
  ∀ memory value, caller.memory = some memory → caller.requested keyPtr keyLen = some value →
    let delta := Memory.pagesToGrow memory.data.length (valueBytes value).length
    (delta ≠ 0 ∧ memory.grow caller.state.maxMemoryPages allocates delta = none) ∨
      memory.data.length + value.utf8ByteSize + 4 < 2 ^ 32

theorem guestBytes_zero (held : caller.memory = some memory) : caller.guestBytes 0 0 = some [] := by
  have inside : 0 ≤ (0 : Int32).toInt ∧ 0 ≤ (0 : Int32).toInt ∧
      (0 : Int32).toInt + (0 : Int32).toInt ≤ memory.data.length :=
    ⟨Int.le_refl 0, Int.le_refl 0, Int.natCast_nonneg _⟩
  rw [guestBytes, held, Option.bind_some, if_pos inside]
  rfl

theorem Keeps.refl (caller : Caller) : caller.Keeps caller :=
  fun memory held => ⟨memory, held, List.prefix_rfl⟩

theorem answerFits_iff_valueFits
    (small : ∀ memory, caller.memory = some memory → memory.data.length < 2 ^ 31) :
    caller.AnswerFits allocates ptr len ↔ caller.ValueFits allocates ptr len := by
  refine ⟨fun fits memory value held asked => ?_, fun fits memory bytes value held inside found => ?_⟩
  · obtain ⟨bytes, inside, found⟩ := Option.bind_eq_some_iff.mp asked
    refine (fits memory bytes value held inside found).imp_right fun enough => ?_
    rw [← valueBytes_length]
    exact (Memory.enough_iff (small memory held)).mp enough
  · have asked : caller.requested ptr len = some value := by
      rw [requested, inside]
      exact found
    refine (fits memory value held asked).imp_right fun total => ?_
    rw [← valueBytes_length] at total
    exact (Memory.enough_iff (small memory held)).mpr total

theorem rangeSafe_of_configGet
    (total : ∃ answer, caller.configGet checks allocates ptr len = .ok answer) :
    caller.RangeSafe checks ptr len := by
  intro memory held straddles
  obtain ⟨answer, success⟩ := total
  obtain ⟨panic, failed⟩ := readGuest_of_straddles memory.length_le straddles
  simp only [configGet, held, failed, Usize.error_bind] at success
  cases success

/-- What is written goes behind the guest's bytes. -/
theorem writeValue_of_granted {delta : Nat}
    (room : memory.reserve checks caller.state.maxMemoryPages allocates (valueBytes value).length =
      .ok (some grown))
    (grew : memory.grow caller.state.maxMemoryPages allocates delta = some grown)
    (behind : memory.data.length + (valueBytes value).length + 4 < grown.data.length) :
    ∃ result written, caller.writeValue checks allocates memory value =
        .ok (result, { caller with memory := some written }) ∧
      memory.data <+: written.data ∧ written.Holds result.toUInt32.toNat (valueBytes value) := by
  have size := grown.length_le
  obtain ⟨⟨start, written⟩, placed⟩ := (@Memory.placeValue_isOk_iff checks grown _).mpr
    (show (valueBytes value).length + 4 ≤ grown.data.length by omega)
  obtain ⟨width, data⟩ := Memory.placeValue_data placed
  have below : (grown.data.take start).length = start := List.length_take_of_le (by omega)
  refine ⟨Int32.ofNat start, written, ?_, ?_, ?_⟩
  · simp only [writeValue, room, placed, Usize.ok_bind]
    rfl
  · rw [data]
    refine List.IsPrefix.trans ?_ (List.prefix_append ..)
    exact List.prefix_take_iff.mpr ⟨Memory.prefix_grow grew, by omega⟩
  · have pointer : (Int32.ofNat start).toUInt32.toNat = start := by
      rw [Int32.toUInt32_ofNat', UInt32.toNat_ofNat']
      exact Nat.mod_eq_of_lt (by omega)
    have holds := Memory.holds_of_data (by omega) data
    rwa [below, ← pointer] at holds

theorem framed_of_value (held : caller.memory = some memory) (small : memory.data.length < 2 ^ 31)
    (asked : caller.requested ptr len = some value) (fits : caller.ValueFits allocates ptr len)
    (reached : caller.configGet checks allocates ptr len =
      caller.writeValue checks allocates memory value)
    (bounded : value.utf8ByteSize < 2 ^ 63) : caller.Framed checks allocates ptr len := by
  have either := fits memory value held asked
  rw [← valueBytes_length] at bounded either
  have room := @Memory.reserve_eq checks allocates memory caller.state.maxMemoryPages _ bounded
  have asks : Memory.pagesToGrow memory.data.length (valueBytes value).length ≠ 0 := by
    rcases either with ⟨asks, _⟩ | total
    · exact asks
    · have enough := Memory.length_lt_pagesToGrow small total
      intro none
      rw [none] at enough
      omega
  rw [if_neg asks] at room
  cases grew : memory.grow caller.state.maxMemoryPages allocates
      (Memory.pagesToGrow memory.data.length (valueBytes value).length) with
  | none =>
      refine ⟨-1, caller, reached.trans ?_, .refl caller, .inl rfl⟩
      simp only [writeValue, room, grew, Usize.ok_bind]
      rfl
  | some grown =>
      rw [grew] at room
      have total := either.resolve_left fun refused => by cases grew.symm.trans refused.2
      have behind := Memory.length_lt_pagesToGrow small total
      rw [← Memory.grow_length grew] at behind
      obtain ⟨result, written, wrote, kept, holds⟩ := writeValue_of_granted room grew behind
      refine ⟨result, _, reached.trans wrote, ?_, .inr ⟨value, written, asked, rfl, holds⟩⟩
      intro other same
      cases held.symm.trans same
      exact ⟨written, rfl, kept⟩

theorem fits_of_framed
    (small : ∀ memory, caller.memory = some memory → memory.data.length < 2 ^ 31)
    (framed : caller.Framed checks allocates ptr len) :
    caller.RangeSafe checks ptr len ∧ caller.ValueFits allocates ptr len := by
  obtain ⟨result, after, success, _⟩ := framed
  have safe := rangeSafe_of_configGet ⟨_, success⟩
  refine ⟨safe, (answerFits_iff_valueFits small).mp ?_⟩
  intro memory bytes value held inside
  rw [configGet_of_guestBytes held safe inside] at success
  exact (answerKey_isOk_iff held inside).mp ⟨_, success⟩ memory bytes value held inside

/-- Over a memory below `2 ^ 31` bytes the call is framed exactly when its range
does not straddle and its value is not too long for the count of pages. -/
theorem configGet_framed_iff (checks allocates : Bool) (caller : Caller) (keyPtr keyLen : Int32)
    (small : ∀ memory, caller.memory = some memory → memory.data.length < 2 ^ 31) :
    caller.Framed checks allocates keyPtr keyLen ↔
      caller.RangeSafe checks keyPtr keyLen ∧ caller.ValueFits allocates keyPtr keyLen := by
  refine ⟨fits_of_framed small, fun ⟨safe, fits⟩ => ?_⟩
  cases inside : caller.guestBytes keyPtr keyLen with
  | none => exact ⟨-1, caller, configGet_of_outside safe inside, .refl caller, .inl rfl⟩
  | some bytes =>
      obtain ⟨memory, held, _⟩ := Option.bind_eq_some_iff.mp inside
      have reached := @configGet_of_guestBytes checks allocates caller memory _ _ _ held safe inside
      cases found : caller.state.config (Text.fromUtf8Lossy bytes) with
      | none =>
          refine ⟨-1, caller, reached.trans ?_, .refl caller, .inl rfl⟩
          simp only [answerKey, found]
      | some value =>
          simp only [answerKey, found] at reached
          have asked : caller.requested keyPtr keyLen = some value := by
            rw [requested, inside]
            exact found
          exact framed_of_value held (small memory held) asked fits reached
            (caller.state.configBounded _ value found)

end Caller

theorem onePage_small : ∀ memory, onePage.memory = some memory → memory.data.length < 2 ^ 31 := by
  rintro memory ⟨⟩
  rw [List.length_replicate]
  decide

theorem configGet_framed_iff_onePage : onePage.Framed true true 0 0 ↔
    onePage.RangeSafe true 0 0 ∧ onePage.ValueFits true 0 0 :=
  Caller.configGet_framed_iff true true onePage 0 0 onePage_small

/-- A text of so many letters. -/
def letters : Nat → String
  | 0 => ""
  | count + 1 => (letters count).push 'a'

theorem utf8ByteSize_letters (count : Nat) : (letters count).utf8ByteSize = count := by
  induction count with
  | zero => rfl
  | succ count ih => rw [letters, String.utf8ByteSize_push, ih]; rfl

/-- One page, and a text of the given size under every key. -/
def onePageWith (size : Nat) (bounded : size < 2 ^ 63) : Caller where
  memory := onePage.memory
  state :=
    { config := fun _ => some (letters size)
      configBounded := fun key value found => by
        obtain rfl := Option.some.inj found
        rw [utf8ByteSize_letters]
        exact bounded }

theorem onePageWith_small {size : Nat} {bounded : size < 2 ^ 63} :
    ∀ memory, (onePageWith size bounded).memory = some memory → memory.data.length < 2 ^ 31 :=
  onePage_small

theorem onePageWith_requested {size : Nat} {bounded : size < 2 ^ 63} :
    (onePageWith size bounded).requested 0 0 = some (letters size) := by
  rw [Caller.requested, Caller.guestBytes_zero rfl]
  rfl

/-- The total is cut to no pages, and the memory does not grow. -/
theorem onePageWith_not_framed {size : Nat} {bounded : size < 2 ^ 63}
    (long : 2 ^ 32 ≤ 65536 + size + 4) (cut : (65536 + size + 4) % 2 ^ 32 < 65536) :
    ¬ (onePageWith size bounded).Framed checks allocates 0 0 := by
  intro framed
  have fits := (Caller.fits_of_framed onePageWith_small framed).2 _ _ rfl onePageWith_requested
  simp only [List.length_replicate, Caller.valueBytes_length, utf8ByteSize_letters,
    Memory.pagesToGrow] at fits
  omega

/-- The range check lets a pointer of minus one pass, and a value that fills the
rest of the 32-bit address space is too long to be counted. -/
theorem configGet_not_framed : ¬ onePage.Framed false true (-1) 1 ∧
    ¬ (onePageWith (2 ^ 32 - 65540) (by decide)).Framed false true 0 0 := by
  refine ⟨fun framed => ?_, onePageWith_not_framed (by decide) (by decide)⟩
  refine (Caller.fits_of_framed onePage_small framed).1 _ rfl ⟨.inl (by decide), ?_⟩
  simp only [Bool.false_eq_true, if_false, List.length_replicate]
  decide

end Evergreen.Wasm
