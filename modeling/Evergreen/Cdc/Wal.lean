import Evergreen.Cdc.Shim

namespace Evergreen.Cdc

/-! # Advancing the WAL position

A position is a segment and an offset into it.  `advance_wal` goes to the start
of the next segment as soon as the offset leaves this one, however far.
-/

def walSegmentSize : Nat := 0x1000000

def WalPosition.absolute (position : WalPosition) : Nat :=
  position.segment * walSegmentSize + position.offset

/-- The sum of the offsets and the segment it lies in are `u64`. -/
def FitsU64 (segment offset delta : Nat) : Prop :=
  offset + delta < 2 ^ 64 ∧ segment + (offset + delta) / walSegmentSize < 2 ^ 64

variable {Value : Type} {shim : CdcShim Value} {segment offset delta first second : Nat}

/-- What two advances, one after the other, are to come to. -/
structure CdcShim.Adds (shim : CdcShim Value) (first second : Nat) : Prop where
  grows : (shim.advanceWal first).walPosition.absolute = shim.walPosition.absolute + first
  within : (shim.advanceWal first).walPosition.offset < walSegmentSize
  additive : (shim.advanceWal first).advanceWal second = shim.advanceWal (first + second)

/-! ## One advance -/

def advanced (segment offset delta : Nat) : Nat × Nat :=
  if walSegmentSize ≤ (offset + delta) % 2 ^ 64 then ((segment + 1) % 2 ^ 64, 0)
  else (segment, (offset + delta) % 2 ^ 64)

def CdcShim.moveTo (shim : CdcShim Value) (place : Nat × Nat) : CdcShim Value :=
  let (segment, offset) := place
  { shim with walPosition :=
    { shim.walPosition with segment, offset, lsn := s!"{segment}/{offset}" } }

theorem advanceWal_eq (shim : CdcShim Value) (delta : Nat) : shim.advanceWal delta =
    shim.moveTo (advanced shim.walPosition.segment shim.walPosition.offset delta) := rfl

theorem moveTo_injective : Function.Injective shim.moveTo := by
  intro place other same
  have segment := congrArg (·.walPosition.segment) same
  have offset := congrArg (·.walPosition.offset) same
  exact Prod.ext segment offset

theorem FitsU64.mono {more : Nat} (fits : FitsU64 segment offset more) (less : delta ≤ more) :
    FitsU64 segment offset delta := by
  have sums : offset + delta ≤ offset + more := Nat.add_le_add_left less offset
  exact ⟨sums.trans_lt fits.1,
    (Nat.add_le_add_left (Nat.div_le_div_right sums) segment).trans_lt fits.2⟩

theorem advanced_inside (stays : offset + delta < walSegmentSize) :
    advanced segment offset delta = (segment, offset + delta) := by
  have small : offset + delta < 2 ^ 64 := stays.trans (by decide)
  rw [advanced, Nat.mod_eq_of_lt small, if_neg (Nat.not_le.mpr stays)]

theorem advanced_beyond (fits : FitsU64 segment offset delta)
    (leaves : walSegmentSize ≤ offset + delta) : advanced segment offset delta = (segment + 1, 0) := by
  have carried : 0 < (offset + delta) / walSegmentSize := Nat.div_pos leaves (by decide)
  have next : segment + 1 < 2 ^ 64 := (Nat.add_le_add_left carried segment).trans_lt fits.2
  rw [advanced, Nat.mod_eq_of_lt fits.1, if_pos leaves, Nat.mod_eq_of_lt next]

theorem advanced_within : (advanced segment offset delta).2 < walSegmentSize := by
  rw [advanced]
  split
  · show 0 < walSegmentSize
    decide
  · next stays => exact Nat.not_le.mp stays

/-! ## Two advances -/

theorem advanceWal_twice (shim : CdcShim Value) : (shim.advanceWal first).advanceWal second =
    shim.moveTo (advanced
      (advanced shim.walPosition.segment shim.walPosition.offset first).1
      (advanced shim.walPosition.segment shim.walPosition.offset first).2 second) := rfl

theorem adds_inside (stays : shim.walPosition.offset + first < walSegmentSize) :
    shim.Adds first second := by
  have moved : advanced shim.walPosition.segment shim.walPosition.offset first =
      (shim.walPosition.segment, shim.walPosition.offset + first) := advanced_inside stays
  constructor
  · rw [advanceWal_eq, moved]
    exact (Nat.add_assoc ..).symm
  · exact advanced_within
  · rw [advanceWal_twice, advanceWal_eq, moved]
    rw [advanced, advanced, ← Nat.add_assoc]

/-- Past the boundary two advances lose more than one does. -/
theorem advanced_twice_beyond (fits : FitsU64 segment offset (first + second))
    (leaves : walSegmentSize ≤ offset + first) (more : 0 < second) :
    advanced (segment + 1) 0 second ≠ (segment + 1, 0) := by
  intro same
  by_cases stays : 0 + second < walSegmentSize
  · rw [advanced_inside stays, Nat.zero_add] at same
    have none : second = 0 := congrArg Prod.snd same
    exact more.ne' none
  · have carries : 1 + second / walSegmentSize ≤ (offset + (first + second)) / walSegmentSize := by
      rw [Nat.add_comm, ← Nat.add_div_left second (show 0 < walSegmentSize by decide)]
      exact Nat.div_le_div_right (by omega)
    have rest : FitsU64 (segment + 1) 0 second := by
      constructor
      · exact (show 0 + second ≤ offset + (first + second) by omega).trans_lt fits.1
      · rw [Nat.zero_add, Nat.add_assoc]
        exact (Nat.add_le_add_left carries segment).trans_lt fits.2
    rw [advanced_beyond rest (Nat.not_lt.mp stays)] at same
    have stuck : segment + 1 + 1 = segment + 1 := congrArg Prod.fst same
    omega

theorem adds_beyond_iff
    (fits : FitsU64 shim.walPosition.segment shim.walPosition.offset (first + second))
    (leaves : walSegmentSize ≤ shim.walPosition.offset + first) :
    shim.Adds first second ↔ shim.walPosition.offset + first = walSegmentSize ∧ second = 0 := by
  have moved := advanced_beyond (fits.mono (Nat.le_add_right first second)) leaves
  have whole := advanced_beyond fits (by omega)
  have grown : (shim.advanceWal first).walPosition.absolute =
      (shim.walPosition.segment + 1) * walSegmentSize := by
    rw [advanceWal_eq, moved]
    exact Nat.add_zero _
  constructor
  · rintro ⟨grows, _, additive⟩
    constructor
    · rw [grown, WalPosition.absolute, Nat.succ_mul] at grows
      omega
    · rw [advanceWal_twice, advanceWal_eq, moved, whole] at additive
      by_contra more
      exact advanced_twice_beyond fits leaves (Nat.pos_of_ne_zero more)
        (moveTo_injective additive)
  · rintro ⟨exactly, rfl⟩
    constructor
    · rw [grown, WalPosition.absolute, Nat.succ_mul, Nat.add_assoc, exactly]
    · exact advanced_within
    · have stays : 0 + 0 < walSegmentSize := by decide
      rw [advanceWal_twice, advanceWal_eq, Nat.add_zero, moved, advanced_inside stays]

/-- An advance adds up exactly when it stays inside the segment, or ends on the
boundary with nothing to come. -/
theorem advanceWal_adds_iff (shim : CdcShim Value) (lsn now : String)
    (segment offset first second : Nat) (fits : FitsU64 segment offset (first + second)) :
    (shim.setWalPosition lsn segment offset now).Adds first second ↔
      offset + first < walSegmentSize ∨ (offset + first = walSegmentSize ∧ second = 0) := by
  rcases Nat.lt_or_ge (offset + first) walSegmentSize with stays | leaves
  · have inside : (shim.setWalPosition lsn segment offset now).Adds first second :=
      adds_inside stays
    exact iff_of_true inside (.inl stays)
  · have beyond : (shim.setWalPosition lsn segment offset now).Adds first second ↔
        offset + first = walSegmentSize ∧ second = 0 := adds_beyond_iff fits leaves
    rw [beyond]
    exact ⟨.inr, fun holds => holds.resolve_left (Nat.not_lt.mpr leaves)⟩

def fresh : CdcShim Unit := .new "stdout" [] none 1 "now"

theorem advanceWal_adds_iff_at_start :
    FitsU64 0 0 (5 + 7) ∧
      ((fresh.setWalPosition "0/0" 0 0 "now").Adds 5 7 ↔
        0 + 5 < walSegmentSize ∨ (0 + 5 = walSegmentSize ∧ 7 = 0)) := by
  have fits : FitsU64 0 0 (5 + 7) := ⟨by decide, by decide⟩
  exact ⟨fits, advanceWal_adds_iff fresh "0/0" "now" 0 0 5 7 fits⟩

/-- Sixteen bytes short of the boundary, `0x100` bytes move the position on by
sixteen. -/
theorem advanceWal_loses_carry :
    ¬ ∀ (segment offset first second : Nat), offset < walSegmentSize →
      FitsU64 segment offset (first + second) →
      (fresh.setWalPosition "0/0" segment offset "now").Adds first second := by
  intro adds
  have ⟨grows, _, _⟩ := adds 0 0xFFFFF0 0x100 0 (by decide) ⟨by decide, by decide⟩
  exact absurd grows (by decide)

end Evergreen.Cdc
