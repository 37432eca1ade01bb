import Mathlib.Logic.Basic

namespace Evergreen.Text

/-! # Lossy UTF-8

`String::from_utf8_lossy`: every longest piece that begins a valid sequence and
does not finish it becomes one replacement character, and so does every byte
that begins none.
-/

def replacement : Char := Char.ofNat 0xFFFD

/-- A sequence under way: the continuation bytes still missing, the bits read so
far, and the range that the next byte has to be in. -/
structure Utf8Pending where
  missing : Nat
  bits : Nat
  lower : Nat := 0x80
  upper : Nat := 0xBF
deriving DecidableEq, Repr

/-- What a byte begins: a character of its own, or a longer sequence. -/
def utf8Start (byte : Nat) : Char ⊕ Utf8Pending :=
  if byte < 0x80 then .inl (Char.ofNat byte)
  else if byte < 0xC2 then .inl replacement
  else if byte < 0xE0 then .inr { missing := 1, bits := byte - 0xC0 }
  else if byte = 0xE0 then .inr { missing := 2, bits := 0, lower := 0xA0 }
  else if byte = 0xED then .inr { missing := 2, bits := 0xD, upper := 0x9F }
  else if byte < 0xF0 then .inr { missing := 2, bits := byte - 0xE0 }
  else if byte = 0xF0 then .inr { missing := 3, bits := 0, lower := 0x90 }
  else if byte < 0xF4 then .inr { missing := 3, bits := byte - 0xF0 }
  else if byte = 0xF4 then .inr { missing := 3, bits := 4, upper := 0x8F }
  else .inl replacement

def utf8LossyFrom : Option Utf8Pending → List UInt8 → List Char
  | none, [] => []
  | some _, [] => [replacement]
  | none, byte :: rest =>
      match utf8Start byte.toNat with
      | .inl char => char :: utf8LossyFrom none rest
      | .inr pending => utf8LossyFrom (some pending) rest
  | some pending, byte :: rest =>
      if pending.lower ≤ byte.toNat ∧ byte.toNat ≤ pending.upper then
        let bits := pending.bits * 64 + (byte.toNat - 0x80)
        if pending.missing = 1 then Char.ofNat bits :: utf8LossyFrom none rest
        else utf8LossyFrom (some { missing := pending.missing - 1, bits }) rest
      else
        -- the byte that broke the sequence off is looked at again
        match utf8Start byte.toNat with
        | .inl char => replacement :: char :: utf8LossyFrom none rest
        | .inr pending => replacement :: utf8LossyFrom (some pending) rest

def fromUtf8Lossy (bytes : List UInt8) : String :=
  String.ofList (utf8LossyFrom none bytes)

example : fromUtf8Lossy [0x68, 0xC3, 0xA9, 0xE2, 0x82, 0x41] =
    String.ofList [Char.ofNat 0x68, Char.ofNat 0xE9, replacement, Char.ofNat 0x41] := by
  decide +kernel

end Evergreen.Text
