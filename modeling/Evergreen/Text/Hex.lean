import Mathlib.Algebra.Order.Ring.Nat

namespace Evergreen.Text

/-! # Hexadecimal text -/

def hexDigit (value : Nat) : Char :=
  if value < 10 then Char.ofNat ('0'.toNat + value) else Char.ofNat ('a'.toNat + (value - 10))

/-- `{:02x}` for every byte. -/
def hexEncode (data : List UInt8) : String :=
  String.ofList (data.flatMap fun byte =>
    [hexDigit (byte.toNat / 16), hexDigit (byte.toNat % 16)])

/-- `%X`. -/
def upperHex (value : Nat) : String :=
  String.ofList ((Nat.toDigits 16 value).map Char.toUpper)

def hexValue (char : Char) : Option Nat :=
  if '0' ≤ char ∧ char ≤ '9' then some (char.toNat - '0'.toNat)
  else if 'a' ≤ char ∧ char ≤ 'f' then some (char.toNat - 'a'.toNat + 10)
  else if 'A' ≤ char ∧ char ≤ 'F' then some (char.toNat - 'A'.toNat + 10)
  else none

/-- `u8::from_str_radix` of two characters, which takes a plus sign for the first. -/
def hexByte (first second : Char) : Option UInt8 :=
  if first = '+' then (hexValue second).map UInt8.ofNat
  else (hexValue first).bind fun high =>
    (hexValue second).map fun low => UInt8.ofNat (high * 16 + low)

def hexPairs : List Char → Option (List UInt8)
  | [] => some []
  | [_] => none
  | first :: second :: rest =>
      (hexByte first second).bind fun byte => (hexPairs rest).map (byte :: ·)

/-- Text that is not pairs of hexadecimal digits is refused. -/
def hexDecode (text : String) : Option (List UInt8) :=
  hexPairs text.toList

/-- `hex_decode` reads slices of two bytes, and one that ends inside a character
panics. -/
def slicesCutChar : List Char → Bool
  | [] => false
  | [only] => decide (2 < only.utf8Size)
  | first :: second :: rest =>
      if first.utf8Size = 1 then
        if second.utf8Size = 1 then (hexByte first second).isSome && slicesCutChar rest else true
      else decide (2 < first.utf8Size)

/-- Text of odd length is not sliced. -/
def hexDecodePanics (text : String) : Bool :=
  text.utf8ByteSize % 2 == 0 && slicesCutChar text.toList

theorem hexByte_hexDigit (byte : UInt8) :
    hexByte (hexDigit (byte.toNat / 16)) (hexDigit (byte.toNat % 16)) = some byte := by
  have every : ∀ value < 256,
      hexByte (hexDigit (value / 16)) (hexDigit (value % 16)) = some (UInt8.ofNat value) := by
    decide +kernel
  rw [every byte.toNat byte.toNat_lt, UInt8.ofNat_toNat]

theorem hexDecode_hexEncode (data : List UInt8) : hexDecode (hexEncode data) = some data := by
  rw [hexDecode, hexEncode, String.toList_ofList]
  induction data with
  | nil => rfl
  | cons byte data ih =>
      rw [List.flatMap_cons, List.cons_append, List.cons_append, List.nil_append, hexPairs,
        hexByte_hexDigit, ih]
      rfl

theorem length_le_utf8ByteSize (chars : List Char) :
    chars.length ≤ (String.ofList chars).utf8ByteSize := by
  induction chars with
  | nil => exact Nat.zero_le _
  | cons char chars ih =>
      have wide := Char.utf8Size_pos char
      rw [String.ofList_cons, String.utf8ByteSize_append, String.utf8ByteSize_singleton,
        List.length_cons]
      omega

theorem utf8ByteSize_of_narrow {chars : List Char} (narrow : ∀ char ∈ chars, char.utf8Size = 1) :
    (String.ofList chars).utf8ByteSize = chars.length := by
  induction chars with
  | nil => rfl
  | cons char chars ih =>
      have first := narrow char List.mem_cons_self
      rw [String.ofList_cons, String.utf8ByteSize_append, String.utf8ByteSize_singleton, first,
        ih fun other member => narrow other (List.mem_cons_of_mem _ member), List.length_cons,
        Nat.add_comm]

theorem two_digits_le_hexEncode (data : List UInt8) :
    2 * data.length ≤ (hexEncode data).utf8ByteSize := by
  have digits : (data.flatMap fun byte =>
      [hexDigit (byte.toNat / 16), hexDigit (byte.toNat % 16)]).length = 2 * data.length := by
    induction data with
    | nil => rfl
    | cons byte data ih =>
        rw [List.flatMap_cons, List.length_append, ih, List.length_cons]
        simp only [List.length_cons, List.length_nil]
        omega
  exact digits.symm.le.trans (length_le_utf8ByteSize _)

end Evergreen.Text
