import Evergreen.Text.Parse

namespace Evergreen.Text

/-! # Socket addresses as the standard library reads them

`parse::<SocketAddr>`: each reader answers what is left of the text, or `none`
where it fails and the text stays as it was.  The address itself is not kept.
-/

abbrev Reader := List Char → Option (List Char)

def readGivenChar (target : Char) : Reader
  | [] => none
  | char :: rest => if char = target then some rest else none

/-- The separator stands before every turn of a loop but the first. -/
def readSeparator (separator : Char) (index : Nat) (inner : Reader) : Reader := fun text =>
  if index = 0 then inner text else (readGivenChar separator text).bind inner

/-- `to_digit`. -/
def digitValue (radix : Nat) (char : Char) : Option Nat :=
  let value :=
    if '0' ≤ char ∧ char ≤ '9' then char.toNat - '0'.toNat
    else if 'a' ≤ char ∧ char ≤ 'z' then char.toNat - 'a'.toNat + 10
    else if 'A' ≤ char ∧ char ≤ 'Z' then char.toNat - 'A'.toNat + 10
    else radix
  if value < radix then some value else none

/-- All the digits at the front, as a number of a type with this many values. -/
def readNumber (values radix : Nat) (maxDigits : Option Nat) (allowZeroPrefix : Bool) : Reader :=
  fun text =>
    let digits := text.takeWhile fun char => (digitValue radix char).isSome
    let value := (digits.filterMap (digitValue radix)).foldl (fun value digit =>
      value * radix + digit) 0
    if digits ≠ [] ∧ (∀ most ∈ maxDigits, digits.length ≤ most) ∧
        (allowZeroPrefix ∨ digits.head? ≠ some '0' ∨ digits.length = 1) ∧ value < values then
      some (text.drop digits.length)
    else none

def readIpv4Addr : Reader := fun text =>
  (List.range 4).foldlM (fun text index =>
    readSeparator '.' index (readNumber (2 ^ 8) 10 (some 3) false) text) text

/-- How many of the `limit` groups were read, whether the last two were an IPv4
address, and what is left; `left` counts down the turns of the loop. -/
def readGroups (limit : Nat) : Nat → List Char → Nat × Bool × List Char
  | 0, text => (limit, false, text)
  | left + 1, text =>
      let index := limit - (left + 1)
      let ipv4 := if index < limit - 1 then readSeparator ':' index readIpv4Addr text else none
      match ipv4 with
      | some rest => (index + 2, true, rest)
      | none =>
          match readSeparator ':' index (readNumber (2 ^ 16) 16 (some 4) true) text with
          | some rest => readGroups limit left rest
          | none => (index, false, text)

def readIpv6Addr : Reader := fun text =>
  let (headSize, headIpv4, rest) := readGroups 8 8 text
  if headSize = 8 then some rest
  else if headIpv4 then none
  else
    ((readGivenChar ':' rest).bind (readGivenChar ':')).map fun rest =>
      let limit := 8 - (headSize + 1)
      (readGroups limit limit rest).2.2

def readPort : Reader := fun text =>
  (readGivenChar ':' text).bind (readNumber (2 ^ 16) 10 none true)

def readScopeId : Reader := fun text =>
  (readGivenChar '%' text).bind (readNumber (2 ^ 32) 10 none true)

def readSocketAddrV4 : Reader := fun text => (readIpv4Addr text).bind readPort

def readSocketAddrV6 : Reader := fun text => do
  let text ← readGivenChar '[' text
  let text ← readIpv6Addr text
  let text := (readScopeId text).getD text
  let text ← readGivenChar ']' text
  readPort text

def readSocketAddr : Reader := fun text => (readSocketAddrV4 text).or (readSocketAddrV6 text)

/-- `parse` succeeds and has read everything. -/
def isSocketAddr (text : String) : Bool := readSocketAddr text.toList = some []

example : isSocketAddr "[fe80::1%3]:9101" = true := by decide +kernel

example : isSocketAddr "0.0.0.00:9101" = false := by decide +kernel

end Evergreen.Text
