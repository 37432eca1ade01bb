import Evergreen.Machine.Run
import Evergreen.Text.Hex
import Evergreen.Text.Parse
import Mathlib.Algebra.Order.Ring.Int
import Mathlib.Logic.Function.Basic

namespace Evergreen.Auth

/-! # The tokens of the auth shim

A token is an id, a dot and a secret, and the shim keeps the HMAC of it under
the id.  HMAC and the text form of instants come from other crates.  Instants
are nanoseconds, and the clock is read wherever the source reads it.
-/

inductive Role where
  | admin
  | readWrite
  | readOnly
  | denied
deriving DecidableEq, Repr

structure AuthResult where
  authenticated : Bool
  user : Option String
  role : Option Role
  reason : Option String
deriving DecidableEq, Repr

structure StoredToken where
  tokenHash : String
  user : String
  role : Role
  issuedAt : String
  expiresAt : String
  sourceIp : Option String
deriving DecidableEq, Repr

/-- The text of a UUID: hexadecimal digits and dashes. -/
structure Uuid where
  text : String
  dotless : '.' ∉ text.toList

/-- `Hmac::new_from_slice` and what the code made of a message is; `to_rfc3339`
and `parse` of an instant, and which instants there are. -/
structure Crates where
  newFromSlice : List UInt8 → Option (List UInt8 → List UInt8)
  representable : Int → Bool
  toRfc3339 : Int → String
  parse : String → Option Int

/-- An instant comes back from its text. -/
def Crates.RoundTrips (crates : Crates) : Prop :=
  ∀ instant, crates.representable instant = true →
    crates.parse (crates.toRfc3339 instant) = some instant

structure AuthShim where
  tokenExpirySecs : Nat
  hmacKey : List UInt8
  authSuccess : Nat := 0
  authFailure : Nat := 0
  tokens : String → Option StoredToken := fun _ => none

/-- `value as i64` of a `u64`. -/
def asI64 (value : Nat) : Int :=
  if value < 2 ^ 63 then value else (value : Int) - 2 ^ 64

/-- The largest number of seconds in a `chrono::Duration`. -/
def maxDurationSecs : Nat := 9223372036854775

/-- `Duration::seconds` in nanoseconds; it panics out of its range. -/
def durationSeconds (secs : Int) : Option Int :=
  if -(maxDurationSecs : Int) ≤ secs ∧ secs ≤ maxDurationSecs then some (secs * 10 ^ 9) else none

def utf8 (text : String) : List UInt8 := text.toUTF8.data.toList

namespace AuthShim

def hmacHash (crates : Crates) (shim : AuthShim) (data : List UInt8) : Option String :=
  (crates.newFromSlice shim.hmacKey).map fun mac => Text.hexEncode (mac data)

def tokenValue (id secret : Uuid) : String :=
  id.text ++ String.singleton '.' ++ secret.text

/-- `none` is a panic: no HMAC for the key, or an expiry out of range. -/
def createToken (crates : Crates) (shim : AuthShim) (user : String) (role : Role)
    (sourceIp : Option String) (id secret : Uuid) (now : Int) : Option (AuthShim × String) :=
  (shim.hmacHash crates (utf8 (tokenValue id secret))).bind fun tokenHash =>
    (durationSeconds (asI64 shim.tokenExpirySecs)).bind fun lifetime =>
      if crates.representable (now + lifetime) then
        let stored : StoredToken :=
          { tokenHash, user, role, sourceIp
            issuedAt := crates.toRfc3339 now
            expiresAt := crates.toRfc3339 (now + lifetime) }
        some ({ shim with tokens := Function.update shim.tokens id.text (some stored) },
          tokenValue id secret)
      else none

/-- A refusal, which counts as a failure. -/
def refuse (shim : AuthShim) (user : Option String) (role : Option Role) (reason : String) :
    AuthShim × AuthResult :=
  ({ shim with authFailure := shim.authFailure + 1 },
    { authenticated := false, user, role, reason := some reason })

def validateToken (crates : Crates) (shim : AuthShim) (token : String) (now : Int) :
    AuthShim × AuthResult :=
  match Text.splitOnce '.' token with
  | none => shim.refuse none none "Invalid token format"
  | some (id, _) =>
      match shim.tokens id with
      | none => shim.refuse none none "Token not found"
      | some stored =>
          match Text.hexDecode stored.tokenHash with
          | none => shim.refuse none none "Internal error"
          | some expectedHash =>
              match crates.newFromSlice shim.hmacKey with
              | none => shim.refuse none none "Internal error"
              | some mac =>
                  if mac (utf8 token) ≠ expectedHash then
                    shim.refuse none none "Token verification failed"
                  else if (crates.parse stored.expiresAt).getD now < now then
                    shim.refuse (some stored.user) none "Token expired"
                  else if stored.role = .denied then
                    shim.refuse (some stored.user) (some .denied) "User role is denied"
                  else
                    ({ shim with authSuccess := shim.authSuccess + 1 },
                      { authenticated := true
                        user := some stored.user
                        role := some stored.role
                        reason := none })

def revokeToken (shim : AuthShim) (tokenId : String) : AuthShim × Bool :=
  ({ shim with tokens := Function.update shim.tokens tokenId none }, (shim.tokens tokenId).isSome)

end AuthShim

end Evergreen.Auth
