import Evergreen.Text.Find
import Evergreen.Tls.Base64
import Evergreen.Tls.Shim
import Evergreen.Word.Usize
import Mathlib.Tactic.IntervalCases

namespace Evergreen.Tls

open Evergreen.Text (find OccursAt)
open Evergreen.Usize (Panic)

/-! # PEM

The decoder looks for both markers from the beginning of the text and cuts out
what is between them.  Places are counted in characters: markers begin and end
between characters, so the source's places in bytes are ordered as these are.
-/

def opening : List Char := "-----BEGIN ".toList

def closing : List Char := "-----END ".toList

def dashes : List Char := "-----".toList

def beginMarker (label : String) : List Char := opening ++ (label.toList ++ dashes)

def endMarker (label : String) : List Char := closing ++ (label.toList ++ dashes)

def pemLines (der : List UInt8) : List Char :=
  (Text.chunks 64 (base64Encode der).toList).flatMap fun chunk => chunk ++ ['\n']

/-- What `pem_encode` writes after the label in the first line. -/
def pemTail (der : List UInt8) (label : String) : List Char :=
  dashes ++ '\n' :: (pemLines der ++ (endMarker label ++ ['\n']))

def pemEncode (der : List UInt8) (label : String) : String :=
  String.ofList (opening ++ (label.toList ++ pemTail der label))

def dropNewlines (text : String) : String :=
  String.ofList (text.toList.filter fun char => char ≠ '\n' ∧ char ≠ '\r')

def pemDecode (pem expectedLabel : String) : Except Panic (Option (List UInt8)) :=
  match find (beginMarker expectedLabel) pem.toList with
  | none => .ok none
  | some first =>
      match find (endMarker expectedLabel) pem.toList with
      | none => .ok none
      | some stop =>
          (Usize.slice pem.toList (first + (beginMarker expectedLabel).length) stop).map fun inner =>
            base64Decode (dropNewlines (Text.trim (String.ofList inner)))

/-! ## Certificates -/

/-- `{:02X}`. -/
def upperByte (byte : UInt8) : String :=
  String.ofList [(Text.hexDigit (byte.toNat / 16)).toUpper, (Text.hexDigit (byte.toNat % 16)).toUpper]

/-- `sha256` is the digest of a message, from another crate. -/
def computeFingerprint (sha256 : List UInt8 → List UInt8) (certPem : String) :
    Except Panic String :=
  (pemDecode certPem "CERTIFICATE").map fun derBytes =>
    ":".intercalate ((sha256 (derBytes.getD [])).map upperByte)

def extractSerial (sha256 : List UInt8 → List UInt8) (certPem : String) : Except Panic String :=
  (pemDecode certPem "CERTIFICATE").map fun derBytes =>
    "".intercalate (((sha256 (derBytes.getD [])).take 16).map upperByte)

structure CertValidation where
  valid : Bool
  errors : List String
  warnings : List String
deriving DecidableEq, Repr

def noteIf (condition : Bool) (message : String) : List String := if condition then [message] else []

def validateCert (cert : CertInfo) : Except Panic CertValidation :=
  let errors := noteIf cert.domain.isEmpty "Domain is empty" ++
    noteIf cert.issuer.isEmpty "Issuer is empty" ++
    noteIf cert.notAfter.isEmpty "Not-after date is empty" ++
    noteIf cert.fingerprint.isEmpty "Fingerprint is empty" ++
    noteIf (cert.daysUntilExpiry < 0) "Certificate has expired"
  let warnings := noteIf (cert.daysUntilExpiry < 7) "Certificate expires in less than 7 days" ++
    noteIf (cert.daysUntilExpiry < 30) "Certificate expires in less than 30 days"
  let checked : Except Panic (List String) :=
    match cert.certPem with
    | none => .ok errors
    | some pem => (pemDecode pem "CERTIFICATE").map fun der =>
        errors ++ noteIf der.isNone "Invalid certificate PEM"
  checked.map fun errors => { valid := errors.isEmpty, errors, warnings }

/-! ## Where decoding returns -/

/-- With both markers there, the first end marker is not before the end of the
first begin marker. -/
def MarkersInOrder (pem label : String) : Prop :=
  ∀ first stop, find (beginMarker label) pem.toList = some first →
    find (endMarker label) pem.toList = some stop → first + (beginMarker label).length ≤ stop

variable {pem label : String} {der : List UInt8}

theorem isOk_map {Value Result : Type} (outcome : Except Panic Value) (next : Value → Result) :
    (outcome.map next).isOk = outcome.isOk := by
  cases outcome with
  | error panic => rfl
  | ok value => rfl

theorem isOk_pemDecode : (pemDecode pem label).isOk = true ↔ MarkersInOrder pem label := by
  rw [pemDecode, MarkersInOrder]
  cases begins : find (beginMarker label) pem.toList with
  | none =>
      refine iff_of_true rfl fun _ _ found => ?_
      cases found
  | some first =>
      cases ends : find (endMarker label) pem.toList with
      | none =>
          refine iff_of_true rfl fun _ _ _ found => ?_
          cases found
      | some stop =>
          have inside := (Text.find_eq_some_iff.mp ends).1.1
          have order : (∀ other last, some first = some other → some stop = some last →
              other + (beginMarker label).length ≤ last) ↔
                first + (beginMarker label).length ≤ stop := by
            refine ⟨fun all => all first stop rfl rfl, ?_⟩
            rintro le _ _ ⟨⟩ ⟨⟩
            exact le
          dsimp only
          rw [order, isOk_map, Usize.slice]
          split_ifs with crossed beyond
          · exact iff_of_false Bool.false_ne_true (Nat.not_le.mpr crossed)
          · omega
          · exact iff_of_true rfl (Nat.le_of_not_lt crossed)

theorem isOk_validateCert (cert : CertInfo) : (validateCert cert).isOk = true ↔
    ∀ pem, cert.certPem = some pem → MarkersInOrder pem "CERTIFICATE" := by
  simp only [validateCert, isOk_map]
  cases cert.certPem with
  | none => exact iff_of_true rfl nofun
  | some pem =>
      rw [isOk_map, isOk_pemDecode]
      refine ⟨?_, fun all => all pem rfl⟩
      rintro order _ ⟨⟩
      exact order

/-- Parsing returns exactly on texts whose markers are in order, and accepts as
base64 what it should unless padding is followed by something else. -/
theorem pemParsing_iff (sha256 : List UInt8 → List UInt8) :
    (∀ pem label, (pemDecode pem label).isOk = true ↔ MarkersInOrder pem label) ∧
    (∀ certPem, (computeFingerprint sha256 certPem).isOk = true ↔
      MarkersInOrder certPem "CERTIFICATE") ∧
    (∀ certPem, (extractSerial sha256 certPem).isOk = true ↔
      MarkersInOrder certPem "CERTIFICATE") ∧
    (∀ cert, (validateCert cert).isOk = true ↔
      ∀ pem, cert.certPem = some pem → MarkersInOrder pem "CERTIFICATE") ∧
    ∀ text, ((base64Decode text).isSome = true ↔ WellPadded (strip text)) ↔
      (LooseGroups (strip text) → PadsLast (strip text)) := by
  refine ⟨fun _ _ => isOk_pemDecode, fun certPem => ?_, fun certPem => ?_, isOk_validateCert,
    base64Decode_exact_iff⟩
  · rw [computeFingerprint, isOk_map, isOk_pemDecode]
  · rw [extractSerial, isOk_map, isOk_pemDecode]

/-- The markers the wrong way round, and padding within a group. -/
theorem not_pemParsing :
    pemDecode "-----END A----------BEGIN A-----" "A" = .error .sliceOrder ∧
      (base64Decode "AA=A").isSome = true ∧ ¬ WellPadded (strip "AA=A") := by
  refine ⟨by decide +kernel, by decide +kernel, fun padded => ?_⟩
  have last := padded.padsLast ['A', 'A'] 'A' [] (by decide +kernel)
  cases last

end Evergreen.Tls
