import Evergreen.Machine.Run
import Mathlib.Algebra.Order.Ring.Int
import Mathlib.Logic.Function.Basic

namespace Evergreen.Tls

/-! # The certificates of the TLS shim

`start` and the loop it spawns, with what they share: a certificate is described
once, when it is read from disk or issued, and its days are counted then.
Instants are nanoseconds, and the clock is read wherever the source reads it.
-/

structure CertInfo where
  domain : String
  issuer : String
  notBefore : String
  notAfter : String
  serial : String
  fingerprint : String
  daysUntilExpiry : Int
  certPem : Option String
  keyPem : Option String
deriving DecidableEq, Repr

structure TlsState where
  certsRenewed : Nat := 0
  certsFailed : Nat := 0
  lastRenewal : Option Int := none
  managedCerts : String → Option CertInfo := fun _ => none

structure TlsShim where
  provider : String := "letsencrypt"
  domain : String
  renewBeforeSecs : Nat := 259200
  vaultRole : String := "pki"
deriving DecidableEq, Repr

/-- `to_rfc3339`, and the digests `compute_fingerprint` and `extract_serial`. -/
structure Crates where
  toRfc3339 : Int → String
  computeFingerprint : String → String
  extractSerial : String → String

/-- The readings of the clock while a certificate is described, and the one of
`last_renewal` after that. -/
structure Readings where
  notAfter : Int
  days : Int
  notBefore : Int
  last : Int
deriving DecidableEq, Repr

def Readings.Ordered (readings : Readings) : Prop :=
  readings.notAfter ≤ readings.days ∧ readings.days ≤ readings.notBefore ∧
    readings.notBefore ≤ readings.last

instance (readings : Readings) : Decidable readings.Ordered :=
  inferInstanceAs (Decidable (_ ∧ _ ∧ _))

/-- The certificate file and its key, as far as they can be read. -/
structure Disk where
  certExists : Bool
  certPem : Option String
  keyPem : Option String
deriving DecidableEq, Repr

def secNanos : Int := 10 ^ 9

def dayNanos : Int := 86400 * secNanos

/-- `renew_before_secs as i64 / 86400`. -/
def renewBeforeDays (secs : Nat) : Int :=
  (if secs < 2 ^ 63 then (secs : Int) else secs - 2 ^ 64).tdiv 86400

/-- `not_after_from_cert` does not look at the certificate. -/
def notAfterFromCert (_certPem : String) (now : Int) : Int := now + 365 * dayNanos

def daysUntilExpiry (certPem : String) (readings : Readings) : Int :=
  (notAfterFromCert certPem readings.notAfter - readings.days).tdiv dayNanos

namespace TlsShim

/-- The description that `load_cert_from_disk` and `renew_certificate_async` make. -/
def describe (crates : Crates) (shim : TlsShim) (issuer certPem keyPem : String)
    (readings : Readings) : CertInfo where
  domain := shim.domain
  issuer := issuer
  notBefore := crates.toRfc3339
    (readings.notBefore - (365 - daysUntilExpiry certPem readings) * dayNanos)
  notAfter := crates.toRfc3339 (notAfterFromCert certPem readings.notAfter)
  serial := crates.extractSerial certPem
  fingerprint := crates.computeFingerprint certPem
  daysUntilExpiry := daysUntilExpiry certPem readings
  certPem := some certPem
  keyPem := some keyPem

def loadCertFromDisk (crates : Crates) (shim : TlsShim) (disk : Disk) (readings : Readings) :
    Option CertInfo :=
  if disk.certExists then
    disk.certPem.bind fun certPem => disk.keyPem.map fun keyPem =>
      shim.describe crates "loaded from disk" certPem keyPem readings
  else none

def needsRenewal (shim : TlsShim) (cert : CertInfo) : Bool :=
  decide (cert.daysUntilExpiry < renewBeforeDays shim.renewBeforeSecs)

def registerCert (state : TlsState) (cert : CertInfo) : TlsState :=
  { state with managedCerts := Function.update state.managedCerts cert.domain (some cert) }

def issuer (shim : TlsShim) : String :=
  if shim.provider = "letsencrypt" then "Let's Encrypt"
  else if shim.provider = "internal-ca" then "Internal CA (self-signed)"
  else if shim.provider = "vault-pki" then s!"Vault PKI ({shim.vaultRole})"
  else "Unknown"

/-- `provided` is what the provider answers: the certificate and its key. -/
def provide (shim : TlsShim) (provided : Except String (String × String)) :
    Except String (String × String) :=
  if shim.provider = "internal-ca" ∨ shim.provider = "letsencrypt" ∨ shim.provider = "vault-pki" then
    provided
  else .error s!"Unknown TLS provider: {shim.provider}"

def renewCertificateAsync (crates : Crates) (shim : TlsShim) (state : TlsState)
    (provided : Except String (String × String)) (readings : Readings) :
    TlsState × Except String Unit :=
  match shim.provide provided with
  | .error error => (state, .error error)
  | .ok (certPem, keyPem) =>
      let state := registerCert state (shim.describe crates shim.issuer certPem keyPem readings)
      ({ state with
          certsRenewed := state.certsRenewed + 1
          lastRenewal := some readings.last }, .ok ())

end TlsShim

/-! ## Runs -/

inductive Message where
  | approachingExpiry (domain : String)
  | fine (domain : String)
deriving DecidableEq, Repr

/-- A point of the run at which the certificate is looked at: the clock, the
certificate in use, and whether a renewal was attempted then. -/
structure Point where
  now : Int
  certificate : Option String
  attempted : Bool
deriving DecidableEq, Repr

inductive Phase where
  | created
  | looping
  | stopped
deriving DecidableEq, Repr

/-- The shim's state, with what an observer counts and writes down. -/
structure Session where
  state : TlsState := {}
  phase : Phase := .created
  clock : Int
  messages : List Message := []
  renewals : Nat := 0
  points : List Point := []

inductive Label where
  | start (disk : Disk) (load : Readings) (provided : Except String (String × String))
      (renew : Readings)
  | tick (now : Int)
  | shutdown

namespace Session

def new (now : Int) : Session where
  clock := now

/-- A call of `renew_certificate_async` from `start`. -/
def renew (crates : Crates) (shim : TlsShim) (session : Session)
    (provided : Except String (String × String)) (readings : Readings) : Session :=
  let renewed := shim.renewCertificateAsync crates session.state provided readings
  { session with
    state :=
      match renewed.2 with
      | .ok () => renewed.1
      | .error _ => { renewed.1 with certsFailed := renewed.1.certsFailed + 1 }
    renewals := session.renewals + 1
    clock := readings.last }

def prepare (crates : Crates) (shim : TlsShim) (session : Session) (disk : Disk) (load : Readings)
    (provided : Except String (String × String)) (renew : Readings) : Session :=
  if shim.domain.isEmpty then session
  else
    match shim.loadCertFromDisk crates disk load with
    | some existing =>
        let session := { session with
          state := TlsShim.registerCert session.state existing
          clock := load.last }
        if shim.needsRenewal existing then session.renew crates shim provided renew else session
    | none => session.renew crates shim provided renew

/-- The certificate that `start` goes by, if there is one. -/
def found (shim : TlsShim) (disk : Disk) : Option String :=
  if shim.domain.isEmpty ∨ disk.certExists = false ∨ disk.keyPem = none then none else disk.certPem

def inUse (shim : TlsShim) (session : Session) : Option String :=
  (session.state.managedCerts shim.domain).bind (·.certPem)

def check (shim : TlsShim) (session : Session) (now : Int) : Session :=
  let shouldRenew := ((session.state.managedCerts shim.domain).map shim.needsRenewal).getD false
  { session with
    clock := now
    messages := session.messages ++
      [if shouldRenew then .approachingExpiry shim.domain else .fine shim.domain] }

/-- What is written down of a stretch of the run. -/
def witness (before after : Session) (now : Int) (certificate : Option String) : Session :=
  { after with
    points := before.points ++ [⟨now, certificate, decide (before.renewals < after.renewals)⟩] }

end Session

def machine (crates : Crates) (shim : TlsShim) : Machine Session Label where
  step session
    | .start disk load provided renew =>
        if session.phase = .created ∧ session.clock ≤ load.notAfter ∧ load.Ordered ∧
            load.last ≤ renew.notAfter ∧ renew.Ordered then
          some (session.witness
            { session.prepare crates shim disk load provided renew with phase := .looping }
            load.days (Session.found shim disk))
        else none
    | .tick now =>
        if session.phase = .looping ∧ session.clock ≤ now then
          some (session.witness (session.check shim now) now (session.inUse shim))
        else none
    | .shutdown =>
        if session.phase = .looping then some { session with phase := .stopped } else none

end Evergreen.Tls
