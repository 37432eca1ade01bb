import Evergreen.Machine.Run
import Mathlib.Logic.Function.Basic

namespace Evergreen.Encryption

/-! # The encryption shim

Envelope encryption with a table of keys.  The two AEAD ciphers come from
other crates and are parameters; what they do to a message is between a key, a
nonce and the associated data.
-/

def nonceSize : Nat := 12

def keySize : Nat := 32

def tagSize : Nat := 16

/-- A call returns an error, or panics. -/
inductive Fault where
  | error (message : String)
  | panic (message : String)
deriving DecidableEq, Repr

structure EncryptionKey where
  id : String
  material : List UInt8
  createdAt : Int
  active : Bool
deriving DecidableEq, Repr

structure EncryptedPayload where
  keyId : String
  nonce : List UInt8
  ciphertext : List UInt8
  tag : List UInt8
  method : String
  aad : Option (List UInt8)
deriving DecidableEq, Repr

inductive EncryptionMethod where
  | aesGcm
  | chaCha20
deriving DecidableEq, Repr

namespace EncryptionMethod

def display : EncryptionMethod → String
  | aesGcm => "aes-gcm"
  | chaCha20 => "chacha20"

/-- The name in error messages. -/
def label : EncryptionMethod → String
  | aesGcm => "AES-GCM"
  | chaCha20 => "ChaCha20-Poly1305"

/-- `to_lowercase`, exact here: no letter outside ASCII has a lower case that
occurs in these names. -/
def toLowercase (text : String) : String := String.ofList (text.toList.map Char.toLower)

def parse (text : String) : Except Fault EncryptionMethod :=
  match toLowercase text with
  | "aes-gcm" => .ok aesGcm
  | "aes256gcm" => .ok aesGcm
  | "aes" => .ok aesGcm
  | "chacha20" => .ok chaCha20
  | "chacha20poly1305" => .ok chaCha20
  | "chacha" => .ok chaCha20
  | _ => .error (.error s!"Unknown encryption method: {text}")

theorem parse_display (method : EncryptionMethod) : parse method.display = .ok method := by
  cases method with
  | aesGcm =>
      have lower : toLowercase (display aesGcm) = "aes-gcm" := by decide
      simp only [parse, lower]
  | chaCha20 =>
      have lower : toLowercase (display chaCha20) = "chacha20" := by decide
      simp only [parse, lower]

end EncryptionMethod

/-- An AEAD cipher: key, nonce, associated data and message to the sealed bytes,
and back. -/
structure Aead where
  encrypt : List UInt8 → List UInt8 → List UInt8 → List UInt8 → Except String (List UInt8)
  decrypt : List UInt8 → List UInt8 → List UInt8 → List UInt8 → Except String (List UInt8)

/-- What the shim relies on: a message comes back under the same key, nonce and
associated data, and does not under other associated data. -/
structure Aead.Correct (cipher : Aead) : Prop where
  opens : ∀ key nonce aad message bytes, cipher.encrypt key nonce aad message = .ok bytes →
    cipher.decrypt key nonce aad bytes = .ok message
  rejects : ∀ key nonce aad message bytes other, cipher.encrypt key nonce aad message = .ok bytes →
    other ≠ aad → ∃ error, cipher.decrypt key nonce other bytes = .error error

def utf8 (text : String) : List UInt8 := text.toUTF8.data.toList

theorem utf8_eq_nil {text : String} : utf8 text = [] ↔ text = "" := by
  rw [utf8, Array.toList_eq_nil_iff, ← String.toByteArray_inj, String.toByteArray_empty]
  constructor
  · intro empty
    exact ByteArray.ext empty
  · intro empty
    exact congrArg ByteArray.data empty

structure EncryptionShim where
  method : EncryptionMethod
  keys : String → Option EncryptionKey
  activeKeyId : Option String
  aadPrefix : Option (List UInt8)
  encryptionsTotal : Nat
  decryptionsTotal : Nat
  decryptionKeyRotationHits : Nat

/-- The environment of `try_new`: the variables as they are set, the key file as
it reads, the hex key as it decodes, the previous keys as they deserialise. -/
structure Settings where
  method : Option String
  keyId : Option String
  keyPath : Option (String × Except String (List UInt8))
  key : Option (Except String (List UInt8))
  random : List UInt8
  prevKeys : Option (Option (List EncryptionKey))
  aad : Option String
  now : Int

namespace EncryptionShim

def blank (method : EncryptionMethod) : EncryptionShim where
  method := method
  keys := fun _ => none
  activeKeyId := none
  aadPrefix := none
  encryptionsTotal := 0
  decryptionsTotal := 0
  decryptionKeyRotationHits := 0

def insertKey (shim : EncryptionShim) (key : EncryptionKey) : EncryptionShim :=
  { shim with keys := Function.update shim.keys key.id (some key) }

def activate (shim : EncryptionShim) (keyId : String) : EncryptionShim :=
  { shim with activeKeyId := some keyId }

def primaryMaterial (settings : Settings) : Except Fault (List UInt8) :=
  match settings.keyPath, settings.key with
  | some (_, .ok material), _ => .ok material
  | some (path, .error error), _ =>
      .error (.error s!"Cannot read encryption key file {path}: {error}")
  | none, some (.ok material) => .ok material
  | none, some (.error error) => .error (.error s!"Invalid ENCRYPTION_KEY hex: {error}")
  | none, none => .ok settings.random

def loadPrimaryKey (shim : EncryptionShim) (settings : Settings) : Except Fault EncryptionShim :=
  let keyId := settings.keyId.getD "default"
  match primaryMaterial settings with
  | .error fault => .error fault
  | .ok material =>
      let length := material.length
      if length = keySize then
        .ok ((shim.activate keyId).insertKey ⟨keyId, material, settings.now, true⟩)
      else .error (.error s!"ENCRYPTION_KEY must be {keySize} bytes, got {length}")

/-- Keys of a wrong length, and text that is not a list of keys, are ignored. -/
def loadPreviousKeys (shim : EncryptionShim) (settings : Settings) : EncryptionShim :=
  match settings.prevKeys with
  | some (some keys) =>
      (keys.filter fun key => key.material.length = keySize).foldl insertKey shim
  | _ => shim

def tryNew (settings : Settings) : Except Fault EncryptionShim :=
  let method := match EncryptionMethod.parse (settings.method.getD "aes-gcm") with
    | .ok method => method
    | .error _ => .aesGcm
  match (blank method).loadPrimaryKey settings with
  | .error fault => .error fault
  | .ok shim => .ok { shim.loadPreviousKeys settings with aadPrefix := settings.aad.map utf8 }

def material (shim : EncryptionShim) (keyId missing : String) : Except Fault (List UInt8) :=
  match shim.keys keyId with
  | none => .error (.error missing)
  | some key =>
      let length := key.material.length
      if length = keySize then .ok key.material
      else .error (.error s!"Key must be {keySize} bytes, got {length}")

/-- `Nonce::from_slice`, which asserts the length. -/
def checkNonce (nonce : List UInt8) : Except Fault Unit :=
  if nonce.length = nonceSize then .ok () else .error (.panic "nonce length")

/-- The sealed bytes end with the tag; fewer bytes than that would panic. -/
def splitTag (bytes : List UInt8) : Except Fault (List UInt8 × List UInt8) :=
  if tagSize ≤ bytes.length then
    .ok (bytes.take (bytes.length - tagSize), bytes.drop (bytes.length - tagSize))
  else .error (.panic "tag start")

/-- One arm of the `match` in `encrypt`: both methods do the same. -/
def sealBytes (cipher : Aead) (method : EncryptionMethod) (key nonce aad plaintext : List UInt8) :
    Except Fault (List UInt8 × List UInt8) :=
  let label := method.label
  match checkNonce nonce with
  | .error fault => .error fault
  | .ok () =>
      match cipher.encrypt key nonce aad plaintext with
      | .error error => .error (.error s!"{label} encryption failed: {error}")
      | .ok bytes => splitTag bytes

def openBytes (cipher : Aead) (method : EncryptionMethod) (key nonce aad bytes : List UInt8) :
    Except Fault (List UInt8) :=
  let label := method.label
  match checkNonce nonce with
  | .error fault => .error fault
  | .ok () =>
      match cipher.decrypt key nonce aad bytes with
      | .error error => .error (.error s!"{label} decryption failed: {error}")
      | .ok plaintext => .ok plaintext

variable (ciphers : EncryptionMethod → Aead)

def sealPayload (shim : EncryptionShim) (plaintext nonce : List UInt8) :
    Except Fault EncryptedPayload :=
  match shim.activeKeyId with
  | none => .error (.error "No active encryption key")
  | some keyId =>
      match shim.material keyId s!"Key {keyId} not found" with
      | .error fault => .error fault
      | .ok key =>
          let aad := shim.aadPrefix.getD [] ++ utf8 keyId
          match sealBytes (ciphers shim.method) shim.method key nonce aad plaintext with
          | .error fault => .error fault
          | .ok (ciphertext, tag) => .ok {
              keyId := keyId
              nonce := nonce
              ciphertext := ciphertext
              tag := tag
              method := shim.method.display
              aad := if shim.aadPrefix.isSome then some aad else none }

/-- `random` is what the generator yields when no nonce is given. -/
def encrypt (shim : EncryptionShim) (plaintext : List UInt8) (nonce : Option (List UInt8))
    (random : List UInt8) : EncryptionShim × Except Fault EncryptedPayload :=
  match shim.sealPayload ciphers plaintext (nonce.getD random) with
  | .error fault => (shim, .error fault)
  | .ok payload => ({ shim with encryptionsTotal := shim.encryptionsTotal + 1 }, .ok payload)

/-- The key id is appended to the payload's associated data once more. -/
def openPayload (shim : EncryptionShim) (payload : EncryptedPayload) : Except Fault (List UInt8) :=
  let keyId := payload.keyId
  match shim.material keyId s!"Decryption key {keyId} not found" with
  | .error fault => .error fault
  | .ok key =>
      match EncryptionMethod.parse payload.method with
      | .error fault => .error fault
      | .ok method =>
          openBytes (ciphers method) method key payload.nonce
            (payload.aad.getD [] ++ utf8 keyId) (payload.ciphertext ++ payload.tag)

def decrypt (shim : EncryptionShim) (payload : EncryptedPayload) :
    EncryptionShim × Except Fault (List UInt8) :=
  match shim.openPayload ciphers payload with
  | .error fault => (shim, .error fault)
  | .ok plaintext =>
      let hits := if shim.activeKeyId = some payload.keyId then 0 else 1
      ({ shim with
          decryptionKeyRotationHits := shim.decryptionKeyRotationHits + hits
          decryptionsTotal := shim.decryptionsTotal + 1 },
        .ok plaintext)

def deactivate (shim : EncryptionShim) : EncryptionShim :=
  match shim.activeKeyId with
  | none => shim
  | some keyId =>
      let idle := (shim.keys keyId).map fun key => { key with active := false }
      { shim with keys := Function.update shim.keys keyId idle }

def rotateKey (shim : EncryptionShim) (newId : String) (newMaterial : List UInt8) (now : Int) :
    EncryptionShim × Except Fault Unit :=
  if newMaterial.length = keySize then
    ((shim.deactivate.activate newId).insertKey ⟨newId, newMaterial, now, true⟩, .ok ())
  else (shim, .error (.error s!"New key must be {keySize} bytes"))

end EncryptionShim

inductive Call where
  | encrypt (plaintext : List UInt8) (nonce : Option (List UInt8)) (random : List UInt8)
  | decrypt (payload : EncryptedPayload)
  | rotateKey (newId : String) (newMaterial : List UInt8) (now : Int)
deriving DecidableEq, Repr

def EncryptionShim.perform (ciphers : EncryptionMethod → Aead) (shim : EncryptionShim) :
    Call → EncryptionShim
  | .encrypt plaintext nonce random => (shim.encrypt ciphers plaintext nonce random).1
  | .decrypt payload => (shim.decrypt ciphers payload).1
  | .rotateKey newId newMaterial now => (shim.rotateKey newId newMaterial now).1

def machine (ciphers : EncryptionMethod → Aead) : Machine EncryptionShim Call :=
  .ofFunction (EncryptionShim.perform ciphers)

end Evergreen.Encryption
