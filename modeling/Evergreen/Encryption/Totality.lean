import Evergreen.Encryption.Rotation

namespace Evergreen.Encryption

/-! # Payloads and nonces of any length

Everything in a payload comes from outside.  The key is measured before it is
used, and the tag is where the cipher puts it; the nonce goes to a conversion
that panics at a wrong length.
-/

/-- What `encrypt` takes for granted: the sealed bytes end in a tag. -/
def Aead.Tagged (cipher : Aead) : Prop :=
  ∀ key nonce aad message bytes, cipher.encrypt key nonce aad message = .ok bytes →
    tagSize ≤ bytes.length

/-- The call returns. -/
def Returns {Value : Type} (result : Except Fault Value) : Prop :=
  ∀ message, result ≠ .error (.panic message)

namespace EncryptionShim

variable (ciphers : EncryptionMethod → Aead) (shim : EncryptionShim)

/-- Decryption returns, and if with an error, it counts nothing. -/
def DecryptsTotally (payload : EncryptedPayload) : Prop :=
  Returns (shim.decrypt ciphers payload).2 ∧
    ∀ message, (shim.decrypt ciphers payload).2 = .error (.error message) →
      (shim.decrypt ciphers payload).1.decryptionsTotal = shim.decryptionsTotal ∧
        (shim.decrypt ciphers payload).1.decryptionKeyRotationHits =
          shim.decryptionKeyRotationHits

def EncryptsTotally (plaintext : List UInt8) (nonce : Option (List UInt8)) (random : List UInt8) :
    Prop :=
  Returns (shim.encrypt ciphers plaintext nonce random).2 ∧
    ∀ message, (shim.encrypt ciphers plaintext nonce random).2 = .error (.error message) →
      (shim.encrypt ciphers plaintext nonce random).1.encryptionsTotal = shim.encryptionsTotal

/-- The payload does not get as far as its nonce, or the nonce is right. -/
def Reads (payload : EncryptedPayload) : Prop :=
  payload.nonce.length = nonceSize ∨ shim.keys payload.keyId = none ∨
    ∀ method, EncryptionMethod.parse payload.method ≠ .ok method

variable {ciphers shim} {payload : EncryptedPayload} {cipher : Aead} {method : EncryptionMethod}
variable {key nonce aad plaintext : List UInt8}

/-! ## The two arms -/

theorem returns_ok {Value : Type} (value : Value) : Returns (.ok value : Except Fault Value) := nofun

theorem returns_error {Value : Type} (message : String) :
    Returns (.error (.error message) : Except Fault Value) := nofun

theorem returns_openBytes_iff : Returns (openBytes cipher method key nonce aad plaintext) ↔
    nonce.length = nonceSize := by
  rw [openBytes, checkNonce]
  by_cases length : nonce.length = nonceSize
  · rw [if_pos length]
    refine iff_of_true ?_ length
    dsimp only
    cases cipher.decrypt key nonce aad plaintext with
    | error error => exact returns_error _
    | ok message => exact returns_ok message
  · rw [if_neg length]
    exact iff_of_false (fun returns => returns _ rfl) length

theorem returns_sealBytes_iff (tagged : cipher.Tagged) :
    Returns (sealBytes cipher method key nonce aad plaintext) ↔ nonce.length = nonceSize := by
  rw [sealBytes, checkNonce]
  by_cases length : nonce.length = nonceSize
  · rw [if_pos length]
    refine iff_of_true ?_ length
    dsimp only
    cases encrypted : cipher.encrypt key nonce aad plaintext with
    | error error => exact returns_error _
    | ok bytes =>
        dsimp only [splitTag]
        rw [if_pos (tagged key nonce aad plaintext bytes encrypted)]
        exact returns_ok _
  · rw [if_neg length]
    exact iff_of_false (fun returns => returns _ rfl) length

theorem parse_cases (text : String) : (∃ method, EncryptionMethod.parse text = .ok method) ∨
    ∃ message, EncryptionMethod.parse text = .error (.error message) := by
  rw [EncryptionMethod.parse]
  split <;> first | exact .inl ⟨_, rfl⟩ | exact .inr ⟨_, rfl⟩

theorem returns_openPayload_iff (sized : shim.Sized) :
    Returns (shim.openPayload ciphers payload) ↔ shim.Reads payload := by
  rw [Reads, openPayload]
  cases held : shim.keys payload.keyId with
  | none =>
      refine iff_of_true ?_ (.inr (.inl rfl))
      simp only [material, held]
      exact returns_error _
  | some entry =>
      have length : entry.material.length = keySize :=
        sized payload.keyId _ (by rw [materials, held, Option.map_some])
      simp only [material_of_stored _ held length, reduceCtorEq, false_or]
      rcases parse_cases payload.method with ⟨method, parsed⟩ | ⟨message, parsed⟩
      · rw [parsed]
        dsimp only
        rw [returns_openBytes_iff, iff_self_or]
        exact fun unknown => absurd rfl (unknown method)
      · rw [parsed]
        refine iff_of_true (returns_error _) (.inr fun method same => ?_)
        cases same

theorem decryptsTotally_iff (sized : shim.Sized) :
    shim.DecryptsTotally ciphers payload ↔ shim.Reads payload := by
  have kept : ∀ message, (shim.decrypt ciphers payload).2 = .error (.error message) →
      (shim.decrypt ciphers payload).1 = shim := by
    intro message failed
    rw [decrypt] at failed ⊢
    split
    · rfl
    · next opened =>
      rw [opened] at failed
      cases failed
  rw [← @returns_openPayload_iff ciphers shim payload sized, ← @decrypt_snd ciphers shim payload]
  refine ⟨And.left, fun returns => ⟨returns, fun message failed => ?_⟩⟩
  rw [kept message failed]
  exact ⟨rfl, rfl⟩

/-- The active key is in the table. -/
def Keyed (shim : EncryptionShim) : Prop := shim.activeMaterial.isSome = true

theorem Keyed.perform (keyed : shim.Keyed) (call : Call) : (shim.perform ciphers call).Keyed := by
  rw [Keyed, activeMaterial_perform]
  cases Call.sets call with
  | none => exact keyed
  | some set => rfl

theorem keyed_of_tryNew {settings : Settings} (created : tryNew settings = .ok shim) :
    shim.Keyed := by
  obtain ⟨primary, -, -, active, table⟩ := tryNew_keys created
  rw [Keyed, activeMaterial, active, Option.bind_some, materials, table, if_pos rfl]
  cases ((loadedKeys settings).filter fun key => key.id = settings.keyId.getD "default").getLast? with
  | none => rfl
  | some last => rfl

theorem returns_sealPayload_iff (tagged : (ciphers shim.method).Tagged) (sized : shim.Sized)
    (keyed : shim.Keyed) :
    Returns (shim.sealPayload ciphers plaintext nonce) ↔ nonce.length = nonceSize := by
  obtain ⟨key, found⟩ := Option.isSome_iff_exists.mp keyed
  obtain ⟨keyId, active, held⟩ := Option.bind_eq_some_iff.mp found
  obtain ⟨entry, stored, rfl⟩ := Option.map_eq_some_iff.mp held
  have length : entry.material.length = keySize := sized keyId _ held
  simp only [sealPayload, active, material_of_stored _ stored length]
  rw [← @returns_sealBytes_iff _ shim.method entry.material nonce
    (shim.aadPrefix.getD [] ++ utf8 keyId) plaintext tagged]
  cases sealBytes (ciphers shim.method) shim.method entry.material nonce
      (shim.aadPrefix.getD [] ++ utf8 keyId) plaintext with
  | error fault => simp [Returns]
  | ok parts => simp [Returns]

theorem encryptsTotally_iff {given : Option (List UInt8)} {random : List UInt8}
    (tagged : (ciphers shim.method).Tagged) (sized : shim.Sized) (keyed : shim.Keyed)
    (drawn : random.length = nonceSize) :
    shim.EncryptsTotally ciphers plaintext given random ↔
      ∀ nonce, given = some nonce → nonce.length = nonceSize := by
  have result : (shim.encrypt ciphers plaintext given random).2 =
      shim.sealPayload ciphers plaintext (given.getD random) := by
    rw [encrypt]
    split <;> simp [*]
  have kept : ∀ message, (shim.encrypt ciphers plaintext given random).2 = .error (.error message) →
      (shim.encrypt ciphers plaintext given random).1 = shim := by
    intro message failed
    rw [encrypt] at failed ⊢
    split
    · rfl
    · next done =>
      rw [done] at failed
      cases failed
  have returns : Returns (shim.encrypt ciphers plaintext given random).2 ↔
      (given.getD random).length = nonceSize := by
    rw [result, returns_sealPayload_iff tagged sized keyed]
  have whole : shim.EncryptsTotally ciphers plaintext given random ↔
      Returns (shim.encrypt ciphers plaintext given random).2 := by
    refine ⟨And.left, fun returns => ⟨returns, fun message failed => ?_⟩⟩
    rw [kept message failed]
  rw [whole, returns]
  cases given with
  | none => simp [drawn]
  | some nonce => simp

theorem sized_and_keyed_of_run {settings : Settings} {created : EncryptionShim} {calls : List Call}
    (new : tryNew settings = .ok created) (ran : (machine ciphers).run created calls = some shim) :
    shim.Sized ∧ shim.Keyed := by
  have always : (machine ciphers).Always (fun state => state.Sized ∧ state.Keyed) created calls :=
    Machine.always_ofFunction _ (fun _ call holds => ⟨holds.1.perform call, holds.2.perform call⟩)
      ⟨sized_of_tryNew new, keyed_of_tryNew new⟩
  exact always.last ran

end EncryptionShim

open EncryptionShim

/-- In every reachable state decryption is total exactly on payloads with a nonce
of twelve bytes, an unknown key or an unknown method, and encryption exactly on
nonces of twelve bytes and where it draws one itself. -/
theorem totality_iff (ciphers : EncryptionMethod → Aead) (tagged : ∀ method, (ciphers method).Tagged)
    (settings : Settings) (created shim : EncryptionShim) (calls : List Call)
    (new : tryNew settings = .ok created) (ran : (machine ciphers).run created calls = some shim) :
    (∀ payload, shim.DecryptsTotally ciphers payload ↔ shim.Reads payload) ∧
    ∀ plaintext given (random : Fin nonceSize → UInt8),
      shim.EncryptsTotally ciphers plaintext given (List.ofFn random) ↔
        ∀ nonce, given = some nonce → nonce.length = nonceSize := by
  obtain ⟨sized, keyed⟩ := sized_and_keyed_of_run new ran
  refine ⟨fun payload => decryptsTotally_iff sized, fun plaintext given random => ?_⟩
  exact encryptsTotally_iff (tagged shim.method) sized keyed List.length_ofFn

theorem onlyUnder_tagged (aad : List UInt8) : (onlyUnder aad).Tagged := by
  intro key nonce given message bytes encrypted
  simp only [onlyUnder] at encrypted
  split at encrypted
  · cases encrypted
    simp
  · cases encrypted

theorem totality_default :
    (∀ payload, (keyedShim none).DecryptsTotally (fun _ => onlyUnder []) payload ↔
      (keyedShim none).Reads payload) ∧
    ∀ plaintext given (random : Fin nonceSize → UInt8),
      (keyedShim none).EncryptsTotally (fun _ => onlyUnder []) plaintext given (List.ofFn random) ↔
        ∀ nonce, given = some nonce → nonce.length = nonceSize :=
  totality_iff _ (fun _ => onlyUnder_tagged []) _ _ _ [] (tryNew_keyedSettings none) rfl

/-- A payload without a nonce, for the key in use. -/
theorem not_decryptsTotally_empty :
    ¬ (keyedShim none).DecryptsTotally (fun _ => onlyUnder [])
      ⟨"default", [], [], [], "aes-gcm", none⟩ := by
  intro totally
  have method : EncryptionMethod.parse "aes-gcm" = .ok .aesGcm :=
    EncryptionMethod.parse_display .aesGcm
  refine totally.1 "nonce length" ?_
  rw [decrypt_snd]
  simp only [openPayload, method]
  rfl

end Evergreen.Encryption
