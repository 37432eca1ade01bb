import Evergreen.Encryption.Shim

namespace Evergreen.Encryption

/-! # Decrypting what was encrypted

`encrypt` stores the associated data it used, key id included, and `decrypt`
appends the key id to what is stored.  The two agree when nothing is stored, or
when the key id is empty.
-/

namespace EncryptionShim

variable {ciphers : EncryptionMethod → Aead} {shim after : EncryptionShim}
variable {plaintext nonce : List UInt8} {payload : EncryptedPayload}

def sealedAad (shim : EncryptionShim) (keyId : String) : List UInt8 :=
  shim.aadPrefix.getD [] ++ utf8 keyId

structure Sealed (ciphers : EncryptionMethod → Aead) (shim : EncryptionShim)
    (plaintext nonce : List UInt8) (payload : EncryptedPayload) (keyId : String)
    (key bytes : List UInt8) : Prop where
  active : shim.activeKeyId = some keyId
  keyed : ∃ entry, shim.keys keyId = some entry ∧ entry.material = key ∧ key.length = keySize
  length : nonce.length = nonceSize
  encrypted : (ciphers shim.method).encrypt key nonce (shim.sealedAad keyId) plaintext = .ok bytes
  whole : payload.ciphertext ++ payload.tag = bytes
  id : payload.keyId = keyId
  nonce : payload.nonce = nonce
  method : payload.method = shim.method.display
  aad : payload.aad = if shim.aadPrefix.isSome then some (shim.sealedAad keyId) else none

theorem material_eq_ok {keyId missing : String} {key : List UInt8}
    (found : shim.material keyId missing = .ok key) :
    ∃ entry, shim.keys keyId = some entry ∧ entry.material = key ∧ key.length = keySize := by
  unfold material at found
  split at found
  · cases found
  · rename_i entry stored
    dsimp only at found
    split at found
    · rename_i length
      cases found
      exact ⟨entry, stored, rfl, length⟩
    · cases found

theorem material_of_stored {keyId : String} (missing : String) {entry : EncryptionKey}
    (stored : shim.keys keyId = some entry) (length : entry.material.length = keySize) :
    shim.material keyId missing = .ok entry.material := by
  simp only [material, stored, length, if_true]

theorem sealBytes_eq_ok {cipher : Aead} {method : EncryptionMethod} {key aad ciphertext tag : List UInt8}
    (done : sealBytes cipher method key nonce aad plaintext = .ok (ciphertext, tag)) :
    nonce.length = nonceSize ∧ cipher.encrypt key nonce aad plaintext = .ok (ciphertext ++ tag) := by
  unfold sealBytes checkNonce at done
  by_cases length : nonce.length = nonceSize
  · rw [if_pos length] at done
    dsimp only at done
    cases encrypted : cipher.encrypt key nonce aad plaintext with
    | error error =>
        rw [encrypted] at done
        cases done
    | ok bytes =>
        rw [encrypted] at done
        dsimp only [splitTag] at done
        split at done
        · cases done
          exact ⟨length, by rw [List.take_append_drop]⟩
        · cases done
  · rw [if_neg length] at done
    cases done

theorem sealPayload_sealed (done : shim.sealPayload ciphers plaintext nonce = .ok payload) :
    ∃ keyId key bytes, Sealed ciphers shim plaintext nonce payload keyId key bytes := by
  unfold sealPayload at done
  cases active : shim.activeKeyId with
  | none =>
      rw [active] at done
      cases done
  | some keyId =>
      rw [active] at done
      dsimp only at done
      cases found : shim.material keyId s!"Key {keyId} not found" with
      | error fault =>
          rw [found] at done
          cases done
      | ok key =>
          rw [found] at done
          dsimp only at done
          cases result : sealBytes (ciphers shim.method) shim.method key nonce
              (shim.aadPrefix.getD [] ++ utf8 keyId) plaintext with
          | error fault =>
              rw [result] at done
              cases done
          | ok parts =>
              obtain ⟨ciphertext, tag⟩ := parts
              rw [result] at done
              cases done
              obtain ⟨length, encrypted⟩ := sealBytes_eq_ok result
              exact ⟨keyId, key, ciphertext ++ tag, active, material_eq_ok found, length,
                encrypted, rfl, rfl, rfl, rfl, rfl⟩

theorem Sealed.openedAad {keyId : String} {key bytes : List UInt8}
    (sealed : Sealed ciphers shim plaintext nonce payload keyId key bytes) :
    payload.aad.getD [] ++ utf8 payload.keyId = shim.sealedAad keyId ↔
      shim.aadPrefix = none ∨ keyId = "" := by
  rw [sealed.aad, sealed.id]
  cases aad : shim.aadPrefix with
  | none => simp [sealedAad, aad]
  | some stored => simp [sealedAad, aad, utf8_eq_nil]

theorem Sealed.openPayload {keyId : String} {key bytes : List UInt8}
    (sealed : Sealed ciphers shim plaintext nonce payload keyId key bytes) :
    shim.openPayload ciphers payload =
      openBytes (ciphers shim.method) shim.method key nonce
        (payload.aad.getD [] ++ utf8 payload.keyId) bytes := by
  obtain ⟨entry, stored, material, length⟩ := sealed.keyed
  subst material
  rw [EncryptionShim.openPayload]
  simp only [sealed.id, material_of_stored _ stored length, sealed.method,
    EncryptionMethod.parse_display, sealed.nonce, sealed.whole]

/-- A payload opens again if and only if `decrypt` arrives at the associated data
that `encrypt` used. -/
theorem Sealed.openPayload_iff {keyId : String} {key bytes : List UInt8}
    (correct : (ciphers shim.method).Correct)
    (sealed : Sealed ciphers shim plaintext nonce payload keyId key bytes) :
    shim.openPayload ciphers payload = .ok plaintext ↔ shim.aadPrefix = none ∨ keyId = "" := by
  rw [← sealed.openedAad, sealed.openPayload, openBytes, checkNonce, if_pos sealed.length]
  dsimp only
  constructor
  · intro opened
    by_contra different
    obtain ⟨error, rejected⟩ := correct.rejects key nonce _ plaintext bytes _ sealed.encrypted different
    rw [rejected] at opened
    cases opened
  · intro same
    rw [same, correct.opens key nonce _ plaintext bytes sealed.encrypted]

theorem encrypt_eq_ok {given : Option (List UInt8)} {random : List UInt8}
    (encrypted : shim.encrypt ciphers plaintext given random = (after, .ok payload)) :
    shim.sealPayload ciphers plaintext (given.getD random) = .ok payload ∧
      after = { shim with encryptionsTotal := shim.encryptionsTotal + 1 } := by
  unfold encrypt at encrypted
  split at encrypted <;> cases encrypted
  exact ⟨‹_›, rfl⟩

theorem decrypt_snd : (shim.decrypt ciphers payload).2 = shim.openPayload ciphers payload := by
  unfold decrypt
  split <;> simp [*]

/-! ## The prefix never changes -/

theorem aadPrefix_tryNew {settings : Settings} (created : tryNew settings = .ok shim) :
    shim.aadPrefix = settings.aad.map utf8 := by
  unfold tryNew at created
  dsimp only at created
  split at created <;> cases created
  rfl

theorem aadPrefix_perform (call : Call) : (shim.perform ciphers call).aadPrefix = shim.aadPrefix := by
  cases call with
  | encrypt plaintext nonce random =>
      simp only [perform, encrypt]
      split <;> rfl
  | decrypt payload =>
      simp only [perform, decrypt]
      split <;> rfl
  | rotateKey newId newMaterial now =>
      simp only [perform, rotateKey]
      split
      · simp only [insertKey, activate, deactivate]
        split <;> rfl
      · rfl

theorem aadPrefix_run {calls : List Call} (ran : (machine ciphers).run shim calls = some after) :
    after.aadPrefix = shim.aadPrefix := by
  have kept : (machine ciphers).Always (fun state => state.aadPrefix = shim.aadPrefix) shim calls := by
    refine Machine.always_ofFunction _ (fun state call holds => ?_) rfl
    exact (aadPrefix_perform call).trans holds
  exact kept.last ran

end EncryptionShim

open EncryptionShim

/-- In every reachable state, what `encrypt` returns decrypts to the plaintext if
and only if `ENCRYPTION_AAD` is unset or the active key's id is empty. -/
theorem decrypt_encrypt_iff (ciphers : EncryptionMethod → Aead)
    (correct : ∀ method, (ciphers method).Correct) (settings : Settings)
    (created shim after : EncryptionShim) (calls : List Call) (plaintext random : List UInt8)
    (nonce : Option (List UInt8)) (payload : EncryptedPayload)
    (new : tryNew settings = .ok created) (reached : (machine ciphers).run created calls = some shim)
    (encrypted : shim.encrypt ciphers plaintext nonce random = (after, .ok payload)) :
    (after.decrypt ciphers payload).2 = .ok plaintext ↔
      settings.aad = none ∨ shim.activeKeyId = some "" := by
  obtain ⟨done, rfl⟩ := encrypt_eq_ok encrypted
  obtain ⟨keyId, key, bytes, sealed⟩ := sealPayload_sealed done
  have unset : shim.aadPrefix = none ↔ settings.aad = none := by
    rw [aadPrefix_run reached, aadPrefix_tryNew new, Option.map_eq_none_iff]
  have opens : shim.openPayload ciphers payload = .ok plaintext ↔ shim.aadPrefix = none ∨ keyId = "" :=
    sealed.openPayload_iff (correct shim.method)
  rw [decrypt_snd, ← unset, sealed.active, Option.some.injEq]
  exact opens

/-- A cipher that seals under one associated data, which can be evaluated. -/
def onlyUnder (aad : List UInt8) : Aead where
  encrypt _ _ given message :=
    if given = aad then .ok (message ++ List.replicate tagSize 0) else .error "Error"
  decrypt _ _ given bytes :=
    if given = aad then .ok (bytes.take (bytes.length - tagSize)) else .error "Error"

theorem onlyUnder_correct (aad : List UInt8) : (onlyUnder aad).Correct where
  opens key nonce given message bytes encrypted := by
    simp only [onlyUnder] at encrypted ⊢
    split at encrypted <;> cases encrypted
    simp [*]
  rejects key nonce given message bytes other encrypted different := by
    simp only [onlyUnder] at encrypted ⊢
    split at encrypted <;> cases encrypted
    rename_i same
    subst same
    exact ⟨"Error", if_neg different⟩

def keyedSettings (aad : Option String) : Settings where
  method := none
  keyId := none
  keyPath := none
  key := some (.ok (List.replicate keySize 1))
  random := []
  prevKeys := none
  aad := aad
  now := 0

def keyedShim (aad : Option String) : EncryptionShim :=
  { (((blank .aesGcm).activate "default").insertKey ⟨"default", List.replicate keySize 1, 0, true⟩) with
    aadPrefix := aad.map utf8 }

theorem tryNew_keyedSettings (aad : Option String) :
    tryNew (keyedSettings aad) = .ok (keyedShim aad) := by
  have method : EncryptionMethod.parse "aes-gcm" = .ok .aesGcm := EncryptionMethod.parse_display .aesGcm
  simp [tryNew, keyedSettings, method, loadPrimaryKey, primaryMaterial, loadPreviousKeys, keyedShim]

theorem decrypt_encrypt_unset :
    ∃ after payload,
      (keyedShim none).encrypt (fun _ => onlyUnder (utf8 "default")) [7] none
        (List.replicate nonceSize 0) = (after, .ok payload) ∧
      (after.decrypt (fun _ => onlyUnder (utf8 "default")) payload).2 = .ok [7] :=
  ⟨_, _, rfl, (decrypt_encrypt_iff _ (fun _ => onlyUnder_correct _) _ _ _ _ [] [7]
    (List.replicate nonceSize 0) none _ (tryNew_keyedSettings none) rfl rfl).mpr (.inl rfl)⟩

/-- With the prefix `app` it does not: the cipher is asked for `appdefaultdefault`. -/
theorem decrypt_encrypt_app :
    (onlyUnder (utf8 "appdefault")).Correct ∧
      tryNew (keyedSettings (some "app")) = .ok (keyedShim (some "app")) ∧
      ∃ after payload,
        (keyedShim (some "app")).encrypt (fun _ => onlyUnder (utf8 "appdefault")) [7] none
          (List.replicate nonceSize 0) = (after, .ok payload) ∧
        (after.decrypt (fun _ => onlyUnder (utf8 "appdefault")) payload).2 ≠ .ok [7] := by
  refine ⟨onlyUnder_correct _, tryNew_keyedSettings _, _, _, rfl, ?_⟩
  exact nofun

end Evergreen.Encryption
