import Evergreen.Encryption.RoundTrip
import Evergreen.Machine.PartialMap

namespace Evergreen.Encryption

/-! # What key rotation keeps

The table of keys as far as it decides what opens: key ids to key material.
Encrypting and decrypting leave it alone, and a successful rotation sets the
material of one id, whether or not the id had some.
-/

/-- Two keys are told apart by something that opens under the first and not, or
not to the same message, under the second. -/
def Aead.Separates (cipher : Aead) : Prop :=
  ∀ key other aad, key.length = keySize → other.length = keySize → key ≠ other →
    ∃ nonce bytes message, nonce.length = nonceSize ∧
      cipher.decrypt key nonce aad bytes = .ok message ∧
      cipher.decrypt other nonce aad bytes ≠ .ok message

namespace EncryptionShim

variable {ciphers : EncryptionMethod → Aead} {shim after : EncryptionShim}

def materials (shim : EncryptionShim) (id : String) : Option (List UInt8) :=
  (shim.keys id).map EncryptionKey.material

/-- Every key in the table has the length the ciphers take. -/
def Sized (shim : EncryptionShim) : Prop :=
  ∀ id key, shim.materials id = some key → key.length = keySize

def activeMaterial (shim : EncryptionShim) : Option (List UInt8) :=
  shim.activeKeyId.bind shim.materials

/-! ## What one call does to the table -/

theorem materials_insertKey (key : EncryptionKey) :
    (shim.insertKey key).materials =
      Function.update shim.materials key.id (some key.material) := by
  funext id
  by_cases same : id = key.id
  · subst same
    simp [materials, insertKey]
  · simp [materials, insertKey, Function.update_of_ne same]

theorem materials_deactivate : shim.deactivate.materials = shim.materials := by
  funext id
  cases active : shim.activeKeyId with
  | none => simp only [deactivate, active]
  | some keyId =>
      by_cases same : id = keyId
      · subst same
        simp only [deactivate, active, materials, Function.update_self, Option.map_map]
        rfl
      · simp only [deactivate, active, materials, Function.update_of_ne same]

theorem materials_rotateKey (newId : String) (newMaterial : List UInt8) (now : Int) :
    (shim.rotateKey newId newMaterial now).1.materials =
      if newMaterial.length = keySize then
        Function.update shim.materials newId (some newMaterial)
      else shim.materials := by
  rw [rotateKey]
  split
  · change ((shim.deactivate.activate newId).insertKey _).materials = _
    rw [materials_insertKey]
    change Function.update shim.deactivate.materials _ _ = _
    rw [materials_deactivate]
  · rfl

theorem keys_encrypt (plaintext : List UInt8) (nonce : Option (List UInt8)) (random : List UInt8) :
    (shim.encrypt ciphers plaintext nonce random).1.keys = shim.keys ∧
      (shim.encrypt ciphers plaintext nonce random).1.activeKeyId = shim.activeKeyId := by
  rw [encrypt]
  split
  · exact ⟨rfl, rfl⟩
  · exact ⟨rfl, rfl⟩

theorem keys_decrypt (payload : EncryptedPayload) :
    (shim.decrypt ciphers payload).1.keys = shim.keys ∧
      (shim.decrypt ciphers payload).1.activeKeyId = shim.activeKeyId := by
  rw [decrypt]
  split
  · exact ⟨rfl, rfl⟩
  · exact ⟨rfl, rfl⟩

theorem materials_of_keys (same : after.keys = shim.keys) : after.materials = shim.materials := by
  funext id
  rw [materials, materials, same]

/-- The material a call sets, and the id it sets it for. -/
def Call.sets : Call → Option (String × List UInt8)
  | .rotateKey newId newMaterial _ =>
      if newMaterial.length = keySize then some (newId, newMaterial) else none
  | .encrypt _ _ _ | .decrypt _ => none

theorem materials_perform (call : Call) :
    (shim.perform ciphers call).materials = (Call.sets call).elim shim.materials fun set =>
      Function.update shim.materials set.1 (some set.2) := by
  cases call with
  | encrypt plaintext nonce random => exact materials_of_keys (keys_encrypt _ _ _).1
  | decrypt payload => exact materials_of_keys (keys_decrypt _).1
  | rotateKey newId newMaterial now =>
      refine (materials_rotateKey newId newMaterial now).trans ?_
      simp only [Call.sets]
      split
      · rfl
      · rfl

theorem activeKeyId_perform (call : Call) :
    (shim.perform ciphers call).activeKeyId = (Call.sets call).elim shim.activeKeyId fun set =>
      some set.1 := by
  cases call with
  | encrypt plaintext nonce random => exact (keys_encrypt _ _ _).2
  | decrypt payload => exact (keys_decrypt _).2
  | rotateKey newId newMaterial now =>
      simp only [perform, rotateKey, Call.sets]
      split
      · rfl
      · rfl

theorem Call.sets_length {call : Call} {set : String × List UInt8}
    (found : Call.sets call = some set) : set.2.length = keySize := by
  cases call with
  | encrypt plaintext nonce random => cases found
  | decrypt payload => cases found
  | rotateKey newId newMaterial now =>
      simp only [Call.sets] at found
      split at found
      · next length =>
        cases found
        exact length
      · cases found

theorem Sized.perform (sized : shim.Sized) (call : Call) : (shim.perform ciphers call).Sized := by
  intro id key held
  rw [materials_perform] at held
  cases found : Call.sets call with
  | none => exact sized id key (by rwa [found] at held)
  | some set =>
      rw [found] at held
      change Function.update shim.materials set.1 (some set.2) id = some key at held
      by_cases same : id = set.1
      · subst same
        rw [Function.update_self] at held
        cases held
        exact Call.sets_length found
      · rw [Function.update_of_ne same] at held
        exact sized id key held

/-! ## What still opens -/

/-- Whatever opens in the first state opens to the same message in the second. -/
def StillOpens (ciphers : EncryptionMethod → Aead) (earlier later : EncryptionShim) : Prop :=
  ∀ payload message, (earlier.decrypt ciphers payload).2 = .ok message →
    (later.decrypt ciphers payload).2 = .ok message

/-- A rotation that succeeds names an id that is not in the table, or gives it
the material it has. -/
def KeepsMaterial (shim : EncryptionShim) : Call → Prop
  | .rotateKey newId newMaterial _ => newMaterial.length = keySize →
      ∀ entry, shim.keys newId = some entry → entry.material = newMaterial
  | .encrypt _ _ _ | .decrypt _ => True

theorem material_eq_ok_iff {keyId missing : String} {key : List UInt8} :
    shim.material keyId missing = .ok key ↔
      shim.materials keyId = some key ∧ key.length = keySize := by
  refine ⟨fun found => ?_, fun ⟨held, length⟩ => ?_⟩
  · obtain ⟨entry, stored, same, length⟩ := material_eq_ok found
    exact ⟨by rw [materials, stored, Option.map_some, same], length⟩
  · obtain ⟨entry, stored, same⟩ := Option.map_eq_some_iff.mp held
    subst same
    exact material_of_stored missing stored length

theorem openPayload_of_within {payload : EncryptedPayload} {message : List UInt8}
    (within : Within shim.materials after.materials)
    (opens : shim.openPayload ciphers payload = .ok message) :
    after.openPayload ciphers payload = .ok message := by
  simp only [openPayload] at opens ⊢
  cases found : shim.material payload.keyId s!"Decryption key {payload.keyId} not found" with
  | error fault =>
      rw [found] at opens
      cases opens
  | ok key =>
      obtain ⟨held, length⟩ := material_eq_ok_iff.mp found
      have kept := within payload.keyId key held
      rw [found] at opens
      rw [material_eq_ok_iff.mpr ⟨kept, length⟩]
      exact opens

theorem within_of_keepsMaterial {call : Call} (keeps : shim.KeepsMaterial call) :
    Within shim.materials (shim.perform ciphers call).materials := by
  intro id key held
  rw [materials_perform]
  cases call with
  | encrypt plaintext nonce random => exact held
  | decrypt payload => exact held
  | rotateKey newId newMaterial now =>
      simp only [Call.sets]
      split
      · next length =>
        change Function.update shim.materials newId (some newMaterial) id = some key
        by_cases same : id = newId
        · subst same
          obtain ⟨entry, stored, material⟩ := Option.map_eq_some_iff.mp held
          rw [Function.update_self, ← keeps length entry stored, material]
        · rw [Function.update_of_ne same]
          exact held
      · exact held

/-- Replacing the material of an id shuts what only the old material opened. -/
theorem keepsMaterial_of_stillOpens {call : Call} (separates : (ciphers .aesGcm).Separates)
    (sized : shim.Sized) (opens : StillOpens ciphers shim (shim.perform ciphers call)) :
    shim.KeepsMaterial call := by
  cases call with
  | encrypt plaintext nonce random => trivial
  | decrypt payload => trivial
  | rotateKey newId newMaterial now =>
      intro length entry stored
      by_contra different
      have held : shim.materials newId = some entry.material := by
        rw [materials, stored, Option.map_some]
      have replaced : (shim.perform ciphers (.rotateKey newId newMaterial now)).materials newId =
          some newMaterial := by
        rw [materials_perform]
        simp only [Call.sets, if_pos length]
        exact Function.update_self _ _ _
      obtain ⟨nonce, bytes, message, nonceLength, first, second⟩ := separates entry.material
        newMaterial (utf8 newId) (sized newId _ held) length different
      have method : EncryptionMethod.parse "aes-gcm" = .ok .aesGcm :=
        EncryptionMethod.parse_display .aesGcm
      have before := opens ⟨newId, nonce, bytes, [], "aes-gcm", none⟩ message
      rw [decrypt_snd, decrypt_snd] at before
      simp only [openPayload, method, openBytes, checkNonce, if_pos nonceLength,
        material_eq_ok_iff.mpr ⟨held, sized newId _ held⟩,
        material_eq_ok_iff.mpr ⟨replaced, length⟩, Option.getD_none, List.nil_append,
        List.append_nil, first, true_implies] at before
      cases decrypted : (ciphers .aesGcm).decrypt newMaterial nonce (utf8 newId) bytes with
      | error error =>
          rw [decrypted] at before
          cases before
      | ok plaintext =>
          rw [decrypted] at before
          cases before
          exact second decrypted

theorem stillOpens_ordered_iff (separates : (ciphers .aesGcm).Separates) (sized : shim.Sized)
    (calls : List Call) :
    (machine ciphers).Ordered (StillOpens ciphers) shim calls ↔
      (machine ciphers).Along KeepsMaterial shim calls := by
  rw [Machine.ordered_iff_along (fun _ _ _ opens => opens)
    (fun _ _ _ first second payload message opens => second payload message
      (first payload message opens))]
  refine Machine.along_ofFunction_iff_along Sized ?_ (fun _ call sized _ => sized.perform call) sized
  intro state call sized
  refine ⟨fun opens => keepsMaterial_of_stillOpens separates sized (opens _ rfl), ?_⟩
  intro keeps next taken
  cases taken
  intro payload message opens
  rw [decrypt_snd] at opens ⊢
  exact openPayload_of_within (within_of_keepsMaterial keeps) opens

/-! ## The active key -/

/-- The material of the latest successful rotation, or the one at the start. -/
def latestMaterial (start : List UInt8) (calls : List Call) : List UInt8 :=
  calls.foldl (fun latest call => (Call.sets call).elim latest Prod.snd) start

/-- In every state of the run the active key has the latest material. -/
def ActiveLatest (ciphers : EncryptionMethod → Aead) (start : List UInt8)
    (created : EncryptionShim) (calls : List Call) : Prop :=
  ∀ before after shim, before ++ after = calls → (machine ciphers).run created before = some shim →
    shim.activeMaterial = some (latestMaterial start before)

theorem activeMaterial_perform (call : Call) :
    (shim.perform ciphers call).activeMaterial =
      (Call.sets call).elim shim.activeMaterial fun set => some set.2 := by
  rw [activeMaterial, activeKeyId_perform, materials_perform]
  cases Call.sets call with
  | none => rfl
  | some set => exact Function.update_self _ _ _

theorem activeLatest_iff {start : List UInt8} {calls : List Call} :
    ActiveLatest ciphers start shim calls ↔ shim.activeMaterial = some start := by
  refine ⟨fun latest => latest [] calls shim rfl rfl, fun fits before => ?_⟩
  intro after final split reached
  clear split
  induction before generalizing shim start with
  | nil =>
      cases reached
      exact fits
  | cons call before ih =>
      obtain ⟨next, taken, reached⟩ := Option.bind_eq_some_iff.mp reached
      cases taken
      have latest : (shim.perform ciphers call).activeMaterial =
          some ((Call.sets call).elim start Prod.snd) := by
        rw [activeMaterial_perform]
        cases Call.sets call with
        | none => exact fits
        | some set => rfl
      exact ih latest reached

/-! ## The table at the start -/

/-- The previous keys that are loaded, in their order. -/
def loadedKeys (settings : Settings) : List EncryptionKey :=
  match settings.prevKeys with
  | some (some keys) => keys.filter fun key => key.material.length = keySize
  | _ => []

/-- The last of the previous keys under the primary key's id, if there is one,
has the primary key's material. -/
def PreviousAgree (settings : Settings) : Prop :=
  ∀ key, ((loadedKeys settings).filter fun key => key.id = settings.keyId.getD "default").getLast? =
    some key → primaryMaterial settings = .ok key.material

theorem keys_foldl_insertKey (keys : List EncryptionKey) (id : String) :
    (keys.foldl insertKey shim).keys id =
      ((keys.filter fun key => key.id = id).getLast?).or (shim.keys id) := by
  induction keys generalizing shim with
  | nil => rfl
  | cons key keys ih =>
      rw [List.foldl_cons, ih]
      by_cases same : key.id = id
      · rw [List.filter_cons_of_pos (by simpa using same), List.getLast?_cons]
        have stored : (shim.insertKey key).keys id = some key := by
          rw [← same]
          exact Function.update_self _ _ _
        rw [stored]
        cases (keys.filter fun key => key.id = id).getLast? with
        | none => rfl
        | some last => rfl
      · rw [List.filter_cons_of_neg (by simpa using same)]
        have stored : (shim.insertKey key).keys id = shim.keys id :=
          Function.update_of_ne (Ne.symm same) _ _
        rw [stored]

theorem activeKeyId_foldl_insertKey (keys : List EncryptionKey) :
    (keys.foldl insertKey shim).activeKeyId = shim.activeKeyId := by
  induction keys generalizing shim with
  | nil => rfl
  | cons key keys ih => exact ih

theorem loadPreviousKeys_eq (settings : Settings) :
    shim.loadPreviousKeys settings = (loadedKeys settings).foldl insertKey shim := by
  simp only [loadPreviousKeys, loadedKeys]
  cases settings.prevKeys with
  | none => rfl
  | some parsed =>
      cases parsed with
      | none => rfl
      | some keys => rfl

theorem loadedKeys_length {settings : Settings} {key : EncryptionKey}
    (member : key ∈ loadedKeys settings) : key.material.length = keySize := by
  simp only [loadedKeys] at member
  split at member
  · exact of_decide_eq_true (List.mem_filter.mp member).2
  · cases member

theorem tryNew_keys {settings : Settings} (created : tryNew settings = .ok shim) :
    ∃ primary, primaryMaterial settings = .ok primary ∧ primary.length = keySize ∧
      shim.activeKeyId = some (settings.keyId.getD "default") ∧
      ∀ id, shim.keys id = (((loadedKeys settings).filter fun key => key.id = id).getLast?).or
        (if id = settings.keyId.getD "default" then
          some ⟨settings.keyId.getD "default", primary, settings.now, true⟩ else none) := by
  simp only [tryNew] at created
  split at created
  · cases created
  · next loaded success =>
    cases created
    simp only [loadPrimaryKey] at success
    split at success
    · cases success
    · next primary found =>
      split at success
      · next length =>
        cases success
        refine ⟨primary, found, length, ?_, fun id => ?_⟩
        · rw [loadPreviousKeys_eq]
          exact activeKeyId_foldl_insertKey _
        · rw [loadPreviousKeys_eq]
          refine (keys_foldl_insertKey _ id).trans (congrArg _ ?_)
          by_cases same : id = settings.keyId.getD "default"
          · rw [if_pos same, same]
            exact Function.update_self _ _ _
          · rw [if_neg same]
            exact Function.update_of_ne same _ _
      · cases success

theorem sized_of_tryNew {settings : Settings} (created : tryNew settings = .ok shim) :
    shim.Sized := by
  obtain ⟨primary, _, length, _, table⟩ := tryNew_keys created
  intro id key held
  obtain ⟨entry, stored, rfl⟩ := Option.map_eq_some_iff.mp held
  rw [table id] at stored
  rcases Option.or_eq_some_iff.mp stored with last | ⟨_, first⟩
  · exact loadedKeys_length (List.mem_filter.mp (List.mem_of_getLast? last)).1
  · split at first
    · cases first
      exact length
    · cases first

theorem activeMaterial_tryNew_iff {settings : Settings} {primary : List UInt8}
    (created : tryNew settings = .ok shim) (found : primaryMaterial settings = .ok primary) :
    shim.activeMaterial = some primary ↔ PreviousAgree settings := by
  obtain ⟨material, same, _, active, table⟩ := tryNew_keys created
  rw [found] at same
  cases same
  rw [activeMaterial, active, Option.bind_some, materials, table, if_pos rfl, PreviousAgree, found]
  cases ((loadedKeys settings).filter fun key => key.id = settings.keyId.getD "default").getLast? with
  | none => simp
  | some last => simp [eq_comm]

end EncryptionShim

open EncryptionShim

/-- Over a run of calls, what opened in a state opens in every later one, and the
active key always has the latest material. -/
def RotationLosesNothing (ciphers : EncryptionMethod → Aead) (settings : Settings)
    (created : EncryptionShim) (calls : List Call) : Prop :=
  (machine ciphers).Ordered (StillOpens ciphers) created calls ∧
    ∀ primary, primaryMaterial settings = .ok primary → ActiveLatest ciphers primary created calls

/-- Nothing is lost exactly when no rotation gives an id in the table another
material, and no previous key does so to the primary key. -/
theorem rotationLosesNothing_iff (ciphers : EncryptionMethod → Aead)
    (separates : (ciphers .aesGcm).Separates) (settings : Settings) (created : EncryptionShim)
    (calls : List Call) (new : tryNew settings = .ok created) :
    RotationLosesNothing ciphers settings created calls ↔
      PreviousAgree settings ∧ (machine ciphers).Along KeepsMaterial created calls := by
  obtain ⟨primary, found, _⟩ := tryNew_keys new
  have active : (∀ primary, primaryMaterial settings = .ok primary →
      ActiveLatest ciphers primary created calls) ↔ PreviousAgree settings := by
    rw [← activeMaterial_tryNew_iff new found, ← @activeLatest_iff ciphers created primary calls]
    refine ⟨fun latest => latest primary found, fun latest other same => ?_⟩
    rw [found] at same
    cases same
    exact latest
  rw [RotationLosesNothing, stillOpens_ordered_iff separates (sized_of_tryNew new) calls, active,
    and_comm]

/-- A cipher that writes the key before the message, which can be evaluated. -/
def underKey : Aead where
  encrypt key _ _ message := .ok (key ++ message)
  decrypt key _ _ bytes :=
    if key.isPrefixOf bytes then .ok (bytes.drop key.length) else .error "Error"

theorem underKey_separates : underKey.Separates := by
  intro key other aad keyLength otherLength different
  refine ⟨List.replicate nonceSize 0, key, [], List.length_replicate, ?_, ?_⟩
  · simp [underKey]
  · have foreign : ¬ other <+: key := fun starts =>
      different (starts.eq_of_length (otherLength.trans keyLength.symm)).symm
    simp [underKey, foreign]

theorem rotation_keeps_default :
    RotationLosesNothing (fun _ => underKey) (keyedSettings none) (keyedShim none)
      [.rotateKey "next" (List.replicate keySize 2) 1] := by
  refine (rotationLosesNothing_iff _ underKey_separates _ _ _ (tryNew_keyedSettings none)).mpr
    ⟨fun key last => ?_, fun next taken => ⟨fun _ entry stored => ?_, trivial⟩⟩
  · cases last
  · cases stored

/-- A rotation to the id in use: what the first key sealed no longer opens. -/
theorem rotation_loses_default :
    ¬ RotationLosesNothing (fun _ => underKey) (keyedSettings none) (keyedShim none)
      [.rotateKey "default" (List.replicate keySize 2) 1] := by
  intro ⟨ordered, _⟩
  have opens := ordered [] [.rotateKey "default" (List.replicate keySize 2) 1] [] _ _ rfl rfl rfl
    ⟨"default", List.replicate nonceSize 0, List.replicate keySize 1 ++ [7], [], "aes-gcm", none⟩ [7]
    rfl
  cases opens

end Evergreen.Encryption
