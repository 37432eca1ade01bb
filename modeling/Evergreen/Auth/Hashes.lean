import Evergreen.Auth.HexCoding

namespace Evergreen.Auth

/-! # Stored hashes

What `hash_password` and `hash_api_key` return is hexadecimal text, which the
validators read back.  They then accept what the MAC does not tell from the
secret that was hashed.
-/

/-- The salt is the bytes of a new UUID; `none` is a panic. -/
def hashPassword (crates : Crates) (salt : List UInt8) (password : String) : Option String :=
  (crates.newFromSlice salt).map fun mac =>
    Text.hexEncode salt ++ String.singleton ':' ++ Text.hexEncode (mac (utf8 password))

def KeyedShim.hashApiKey (crates : Crates) (shim : KeyedShim) (key : String) : Option String :=
  shim.hmacHash crates (utf8 key)

/-- The call neither registers a key under this id nor revokes the one there is. -/
def KeyedShim.Call.Spares (keyId : String) : KeyedShim.Call → Prop
  | .registerApiKey key => key.keyId ≠ keyId
  | .revokeApiKey other => other ≠ keyId
  | .createToken _ _ _ _ _ _ | .revokeToken _ | .validateToken _ _ | .validateApiKey _ _ => True

/-- A secret is accepted for its hash, and any other one that has the same MAC. -/
def AcceptsHashed (crates : Crates) (salt : List UInt8) (password stored : String) : Prop :=
  ∀ other, verifyPassword crates other stored =
    (crates.newFromSlice salt).map fun mac => decide (mac (utf8 other) = mac (utf8 password))

/-- The key is accepted under its name and its role. -/
def KeyedShim.AcceptsKey (crates : Crates) (shim : KeyedShim) (key : ApiKey) (secret : String) :
    Prop :=
  ∃ mac, crates.newFromSlice shim.hmacKey = some mac ∧ ∀ provided, ∃ after result,
    shim.validateApiKey crates key.keyId provided = some (after, result) ∧
      (result.authenticated = true ↔ mac (utf8 provided) = mac (utf8 secret)) ∧
      (result.authenticated = true → result.user = some key.name ∧ result.role = some key.role)

variable {crates : Crates} {salt : List UInt8} {password stored secret : String} {key : ApiKey}

theorem colon_notMem_hexEncode (data : List UInt8) : ':' ∉ (Text.hexEncode data).toList := by
  intro member
  have digits := ((exactText_hexEncode data).accepts.mp
    (by rw [Text.hexDecode_hexEncode]; rfl)).2 ':' member
  exact absurd digits (by decide)

theorem acceptsHashed_hashPassword (hashed : hashPassword crates salt password = some stored) :
    AcceptsHashed crates salt password stored := by
  intro other
  obtain ⟨mac, keyed, rfl⟩ := Option.map_eq_some_iff.mp hashed
  have whole := (exactText_hexEncode salt).returns
  have rest := (exactText_hexEncode (mac (utf8 password))).returns
  rw [verifyPassword, Text.splitOnce_append (colon_notMem_hexEncode salt)]
  simp only [whole, rest, Text.hexDecode_hexEncode, keyed, Bool.false_eq_true, if_false,
    Option.map_some]

namespace KeyedShim

variable {shim : KeyedShim} {session next : Session} {call : Call}

/-- What keeps a key valid: it is registered, not revoked, and its hash is that of
the secret. -/
structure Holds (crates : Crates) (key : ApiKey) (secret : String) (shim : KeyedShim) : Prop where
  registered : shim.apiKeys key.keyId = some key
  hashed : shim.hashApiKey crates secret = some key.keyHash

theorem Holds.of_same {after : KeyedShim} (holds : Holds crates key secret shim)
    (keys : after.apiKeys key.keyId = shim.apiKeys key.keyId) (same : after.hmacKey = shim.hmacKey) :
    Holds crates key secret after where
  registered := keys.trans holds.registered
  hashed := by
    have hashed := holds.hashed
    rw [hashApiKey, AuthShim.hmacHash] at hashed ⊢
    rw [same]
    exact hashed

theorem Holds.acceptsKey (holds : Holds crates key secret shim) (valid : key.revoked = false) :
    shim.AcceptsKey crates key secret := by
  obtain ⟨registered, hashed⟩ := holds
  obtain ⟨mac, keyed, hash⟩ := Option.map_eq_some_iff.mp hashed
  refine ⟨mac, keyed, fun provided => ?_⟩
  have reads := (exactText_hexEncode (mac (utf8 secret))).returns
  have decoded := Text.hexDecode_hexEncode (mac (utf8 secret))
  rw [hash] at reads decoded
  simp only [validateApiKey, registered, valid, reads, decoded, keyed, Bool.false_eq_true, if_false]
  by_cases same : mac (utf8 provided) = mac (utf8 secret)
  · rw [if_neg (not_not.mpr same)]
    exact ⟨_, _, rfl, ⟨fun _ => same, fun _ => rfl⟩, fun _ => ⟨rfl, rfl⟩⟩
  · rw [if_pos same]
    exact ⟨_, _, rfl, ⟨fun refused => absurd refused Bool.false_ne_true, fun equal => absurd equal same⟩,
      fun refused => absurd refused Bool.false_ne_true⟩

theorem hmacKey_createToken {user : String} {role : Role} {sourceIp : Option String} {id secret : Uuid}
    {now : Int} {result : KeyedShim × String}
    (created : shim.createToken crates user role sourceIp id secret now = some result) :
    result.1.apiKeys = shim.apiKeys ∧ result.1.hmacKey = shim.hmacKey := by
  obtain ⟨inner, stored, rfl⟩ := Option.map_eq_some_iff.mp created
  refine ⟨rfl, ?_⟩
  change inner.1.hmacKey = shim.hmacKey
  simp only [AuthShim.createToken, Option.bind_eq_some_iff] at stored
  obtain ⟨hash, hashed, lifetime, lasting, stored⟩ := stored
  obtain ⟨_, stored⟩ := Option.ite_none_right_eq_some.mp stored
  cases stored
  rfl

theorem hmacKey_validateApiKey {keyId provided : String} {result : KeyedShim × AuthResult}
    (validated : shim.validateApiKey crates keyId provided = some result) :
    result.1.hmacKey = shim.hmacKey := by
  simp only [validateApiKey] at validated
  split at validated
  · cases validated
    rfl
  split at validated
  · cases validated
    rfl
  split at validated
  · cases validated
  split at validated
  · cases validated
    rfl
  split at validated
  · cases validated
    rfl
  split at validated
  · cases validated
    rfl
  · cases validated
    rfl

theorem Holds.step (holds : Holds crates key secret session.shim) (spares : call.Spares key.keyId)
    (taken : (machine crates).step session call = some next) : Holds crates key secret next.shim := by
  cases call with
  | createToken user role sourceIp id secret now =>
      obtain ⟨result, created, rfl⟩ := Option.map_eq_some_iff.mp taken
      obtain ⟨keys, same⟩ := hmacKey_createToken created
      exact holds.of_same (congrFun keys _) same
  | registerApiKey other =>
      cases taken
      exact holds.of_same (Function.update_of_ne (Ne.symm spares) _ _) rfl
  | revokeToken tokenId =>
      cases taken
      exact holds.of_same rfl rfl
  | revokeApiKey keyId =>
      cases taken
      refine holds.of_same ?_ ?_
      · unfold revokeApiKey
        split
        · exact Function.update_of_ne (Ne.symm spares) _ _
        · rfl
      · unfold revokeApiKey
        split <;> rfl
  | validateToken token now =>
      cases taken
      exact holds.of_same rfl (validateToken_frame crates session.shim.toAuthShim token now).2.1
  | validateApiKey keyId provided =>
      obtain ⟨result, validated, rfl⟩ := Option.map_eq_some_iff.mp taken
      have keys := (validateApiKey_cases validated).1
      exact holds.of_same (congrFun keys _) (hmacKey_validateApiKey validated)

theorem Holds.run {calls : List Call} (holds : Holds crates key secret session.shim)
    (spares : ∀ call ∈ calls, call.Spares key.keyId)
    (ran : (machine crates).run session calls = some next) : Holds crates key secret next.shim := by
  induction calls generalizing session with
  | nil =>
      cases ran
      exact holds
  | cons call rest ih =>
      obtain ⟨between, taken, ran⟩ := Option.bind_eq_some_iff.mp ran
      exact ih (holds.step (spares call List.mem_cons_self) taken)
        (fun later member => spares later (List.mem_cons_of_mem _ member)) ran

end KeyedShim

/-- A password verifies against its hash.  An API key that is registered with the
hash of its secret is accepted with it, until a call registers another under its
id or revokes it. -/
theorem hashes_accepted (crates : Crates) :
    (∀ salt password stored, hashPassword crates salt password = some stored →
      AcceptsHashed crates salt password stored) ∧
    ∀ (shim : KeyedShim) history key secret calls after,
      shim.hashApiKey crates secret = some key.keyHash → key.revoked = false →
      (∀ call ∈ calls, call.Spares key.keyId) →
      (KeyedShim.machine crates).run ⟨shim.registerApiKey key, history⟩ calls = some after →
        after.shim.AcceptsKey crates key secret := by
  refine ⟨fun _ _ _ => acceptsHashed_hashPassword, ?_⟩
  intro shim history key secret calls after hashed valid spares ran
  have holds : KeyedShim.Holds crates key secret (shim.registerApiKey key) :=
    ⟨Function.update_self _ _ _, hashed⟩
  exact (holds.run spares ran).acceptsKey valid

def readerKey : ApiKey where
  keyId := "rk-1"
  name := "reader"
  keyHash := Text.hexEncode (utf8 "open sesame")
  role := .readOnly
  createdAt := "2026-01-01T00:00:00Z"
  lastUsed := none
  revoked := false

theorem hashes_accepted_reader :
    ((KeyedShim.foxShim.registerApiKey readerKey).revokeApiKey "rk-2").1.AcceptsKey plainCrates
      readerKey "open sesame" :=
  (hashes_accepted plainCrates).2 KeyedShim.foxShim [] readerKey "open sesame"
    [.revokeApiKey "rk-2"] _ rfl rfl (fun call member => by
      cases List.mem_singleton.mp member
      exact (by decide : "rk-2" ≠ "rk-1")) rfl

end Evergreen.Auth
