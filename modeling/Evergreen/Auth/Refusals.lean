import Evergreen.Auth.Authenticity

namespace Evergreen.Auth

/-! # Credentials that must be refused

Tokens and API keys have a validator each.  Both refuse what was revoked; only
the one for tokens looks at the role.
-/

structure ApiKey where
  keyId : String
  name : String
  keyHash : String
  role : Role
  createdAt : String
  lastUsed : Option String
  revoked : Bool
deriving DecidableEq, Repr

structure KeyedShim extends AuthShim where
  apiKeys : String → Option ApiKey := fun _ => none

namespace KeyedShim

variable (crates : Crates) (shim : KeyedShim)

def createToken (user : String) (role : Role) (sourceIp : Option String) (id secret : Uuid)
    (now : Int) : Option (KeyedShim × String) :=
  (shim.toAuthShim.createToken crates user role sourceIp id secret now).map fun result =>
    ({ shim with toAuthShim := result.1 }, result.2)

def validateToken (token : String) (now : Int) : KeyedShim × AuthResult :=
  let (after, result) := shim.toAuthShim.validateToken crates token now
  ({ shim with toAuthShim := after }, result)

def revokeToken (tokenId : String) : KeyedShim × Bool :=
  let (after, removed) := shim.toAuthShim.revokeToken tokenId
  ({ shim with toAuthShim := after }, removed)

def registerApiKey (key : ApiKey) : KeyedShim :=
  { shim with apiKeys := Function.update shim.apiKeys key.keyId (some key) }

def refuse (reason : String) : KeyedShim × AuthResult :=
  let (after, result) := shim.toAuthShim.refuse none none reason
  ({ shim with toAuthShim := after }, result)

/-- `none` is a panic: the stored hash is not sliced at its characters. -/
def validateApiKey (keyId providedKey : String) : Option (KeyedShim × AuthResult) :=
  match shim.apiKeys keyId with
  | none => some (shim.refuse "API key not found")
  | some key =>
      if key.revoked then some (shim.refuse "API key revoked")
      else if Text.hexDecodePanics key.keyHash then none
      else
        match Text.hexDecode key.keyHash with
        | none => some (shim.refuse "Invalid key hash")
        | some expectedHash =>
            match crates.newFromSlice shim.hmacKey with
            | none => some (shim.refuse "Internal error")
            | some mac =>
                if mac (utf8 providedKey) ≠ expectedHash then
                  some (shim.refuse "API key verification failed")
                else
                  some ({ shim with authSuccess := shim.authSuccess + 1 },
                    { authenticated := true
                      user := some key.name
                      role := some key.role
                      reason := none })

def revokeApiKey (keyId : String) : KeyedShim × Bool :=
  match shim.apiKeys keyId with
  | some key =>
      ({ shim with apiKeys := Function.update shim.apiKeys keyId (some { key with revoked := true }) },
        true)
  | none => (shim, false)

/-! ## Calls and their history -/

/-- A token goes by the id before its dot, an API key by its key id. -/
inductive Credential where
  | token (id : String)
  | apiKey (keyId : String)
deriving DecidableEq, Repr

inductive Event where
  | issued (credential : Credential)
  | revoked (credential : Credential)
deriving DecidableEq, Repr

/-- The newest event is the first. -/
structure Session where
  shim : KeyedShim
  history : List Event := []

inductive Call where
  | createToken (user : String) (role : Role) (sourceIp : Option String) (id secret : Uuid)
      (now : Int)
  | registerApiKey (key : ApiKey)
  | revokeToken (tokenId : String)
  | revokeApiKey (keyId : String)
  | validateToken (token : String) (now : Int)
  | validateApiKey (keyId providedKey : String)

def machine : Machine Session Call where
  step session
    | .createToken user role sourceIp id secret now =>
        (session.shim.createToken crates user role sourceIp id secret now).map fun result =>
          { shim := result.1, history := .issued (.token id.text) :: session.history }
    | .registerApiKey key => some
        { shim := session.shim.registerApiKey key
          history := .issued (.apiKey key.keyId) :: session.history }
    | .revokeToken tokenId => some
        { shim := (session.shim.revokeToken tokenId).1
          history := .revoked (.token tokenId) :: session.history }
    | .revokeApiKey keyId => some
        { shim := (session.shim.revokeApiKey keyId).1
          history := .revoked (.apiKey keyId) :: session.history }
    | .validateToken token now => some
        { session with shim := (session.shim.validateToken crates token now).1 }
    | .validateApiKey keyId providedKey =>
        (session.shim.validateApiKey crates keyId providedKey).map fun result =>
          { session with shim := result.1 }

/-- Revoked, and neither issued nor registered since. -/
def Revoked (credential : Credential) (history : List Event) : Prop :=
  ∃ later earlier, history = later ++ .revoked credential :: earlier ∧ .issued credential ∉ later

/-- What a validation may answer for the credential. -/
def Permits (history : List Event) (credential : Credential) (result : AuthResult) : Prop :=
  result.authenticated = true → result.role ≠ some .denied ∧ ¬ Revoked credential history

def Refuses (session : Session) : Call → Prop
  | .validateToken token now => ∀ id rest, Text.splitOnce '.' token = some (id, rest) →
      Permits session.history (.token id) (session.shim.validateToken crates token now).2
  | .validateApiKey keyId providedKey => ∀ result,
      session.shim.validateApiKey crates keyId providedKey = some result →
        Permits session.history (.apiKey keyId) result.2
  | .createToken _ _ _ _ _ _ | .registerApiKey _ | .revokeToken _ | .revokeApiKey _ => True

/-- The secret is that of a stored key which has not been revoked. -/
def Verifies (key : ApiKey) (providedKey : String) : Prop :=
  key.revoked = false ∧ Text.hexDecodePanics key.keyHash = false ∧
    ∃ mac, crates.newFromSlice shim.hmacKey = some mac ∧
      Text.hexDecode key.keyHash = some (mac (utf8 providedKey))

/-- Nobody presents the secret of an API key whose role is denied. -/
def SparesDenied (session : Session) (call : Call) : Prop :=
  ∀ keyId providedKey key, call = .validateApiKey keyId providedKey →
    session.shim.apiKeys keyId = some key → session.shim.Verifies crates key providedKey →
      key.role ≠ .denied

/-! ## One validation -/

variable {crates shim} {session next : Session} {credential : Credential} {history : List Event}
variable {keyId providedKey token : String} {now : Int} {call : Call}

theorem validateApiKey_cases {result : KeyedShim × AuthResult}
    (validated : shim.validateApiKey crates keyId providedKey = some result) :
    result.1.apiKeys = shim.apiKeys ∧ result.1.tokens = shim.tokens ∧
      (result.2.authenticated = false ∨ ∃ key, shim.apiKeys keyId = some key ∧
        shim.Verifies crates key providedKey ∧ result.2.role = some key.role) := by
  simp only [validateApiKey] at validated
  split at validated
  case h_1 =>
      cases validated
      exact ⟨rfl, rfl, .inl rfl⟩
  case h_2 key held =>
      split at validated
      case isTrue =>
          cases validated
          exact ⟨rfl, rfl, .inl rfl⟩
      case isFalse kept =>
          split at validated
          case isTrue => cases validated
          case isFalse reads =>
              split at validated
              case h_1 =>
                  cases validated
                  exact ⟨rfl, rfl, .inl rfl⟩
              case h_2 expectedHash decoded =>
                  split at validated
                  case h_1 =>
                      cases validated
                      exact ⟨rfl, rfl, .inl rfl⟩
                  case h_2 mac keyed =>
                      split at validated
                      case isTrue =>
                          cases validated
                          exact ⟨rfl, rfl, .inl rfl⟩
                      case isFalse verified =>
                          cases validated
                          refine ⟨rfl, rfl, .inr ⟨key, held, ⟨?_, ?_, mac, keyed, ?_⟩, rfl⟩⟩
                          · exact eq_false_of_ne_true kept
                          · exact eq_false_of_ne_true reads
                          · rw [decoded, not_not.mp verified]

theorem step_validateApiKey {result : KeyedShim × AuthResult}
    (validated : session.shim.validateApiKey crates keyId providedKey = some result) :
    (machine crates).step session (.validateApiKey keyId providedKey) =
      some { session with shim := result.1 } :=
  Option.map_eq_some_iff.mpr ⟨result, validated, rfl⟩

theorem validateApiKey_of_verifies {key : ApiKey} (held : shim.apiKeys keyId = some key)
    (verifies : shim.Verifies crates key providedKey) :
    ∃ after, shim.validateApiKey crates keyId providedKey = some (after,
      { authenticated := true, user := some key.name, role := some key.role, reason := none }) := by
  obtain ⟨kept, reads, mac, keyed, decoded⟩ := verifies
  simp only [validateApiKey, held, kept, reads, decoded, keyed, Bool.false_eq_true, if_false]
  exact ⟨_, if_neg (not_not.mpr rfl)⟩

theorem validateToken_named (crates : Crates) (shim : AuthShim) (token : String) (now : Int) :
    let result := (shim.validateToken crates token now).2
    result.authenticated = false ∨
      ∃ user role, result.user = some user ∧ result.role = some role := by
  have refused : ∀ user role reason,
      let result := (shim.refuse user role reason).2
      result.authenticated = false ∨
        ∃ user role, result.user = some user ∧ result.role = some role :=
    fun _ _ _ => .inl rfl
  simp only [AuthShim.validateToken]
  split
  · exact refused _ _ _
  split
  · exact refused _ _ _
  split
  · exact refused _ _ _
  split
  · exact refused _ _ _
  split
  · exact refused _ _ _
  split
  · exact refused _ _ _
  split
  · exact refused _ _ _
  · exact .inr ⟨_, _, rfl, rfl⟩

/-- A token that authenticates is stored, and its role is not denied. -/
theorem validateToken_admits
    (authenticated : (shim.validateToken crates token now).2.authenticated = true) :
    ∃ id rest stored, Text.splitOnce '.' token = some (id, rest) ∧ shim.tokens id = some stored ∧
      (shim.validateToken crates token now).2.role ≠ some .denied := by
  rcases validateToken_named crates shim.toAuthShim token now with refused | ⟨user, role, owner, granted⟩
  · exact absurd (authenticated.symm.trans refused) (by decide)
  · obtain ⟨id, rest, stored, _, _, parts, held, _, _, _, _, admitted, _, same⟩ :=
      validateToken_authenticated.mp ⟨authenticated, owner, granted⟩
    refine ⟨id, rest, stored, parts, held, fun denied => admitted ?_⟩
    exact same.trans (Option.some.inj (granted.symm.trans denied))

/-! ## What a revocation leaves -/

theorem revoked_issued {issued : Credential} :
    Revoked credential (.issued issued :: history) ↔ credential ≠ issued ∧ Revoked credential history := by
  constructor
  · rintro ⟨later, earlier, split, kept⟩
    cases later with
    | nil => cases (List.cons.inj split).1
    | cons first later =>
        obtain ⟨rfl, rest⟩ := List.cons.inj split
        obtain ⟨differs, kept⟩ := not_or.mp (List.mem_cons.not.mp kept)
        exact ⟨fun same => differs (congrArg Event.issued same), later, earlier, rest, kept⟩
  · rintro ⟨differs, later, earlier, split, kept⟩
    refine ⟨.issued issued :: later, earlier, congrArg (_ :: ·) split, ?_⟩
    exact List.mem_cons.not.mpr (not_or.mpr ⟨fun same => differs (Event.issued.inj same), kept⟩)

theorem revoked_revoked {other : Credential} :
    Revoked credential (.revoked other :: history) ↔ credential = other ∨ Revoked credential history := by
  constructor
  · rintro ⟨later, earlier, split, kept⟩
    cases later with
    | nil => exact .inl (Event.revoked.inj (List.cons.inj split).1).symm
    | cons first later =>
        obtain ⟨rfl, rest⟩ := List.cons.inj split
        exact .inr ⟨later, earlier, rest, (not_or.mp (List.mem_cons.not.mp kept)).2⟩
  · rintro (rfl | ⟨later, earlier, split, kept⟩)
    · exact ⟨[], history, rfl, List.not_mem_nil⟩
    · refine ⟨.revoked other :: later, earlier, congrArg (_ :: ·) split, ?_⟩
      exact List.mem_cons.not.mpr (not_or.mpr ⟨Event.noConfusion, kept⟩)

/-- What is revoked is not there, or bears the mark. -/
structure Enforced (session : Session) : Prop where
  token : ∀ id, Revoked (.token id) session.history → session.shim.tokens id = none
  apiKey : ∀ keyId key, Revoked (.apiKey keyId) session.history →
    session.shim.apiKeys keyId = some key → key.revoked = true

theorem Enforced.createToken {user : String} {role : Role} {sourceIp : Option String}
    {id secret : Uuid} {result : KeyedShim × String} (enforced : Enforced session)
    (created : session.shim.createToken crates user role sourceIp id secret now = some result) :
    Enforced { shim := result.1, history := .issued (.token id.text) :: session.history } := by
  obtain ⟨inner, made, rfl⟩ := Option.map_eq_some_iff.mp created
  obtain ⟨hash, _, made⟩ := Option.bind_eq_some_iff.mp made
  obtain ⟨lifetime, _, made⟩ := Option.bind_eq_some_iff.mp made
  obtain ⟨_, made⟩ := Option.ite_none_right_eq_some.mp made
  cases made
  refine ⟨fun other revoked => ?_, fun keyId key revoked held => ?_⟩
  · obtain ⟨differs, revoked⟩ := revoked_issued.mp revoked
    have apart : other ≠ id.text := fun same => differs (congrArg Credential.token same)
    exact (Function.update_of_ne apart _ _).trans (enforced.token other revoked)
  · exact enforced.apiKey keyId key (revoked_issued.mp revoked).2 held

theorem Enforced.registerApiKey (enforced : Enforced session) (key : ApiKey) :
    Enforced { shim := session.shim.registerApiKey key
               history := .issued (.apiKey key.keyId) :: session.history } := by
  refine ⟨fun id revoked => enforced.token id (revoked_issued.mp revoked).2, ?_⟩
  intro keyId other revoked held
  obtain ⟨differs, revoked⟩ := revoked_issued.mp revoked
  have apart : keyId ≠ key.keyId := fun same => differs (congrArg Credential.apiKey same)
  exact enforced.apiKey keyId other revoked ((Function.update_of_ne apart _ _).symm.trans held)

theorem Enforced.revokeToken (enforced : Enforced session) (tokenId : String) :
    Enforced { shim := (session.shim.revokeToken tokenId).1
               history := .revoked (.token tokenId) :: session.history } := by
  refine ⟨fun id revoked => ?_, fun keyId key revoked held => ?_⟩
  · rcases revoked_revoked.mp revoked with same | revoked
    · cases same
      exact Function.update_self ..
    · by_cases same : id = tokenId
      · subst same
        exact Function.update_self ..
      · exact (Function.update_of_ne same _ _).trans (enforced.token id revoked)
  · rcases revoked_revoked.mp revoked with same | revoked
    · cases same
    · exact enforced.apiKey keyId key revoked held

theorem Enforced.revokeApiKey (enforced : Enforced session) (keyId : String) :
    Enforced { shim := (session.shim.revokeApiKey keyId).1
               history := .revoked (.apiKey keyId) :: session.history } := by
  simp only [KeyedShim.revokeApiKey]
  cases stored : session.shim.apiKeys keyId with
  | none =>
      refine ⟨fun id revoked => ?_, fun other key revoked held => ?_⟩
      · rcases revoked_revoked.mp revoked with same | revoked
        · cases same
        · exact enforced.token id revoked
      · rcases revoked_revoked.mp revoked with same | revoked
        · cases same
          cases stored.symm.trans held
        · exact enforced.apiKey other key revoked held
  | some stored =>
      refine ⟨fun id revoked => ?_, fun other key revoked held => ?_⟩
      · rcases revoked_revoked.mp revoked with same | revoked
        · cases same
        · exact enforced.token id revoked
      · by_cases same : other = keyId
        · subst same
          cases (Function.update_self ..).symm.trans held
          rfl
        · rcases revoked_revoked.mp revoked with named | revoked
          · cases named
            exact absurd rfl same
          · exact enforced.apiKey other key revoked ((Function.update_of_ne same _ _).symm.trans held)

theorem Enforced.step (enforced : Enforced session)
    (taken : (machine crates).step session call = some next) : Enforced next := by
  cases call with
  | createToken user role sourceIp id secret now =>
      obtain ⟨result, created, rfl⟩ := Option.map_eq_some_iff.mp taken
      exact enforced.createToken created
  | registerApiKey key =>
      cases taken
      exact enforced.registerApiKey key
  | revokeToken tokenId =>
      cases taken
      exact enforced.revokeToken tokenId
  | revokeApiKey keyId =>
      cases taken
      exact enforced.revokeApiKey keyId
  | validateToken token now =>
      cases taken
      obtain ⟨tokens, _⟩ := validateToken_frame crates session.shim.toAuthShim token now
      exact ⟨fun id revoked => (congrFun tokens id).trans (enforced.token id revoked), enforced.apiKey⟩
  | validateApiKey keyId providedKey =>
      obtain ⟨result, validated, rfl⟩ := Option.map_eq_some_iff.mp taken
      obtain ⟨apiKeys, tokens, _⟩ := validateApiKey_cases validated
      refine ⟨fun id revoked => (congrFun tokens id).trans (enforced.token id revoked), ?_⟩
      intro other key revoked held
      exact enforced.apiKey other key revoked ((congrFun apiKeys other).symm.trans held)

/-! ## Every history -/

theorem Enforced.refuses_iff (enforced : Enforced session) (call : Call) :
    Refuses crates session call ↔ SparesDenied crates session call := by
  cases call with
  | createToken | registerApiKey | revokeToken | revokeApiKey => simp [Refuses, SparesDenied]
  | validateToken token now =>
      refine iff_of_true ?_ (fun _ _ _ other => nomatch other)
      intro id rest parts authenticated
      obtain ⟨owner, _, stored, named, held, admitted⟩ := validateToken_admits authenticated
      cases parts.symm.trans named
      exact ⟨admitted, fun revoked => nomatch held.symm.trans (enforced.token id revoked)⟩
  | validateApiKey keyId providedKey =>
      constructor
      · intro refuses other secret key named held verifies denied
        cases named
        obtain ⟨after, validated⟩ := validateApiKey_of_verifies held verifies
        exact (refuses _ validated rfl).1 (congrArg some denied)
      · intro spares result validated authenticated
        obtain ⟨_, _, refused | ⟨key, held, verifies, granted⟩⟩ := validateApiKey_cases validated
        · cases authenticated.symm.trans refused
        · have admitted := spares keyId providedKey key rfl held verifies
          refine ⟨fun denied => admitted (Option.some.inj (granted.symm.trans denied)), ?_⟩
          intro revoked
          exact nomatch verifies.1.symm.trans (enforced.apiKey keyId key revoked held)

/-- Denied and revoked credentials are refused in every history in which nobody
presents the secret of an API key whose role is denied, and in no other. -/
theorem refuses_iff_sparesDenied (crates : Crates) (shim : KeyedShim) (calls : List Call) :
    (machine crates).Along (Refuses crates) { shim } calls ↔
      (machine crates).Along (SparesDenied crates) { shim } calls := by
  apply Machine.along_iff_along Enforced
    (fun session call _ enforced _ => enforced.refuses_iff call)
    (fun session call next enforced _ taken => enforced.step taken)
  exact ⟨fun _ revoked => by simp [Revoked] at revoked, fun _ _ revoked => by simp [Revoked] at revoked⟩

/-- The code of one message under one key, as HMAC-SHA256 gives it. -/
def fox : String := "f7bc83f430538424b13298e6aa6fb143ef4d59a14946175997479dbc2d1a3cd8"

def foxCrates : Crates :=
  { plainCrates with newFromSlice := fun _ => some fun _ => (Text.hexDecode fox).getD [] }

def deniedKey : ApiKey where
  keyId := "wk-1"
  name := "suspended"
  keyHash := fox
  role := .denied
  createdAt := "2026-01-01T00:00:00Z"
  lastUsed := none
  revoked := false

def deniedCalls : List Call :=
  [.registerApiKey deniedKey, .validateApiKey "wk-1" "The quick brown fox jumps over the lazy dog"]

/-- The shim's key is "key". -/
def foxShim : KeyedShim := { tokenExpirySecs := 3600, hmacKey := [0x6b, 0x65, 0x79] }

theorem denied_key_authenticates :
    ¬ (machine foxCrates).Along (Refuses foxCrates) { shim := foxShim } deniedCalls := by
  intro along
  obtain ⟨_, along⟩ := along _ rfl
  have verifies : (foxShim.registerApiKey deniedKey).Verifies foxCrates deniedKey
      "The quick brown fox jumps over the lazy dog" := ⟨rfl, by decide, _, rfl, by decide⟩
  have stored : (foxShim.registerApiKey deniedKey).apiKeys "wk-1" = some deniedKey := rfl
  obtain ⟨after, validated⟩ := validateApiKey_of_verifies stored verifies
  obtain ⟨refuses, _⟩ := along _ (step_validateApiKey validated)
  exact (refuses _ validated rfl).1 rfl

end KeyedShim

end Evergreen.Auth
