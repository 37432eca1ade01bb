import Evergreen.Auth.Shim

namespace Evergreen.Auth

/-! # Which tokens authenticate

The shim beside the history of what it issued and revoked, newest first.  What
its table holds is a function of that history, and a token authenticates when
the history entitles it to.
-/

structure Issued where
  id : String
  token : String
  user : String
  role : Role
  issuedAt : Int
  sourceIp : Option String
deriving DecidableEq, Repr

inductive Event where
  | created (issued : Issued)
  | revoked (tokenId : String)
deriving DecidableEq, Repr

structure Session where
  shim : AuthShim
  history : List Event := []
  validations : Nat := 0

inductive Call where
  | createToken (user : String) (role : Role) (sourceIp : Option String) (id secret : Uuid)
      (now : Int)
  | revokeToken (tokenId : String)
  | validateToken (token : String) (now : Int)

/-- A call that panics does not return, and leaves the shim as it was. -/
def machine (crates : Crates) : Machine Session Call where
  step session
    | .createToken user role sourceIp id secret now =>
        (session.shim.createToken crates user role sourceIp id secret now).map fun result =>
          { session with
            shim := result.1
            history := .created ⟨id.text, result.2, user, role, now, sourceIp⟩ :: session.history }
    | .revokeToken tokenId => some
        { session with
          shim := (session.shim.revokeToken tokenId).1
          history := .revoked tokenId :: session.history }
    | .validateToken token now => some
        { session with
          shim := (session.shim.validateToken crates token now).1
          validations := session.validations + 1 }

/-- The tokens issued so far, revoked ones included. -/
def issuedOf : List Event → List Issued
  | [] => []
  | .created issued :: earlier => issued :: issuedOf earlier
  | .revoked _ :: earlier => issuedOf earlier

/-- What the environment promises: ids are fresh, and no text but the token
itself has the HMAC of a token. -/
def Promised (crates : Crates) (session : Session) : Call → Prop
  | .createToken _ _ _ id _ _ => id.text ∉ (issuedOf session.history).map Issued.id
  | .revokeToken _ => True
  | .validateToken token _ =>
      ∀ mac, crates.newFromSlice session.shim.hmacKey = some mac →
        ∀ issued ∈ issuedOf session.history,
          mac (utf8 token) = mac (utf8 issued.token) → token = issued.token

/-- The token was issued to the user in the role, its id has not been revoked
since, it has not expired, and the role is not denied. -/
def Entitled (session : Session) (token : String) (now : Int) (user : String) (role : Role) :
    Prop :=
  ∃ later issued earlier, session.history = later ++ .created issued :: earlier ∧
    issued.token = token ∧ issued.user = user ∧ issued.role = role ∧
    .revoked issued.id ∉ later ∧
    now ≤ issued.issuedAt + session.shim.tokenExpirySecs * 10 ^ 9 ∧
    role ≠ .denied

/-- A validation authenticates exactly whom the token entitles. -/
def Authentic (crates : Crates) (session : Session) : Call → Prop
  | .validateToken token now => ∀ user role,
      let result := (session.shim.validateToken crates token now).2
      (result.authenticated = true ∧ result.user = some user ∧ result.role = some role ↔
        Entitled session token now user role)
  | .createToken _ _ _ _ _ _ | .revokeToken _ => True

/-! ## The table as a function of the history -/

/-- The issued token an id stands for: the last one created under it, unless the
id has been revoked since. -/
def live : List Event → String → Option Issued
  | [], _ => none
  | .created issued :: earlier, id => if issued.id = id then some issued else live earlier id
  | .revoked tokenId :: earlier, id => if tokenId = id then none else live earlier id

theorem live_id {history : List Event} {id : String} {issued : Issued}
    (found : live history id = some issued) : issued.id = id := by
  induction history with
  | nil => cases found
  | cons event earlier ih =>
      cases event with
      | created other =>
          simp only [live] at found
          split at found
          · next same =>
            cases found
            exact same
          · exact ih found
      | revoked tokenId =>
          simp only [live] at found
          split at found
          · cases found
          · exact ih found

theorem live_split {history : List Event} {id : String} {issued : Issued}
    (found : live history id = some issued) :
    ∃ later earlier, history = later ++ .created issued :: earlier ∧ .revoked id ∉ later := by
  induction history with
  | nil => cases found
  | cons event earlier ih =>
      cases event with
      | created other =>
          simp only [live] at found
          split at found
          · cases found
            exact ⟨[], earlier, rfl, List.not_mem_nil⟩
          · obtain ⟨later, before, split, kept⟩ := ih found
            exact ⟨.created other :: later, before, by rw [split]; rfl, by simpa using kept⟩
      | revoked tokenId =>
          simp only [live] at found
          split at found
          · cases found
          · next different =>
            obtain ⟨later, before, split, kept⟩ := ih found
            refine ⟨.revoked tokenId :: later, before, by rw [split]; rfl, ?_⟩
            simp only [List.mem_cons, Event.revoked.injEq, not_or]
            exact ⟨fun same => different same.symm, kept⟩

/-- With ids issued once, nothing but a revocation ends the life of a token. -/
theorem live_of_split {later earlier : List Event} {issued : Issued}
    (kept : .revoked issued.id ∉ later)
    (fresh : ∀ other, .created other ∈ later → other.id ≠ issued.id) :
    live (later ++ .created issued :: earlier) issued.id = some issued := by
  induction later with
  | nil => simp [live]
  | cons event later ih =>
      have rest := ih (fun member => kept (List.mem_cons_of_mem _ member))
        (fun other member => fresh other (List.mem_cons_of_mem _ member))
      cases event with
      | created other =>
          rw [List.cons_append, live, if_neg (fresh other List.mem_cons_self)]
          exact rest
      | revoked tokenId =>
          have different : tokenId ≠ issued.id := by
            rintro rfl
            exact kept List.mem_cons_self
          rw [List.cons_append, live, if_neg different]
          exact rest

theorem issuedOf_append (later earlier : List Event) :
    issuedOf (later ++ earlier) = issuedOf later ++ issuedOf earlier := by
  induction later with
  | nil => rfl
  | cons event later ih =>
      cases event with
      | created issued => exact congrArg (issued :: ·) ih
      | revoked tokenId => exact ih

theorem mem_issuedOf {history : List Event} {issued : Issued} :
    issued ∈ issuedOf history ↔ .created issued ∈ history := by
  induction history with
  | nil => simp [issuedOf]
  | cons event history ih =>
      cases event with
      | created other => simp [issuedOf, ih]
      | revoked tokenId => simp [issuedOf, ih]

theorem live_eq_some_iff {history : List Event} (unique : ((issuedOf history).map Issued.id).Nodup)
    {issued : Issued} :
    live history issued.id = some issued ↔
      ∃ later earlier, history = later ++ .created issued :: earlier ∧
        .revoked issued.id ∉ later := by
  refine ⟨live_split, fun ⟨later, earlier, split, kept⟩ => ?_⟩
  subst split
  refine live_of_split kept fun other member same => ?_
  rw [issuedOf_append, List.map_append] at unique
  exact (List.nodup_append.mp unique).2.2 other.id
    (List.mem_map_of_mem (mem_issuedOf.mpr member)) issued.id List.mem_cons_self same

/-! ## The invariant -/

variable {crates : Crates} {session next : Session} {shim : AuthShim}
variable {token : String} {now : Int}

/-- What the table holds for a token. -/
def storedToken (crates : Crates) (shim : AuthShim) (issued : Issued) : StoredToken where
  tokenHash := (shim.hmacHash crates (utf8 issued.token)).getD ""
  user := issued.user
  role := issued.role
  issuedAt := crates.toRfc3339 issued.issuedAt
  expiresAt := crates.toRfc3339 (issued.issuedAt + shim.tokenExpirySecs * 10 ^ 9)
  sourceIp := issued.sourceIp

structure Tracked (crates : Crates) (session : Session) : Prop where
  table : ∀ id, session.shim.tokens id =
    (live session.history id).map (storedToken crates session.shim)
  unique : ((issuedOf session.history).map Issued.id).Nodup
  formed : ∀ issued ∈ issuedOf session.history,
    (∃ mac, crates.newFromSlice session.shim.hmacKey = some mac) ∧
    crates.representable (issued.issuedAt + session.shim.tokenExpirySecs * 10 ^ 9) = true ∧
    ∃ id secret : Uuid, issued.id = id.text ∧ issued.token = AuthShim.tokenValue id secret
  ranged : session.shim.tokenExpirySecs ≤ maxDurationSecs

theorem validateToken_frame (crates : Crates) (shim : AuthShim) (token : String) (now : Int) :
    let after := (shim.validateToken crates token now).1
    after.tokens = shim.tokens ∧ after.hmacKey = shim.hmacKey ∧
      after.tokenExpirySecs = shim.tokenExpirySecs ∧
      after.authSuccess + after.authFailure = shim.authSuccess + shim.authFailure + 1 := by
  have refused : ∀ user role reason,
      let after := (shim.refuse user role reason).1
      after.tokens = shim.tokens ∧ after.hmacKey = shim.hmacKey ∧
        after.tokenExpirySecs = shim.tokenExpirySecs ∧
        after.authSuccess + after.authFailure = shim.authSuccess + shim.authFailure + 1 :=
    fun _ _ _ => ⟨rfl, rfl, rfl, rfl⟩
  simp only [AuthShim.validateToken]
  split
  · exact refused _ _ _
  split
  · exact refused _ _ _
  split
  · exact refused _ _ _
  split
  · exact refused _ _ _
  split
  · exact refused _ _ _
  split
  · exact refused _ _ _
  split
  · exact refused _ _ _
  · exact ⟨rfl, rfl, rfl, Nat.add_right_comm _ _ _⟩

theorem asI64_of_ranged {secs : Nat} (ranged : secs ≤ maxDurationSecs) :
    durationSeconds (asI64 secs) = some ((secs : Int) * 10 ^ 9) := by
  have small : secs < 2 ^ 63 := by
    simp only [maxDurationSecs] at ranged
    omega
  rw [asI64, if_pos small, durationSeconds, if_pos (by omega)]

theorem createToken_eq_some {user : String} {role : Role} {sourceIp : Option String}
    {id secret : Uuid} {result : AuthShim × String} (ranged : shim.tokenExpirySecs ≤ maxDurationSecs)
    (created : shim.createToken crates user role sourceIp id secret now = some result) :
    (∃ mac, crates.newFromSlice shim.hmacKey = some mac) ∧
    crates.representable (now + shim.tokenExpirySecs * 10 ^ 9) = true ∧
    result = ({ shim with
        tokens := Function.update shim.tokens id.text (some (storedToken crates shim
          ⟨id.text, AuthShim.tokenValue id secret, user, role, now, sourceIp⟩)) },
      AuthShim.tokenValue id secret) := by
  obtain ⟨hash, hashed, created⟩ := Option.bind_eq_some_iff.mp created
  obtain ⟨lifetime, lasting, created⟩ := Option.bind_eq_some_iff.mp created
  rw [asI64_of_ranged ranged] at lasting
  cases lasting
  obtain ⟨mac, keyed, _⟩ := Option.map_eq_some_iff.mp hashed
  obtain ⟨inRange, made⟩ := Option.ite_none_right_eq_some.mp created
  refine ⟨⟨mac, keyed⟩, inRange, (Option.some.inj made).symm.trans ?_⟩
  simp only [storedToken, hashed, Option.getD_some]

theorem Tracked.step {call : Call} (tracked : Tracked crates session)
    (promised : Promised crates session call)
    (taken : (machine crates).step session call = some next) : Tracked crates next := by
  cases call with
  | validateToken token now =>
      cases taken
      obtain ⟨tokens, key, secs, _⟩ := validateToken_frame crates session.shim token now
      refine ⟨fun id => ?_, tracked.unique, fun issued member => ?_, ?_⟩
      · have same : storedToken crates (session.shim.validateToken crates token now).1 =
            storedToken crates session.shim := by
          funext issued
          simp only [storedToken, AuthShim.hmacHash, key, secs]
        exact (congrFun tokens id).trans (same ▸ tracked.table id)
      · simp only [key, secs]
        exact tracked.formed issued member
      · exact secs ▸ tracked.ranged
  | revokeToken tokenId =>
      cases taken
      refine ⟨fun id => ?_, tracked.unique, tracked.formed, tracked.ranged⟩
      by_cases same : tokenId = id
      · subst same
        simp [AuthShim.revokeToken, live]
      · have table := tracked.table id
        simp only [AuthShim.revokeToken, live, if_neg same,
          Function.update_of_ne (Ne.symm same)]
        exact table
  | createToken user role sourceIp id secret now =>
      obtain ⟨result, created, reached⟩ := Option.map_eq_some_iff.mp taken
      obtain ⟨keyed, inRange, made⟩ := createToken_eq_some tracked.ranged created
      subst made
      subst reached
      refine ⟨fun other => ?_, ?_, fun issued member => ?_, tracked.ranged⟩
      · by_cases same : id.text = other
        · subst same
          simp only [live, if_true, Function.update_self, Option.map_some]
          rfl
        · simp only [live, if_neg same, Function.update_of_ne (Ne.symm same)]
          exact tracked.table other
      · exact List.nodup_cons.mpr ⟨promised, tracked.unique⟩
      · rcases List.mem_cons.mp member with rfl | member
        · exact ⟨keyed, inRange, id, secret, rfl, rfl⟩
        · exact tracked.formed issued member

/-! ## One validation -/

/-- The only exit that authenticates, with all the tests on the way to it. -/
theorem validateToken_authenticated {user : String} {role : Role} :
    ((shim.validateToken crates token now).2.authenticated = true ∧
      (shim.validateToken crates token now).2.user = some user ∧
      (shim.validateToken crates token now).2.role = some role) ↔
    ∃ id rest stored hash mac, Text.splitOnce '.' token = some (id, rest) ∧
      shim.tokens id = some stored ∧ Text.hexDecode stored.tokenHash = some hash ∧
      crates.newFromSlice shim.hmacKey = some mac ∧ mac (utf8 token) = hash ∧
      now ≤ (crates.parse stored.expiresAt).getD now ∧ stored.role ≠ .denied ∧
      stored.user = user ∧ stored.role = role := by
  rw [AuthShim.validateToken]
  cases parts : Text.splitOnce '.' token with
  | none => simp [AuthShim.refuse]
  | some pair =>
      obtain ⟨id, rest⟩ := pair
      cases held : shim.tokens id with
      | none => simp [AuthShim.refuse, held]
      | some stored =>
          cases decoded : Text.hexDecode stored.tokenHash with
          | none => simp [AuthShim.refuse, held, decoded]
          | some hash =>
              cases keyed : crates.newFromSlice shim.hmacKey with
              | none => simp [AuthShim.refuse, held, decoded]
              | some mac =>
                  by_cases verified : mac (utf8 token) = hash
                  · by_cases expired : (crates.parse stored.expiresAt).getD now < now
                    · simp [AuthShim.refuse, held, decoded, verified, expired]
                    · by_cases denied : stored.role = .denied
                      · simp [AuthShim.refuse, held, decoded, verified, expired, denied]
                      · have lasts : now ≤ (crates.parse stored.expiresAt).getD now :=
                          Int.not_lt.mp expired
                        simp [held, decoded, verified, expired, denied, lasts]
                  · have other : hash ≠ mac (utf8 token) := Ne.symm verified
                    simp [AuthShim.refuse, held, decoded, verified, other]

theorem Tracked.stored_iff (tracked : Tracked crates session) {id : String} {stored : StoredToken} :
    session.shim.tokens id = some stored ↔
      ∃ issued, live session.history id = some issued ∧ storedToken crates session.shim issued = stored := by
  rw [tracked.table id, Option.map_eq_some_iff]

/-- The hash of an issued token comes back from its text, and so does its expiry. -/
theorem Tracked.decoded (tracked : Tracked crates session) (roundTrips : crates.RoundTrips)
    {issued : Issued} (member : issued ∈ issuedOf session.history) :
    ∃ mac, crates.newFromSlice session.shim.hmacKey = some mac ∧
      Text.hexDecode (storedToken crates session.shim issued).tokenHash =
        some (mac (utf8 issued.token)) ∧
      crates.parse (storedToken crates session.shim issued).expiresAt =
        some (issued.issuedAt + session.shim.tokenExpirySecs * 10 ^ 9) := by
  obtain ⟨⟨mac, keyed⟩, inRange, _⟩ := tracked.formed issued member
  refine ⟨mac, keyed, ?_, roundTrips _ inRange⟩
  simp only [storedToken, AuthShim.hmacHash, keyed, Option.map_some, Option.getD_some]
  exact Text.hexDecode_hexEncode _

theorem Tracked.authentic (tracked : Tracked crates session) (roundTrips : crates.RoundTrips)
    {call : Call} (promised : Promised crates session call) : Authentic crates session call := by
  cases call with
  | createToken user role sourceIp id secret now => trivial
  | revokeToken tokenId => trivial
  | validateToken token now =>
      intro user role
      refine validateToken_authenticated.trans ⟨?_, ?_⟩
      · rintro ⟨id, rest, stored, hash, mac, _, held, decoded, keyed, verified, lasts, admitted,
          rfl, rfl⟩
        obtain ⟨issued, alive, rfl⟩ := tracked.stored_iff.mp held
        obtain ⟨later, earlier, split, kept⟩ := live_split alive
        have member : issued ∈ issuedOf session.history :=
          mem_issuedOf.mpr (by rw [split]; exact List.mem_append_right _ List.mem_cons_self)
        obtain ⟨other, keyedOther, hashed, expiry⟩ := tracked.decoded roundTrips member
        rw [keyed] at keyedOther
        cases keyedOther
        rw [decoded] at hashed
        cases hashed
        rw [expiry] at lasts
        exact ⟨later, issued, earlier, split, (promised mac keyed issued member verified).symm, rfl,
          rfl, live_id alive ▸ kept, lasts, admitted⟩
      · rintro ⟨later, issued, earlier, split, rfl, rfl, rfl, kept, lasts, admitted⟩
        have member : issued ∈ issuedOf session.history :=
          mem_issuedOf.mpr (by rw [split]; exact List.mem_append_right _ List.mem_cons_self)
        have alive := (live_eq_some_iff tracked.unique).mpr ⟨later, earlier, split, kept⟩
        obtain ⟨mac, keyed, hashed, expiry⟩ := tracked.decoded roundTrips member
        obtain ⟨_, _, id, secret, named, formed⟩ := tracked.formed issued member
        refine ⟨issued.id, secret.text, storedToken crates session.shim issued, _, mac, ?_,
          tracked.stored_iff.mpr ⟨issued, alive, rfl⟩, hashed, keyed, rfl, ?_, admitted, rfl, rfl⟩
        · rw [formed, named]
          exact Text.splitOnce_append id.dotless
        · rw [expiry]
          exact lasts

/-! ## Every history -/

/-- A shim as it is built, with the expiry and the key that the environment sets. -/
def Session.start (tokenExpirySecs : Nat) (hmacKey : List UInt8) : Session where
  shim := { tokenExpirySecs, hmacKey }

def Counted (session : Session) : Prop :=
  session.shim.authSuccess + session.shim.authFailure = session.validations

theorem Tracked.start {tokenExpirySecs : Nat} (ranged : tokenExpirySecs ≤ maxDurationSecs)
    (hmacKey : List UInt8) : Tracked crates (.start tokenExpirySecs hmacKey) where
  table _ := rfl
  unique := List.nodup_nil
  formed issued member := by cases member
  ranged := ranged

theorem Counted.step {call : Call} (counted : Counted session)
    (taken : (machine crates).step session call = some next) : Counted next := by
  cases call with
  | validateToken token now =>
      cases taken
      obtain ⟨_, _, _, count⟩ := validateToken_frame crates session.shim token now
      exact count.trans (congrArg (· + 1) counted)
  | revokeToken tokenId =>
      cases taken
      exact counted
  | createToken user role sourceIp id secret now =>
      obtain ⟨result, created, reached⟩ := Option.map_eq_some_iff.mp taken
      obtain ⟨hash, _, created⟩ := Option.bind_eq_some_iff.mp created
      obtain ⟨lifetime, _, created⟩ := Option.bind_eq_some_iff.mp created
      obtain ⟨_, made⟩ := Option.ite_none_right_eq_some.mp created
      subst reached
      cases made
      exact counted

/-- Instants from the epoch on, as strokes, and a code that is the message. -/
def plainCrates : Crates where
  newFromSlice _ := some fun message => message
  representable instant := decide (0 ≤ instant)
  toRfc3339 instant := String.ofList (List.replicate instant.toNat '|')
  parse text := some text.toList.length

theorem plainCrates_roundTrips : plainCrates.RoundTrips := by
  intro instant later
  have nonnegative : 0 ≤ instant := of_decide_eq_true later
  simp only [plainCrates, String.toList_ofList, List.length_replicate,
    Int.toNat_of_nonneg nonnegative]

def annId : Uuid := ⟨"8c1f", by decide⟩

def annSecret : Uuid := ⟨"07b2", by decide⟩

end Evergreen.Auth
