import Evergreen.Auth.Shim
import Evergreen.Machine.Run
import Evergreen.Settings.Validate

namespace Evergreen.Vault

open Evergreen.Auth (asI64 durationSeconds utf8)
open Evergreen.Settings (Checks Config ConfigValidationError Env validationEnabled)

/-! # Rotating secrets

`start` rotates once and leaves the rest to a loop with a shim of its own.
Requests and writes take their time, so a loop of an earlier `start` may still
be at one when the next begins.
-/

/-- What a rotation reads of the shim. -/
structure Rotation where
  vaultAddr : String := "https://127.0.0.1:8200"
  vaultToken : String := ""
  vaultRole : String := ""
  vaultSecret : String := ""
  vaultKey : String := "password"
  vaultMount : String := "secret"
  outputFile : Option String := none
  rotationSecs : Nat := 3600
deriving DecidableEq, Repr

structure Credentials where
  username : String
  password : String
deriving DecidableEq, Repr

inductive Request where
  | post (url token : String)
  | get (url token : String)
deriving DecidableEq, Repr

inductive Value where
  | string (text : String)
  | other
deriving DecidableEq, Repr

/-- What is no object has no fields. -/
abbrev Fields := String → Option Value

def Fields.text (fields : Fields) (key default : String) : String :=
  match fields key with
  | some (.string text) => text
  | some .other | none => default

/-- The body of an answer: `lease_duration` where it is a `u64`, the fields of
`data`, and those of the `data` in it where both are objects. -/
structure Body where
  leaseDuration : Option Nat
  data : Fields
  secret : Option Fields

/-- What `write_credentials` writes. -/
def Credentials.content (credentials : Credentials) : List UInt8 :=
  utf8 (credentials.username ++ ":" ++ credentials.password ++ "\n")

inductive Fetched where
  | credentials (credentials : Credentials)
  | failed
  | panicked
deriving DecidableEq, Repr

namespace Rotation

def new (env : Env) : Rotation where
  vaultAddr := (env "VAULT_ADDR").getD "https://127.0.0.1:8200"
  vaultToken := (env "VAULT_TOKEN").getD ""
  vaultRole := (env "VAULT_ROLE").getD ""
  vaultSecret := (env "VAULT_SECRET").getD ""
  vaultKey := (env "VAULT_KEY").getD "password"
  vaultMount := (env "VAULT_MOUNT").getD "secret"
  outputFile := env "VAULT_OUTPUT_FILE"
  rotationSecs := ((env "VAULT_ROTATION_SECS").bind Text.parseU64).getD 3600

def vaultErrors (errors : List ConfigValidationError) : List ConfigValidationError :=
  errors.filter fun error => Text.startsWith "vault." error.field

def init {Percent : Type} (env : Env) (checks : Checks Percent) (rotation : Rotation)
    (config : Config Percent) : Except String Rotation :=
  let errors := vaultErrors (config.validate checks)
  if validationEnabled env ∧ errors ≠ [] then
    .error ("vault config validation failed: " ++
      "; ".intercalate (errors.map ConfigValidationError.display))
  else
    .ok (match config.vault with
      | some vault =>
          { rotation with
            vaultAddr := vault.addr
            vaultRole := vault.role
            vaultSecret := vault.secret
            rotationSecs := vault.rotationSecs }
      | none => rotation)

variable (rotation : Rotation)

def request : Option Request :=
  if rotation.vaultRole ≠ "" then
    some (.post s!"{rotation.vaultAddr}/v1/database/creds/{rotation.vaultRole}" rotation.vaultToken)
  else if rotation.vaultSecret ≠ "" then
    some (.get s!"{rotation.vaultAddr}/v1/{rotation.vaultMount}/{rotation.vaultSecret}"
      rotation.vaultToken)
  else none

def readSecret (body : Body) : Fetched :=
  match body.secret with
  | some data =>
      .credentials ⟨data.text "username" "postgres", data.text rotation.vaultKey ""⟩
  | none => .failed

/-- The end of the lease, which nobody reads, has to be a date. -/
def generateDynamic (representable : Int → Bool) (now : Int) (body : Body) : Fetched :=
  match durationSeconds (asI64 (body.leaseDuration.getD 3600)) with
  | some lease =>
      if representable (now + lease) then
        .credentials ⟨body.data.text "username" "", body.data.text "password" ""⟩
      else .panicked
  | none => .panicked

/-- `answer` is the body of an answer of success that parses. -/
def fetched (representable : Int → Bool) (now : Int) (answer : Option Body) : Fetched :=
  match answer with
  | none => .failed
  | some body =>
      if rotation.vaultRole ≠ "" then generateDynamic representable now body
      else rotation.readSecret body

end Rotation

/-! ## Files -/

/-- A file between `create` and the end of `write_all`, which then wrote this
many bytes. -/
structure Opening where
  path : String
  credentials : Credentials
  written : Option Nat := none
deriving DecidableEq, Repr

/-- The files, and every opening so far. -/
structure Disk where
  files : String → Option (List UInt8)
  openings : List Opening := []

namespace Disk

variable (disk : Disk)

def create (path : String) (credentials : Credentials) : Disk where
  files := Function.update disk.files path (some [])
  openings := disk.openings ++ [{ path, credentials }]

/-- One write at the start of the file, of so many bytes of the content. -/
def write (index : Nat) (reached : Nat) : Disk :=
  match disk.openings[index]? with
  | none => disk
  | some opening =>
      let bytes := opening.credentials.content.take reached
      { files := Function.update disk.files opening.path
          ((disk.files opening.path).map fun content => bytes ++ content.drop bytes.length)
        openings := disk.openings.set index { opening with written := some reached } }

end Disk

/-! ## A rotation -/

/-- Where a shim is in `rotate`.  A rotation that is done has the time of its
success, if it was one. -/
inductive Phase where
  | idle
  | requesting
  | writing (opening : Nat)
  | done (rotated : Option Int)
  | ended
deriving DecidableEq, Repr

/-- `attempts` is the history of the rotations that returned. -/
structure VaultShim where
  rotation : Rotation
  lastRotation : Option Int := none
  rotationSuccess : Nat := 0
  rotationFailure : Nat := 0
  phase : Phase := .idle
  attempts : List (Option Int) := []
deriving DecidableEq, Repr

namespace VaultShim

variable (shim : VaultShim) (now : Int)

def succeed : VaultShim :=
  { shim with
    lastRotation := some now
    rotationSuccess := (shim.rotationSuccess + 1) % 2 ^ 64
    phase := .done (some now)
    attempts := shim.attempts ++ [some now] }

/-- `start` and the loop count a failure alike. -/
def fail : VaultShim :=
  { shim with
    rotationFailure := (shim.rotationFailure + 1) % 2 ^ 64
    phase := .done none
    attempts := shim.attempts ++ [none] }

def rotate : VaultShim :=
  match shim.rotation.request with
  | some _ => { shim with phase := .requesting }
  | none => shim.fail

/-- The answer is there, and the file opens or does not. -/
def receive (disk : Disk) (fetched : Fetched) (created : Bool) : VaultShim × Disk :=
  match fetched with
  | .failed => (shim.fail, disk)
  | .panicked => ({ shim with phase := .ended }, disk)
  | .credentials credentials =>
      match shim.rotation.outputFile with
      | none => (shim.succeed now, disk)
      | some path =>
          if created then
            ({ shim with phase := .writing disk.openings.length }, disk.create path credentials)
          else (shim.fail, disk)

def write (disk : Disk) (index reached : Nat) : VaultShim × Disk :=
  let whole := (disk.openings[index]?).all fun opening =>
    opening.credentials.content.length ≤ reached
  (if whole then shim.succeed now else shim.fail, disk.write index reached)

end VaultShim

/-! ## The shim and its loops -/

/-- A loop that is told finds the channel changed or closed at its next `select!`,
unless that takes the tick. -/
structure Loop where
  shim : VaultShim
  told : Bool := false
deriving DecidableEq, Repr

/-- `sender` is the loop that listens to `shutdown_tx`.  `configured` are the
settings the shim has had, `served` what Vault gave out. -/
structure Host where
  shim : VaultShim
  loops : List Loop := []
  sender : Option Nat := none
  disk : Disk
  configured : List Rotation
  served : List (Request × Credentials) := []

/-- `none` is the shim itself. -/
abbrev Worker := Option Nat

inductive Label (Percent : Type) where
  | init (config : Config Percent)
  | start
  | tick (index : Nat)
  | receive (worker : Worker) (answer : Option Body) (created : Bool) (now : Int)
  | write (worker : Worker) (reached : Nat) (now : Int)
  /-- `start` goes on after its rotation. -/
  | spawn
  /-- A panic leaves `start`. -/
  | unwind
  /-- A loop goes back to its `select!`. -/
  | resume (index : Nat)
  | notice (index : Nat)
  | stop

/-- The shim of a loop; its interval panics on a period of zero. -/
def VaultShim.ofLoop (rotation : Rotation) : VaultShim where
  rotation := rotation
  phase := if rotation.rotationSecs = 0 then .ended else .idle

def handed : Option Request → Fetched → List (Request × Credentials)
  | some request, .credentials credentials => [(request, credentials)]
  | some _, .failed | some _, .panicked | none, _ => []

namespace Host

def new (rotation : Rotation) (files : String → Option (List UInt8)) : Host where
  shim := { rotation }
  disk := { files }
  configured := [rotation]

variable (host : Host)

def worker : Worker → Option VaultShim
  | none => some host.shim
  | some index => (host.loops[index]?).map Loop.shim

def setWorker (worker : Worker) (shim : VaultShim) : Host :=
  match worker with
  | none => { host with shim }
  | some index => { host with loops := host.loops.modify index fun loop => { loop with shim } }

def tell : Host :=
  { host with
    loops := host.sender.elim host.loops fun index =>
      host.loops.modify index fun loop => { loop with told := true }
    sender := none }

/-- The new channel takes the place of the old one, which closes. -/
def spawn : Host :=
  { host.tell with
    shim := { host.shim with phase := .idle }
    loops := host.tell.loops ++ [{ shim := .ofLoop host.shim.rotation }]
    sender := some host.loops.length }

def init {Percent : Type} (env : Env) (checks : Checks Percent) (config : Config Percent) : Host :=
  match host.shim.rotation.init env checks config with
  | .ok rotation =>
      { host with
        shim := { host.shim with rotation }
        configured := host.configured ++ [rotation] }
  | .error _ => host

def receive (representable : Int → Bool) (worker : Worker) (shim : VaultShim)
    (answer : Option Body) (created : Bool) (now : Int) : Host :=
  let fetched := shim.rotation.fetched representable now answer
  let received := shim.receive now host.disk fetched created
  { host.setWorker worker received.1 with
    disk := received.2
    served := host.served ++ handed shim.rotation.request fetched }

def write (worker : Worker) (shim : VaultShim) (index reached : Nat) (now : Int) : Host :=
  let written := shim.write now host.disk index reached
  { host.setWorker worker written.1 with disk := written.2 }

/-- One call of `init`, `start` or `stop` at a time. -/
def step {Percent : Type} (env : Env) (checks : Checks Percent) (representable : Int → Bool) :
    Label Percent → Option Host
  | .init config => if host.shim.phase = .idle then some (host.init env checks config) else none
  | .start =>
      if host.shim.phase = .idle then some (host.setWorker none host.shim.rotate) else none
  | .stop => if host.shim.phase = .idle then some host.tell else none
  | .unwind =>
      if host.shim.phase = .ended then
        some (host.setWorker none { host.shim with phase := .idle })
      else none
  | .spawn =>
      match host.shim.phase with
      | .done _ => some host.spawn
      | .idle | .requesting | .writing _ | .ended => none
  | .tick index =>
      (host.worker (some index)).bind fun shim =>
        if shim.phase = .idle then some (host.setWorker (some index) shim.rotate) else none
  | .resume index =>
      (host.worker (some index)).bind fun shim =>
        match shim.phase with
        | .done _ => some (host.setWorker (some index) { shim with phase := .idle })
        | .idle | .requesting | .writing _ | .ended => none
  | .notice index =>
      host.loops[index]?.bind fun loop =>
        if loop.told ∧ loop.shim.phase = .idle then
          some (host.setWorker (some index) { loop.shim with phase := .ended })
        else none
  | .receive worker answer created now =>
      (host.worker worker).bind fun shim =>
        if shim.phase = .requesting then
          some (host.receive representable worker shim answer created now)
        else none
  | .write worker reached now =>
      (host.worker worker).bind fun shim =>
        match shim.phase with
        | .writing index => some (host.write worker shim index reached now)
        | .idle | .requesting | .done _ | .ended => none

end Host

def machine {Percent : Type} (env : Env) (checks : Checks Percent) (representable : Int → Bool) :
    Machine Host (Label Percent) where
  step host := host.step env checks representable

end Evergreen.Vault
