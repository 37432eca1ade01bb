import Mathlib.Logic.Function.Basic

namespace Evergreen.Process

/-! # The kernel's process table

A PID is a key into the table and is free again once its process has been
reaped.  A process keeps its serial number, so that two owners of one PID can be
told apart.
-/

inductive WaitStatus where
  | exited (code : Nat)
  | signaled (signal : Nat)
deriving DecidableEq, Repr

/-- The exit code a shell would report. -/
def WaitStatus.code : WaitStatus → Int
  | .exited value => value
  | .signaled signal => 128 + signal

inductive Signal where
  | sigterm
  | sigkill
  | other (number : Nat)
deriving DecidableEq, Repr

/-- A process with a status is a zombie.  `waitable` says that our `waitpid(-1)`
can reap it: it is our child, or a descendant that was reparented to us.
`signalled` remembers whether the shim has sent it a signal. -/
structure Process where
  serial : Nat
  status : Option WaitStatus
  waitable : Bool
  signalled : Bool
deriving DecidableEq, Repr

/-- What an open pidfd refers to: a process, whoever owns its PID later. -/
structure PidFd where
  pid : Nat
  serial : Nat
deriving DecidableEq, Repr

structure Kernel where
  table : Nat → Option Process
  nextSerial : Nat
  pidfds : Nat → Option PidFd

namespace Kernel

def empty : Kernel where
  table := fun _ => none
  nextSerial := 0
  pidfds := fun _ => none

def put (kernel : Kernel) (pid : Nat) (process : Option Process) : Kernel :=
  { kernel with table := Function.update kernel.table pid process }

@[simp] theorem table_put (kernel : Kernel) (pid : Nat) (process : Option Process) :
    (kernel.put pid process).table = Function.update kernel.table pid process := rfl

/-- A new process gets any PID that is not in the table. -/
def spawn (kernel : Kernel) (pid : Nat) (waitable : Bool) : Option (Kernel × Nat) :=
  match kernel.table pid with
  | some _ => none
  | none => some
      ({ kernel.put pid (some ⟨kernel.nextSerial, none, waitable, false⟩) with
          nextSerial := kernel.nextSerial + 1 },
        kernel.nextSerial)

def exit (kernel : Kernel) (pid : Nat) (status : WaitStatus) : Option Kernel :=
  match kernel.table pid with
  | some process =>
      match process.status with
      | none => some (kernel.put pid (some { process with status := some status }))
      | some _ => none
  | none => none

/-- A descendant whose parent died becomes ours to reap. -/
def adopt (kernel : Kernel) (pid : Nat) : Option Kernel :=
  (kernel.table pid).map fun process => kernel.put pid (some { process with waitable := true })

/-- Removes a zombie that `waitable` says belongs to the caller of `waitpid`. -/
def reap (kernel : Kernel) (pid : Nat) (waitable : Bool) : Option Kernel :=
  match kernel.table pid with
  | some process =>
      if process.status.isSome ∧ process.waitable = waitable then some (kernel.put pid none) else none
  | none => none

/-- `kill` finds zombies too; `denied` is a permission error. -/
def reaches (kernel : Kernel) (pid : Nat) (denied : Bool) : Bool :=
  (kernel.table pid).isSome && !denied

def markSignalled (kernel : Kernel) (pid : Nat) : Kernel :=
  match kernel.table pid with
  | some process => kernel.put pid (some { process with signalled := true })
  | none => kernel

/-- Whether `/proc/<pid>/status` exists and does not say zombie. -/
def running (kernel : Kernel) (pid : Nat) : Bool :=
  match kernel.table pid with
  | some process => process.status.isNone
  | none => false

/-- `pidfd_open` may be unavailable, and gives any unused descriptor. -/
def pidfdOpen (kernel : Kernel) (pid fd : Nat) : Option Kernel :=
  match kernel.table pid, kernel.pidfds fd with
  | some process, none =>
      some { kernel with pidfds := Function.update kernel.pidfds fd (some ⟨pid, process.serial⟩) }
  | _, _ => none

/-- Polling a pidfd: readable once its process has died.  A descriptor that is
not open is never readable. -/
def readable (kernel : Kernel) (fd : Nat) : Bool :=
  match kernel.pidfds fd with
  | some pidfd =>
      match kernel.table pidfd.pid with
      | some process => process.serial != pidfd.serial || process.status.isSome
      | none => true
  | none => false

def close (kernel : Kernel) (fd : Nat) : Kernel :=
  { kernel with pidfds := Function.update kernel.pidfds fd none }

variable {kernel after : Kernel} {pid : Nat}

theorem pidfds_reap {waitable : Bool} (reaped : kernel.reap pid waitable = some after) :
    after.pidfds = kernel.pidfds := by
  simp only [reap] at reaped
  split at reaped
  · split at reaped <;> cases reaped
    rfl
  · cases reaped

theorem pidfds_markSignalled : (kernel.markSignalled pid).pidfds = kernel.pidfds := by
  simp only [markSignalled]
  split <;> rfl

end Kernel

end Evergreen.Process
