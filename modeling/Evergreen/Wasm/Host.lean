import Evergreen.Text.Utf8Lossy
import Evergreen.Word.Usize
import Mathlib.Logic.Function.Basic

namespace Evergreen.Wasm

open Evergreen.Usize (Panic)

/-! # The host imports of the WASM runtime

A guest hands the host a pointer and a length into its linear memory.  The
store decides whether a memory may grow: the limiter of the shim, the maximum
of the memory's type, and the allocation, which is the environment's.
-/

/-- A linear memory: whole pages, within its type and a 32-bit address space. -/
structure Memory where
  data : List UInt8
  maximum : Nat
  wholePages : data.length % 65536 = 0
  bounded : data.length ≤ maximum * 65536
  addressable : maximum ≤ 65536

structure StoreState where
  logBuffer : List String := []
  metrics : String → Option Float := fun _ => none
  config : String → Option String := fun _ => none
  maxMemoryPages : Option Nat := some 256
  /-- A string is one allocation. -/
  configBounded : ∀ key value, config key = some value → value.utf8ByteSize < 2 ^ 63

inductive TraceLevel where
  | trace
  | debug
  | info
  | warn
  | error
deriving DecidableEq, Repr

def TraceLevel.ofGuest (level : Int32) : TraceLevel :=
  if level = 0 then .trace
  else if level = 1 then .debug
  else if level = 2 then .info
  else if level = 3 then .warn
  else .error

def TraceLevel.text : TraceLevel → String
  | .trace => "TRACE"
  | .debug => "DEBUG"
  | .info => "INFO"
  | .warn => "WARN"
  | .error => "ERROR"

/-- What a host function reaches: the exported memory, if the guest exports
one, the data of the store, and the lines it has traced. -/
structure Caller where
  memory : Option Memory
  state : StoreState
  traced : List (TraceLevel × String) := []

/-- `MemoryLimiter::memory_growing`. -/
def memoryGrowing (maxMemoryPages : Option Nat) (desired : Nat) : Bool :=
  match maxMemoryPages with
  | some maxPages => decide (desired / 65536 % 2 ^ 32 ≤ maxPages)
  | none => true

namespace Memory

def grow (memory : Memory) (limit : Option Nat) (allocates : Bool) (delta : Nat) : Option Memory :=
  if fits : memory.data.length + delta * 65536 ≤ memory.maximum * 65536 then
    if memoryGrowing limit (memory.data.length + delta * 65536) && allocates then
      some { memory with
        data := memory.data ++ List.replicate (delta * 65536) 0
        wholePages := by
          have whole := memory.wholePages
          simp only [List.length_append, List.length_replicate]
          omega
        bounded := by
          simpa only [List.length_append, List.length_replicate] using fits }
    else none
  else none

/-- Room for the value behind what is there: `config_get` counts pages in `u32`. -/
def reserve (memory : Memory) (checks : Bool) (limit : Option Nat) (allocates : Bool)
    (valueLength : Nat) : Except Panic (Option Memory) := do
  let currentPages := memory.data.length % 2 ^ 32 / 65536
  let total ← Usize.add checks memory.data.length valueLength
  let total ← Usize.add checks total 4
  let needed := total % 2 ^ 32 / 65536 + 1
  if currentPages < needed then
    return memory.grow limit allocates (needed - currentPages)
  else
    return some memory

def withData (memory : Memory) (data : List UInt8) (same : data.length = memory.data.length) :
    Memory where
  data := data
  maximum := memory.maximum
  wholePages := same ▸ memory.wholePages
  bounded := same ▸ memory.bounded
  addressable := memory.addressable

def leBytes (value : Nat) : List UInt8 :=
  [UInt8.ofNat value, UInt8.ofNat (value / 2 ^ 8), UInt8.ofNat (value / 2 ^ 16),
    UInt8.ofNat (value / 2 ^ 24)]

/-- `data_mut[start..stop].copy_from_slice(source)`; the size stays. -/
def copyFromSlice (memory : Memory) (start stop : Nat) (source : List UInt8) :
    Except Panic Memory :=
  match copied : Usize.copyFromSlice memory.data start stop source with
  | .error panic => .error panic
  | .ok data => .ok (memory.withData data (Usize.copyFromSlice_ok copied).2.2)

/-- The length in four bytes and then the value, at the very end of the memory. -/
def placeValue (memory : Memory) (checks : Bool) (value : List UInt8) :
    Except Panic (Nat × Memory) := do
  let rest ← Usize.sub checks memory.data.length value.length
  let ptr ← Usize.sub checks rest 4
  let header ← Usize.add checks ptr 4
  let memory ← memory.copyFromSlice ptr header (leBytes (value.length % 2 ^ 32))
  let memory ← memory.copyFromSlice header memory.data.length value
  return (ptr, memory)

end Memory

/-- The range check the three imports share, and the slice it admits. -/
def readGuest (checks : Bool) (data : List UInt8) (ptr len : Int32) :
    Except Panic (Option (List UInt8)) := do
  let start := Usize.ofI32 ptr
  let stop ← Usize.add checks start (Usize.ofI32 len)
  if stop ≤ data.length then
    let bytes ← Usize.slice data start stop
    return some bytes
  else
    return none

namespace Caller

def pushLog (caller : Caller) (level : Int32) (message : String) : Caller :=
  let level := TraceLevel.ofGuest level
  { caller with
    state := { caller.state with logBuffer := caller.state.logBuffer ++ [message] }
    traced := caller.traced ++ [(level, "[WASM] " ++ level.text ++ ": " ++ message)] }

def setMetric (caller : Caller) (name : String) (value : Float) : Caller :=
  { caller with
    state := { caller.state with
      metrics := Function.update caller.state.metrics name (some value) } }

/-- `host_log(level: i32, ptr: i32, len: i32)`. -/
def log (checks : Bool) (caller : Caller) (level ptr len : Int32) : Except Panic Caller :=
  match caller.memory with
  | none => .ok caller
  | some memory => do
      match ← readGuest checks memory.data ptr len with
      | some bytes => return caller.pushLog level (Text.fromUtf8Lossy bytes)
      | none => return caller

/-- `host_metrics_set(name_ptr: i32, name_len: i32, value: f64)`. -/
def metricsSet (checks : Bool) (caller : Caller) (namePtr nameLen : Int32) (value : Float) :
    Except Panic Caller :=
  match caller.memory with
  | none => .ok caller
  | some memory => do
      match ← readGuest checks memory.data namePtr nameLen with
      | some bytes => return caller.setMetric (Text.fromUtf8Lossy bytes) value
      | none => return caller

def valueBytes (value : String) : List UInt8 :=
  value.toUTF8.data.toList

/-- `config_get` once the value is known. -/
def writeValue (checks allocates : Bool) (caller : Caller) (memory : Memory) (value : String) :
    Except Panic (Int32 × Caller) := do
  match ← memory.reserve checks caller.state.maxMemoryPages allocates (valueBytes value).length with
  | none => return (-1, caller)
  | some grown =>
      let (ptr, written) ← grown.placeValue checks (valueBytes value)
      return (Int32.ofNat ptr, { caller with memory := some written })

/-- `config_get` once the bytes of the key are read. -/
def answerKey (checks allocates : Bool) (caller : Caller) (memory : Memory) (bytes : List UInt8) :
    Except Panic (Int32 × Caller) :=
  match caller.state.config (Text.fromUtf8Lossy bytes) with
  | none => .ok (-1, caller)
  | some value => caller.writeValue checks allocates memory value

/-- `host_config_get(key_ptr: i32, key_len: i32) -> i32`. -/
def configGet (checks allocates : Bool) (caller : Caller) (keyPtr keyLen : Int32) :
    Except Panic (Int32 × Caller) :=
  match caller.memory with
  | none => .ok (-1, caller)
  | some memory => do
      match ← readGuest checks memory.data keyPtr keyLen with
      | none => return (-1, caller)
      | some bytes => caller.answerKey checks allocates memory bytes

end Caller

end Evergreen.Wasm
