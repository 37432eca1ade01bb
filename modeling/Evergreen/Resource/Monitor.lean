import Evergreen.Binary64.Ratio
import Evergreen.Word.Usize

namespace Evergreen.Resource

open Evergreen.Binary64
open Evergreen.Usize (Panic)

/-! # Resource quotas

`ResourceMonitor` reads the usage of the process and sets it against the limits
of its quota.  Each limit is judged by the ratio of two doubles.
-/

structure ResourceQuota where
  maxMemoryBytes : Option UInt64 := none
  maxCpuPercent : Option Float := none
  maxOpenFiles : Option UInt32 := none
  maxConnections : Option UInt32 := none

structure ResourceUsage where
  memoryBytes : Option UInt64 := none
  cpuPercent : Option Float := none
  openFiles : Option UInt32 := none
  cpuUserTime : Option UInt64 := none
  cpuSystemTime : Option UInt64 := none

/-- The gauges of the registry. -/
structure ResourceMetrics where
  memoryBytes : Float := 0
  cpuPercent : Float := 0
  openFiles : Float := 0
  cpuUserTime : Float := 0
  cpuSystemTime : Float := 0

/-- `prevWallTime` is a reading of the monotonic clock, in microseconds. -/
structure ResourceMonitor where
  quota : ResourceQuota
  metrics : Option ResourceMetrics := none
  prevCpuUser : Option UInt64 := none
  prevCpuSystem : Option UInt64 := none
  prevWallTime : Option Nat := none

/-- What `/proc/self` and the clock say during one call. -/
structure Reading where
  vmRss : Option UInt64
  fdCount : Option UInt32
  cpuTimes : Option (UInt64 × UInt64)
  elapsedAt : Nat
  sampledAt : Nat

/-- How one limit is judged: above it, above 80% of it, or neither. -/
inductive Verdict where
  | exceeded
  | warning
  | within
deriving DecidableEq, Repr

def judge (ratio : Float) : Verdict :=
  if ratio > 1.0 then .exceeded else if ratio > 0.8 then .warning else .within

namespace ResourceQuota

def judgeMemory (quota : ResourceQuota) (usage : ResourceUsage) : Verdict :=
  match usage.memoryBytes, quota.maxMemoryBytes with
  | some memory, some max => judge (memory.toFloat / max.toFloat)
  | _, _ => .within

def judgeOpenFiles (quota : ResourceQuota) (usage : ResourceUsage) : Verdict :=
  match usage.openFiles, quota.maxOpenFiles with
  | some openFiles, some max => judge (openFiles.toFloat / max.toFloat)
  | _, _ => .within

end ResourceQuota

namespace ResourceMonitor

def saturatingSub (value previous : UInt64) : UInt64 :=
  if previous ≤ value then value - previous else 0

/-- The CPU time since the last reading over the wall time, both in the units
they were read in. -/
def cpuPercent (checks : Bool) (monitor : ResourceMonitor) (user system : UInt64) (elapsedAt : Nat) :
    Except Panic (Option Float) :=
  match monitor.prevCpuUser, monitor.prevCpuSystem, monitor.prevWallTime with
  | some prevUser, some prevSystem, some prevWall =>
      let deltaWall := UInt64.ofNat (elapsedAt - prevWall)
      if 0 < deltaWall then do
        let totalCpu ← Usize.add checks (saturatingSub user prevUser).toNat
          (saturatingSub system prevSystem).toNat
        return some ((UInt64.ofNat totalCpu).toFloat / deltaWall.toFloat * 100.0)
      else .ok none
  | _, _, _ => .ok none

def readUsage (checks : Bool) (monitor : ResourceMonitor) (reading : Reading) :
    Except Panic (ResourceUsage × ResourceMonitor) :=
  match reading.cpuTimes with
  | none => .ok ({ memoryBytes := reading.vmRss, openFiles := reading.fdCount }, monitor)
  | some (user, system) => do
      let cpuPercent ← monitor.cpuPercent checks user system reading.elapsedAt
      return ({ memoryBytes := reading.vmRss
                cpuPercent
                openFiles := reading.fdCount
                cpuUserTime := some user
                cpuSystemTime := some system },
        { monitor with
          prevCpuUser := some user
          prevCpuSystem := some system
          prevWallTime := some reading.sampledAt })

def updateMetrics (usage : ResourceUsage) (metrics : ResourceMetrics) : ResourceMetrics where
  memoryBytes := (usage.memoryBytes.map UInt64.toFloat).getD metrics.memoryBytes
  cpuPercent := usage.cpuPercent.getD metrics.cpuPercent
  openFiles := (usage.openFiles.map UInt32.toFloat).getD metrics.openFiles
  cpuUserTime := (usage.cpuUserTime.map UInt64.toFloat).getD metrics.cpuUserTime
  cpuSystemTime := (usage.cpuSystemTime.map UInt64.toFloat).getD metrics.cpuSystemTime

/-- `check_quotas` once the usage is read. -/
def checkUsage (monitor : ResourceMonitor) (usage : ResourceUsage) : Bool × ResourceMonitor :=
  let allOk := true
  let allOk := if monitor.quota.judgeMemory usage = .exceeded then false else allOk
  let allOk := if monitor.quota.judgeOpenFiles usage = .exceeded then false else allOk
  (allOk, { monitor with metrics := monitor.metrics.map (updateMetrics usage) })

def checkQuotas (checks : Bool) (monitor : ResourceMonitor) (reading : Reading) :
    Except Panic (Bool × ResourceMonitor) := do
  let (usage, monitor) ← monitor.readUsage checks reading
  return monitor.checkUsage usage

end ResourceMonitor

/-! ## What is exceeded, and what is seen -/

/-- A measured value is above its limit. -/
def Above {Value : Type} [LT Value] (measured limit : Option Value) : Prop :=
  ∃ value max, measured = some value ∧ limit = some max ∧ max < value

/-- The memory in use is above its limit also as a double. -/
def MemorySeen (quota : ResourceQuota) (usage : ResourceUsage) : Prop :=
  ∃ memory max, usage.memoryBytes = some memory ∧ quota.maxMemoryBytes = some max ∧
    nearest max.toNat < nearest memory.toNat

def Exceeded (quota : ResourceQuota) (usage : ResourceUsage) : Prop :=
  Above usage.memoryBytes quota.maxMemoryBytes ∨ Above usage.cpuPercent quota.maxCpuPercent ∨
    Above usage.openFiles quota.maxOpenFiles

variable {quota : ResourceQuota} {usage : ResourceUsage} {monitor next : ResourceMonitor}
variable {checks : Bool} {reading : Reading}

theorem judge_eq_exceeded {ratio : Float} : judge ratio = .exceeded ↔ 1.0 < ratio := by
  simp only [judge]
  split
  case isTrue above => exact iff_of_true rfl above
  case isFalse below => split <;> exact iff_of_false nofun below

theorem judgeMemory_eq_exceeded : quota.judgeMemory usage = .exceeded ↔ MemorySeen quota usage := by
  simp only [ResourceQuota.judgeMemory, MemorySeen]
  split
  case h_1 memory max measured limited =>
      rw [judge_eq_exceeded, measured, limited]
      refine (one_lt_ratio_iff memory.toNat_lt max.toNat_lt).trans ⟨fun seen => ?_, ?_⟩
      · exact ⟨memory, max, rfl, rfl, seen⟩
      · rintro ⟨_, _, ⟨⟩, ⟨⟩, seen⟩
        exact seen
  case h_2 missing =>
      refine iff_of_false nofun ?_
      rintro ⟨memory, max, measured, limited, _⟩
      exact missing memory max measured limited

theorem nearest_toNat (value : UInt32) : nearest value.toNat = value.toNat :=
  nearest_eq_self (Nat.lt_trans value.toNat_lt (by decide))

theorem judgeOpenFiles_eq_exceeded :
    quota.judgeOpenFiles usage = .exceeded ↔ Above usage.openFiles quota.maxOpenFiles := by
  simp only [ResourceQuota.judgeOpenFiles, Above]
  split
  case h_1 openFiles max measured limited =>
      have seen := @one_lt_ratio_iff openFiles.toNat max.toNat
        (Nat.lt_trans openFiles.toNat_lt (by decide)) (Nat.lt_trans max.toNat_lt (by decide))
      rw [nearest_toNat, nearest_toNat] at seen
      rw [judge_eq_exceeded, measured, limited]
      refine seen.trans ⟨fun above => ?_, ?_⟩
      · exact ⟨openFiles, max, rfl, rfl, above⟩
      · rintro ⟨_, _, ⟨⟩, ⟨⟩, above⟩
        exact above
  case h_2 missing =>
      refine iff_of_false nofun ?_
      rintro ⟨openFiles, max, measured, limited, _⟩
      exact missing openFiles max measured limited

theorem above_of_memorySeen (seen : MemorySeen quota usage) :
    Above usage.memoryBytes quota.maxMemoryBytes := by
  obtain ⟨memory, max, measured, limited, ordered⟩ := seen
  refine ⟨memory, max, measured, limited, ?_⟩
  by_contra low
  exact Nat.not_lt.mpr (nearest_mono (UInt64.not_lt.mp low)) ordered

/-- A limit that a double holds hides nothing. -/
theorem memorySeen_of_above (above : Above usage.memoryBytes quota.maxMemoryBytes)
    (small : ∀ max, quota.maxMemoryBytes = some max → max.toNat < 2 ^ 53) : MemorySeen quota usage := by
  obtain ⟨memory, max, measured, limited, ordered⟩ := above
  refine ⟨memory, max, measured, limited, ?_⟩
  rw [nearest_eq_self (small max limited)]
  rcases Nat.lt_or_ge memory.toNat (2 ^ 53) with short | long
  · rw [nearest_eq_self short]
    exact ordered
  · calc max.toNat < 2 ^ 53 := small max limited
      _ ≤ 2 ^ memory.toNat.log2 :=
        Nat.pow_le_pow_right (by decide) ((Nat.le_log2 (by omega)).mpr long)
      _ ≤ nearest memory.toNat := (nearest_between (by omega)).1

namespace ResourceMonitor

theorem checkUsage_eq_false : (monitor.checkUsage usage).1 = false ↔
    MemorySeen monitor.quota usage ∨ Above usage.openFiles monitor.quota.maxOpenFiles := by
  rw [← judgeMemory_eq_exceeded, ← judgeOpenFiles_eq_exceeded]
  simp only [checkUsage]
  split
  case isTrue files => exact iff_of_true rfl (.inr files)
  case isFalse files =>
      split
      case isTrue memory => exact iff_of_true rfl (.inl memory)
      case isFalse memory => exact iff_of_false nofun (fun either => either.elim memory files)

theorem quota_readUsage (read : monitor.readUsage checks reading = .ok (usage, next)) :
    next.quota = monitor.quota := by
  simp only [readUsage] at read
  split at read
  · cases read
    rfl
  · obtain ⟨cpuPercent, _, read⟩ := Usize.bind_eq_ok.mp read
    cases read
    rfl

/-- The answer is false exactly when a limit is exceeded. -/
def Complete (monitor : ResourceMonitor) (usage : ResourceUsage) : Prop :=
  (monitor.checkUsage usage).1 = false ↔ Exceeded monitor.quota usage

/-- The check is complete where the open files are too many, the memory is seen
to be exceeded, or neither memory nor CPU is above its limit. -/
theorem complete_iff (monitor : ResourceMonitor) (usage : ResourceUsage) :
    monitor.Complete usage ↔
      Above usage.openFiles monitor.quota.maxOpenFiles ∨ MemorySeen monitor.quota usage ∨
        ¬ Above usage.memoryBytes monitor.quota.maxMemoryBytes ∧
          ¬ Above usage.cpuPercent monitor.quota.maxCpuPercent := by
  have seen := @above_of_memorySeen monitor.quota usage
  rw [Complete, checkUsage_eq_false, Exceeded]
  by_cases files : Above usage.openFiles monitor.quota.maxOpenFiles
  · exact iff_of_true (iff_of_true (.inr files) (.inr (.inr files))) (.inl files)
  · by_cases memory : MemorySeen monitor.quota usage
    · exact iff_of_true (iff_of_true (.inl memory) (.inl (seen memory))) (.inr (.inl memory))
    · refine ⟨fun complete => .inr (.inr ⟨fun above => ?_, fun above => ?_⟩), fun within => ?_⟩
      · exact (complete.mpr (.inl above)).elim memory files
      · exact (complete.mpr (.inr (.inl above))).elim memory files
      · obtain ⟨noMemory, noCpu⟩ := (within.resolve_left files).resolve_left memory
        exact iff_of_false (fun either => either.elim memory files)
          (fun either => either.elim noMemory fun rest => rest.elim noCpu files)

/-- Without a CPU limit, and with a memory limit that a double holds, nothing is
missed. -/
theorem complete_of_noCpuLimit (noCpuLimit : monitor.quota.maxCpuPercent = none)
    (small : ∀ max, monitor.quota.maxMemoryBytes = some max → max.toNat < 2 ^ 53) :
    monitor.Complete usage := by
  rw [complete_iff]
  by_cases memory : Above usage.memoryBytes monitor.quota.maxMemoryBytes
  · exact .inr (.inl (memorySeen_of_above memory small))
  · refine .inr (.inr ⟨memory, ?_⟩)
    rintro ⟨cpu, max, _, limited, _⟩
    cases noCpuLimit.symm.trans limited

/-- When the check of a snapshot is complete, and that `check_quotas` is this
check of what it reads. -/
theorem checkQuotas_complete_iff (monitor : ResourceMonitor) (usage : ResourceUsage) :
    (monitor.Complete usage ↔
      Above usage.openFiles monitor.quota.maxOpenFiles ∨ MemorySeen monitor.quota usage ∨
        ¬ Above usage.memoryBytes monitor.quota.maxMemoryBytes ∧
          ¬ Above usage.cpuPercent monitor.quota.maxCpuPercent) ∧
    ∀ checks reading next, monitor.readUsage checks reading = .ok (usage, next) →
      monitor.checkQuotas checks reading = .ok (next.checkUsage usage) ∧ next.quota = monitor.quota := by
  refine ⟨complete_iff monitor usage, fun checks reading next read => ⟨?_, quota_readUsage read⟩⟩
  simp only [checkQuotas, read]
  rfl

end ResourceMonitor

/-- A limit of 80% of one CPU, and nothing else. -/
def cpuLimited : ResourceMonitor where
  quota := { maxCpuPercent := some 80 }

theorem cpu_limit_unchecked : ¬ cpuLimited.Complete
    { memoryBytes := some 1048576, cpuPercent := some 90, openFiles := some 12 } := by
  intro complete
  have busy : (80 : Float) < 90 := by decide
  cases complete.mpr (.inr (.inl ⟨90, 80, rfl, rfl, busy⟩))

end Evergreen.Resource
