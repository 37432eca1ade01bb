import Mathlib.Data.Rat.Floor
import Mathlib.Data.List.Dedup

namespace Evergreen.Cost

/-! # The cost optimizer

Values are rationals.  How the source prints them is a parameter: a fixed number
of digits, and the shortest text.
-/

inductive RecommendationType where
  | rightSizeDown
  | rightSizeUp
  | idleResource
  | reservedCapacity
deriving DecidableEq, Repr

structure CostRecommendation where
  resourceId : String
  recommendationType : RecommendationType
  description : String
  currentValue : ℚ
  suggestedValue : ℚ
  unit : String
  estimatedSavingsMonthly : ℚ
  severity : String
deriving DecidableEq, Repr

structure UsageDataPoint where
  resourceId : String
  metricName : String
  value : ℚ
  recordedAt : String
deriving DecidableEq, Repr

structure Formats where
  fixed : Nat → ℚ → String
  display : ℚ → String

structure CostOptimizer where
  enabled : Bool
  usageHistory : List UsageDataPoint := []
  recommendations : List CostRecommendation := []
  underutilizedThreshold : ℚ := 10
  overutilizedThreshold : ℚ := 80
  analysisWindowDays : Nat := 7
deriving DecidableEq, Repr

def estimateSavings (current suggested : ℚ) : ℚ :=
  if current ≤ suggested then 0 else (current - suggested) / 10 * 50

def estimateMemorySavings (current suggested : ℚ) : ℚ :=
  if current ≤ suggested then 0 else (current - suggested) / (1024 * 1024 * 1024) * 30

def average (points : List ℚ) : ℚ := points.sum / points.length

namespace CostOptimizer

def uniqueResources (optimizer : CostOptimizer) : List String :=
  (optimizer.usageHistory.map UsageDataPoint.resourceId).dedup.mergeSort

def points (optimizer : CostOptimizer) (resourceId metricName : String) : List ℚ :=
  (optimizer.usageHistory.filter fun point =>
    point.resourceId = resourceId ∧ point.metricName = metricName).map UsageDataPoint.value

def below (optimizer : CostOptimizer) (points : List ℚ) : Nat :=
  points.countP (· < optimizer.underutilizedThreshold)

def above (optimizer : CostOptimizer) (points : List ℚ) : Nat :=
  points.countP (optimizer.overutilizedThreshold < ·)

def cpuDown (formats : Formats) (optimizer : CostOptimizer) (resourceId : String) (points : List ℚ) :
    CostRecommendation :=
  let avgCpu := average points
  let suggested := min (⌈avgCpu * 2⌉ : ℚ) 100
  { resourceId
    recommendationType := .rightSizeDown
    description := s!"CPU averaging {formats.fixed 1 avgCpu}% over {optimizer.below points} days, " ++
      s!"below {formats.display optimizer.underutilizedThreshold}% threshold. " ++
      "Consider reducing allocated CPU cores."
    currentValue := avgCpu
    suggestedValue := suggested
    unit := "percent"
    estimatedSavingsMonthly := estimateSavings avgCpu suggested
    severity := "low" }

def cpuUp (formats : Formats) (optimizer : CostOptimizer) (resourceId : String) (points : List ℚ) :
    CostRecommendation :=
  let avgCpu := average points
  { resourceId
    recommendationType := .rightSizeUp
    description := s!"CPU averaging {formats.fixed 1 avgCpu}% over {optimizer.above points} days, " ++
      s!"above {formats.display optimizer.overutilizedThreshold}% threshold. " ++
      "Consider increasing allocated CPU cores."
    currentValue := avgCpu
    suggestedValue := min (⌈avgCpu * (3 / 2)⌉ : ℚ) 100
    unit := "percent"
    estimatedSavingsMonthly := 0
    severity := "high" }

def idle (resourceId : String) (points : List ℚ) : CostRecommendation :=
  let avgCpu := average points
  let idleDays := points.countP (· < 1)
  { resourceId
    recommendationType := .idleResource
    description := s!"Resource idle (CPU < 1%) for {idleDays} days. " ++
      "Consider shutting down or consolidating."
    currentValue := avgCpu
    suggestedValue := 0
    unit := "percent"
    estimatedSavingsMonthly := estimateSavings avgCpu 0
    severity := "medium" }

def memoryDown (formats : Formats) (optimizer : CostOptimizer) (resourceId : String)
    (points : List ℚ) : CostRecommendation :=
  let avgMem := average points
  let suggested : ℚ := ⌈avgMem * 2⌉
  { resourceId
    recommendationType := .rightSizeDown
    description := s!"Memory usage averaging {formats.fixed 0 avgMem} bytes over " ++
      s!"{optimizer.below points} days, consistently low. Consider reducing allocated memory."
    currentValue := avgMem
    suggestedValue := suggested
    unit := "bytes"
    estimatedSavingsMonthly := estimateMemorySavings avgMem suggested
    severity := "low" }

def cpuRecommendations (formats : Formats) (optimizer : CostOptimizer) (resourceId : String)
    (points : List ℚ) : List CostRecommendation :=
  if points = [] then [] else
    (if optimizer.analysisWindowDays ≤ optimizer.below points then
      [optimizer.cpuDown formats resourceId points] else []) ++
    (if optimizer.analysisWindowDays ≤ optimizer.above points then
      [optimizer.cpuUp formats resourceId points] else []) ++
    (if optimizer.analysisWindowDays ≤ points.countP (· < 1) ∧
        optimizer.analysisWindowDays ≤ points.length then
      [idle resourceId points] else [])

def memoryRecommendations (formats : Formats) (optimizer : CostOptimizer) (resourceId : String)
    (points : List ℚ) : List CostRecommendation :=
  if points = [] then [] else
    if optimizer.analysisWindowDays ≤ optimizer.below points then
      [optimizer.memoryDown formats resourceId points] else []

def analyzeResource (formats : Formats) (optimizer : CostOptimizer) (resourceId : String) :
    List CostRecommendation :=
  optimizer.cpuRecommendations formats resourceId (optimizer.points resourceId "cpu_percent") ++
    optimizer.memoryRecommendations formats resourceId (optimizer.points resourceId "memory_bytes")

/-- A disabled optimizer keeps the recommendations it has and returns none. -/
def analyze (formats : Formats) (optimizer : CostOptimizer) :
    CostOptimizer × List CostRecommendation :=
  if optimizer.enabled then
    let recommendations := optimizer.uniqueResources.flatMap (optimizer.analyzeResource formats)
    ({ optimizer with recommendations }, recommendations)
  else (optimizer, [])

end CostOptimizer

end Evergreen.Cost
