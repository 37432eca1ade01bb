import Evergreen.Cost.Optimizer
import Mathlib.Tactic.Linarith

namespace Evergreen.Cost

/-! # Which recommendations make sense

The suggestion is twice the average, which is less than the average for no
resource that is used at all, unless the cap on a CPU percentage cuts it.
-/

/-- No resource is told to shrink and to grow its CPU, and who is told to shrink
is told a smaller value and saves by it. -/
structure Consistent (recommendations : List CostRecommendation) : Prop where
  oneWay : ∀ down ∈ recommendations, ∀ up ∈ recommendations, down.resourceId = up.resourceId →
    down.recommendationType = .rightSizeDown → down.unit = "percent" →
      up.recommendationType ≠ .rightSizeUp
  saves : ∀ down ∈ recommendations, down.recommendationType = .rightSizeDown →
    down.suggestedValue < down.currentValue ∧ 0 < down.estimatedSavingsMonthly

namespace CostOptimizer

/-- The points of a resource of which enough are low do not hold enough high
ones, and average above the cap, or -1/2 or less. -/
structure Sound (optimizer : CostOptimizer) (resourceId : String) : Prop where
  apart : optimizer.points resourceId "cpu_percent" ≠ [] →
    ¬ (optimizer.analysisWindowDays ≤ optimizer.below (optimizer.points resourceId "cpu_percent") ∧
      optimizer.analysisWindowDays ≤ optimizer.above (optimizer.points resourceId "cpu_percent"))
  cpu : optimizer.points resourceId "cpu_percent" ≠ [] →
    optimizer.analysisWindowDays ≤ optimizer.below (optimizer.points resourceId "cpu_percent") →
      100 < average (optimizer.points resourceId "cpu_percent") ∨
        average (optimizer.points resourceId "cpu_percent") ≤ -1 / 2
  memory : optimizer.points resourceId "memory_bytes" ≠ [] →
    optimizer.analysisWindowDays ≤ optimizer.below (optimizer.points resourceId "memory_bytes") →
      average (optimizer.points resourceId "memory_bytes") ≤ -1 / 2

end CostOptimizer

/-! ## Suggestions and savings -/

theorem ceil_double_lt_iff (value : ℚ) : (⌈value * 2⌉ : ℚ) < value ↔ value ≤ -1 / 2 := by
  constructor
  · intro less
    have upper : value * 2 ≤ ⌈value * 2⌉ := Int.le_ceil _
    have negative : ((⌈value * 2⌉ : ℤ) : ℚ) < 0 := by linarith
    have below : ⌈value * 2⌉ ≤ -1 := by
      have := Int.cast_lt_zero.mp negative
      omega
    have bound : ((⌈value * 2⌉ : ℤ) : ℚ) ≤ -1 := by exact_mod_cast below
    linarith
  · intro low
    rcases le_or_gt value (-1) with far | near
    · have upper := Int.ceil_lt_add_one (value * 2)
      linarith
    · have ceiling : ⌈value * 2⌉ ≤ -1 := Int.ceil_le.mpr (by push_cast; linarith)
      have bound : ((⌈value * 2⌉ : ℤ) : ℚ) ≤ -1 := by exact_mod_cast ceiling
      linarith

theorem estimateSavings_pos_iff (current suggested : ℚ) :
    0 < estimateSavings current suggested ↔ suggested < current := by
  rw [estimateSavings]
  split
  case isTrue less => exact iff_of_false (lt_irrefl 0) (not_lt.mpr less)
  case isFalse more =>
      have difference := not_le.mp more
      exact iff_of_true (by linarith) difference

theorem estimateMemorySavings_pos_iff (current suggested : ℚ) :
    0 < estimateMemorySavings current suggested ↔ suggested < current := by
  rw [estimateMemorySavings]
  split
  case isTrue less => exact iff_of_false (lt_irrefl 0) (not_lt.mpr less)
  case isFalse more =>
      have difference := not_le.mp more
      exact iff_of_true (by linarith) difference

namespace CostOptimizer

variable {formats : Formats} {optimizer : CostOptimizer} {resourceId : String} {points : List ℚ}
variable {recommendation : CostRecommendation}

theorem cpuDown_saves_iff : (cpuDown formats optimizer resourceId points).suggestedValue <
      (cpuDown formats optimizer resourceId points).currentValue ∧
    0 < (cpuDown formats optimizer resourceId points).estimatedSavingsMonthly ↔
      100 < average points ∨ average points ≤ -1 / 2 := by
  simp only [cpuDown, estimateSavings_pos_iff, and_self, min_lt_iff, ceil_double_lt_iff]
  exact or_comm

theorem memoryDown_saves_iff : (memoryDown formats optimizer resourceId points).suggestedValue <
      (memoryDown formats optimizer resourceId points).currentValue ∧
    0 < (memoryDown formats optimizer resourceId points).estimatedSavingsMonthly ↔
      average points ≤ -1 / 2 := by
  simp only [memoryDown, estimateMemorySavings_pos_iff, and_self, ceil_double_lt_iff]

/-! ## What an analysis recommends -/

/-- The recommendation is one of a resource, with the points that call for it. -/
inductive Recommends (formats : Formats) (optimizer : CostOptimizer) (resourceId : String) :
    CostRecommendation → Prop where
  | cpuDown (some : optimizer.points resourceId "cpu_percent" ≠ [])
      (low : optimizer.analysisWindowDays ≤
        optimizer.below (optimizer.points resourceId "cpu_percent")) :
      Recommends formats optimizer resourceId
        (optimizer.cpuDown formats resourceId (optimizer.points resourceId "cpu_percent"))
  | cpuUp (some : optimizer.points resourceId "cpu_percent" ≠ [])
      (high : optimizer.analysisWindowDays ≤
        optimizer.above (optimizer.points resourceId "cpu_percent")) :
      Recommends formats optimizer resourceId
        (optimizer.cpuUp formats resourceId (optimizer.points resourceId "cpu_percent"))
  | idle (some : optimizer.points resourceId "cpu_percent" ≠ [])
      (unused : optimizer.analysisWindowDays ≤
          (optimizer.points resourceId "cpu_percent").countP (· < 1) ∧
        optimizer.analysisWindowDays ≤ (optimizer.points resourceId "cpu_percent").length) :
      Recommends formats optimizer resourceId
        (idle resourceId (optimizer.points resourceId "cpu_percent"))
  | memoryDown (some : optimizer.points resourceId "memory_bytes" ≠ [])
      (low : optimizer.analysisWindowDays ≤
        optimizer.below (optimizer.points resourceId "memory_bytes")) :
      Recommends formats optimizer resourceId
        (optimizer.memoryDown formats resourceId (optimizer.points resourceId "memory_bytes"))

theorem mem_ite_singleton {condition : Prop} [Decidable condition] {item : CostRecommendation} :
    recommendation ∈ (if condition then [item] else []) ↔ condition ∧ recommendation = item := by
  split <;> simp_all

theorem mem_analyzeResource : recommendation ∈ optimizer.analyzeResource formats resourceId ↔
    Recommends formats optimizer resourceId recommendation := by
  rw [analyzeResource, List.mem_append, cpuRecommendations, memoryRecommendations]
  constructor
  · rintro (cpu | memory)
    · split at cpu
      case isTrue => cases cpu
      case isFalse some =>
          rw [List.mem_append, List.mem_append, mem_ite_singleton, mem_ite_singleton,
            mem_ite_singleton] at cpu
          rcases cpu with (⟨low, rfl⟩ | ⟨high, rfl⟩) | ⟨unused, rfl⟩
          · exact .cpuDown some low
          · exact .cpuUp some high
          · exact .idle some unused
    · split at memory
      case isTrue => cases memory
      case isFalse some =>
          obtain ⟨low, rfl⟩ := mem_ite_singleton.mp memory
          exact .memoryDown some low
  · intro recommends
    cases recommends with
    | cpuDown some low => simp [some, low]
    | cpuUp some high => simp [some, high]
    | idle some unused => simp [some, unused]
    | memoryDown some low => simp [some, low]

theorem mem_uniqueResources {metricName : String} (some : optimizer.points resourceId metricName ≠ []) :
    resourceId ∈ optimizer.uniqueResources := by
  obtain ⟨value, member⟩ := List.exists_mem_of_ne_nil _ some
  obtain ⟨point, kept, _⟩ := List.mem_map.mp member
  obtain ⟨recorded, selected⟩ := List.mem_filter.mp kept
  have named : point.resourceId = resourceId := (of_decide_eq_true selected).1
  rw [uniqueResources, List.mem_mergeSort, List.mem_dedup, ← named]
  exact List.mem_map_of_mem recorded

theorem mem_analyze (enabled : optimizer.enabled = true) :
    recommendation ∈ (optimizer.analyze formats).2 ↔
      ∃ resourceId, Recommends formats optimizer resourceId recommendation := by
  rw [analyze, if_pos enabled]
  simp only [List.mem_flatMap, mem_analyzeResource]
  constructor
  · rintro ⟨resourceId, _, recommends⟩
    exact ⟨resourceId, recommends⟩
  · rintro ⟨resourceId, recommends⟩
    refine ⟨resourceId, ?_, recommends⟩
    cases recommends with
    | cpuDown some | cpuUp some | idle some | memoryDown some => exact mem_uniqueResources some

theorem Recommends.resource (recommends : Recommends formats optimizer resourceId recommendation) :
    recommendation.resourceId = resourceId := by
  cases recommends <;> rfl

theorem Sound.consistent (sound : ∀ resourceId, optimizer.Sound resourceId)
    (enabled : optimizer.enabled = true) : Consistent (optimizer.analyze formats).2 := by
  refine ⟨fun down member up other same shrinks percent grows => ?_, fun down member shrinks => ?_⟩
  · obtain ⟨resourceId, recommends⟩ := (mem_analyze enabled).mp member
    obtain ⟨otherId, raises⟩ := (mem_analyze enabled).mp other
    rw [recommends.resource, raises.resource] at same
    subst same
    cases raises with
    | cpuDown | idle | memoryDown => cases grows
    | cpuUp some high =>
        cases recommends with
        | cpuDown _ low => exact (sound resourceId).apart some ⟨low, high⟩
        | cpuUp | idle => cases shrinks
        | memoryDown =>
            have bytes : "bytes" = "percent" := percent
            exact absurd bytes (by decide)
  · obtain ⟨resourceId, recommends⟩ := (mem_analyze enabled).mp member
    cases recommends with
    | cpuDown some low => exact cpuDown_saves_iff.mpr ((sound resourceId).cpu some low)
    | cpuUp | idle => cases shrinks
    | memoryDown some low => exact memoryDown_saves_iff.mpr ((sound resourceId).memory some low)

theorem sound_of_consistent (enabled : optimizer.enabled = true)
    (consistent : Consistent (optimizer.analyze formats).2) (resourceId : String) :
    optimizer.Sound resourceId where
  apart some both := consistent.oneWay _ ((mem_analyze enabled).mpr ⟨resourceId, .cpuDown some both.1⟩)
    _ ((mem_analyze enabled).mpr ⟨resourceId, .cpuUp some both.2⟩) rfl rfl rfl rfl
  cpu some low := cpuDown_saves_iff.mp
    (consistent.saves _ ((mem_analyze enabled).mpr ⟨resourceId, .cpuDown some low⟩) rfl)
  memory some low := memoryDown_saves_iff.mp
    (consistent.saves _ ((mem_analyze enabled).mpr ⟨resourceId, .memoryDown some low⟩) rfl)

end CostOptimizer

/-- An analysis is consistent exactly when the optimizer is disabled or every
resource's points are sound. -/
theorem analyze_consistent_iff (formats : Formats) (optimizer : CostOptimizer) :
    Consistent (optimizer.analyze formats).2 ↔
      optimizer.enabled = false ∨ ∀ resourceId, optimizer.Sound resourceId := by
  cases enabled : optimizer.enabled with
  | false =>
      refine iff_of_true ⟨?_, ?_⟩ (.inl rfl) <;> simp [CostOptimizer.analyze, enabled]
  | true =>
      simp only [Bool.true_eq_false, false_or]
      exact ⟨CostOptimizer.sound_of_consistent enabled,
        fun sound => CostOptimizer.Sound.consistent sound enabled⟩

def plainFormats : Formats where
  fixed _ _ := "5.0"
  display _ := "10"

/-- A week at five percent. -/
def quietWeek : CostOptimizer where
  enabled := true
  usageHistory := List.replicate 7 ⟨"web-1", "cpu_percent", 5, "2026-01-01T00:00:00Z"⟩

theorem shrinks_to_more : ¬ Consistent (quietWeek.analyze plainFormats).2 := by
  intro consistent
  have some : quietWeek.points "web-1" "cpu_percent" ≠ [] := by decide +kernel
  have low : quietWeek.analysisWindowDays ≤ quietWeek.below (quietWeek.points "web-1" "cpu_percent") := by
    decide +kernel
  have member : quietWeek.cpuDown plainFormats "web-1" (quietWeek.points "web-1" "cpu_percent") ∈
      (quietWeek.analyze plainFormats).2 :=
    (CostOptimizer.mem_analyze rfl).mpr ⟨"web-1", .cpuDown some low⟩
  have five : average (quietWeek.points "web-1" "cpu_percent") = 5 := by decide +kernel
  rcases CostOptimizer.cpuDown_saves_iff.mp (consistent.saves _ member rfl) with above | below
  · rw [five] at above
    norm_num at above
  · rw [five] at below
    norm_num at below

end Evergreen.Cost
