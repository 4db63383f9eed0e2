/-
Module: Scanout.Proofs.Run.Ordering
Purpose: In every state that a display can reach its counters are in order: no part is counted more
  often than its whole, also when counters are full, and no counter ever moves backwards.
Imports: Scanout.Proofs.Run.Counters
Main exports: CostTable.window_le_total, Stats.Balanced, Stats.Ordered, Stats.AtMost,
  Selection.undisputed_of_isFlattened, PassRequest.balanced_passOn, Run.balanced,
  Run.counters_ordered
-/
import Scanout.Proofs.Run.Counters

namespace Scanout

/-- No window costs more than its stack. -/
theorem CostTable.window_le_total (layers : List Layer) (first size : Nat) :
    (ofLayers layers).window first size ≤ (ofLayers layers).total := by
  -- A count past the top of the stack reads the entry of the whole stack.
  have upper : (ofLayers layers).below (first + size) =
      (ofLayers layers).below (min (first + size) (ofLayers layers).layerCount) := by
    rw [below, below, Nat.min_eq_left (Nat.min_le_right _ _)]
  calc (ofLayers layers).window first size
      ≤ (ofLayers layers).below (first + size) := Nat.sub_le _ _
    _ = (ofLayers layers).below (min (first + size) (ofLayers layers).layerCount) := upper
    _ ≤ (ofLayers layers).total := below_mono layers (Nat.min_le_right _ _)

namespace Stats

/-! ### Counters of exact values -/

/-- Every frame is flattened or rejected at most, and flattened or fallen back at most; what the GPU
composites is part of all that is shown. -/
structure Balanced (stats : Stats) : Prop where
  gpuPixels : stats.gpuPixels ≤ stats.allPixels
  rejectedPlans : stats.flattened + stats.rejectedPlans ≤ stats.frames
  fallbacks : stats.flattened + stats.fallbacks ≤ stats.frames

theorem Balanced.plus {first second : Stats} (one : first.Balanced) (two : second.Balanced) :
    (first.plus second).Balanced := by
  have ⟨gpuOne, rejectedOne, fallbackOne⟩ := one
  have ⟨gpuTwo, rejectedTwo, fallbackTwo⟩ := two
  constructor <;> simp only [Stats.plus] <;> omega

/-! ### Counters that may be full -/

/-- The counters of a display after some passes, in order. -/
structure Ordered (stats : Stats) (passes : Nat) : Prop where
  gpuPixels : stats.gpuPixels ≤ stats.allPixels
  flattened : stats.flattened ≤ stats.frames
  rejectedPlans : stats.rejectedPlans ≤ stats.frames
  fallbacks : stats.fallbacks ≤ stats.frames
  frames : stats.frames ≤ passes

/-- No counter of `first` is larger than that of `second`. -/
structure AtMost (first second : Stats) : Prop where
  frames : first.frames ≤ second.frames
  flattened : first.flattened ≤ second.flattened
  gpuPixels : first.gpuPixels ≤ second.gpuPixels
  allPixels : first.allPixels ≤ second.allPixels
  rejectedPlans : first.rejectedPlans ≤ second.rejectedPlans
  fallbacks : first.fallbacks ≤ second.fallbacks

/-- Balanced values are shown in order, since all counters are cut off at the same word. -/
theorem Balanced.ordered_saturate {exact : Stats} (balanced : exact.Balanced) {passes : Nat}
    (counted : exact.frames ≤ passes) : exact.saturate.Ordered (min passes Word.max64) := by
  have ⟨gpu, rejected, fallback⟩ := balanced
  constructor <;> simp only [saturate] <;> omega

/-- Counting on never makes a counter smaller. -/
theorem atMost_saturate_plus (first second : Stats) :
    first.saturate.AtMost (first.plus second).saturate := by
  constructor <;> simp only [saturate, Stats.plus] <;> omega

end Stats

/-! ### One pass -/

/-- A frame that is flattened is not tested, since the whole stack is selected, and nothing is
reserved in it. -/
theorem Selection.undisputed_of_isFlattened {selection : Selection} {layerCount : Nat}
    {verdict : Option Bool} (flattened : selection.isFlattened = true)
    (asked : verdict ≠ none → ¬ (selection.client layerCount).isWhole layerCount = true) :
    verdict = none ∧ selection.fallback = none := by
  cases selection with
  | everything => cases flattened
  | fitted needed fit => cases flattened
  | flattened =>
      have whole : (Selection.flattened.client layerCount).isWhole layerCount = true := by
        simp [Selection.client, ClientRange.isWhole]
      refine ⟨?_, rfl⟩
      cases verdict with
      | none => rfl
      | some accepted => exact absurd whole (asked (Option.some_ne_none accepted))

namespace PassRequest

variable {σ : Type} (request : PassRequest) (display : Display) (tester : Option (CommitTester σ))
  (state : σ)

/-- A pass that reports a flattened frame reports neither a verdict nor a fallback. -/
theorem undisputed_of_flattened
    (flattened : ∃ outcome ∈ summaries (request.passOn display tester state).events,
      outcome.flattened = true) :
    ∀ event ∈ (request.passOn display tester state).events,
      (∀ accepted, event.body ≠ .commitTest accepted) ∧
        ∀ cause, event.body ≠ .fallback cause := by
  rcases request.passOn_cases display tester state with
    ⟨_, _, reported⟩ | ⟨verdict, _, asked, _, reported⟩
  · rw [reported] at flattened
    obtain ⟨outcome, member, flagged⟩ := flattened
    cases List.mem_singleton.mp member
    cases flagged
  · rw [reported, Planner.summaries_reports] at flattened
    obtain ⟨outcome, member, flagged⟩ := flattened
    cases List.mem_singleton.mp member
    obtain ⟨untested, kept⟩ := Selection.undisputed_of_isFlattened flagged asked
    intro event member
    rw [reported] at member
    constructor
    · intro accepted body
      have verdict := Planner.commitTest_mem_reports_iff.mp
        (Planner.exists_mem_inFrame_iff.mp ⟨event, member, body⟩)
      rw [untested] at verdict
      cases verdict
    · intro cause body
      have given := Planner.fallback_mem_reports_iff.mp
        (Planner.exists_mem_inFrame_iff.mp ⟨event, member, body⟩)
      rw [kept] at given
      cases given

/-- What a pass counts is balanced. -/
theorem balanced_passOn :
    (Stats.ofTrace (request.passOn display tester state).events).Balanced := by
  rcases request.passOn_cases display tester state with
    ⟨_, _, reported⟩ | ⟨verdict, _, asked, _, reported⟩
  · rw [reported, Planner.ofTrace_refusal]
    constructor <;> exact Nat.le_refl 0
  · rw [reported, Planner.ofTrace_reports]
    refine ⟨CostTable.window_le_total .., ?_, ?_⟩
    · by_cases flattened : (request.planner.select request.snapshot request.video).isFlattened
      · simp [flattened, (Selection.undisputed_of_isFlattened flattened asked).1]
      · simp only [flattened, Bool.toNat_false]
        split <;> decide
    · by_cases flattened : (request.planner.select request.snapshot request.video).isFlattened
      · simp [flattened, (Selection.undisputed_of_isFlattened flattened asked).2]
      · simp only [flattened, Bool.toNat_false, Nat.zero_add]
        exact Bool.toNat_le _

end PassRequest

/-! ### A run -/

namespace Run

theorem balanced {start display : Display} {requests : List PassRequest}
    {events : List TraceEvent} (run : Run start requests events display) :
    (Stats.ofTrace events).Balanced := by
  induction run with
  | refl => constructor <;> exact Nat.le_refl 0
  | prepare _ _ inductionHypothesis => exact inductionHypothesis
  | pass _ request tester state inductionHypothesis =>
      rw [Stats.ofTrace_append]
      exact inductionHypothesis.plus (request.balanced_passOn _ tester state)

/-- The counters of a display are in order in every state that it can reach, also when they are
full, and going on from a state never makes one of them smaller.  While they cannot be full, the
frames that were rejected, or that gave a reservation up, are other frames than the flattened ones:
a pass that flattens a frame reports neither. -/
theorem counters_ordered {id : DisplayId} {earlier later : Display}
    {requests window : List PassRequest} {events reported : List TraceEvent}
    (run : Run (.new id) requests events earlier) (next : Run earlier window reported later) :
    later.stats.Ordered later.passes ∧
      (earlier.stats.AtMost later.stats ∧ earlier.passes ≤ later.passes) ∧
      (requests.length + window.length < UInt64.size → later.stats.Balanced) ∧
      ∀ {σ : Type} (request : PassRequest) (tester : Option (CommitTester σ)) (state : σ),
        (∃ outcome ∈ summaries (request.passOn later tester state).events,
            outcome.flattened = true) →
          ∀ event ∈ (request.passOn later tester state).events,
            (∀ accepted, event.body ≠ .commitTest accepted) ∧
              ∀ cause, event.body ≠ .fallback cause := by
  have whole := run.trans next
  have balanced := whole.balanced
  have counts := whole.countsAtMost
  refine ⟨?_, ⟨?_, ?_⟩, ?_, ?_⟩
  · rw [whole.stats_eq_saturate, whole.passes_eq]
    exact balanced.ordered_saturate counts.frames
  · rw [run.stats_eq_saturate, whole.stats_eq_saturate, Stats.ofTrace_append]
    exact Stats.atMost_saturate_plus _ _
  · rw [run.passes_eq, whole.passes_eq, List.length_append]
    omega
  · intro bounded
    have small : (requests ++ window).length ≤ Word.max64 := by
      rw [List.length_append]
      exact Nat.le_sub_one_of_lt bounded
    have pixels := (balanced.ordered_saturate counts.frames).gpuPixels
    rw [whole.stats_eq_saturate, counts.saturate_eq small]
    exact ⟨pixels, balanced.rejectedPlans, balanced.fallbacks⟩
  · intro σ request tester state
    exact request.undisputed_of_flattened later tester state

/-- A flattened frame, then one that gives its video layer up and is rejected as well. -/
theorem counters_ordered_after_flattened_and_rejected :
    let layer : Layer := { frame := ⟨0, 0, 4, 4⟩ }
    let still : Snapshot := { Snapshot.ofLayers [layer] 2 with flattenable := true }
    let moving : Snapshot := .ofLayers [{ layer with isVideo := true }, layer, layer] 2
    let earlier := ((Planner.ofConfig {}).passUntested none (.new ⟨7⟩) still).display
    let passed := (Planner.ofConfig {}).passTested FixedVerdict.test (some ⟨0, 1⟩) earlier moving
      { accepts := false }
    passed.display.stats =
        { frames := 2, flattened := 1, gpuPixels := 64, allPixels := 64, rejectedPlans := 1,
          fallbacks := 1 } ∧
      passed.display.stats.Ordered passed.display.passes ∧ passed.display.stats.Balanced ∧
      earlier.stats.AtMost passed.display.stats ∧ earlier.passes ≤ passed.display.passes := by
  intro layer still moving earlier passed
  have run : Run (.new ⟨7⟩) [⟨.ofConfig {}, none, still⟩] _ earlier :=
    Run.refl.pass ⟨.ofConfig {}, none, still⟩ (none : Option (CommitTester Unit)) ()
  have next : Run earlier [⟨.ofConfig {}, some ⟨0, 1⟩, moving⟩] _ passed.display :=
    Run.refl.pass ⟨.ofConfig {}, some ⟨0, 1⟩, moving⟩ (some FixedVerdict.test)
      { accepts := false }
  obtain ⟨ordered, increased, balanced, _⟩ := counters_ordered run next
  exact ⟨by decide, ordered, balanced (by decide), increased⟩

end Run

end Scanout
