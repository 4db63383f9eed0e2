/-
Module: Scanout.Proofs.Run.Counters
Purpose: The counters of a display are what its trace adds up to, also between two moments of a run.
Imports: Scanout.Load, Scanout.Proofs.Run
Main exports: Stats.saturate, Stats.CountsAtMost, PassRequest.stats_passOn, Run.stats_eq_saturate,
  Run.beginnings_eq, Run.countsAtMost
-/
import Scanout.Load
import Scanout.Proofs.Run

namespace Scanout

/-! ### Full counters -/

/-- Saturated counting may clamp once, at the end. -/
theorem Word.satAdd_min_max64 (a b : Nat) : satAdd (min a max64) b = min (a + b) max64 := by
  rw [satAdd]
  omega

theorem Word.min_add_sub_min {a b : Nat} (exact : a + b ≤ max64) :
    min (a + b) max64 - min a max64 = b := by
  omega

namespace Stats

/-- Counters that show exact values as far as a 64-bit word goes. -/
def saturate (exact : Stats) : Stats where
  frames := min exact.frames Word.max64
  flattened := min exact.flattened Word.max64
  gpuPixels := min exact.gpuPixels Word.max64
  allPixels := min exact.allPixels Word.max64
  rejectedPlans := min exact.rejectedPlans Word.max64
  fallbacks := min exact.fallbacks Word.max64

/-- Every counter but those of pixels is at most `limit`. -/
structure CountsAtMost (stats : Stats) (limit : Nat) : Prop where
  frames : stats.frames ≤ limit
  flattened : stats.flattened ≤ limit
  rejectedPlans : stats.rejectedPlans ≤ limit
  fallbacks : stats.fallbacks ≤ limit

namespace CountsAtMost

variable {first second : Stats} {limit other : Nat}

theorem plus (bounded : first.CountsAtMost limit) (alsoBounded : second.CountsAtMost other) :
    (first.plus second).CountsAtMost (limit + other) where
  frames := Nat.add_le_add bounded.frames alsoBounded.frames
  flattened := Nat.add_le_add bounded.flattened alsoBounded.flattened
  rejectedPlans := Nat.add_le_add bounded.rejectedPlans alsoBounded.rejectedPlans
  fallbacks := Nat.add_le_add bounded.fallbacks alsoBounded.fallbacks

/-- Only pixel counters fill up. -/
theorem saturate_eq (bounded : first.CountsAtMost limit) (small : limit ≤ Word.max64) :
    first.saturate =
      { first with
        gpuPixels := min first.gpuPixels Word.max64
        allPixels := min first.allPixels Word.max64 } := by
  rw [saturate, Nat.min_eq_left (Nat.le_trans bounded.frames small),
    Nat.min_eq_left (Nat.le_trans bounded.flattened small),
    Nat.min_eq_left (Nat.le_trans bounded.rejectedPlans small),
    Nat.min_eq_left (Nat.le_trans bounded.fallbacks small)]

theorem left_of_plus (bounded : (first.plus second).CountsAtMost limit) :
    first.CountsAtMost limit where
  frames := Nat.le_trans (Nat.le_add_right _ _) bounded.frames
  flattened := Nat.le_trans (Nat.le_add_right _ _) bounded.flattened
  rejectedPlans := Nat.le_trans (Nat.le_add_right _ _) bounded.rejectedPlans
  fallbacks := Nat.le_trans (Nat.le_add_right _ _) bounded.fallbacks

/-- What is counted after `first` is `second`, as far as pixels do not fill their counters up. -/
theorem since_saturate (bounded : (first.plus second).CountsAtMost limit)
    (small : limit ≤ Word.max64) :
    (first.plus second).saturate.since first.saturate =
      { second with
        gpuPixels := min (first.gpuPixels + second.gpuPixels) Word.max64 -
          min first.gpuPixels Word.max64
        allPixels := min (first.allPixels + second.allPixels) Word.max64 -
          min first.allPixels Word.max64 } := by
  rw [bounded.saturate_eq small, bounded.left_of_plus.saturate_eq small]
  simp only [since, Stats.plus, Nat.add_sub_cancel_left]

end CountsAtMost

end Stats

namespace PassRequest

variable {σ : Type} (request : PassRequest) (display : Display) (tester : Option (CommitTester σ))
  (state : σ)

/-! ### One pass -/

/-- A pass counts what it reports. -/
theorem stats_passOn {exact : Stats} (counted : display.stats = exact.saturate) :
    (request.passOn display tester state).display.stats =
      (exact.plus (Stats.ofTrace (request.passOn display tester state).events)).saturate := by
  rcases request.passOn_cases display tester state with
    ⟨_, shown, reported⟩ | ⟨verdict, _, _, shown, reported⟩
  · rw [shown, reported, Planner.ofTrace_refusal]
    exact counted
  -- Each counter that a pass may leave alone is compared for the pass that does and the one that
  -- does not.
  · rw [shown, reported, Planner.ofTrace_reports]
    simp only [Planner.countPass_eq, counted, Stats.saturate, Stats.plus, Word.satAdd_min_max64,
      Planner.conclusion]
    congr 1
    · cases (request.planner.select request.snapshot request.video).isFlattened <;> rfl
    · rcases verdict with _ | _ | _ <;> rfl
    · cases (request.planner.select request.snapshot request.video).fallback.isSome <;> rfl

/-- A pass is at most one of everything that is counted. -/
theorem countsAtMost_passOn :
    (Stats.ofTrace (request.passOn display tester state).events).CountsAtMost 1 := by
  rcases request.passOn_cases display tester state with
    ⟨_, _, reported⟩ | ⟨verdict, _, _, _, reported⟩
  · rw [reported, Planner.ofTrace_refusal]
    constructor <;> exact Nat.zero_le 1
  · rw [reported, Planner.ofTrace_reports]
    constructor
    · exact Nat.le_refl 1
    · exact Bool.toNat_le _
    · dsimp only
      split
      · exact Nat.le_refl 1
      · exact Nat.zero_le 1
    · exact Bool.toNat_le _

theorem beginnings_passOn : beginnings (request.passOn display tester state).events = 1 := by
  rcases request.passOn_cases display tester state with
    ⟨_, _, reported⟩ | ⟨verdict, _, _, _, reported⟩
  · rw [reported]
    rfl
  · rw [reported]
    exact Planner.beginnings_reports ..

end PassRequest

namespace Run

/-! ### A run -/

section Whole

variable {start display : Display} {requests : List PassRequest} {events : List TraceEvent}

theorem stats_eq_saturate {id : DisplayId} (run : Run (.new id) requests events display) :
    display.stats = (Stats.ofTrace events).saturate := by
  induction run with
  | refl => rfl
  | prepare _ _ inductionHypothesis => exact inductionHypothesis
  | pass _ request tester state inductionHypothesis =>
      rw [Stats.ofTrace_append]
      exact request.stats_passOn _ tester state inductionHypothesis

theorem beginnings_eq (run : Run start requests events display) :
    beginnings events = requests.length := by
  induction run with
  | refl => rfl
  | prepare _ _ inductionHypothesis => exact inductionHypothesis
  | pass _ request tester state inductionHypothesis =>
      rw [beginnings_append, inductionHypothesis, PassRequest.beginnings_passOn, List.length_append,
        List.length_singleton]

theorem countsAtMost (run : Run start requests events display) :
    (Stats.ofTrace events).CountsAtMost requests.length := by
  induction run with
  | refl => exact ⟨Nat.le_refl 0, Nat.le_refl 0, Nat.le_refl 0, Nat.le_refl 0⟩
  | prepare _ _ inductionHypothesis => exact inductionHypothesis
  | pass _ request tester state inductionHypothesis =>
      rw [Stats.ofTrace_append, List.length_append, List.length_singleton]
      exact inductionHypothesis.plus (request.countsAtMost_passOn _ tester state)

end Whole

/-- Counters and trace agree at every moment of a run and between any two.  Only the pixel counters
can fill up; while they have not, what was counted since an earlier moment is what was reported since
then.  The marks of a load sample never depend on pixels. -/
theorem stats_eq_ofTrace {id : DisplayId} {earlier later : Display}
    {requests window : List PassRequest} {events reported : List TraceEvent}
    (run : Run (.new id) requests events earlier) (next : Run earlier window reported later)
    (bounded : requests.length + window.length < UInt64.size) :
    earlier.stats =
        { Stats.ofTrace events with
          gpuPixels := min (Stats.ofTrace events).gpuPixels Word.max64
          allPixels := min (Stats.ofTrace events).allPixels Word.max64 } ∧
      earlier.passes = beginnings events ∧
      ((Stats.ofTrace (events ++ reported)).gpuPixels ≤ Word.max64 →
        (Stats.ofTrace (events ++ reported)).allPixels ≤ Word.max64 →
          later.stats.since earlier.stats = Stats.ofTrace reported) ∧
      let sample := FrameLoad.ofStats (later.stats.since earlier.stats)
      (sample.flattened = true ↔ ∃ outcome ∈ summaries reported, outcome.flattened = true) ∧
        (sample.fallback = true ↔
          ∃ event ∈ reported, ∃ cause, event.body = .fallback cause) ∧
        (sample.rejected = true ↔ ∃ event ∈ reported, event.body = .commitTest false) := by
  have small : requests.length + window.length ≤ Word.max64 := Nat.le_sub_one_of_lt bounded
  have counts := (run.trans next).countsAtMost
  rw [List.length_append, Stats.ofTrace_append] at counts
  -- Both moments show clamped sums; the later one is the sum over the earlier trace and the window.
  have difference := counts.since_saturate small
  rw [← Stats.ofTrace_append, ← (run.trans next).stats_eq_saturate, ← run.stats_eq_saturate]
    at difference
  refine ⟨?_, ?_, ?_, ?_, ?_, ?_⟩
  · rw [run.stats_eq_saturate]
    exact counts.left_of_plus.saturate_eq small
  · rw [run.passes_eq, run.beginnings_eq]
    exact Nat.min_eq_left (Nat.le_trans (Nat.le_add_right _ _) small)
  · intro gpuExact allExact
    rw [Stats.ofTrace_append] at gpuExact allExact
    rw [difference, Word.min_add_sub_min gpuExact, Word.min_add_sub_min allExact]
  · simp only [FrameLoad.ofStats, difference, decide_eq_true_eq]
    exact Stats.flattened_ofTrace_pos_iff
  · simp only [FrameLoad.ofStats, difference, decide_eq_true_eq]
    exact Stats.fallbacks_ofTrace_pos_iff
  · simp only [FrameLoad.ofStats, difference, decide_eq_true_eq]
    exact Stats.rejectedPlans_ofTrace_pos_iff

/-- A frame whose plan is rejected after a frame that is flattened. -/
theorem stats_eq_ofTrace_on_rejected_after_flattened :
    let still : Snapshot :=
      { Snapshot.ofLayers [{ frame := ⟨0, 0, 4, 4⟩ }] 2 with flattenable := true }
    let moving : Snapshot := .ofLayers [{ frame := ⟨0, 0, 4, 4⟩ }, { frame := ⟨0, 0, 2, 2⟩ }] 2
    let earlier := ((Planner.ofConfig {}).passUntested none (.new ⟨7⟩) still).display
    let passed := (Planner.ofConfig {}).passTested FixedVerdict.test none earlier moving
      { accepts := false }
    earlier.stats =
        { frames := 1, flattened := 1, gpuPixels := 16, allPixels := 16 } ∧
      passed.display.stats.since earlier.stats =
        { frames := 1, gpuPixels := 20, allPixels := 20, rejectedPlans := 1 } := by
  intro still moving earlier passed
  have run : Run (.new ⟨7⟩) [⟨.ofConfig {}, none, still⟩] _ earlier :=
    Run.refl.pass ⟨.ofConfig {}, none, still⟩ (none : Option (CommitTester Unit)) ()
  have next : Run earlier [⟨.ofConfig {}, none, moving⟩] _ passed.display :=
    Run.refl.pass ⟨.ofConfig {}, none, moving⟩ (some FixedVerdict.test) { accepts := false }
  obtain ⟨counted, _, since, _⟩ := stats_eq_ofTrace run next (by decide)
  constructor
  · rw [counted]
    rfl
  · rw [since (by decide) (by decide)]
    rfl

end Run

end Scanout
