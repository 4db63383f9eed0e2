/-
Module: Scanout.Proofs.Pass.Outcome
Purpose: How a planning pass settles on a range: the range it selects, and the question it asks.
Imports: Scanout.Planner, Scanout.Proofs.Budget.Video, Scanout.Proofs.Range.Spanning,
  Scanout.Proofs.Stamping
Main exports: Planner.needed, Planner.select_generic, Planner.select_cases,
  Planner.fit_within_covers, Planner.holds_client_select, Planner.stop_client_select_le,
  Planner.consult_cases, Planner.not_isWhole_of_consult, Planner.settledRange,
  Planner.holds_settledRange, Planner.stop_settledRange_le
-/
import Scanout.Planner
import Scanout.Proofs.Budget.Video
import Scanout.Proofs.Range.Spanning
import Scanout.Proofs.Stamping

namespace Scanout

namespace Planner

/-! ### Selection -/

/-- The range of the layers that need the GPU. -/
def needed (planner : Planner) (snapshot : Snapshot) : ClientRange :=
  spanningRange (planner.classifier snapshot) snapshot.layers

theorem spans_needed (planner : Planner) (snapshot : Snapshot) :
    Spans (planner.classifier snapshot) snapshot.layers (planner.needed snapshot) :=
  spans_spanningRange _ _

theorem stop_needed_le (planner : Planner) (snapshot : Snapshot) :
    (planner.needed snapshot).stop ≤ snapshot.layerCount :=
  (planner.spans_needed snapshot).within

theorem select_generic {planner : Planner} {snapshot : Snapshot}
    (generic : planner.strategy = .generic) (moving : snapshot.flattenable = false)
    (video : Option DeviceRange) :
    planner.select snapshot video =
      .fitted (planner.needed snapshot) (fit snapshot video (planner.needed snapshot)) := by
  rw [select, generic]
  simp only [moving, Bool.false_eq_true, if_false]
  rfl

/-- The three ways to a range, and when each is taken. -/
theorem select_cases (planner : Planner) (snapshot : Snapshot) (video : Option DeviceRange) :
    (planner.strategy = .clientOnly ∧ planner.select snapshot video = .everything) ∨
      (planner.strategy = .generic ∧ snapshot.flattenable = true ∧
        planner.select snapshot video = .flattened) ∨
      (planner.strategy = .generic ∧ snapshot.flattenable = false ∧
        planner.select snapshot video =
          .fitted (planner.needed snapshot) (fit snapshot video (planner.needed snapshot))) := by
  cases strategy : planner.strategy with
  | clientOnly =>
      refine Or.inl ⟨rfl, ?_⟩
      rw [select, strategy]
  | generic =>
      cases still : snapshot.flattenable with
      | true =>
          refine Or.inr (Or.inl ⟨rfl, rfl, ?_⟩)
          rw [select, strategy]
          simp only [still, if_true]
      | false => exact Or.inr (Or.inr ⟨rfl, rfl, select_generic strategy still video⟩)

/-- Whatever is to be reserved, the range grown for the budget lies in the stack and keeps the layers
that need the GPU. -/
theorem fit_within_covers {snapshot : Snapshot} {needed : ClientRange}
    (inside : needed.stop ≤ snapshot.layerCount) (video : Option DeviceRange) :
    (fit snapshot video needed).range.stop ≤ snapshot.layerCount ∧
      (fit snapshot video needed).range.covers needed = true := by
  cases video with
  | none =>
      have fitting := fitToPlanes_fits snapshot.usablePlanes
        (CostTable.ofLayers snapshot.layers).window inside
      exact ⟨fitting.within, fitting.covers⟩
  | some device => exact fitAroundVideo_within_covers _ _ device inside

/-- What holds of the whole stack and of the range grown for the budget holds of the selected
range. -/
theorem holds_client_select (holds : ClientRange → Prop) (planner : Planner) (snapshot : Snapshot)
    (video : Option DeviceRange) (whole : holds (ClientRange.whole snapshot.layerCount))
    (fitted : holds (fit snapshot video (planner.needed snapshot)).range) :
    holds ((planner.select snapshot video).client snapshot.layerCount) := by
  rcases planner.select_cases snapshot video with
    ⟨_, selected⟩ | ⟨_, _, selected⟩ | ⟨_, _, selected⟩
  · rw [selected]
    exact whole
  · rw [selected]
    exact whole
  · rw [selected]
    exact fitted

/-- The selected range lies in the stack. -/
theorem stop_client_select_le (planner : Planner) (snapshot : Snapshot)
    (video : Option DeviceRange) :
    ((planner.select snapshot video).client snapshot.layerCount).stop ≤ snapshot.layerCount :=
  holds_client_select (·.stop ≤ snapshot.layerCount) planner snapshot video
    (Nat.le_of_eq (ClientRange.stop_whole _))
    (fit_within_covers (planner.stop_needed_le snapshot) video).1

/-! ### The question to the tester -/

section Consult

variable {σ : Type}

/-- The tester is asked about the stamped frame unless the whole stack is selected. -/
theorem consult_cases (test : CommitTester σ) (snapshot : Snapshot) (selected : ClientRange)
    (state : σ) :
    (selected.isWhole snapshot.layerCount = true ∧
        consult (some test) snapshot selected state = (none, state)) ∨
      (¬ selected.isWhole snapshot.layerCount = true ∧
        consult (some test) snapshot selected state =
          (some (test (snapshot.stamp selected) selected state).1,
            (test (snapshot.stamp selected) selected state).2)) := by
  by_cases everything : selected.isWhole snapshot.layerCount = true
  · exact Or.inl ⟨everything, by rw [consult, if_pos everything]⟩
  · exact Or.inr ⟨everything, by rw [consult, if_neg everything]⟩

/-- Nobody is asked about the whole stack. -/
theorem not_isWhole_of_consult {tester : Option (CommitTester σ)} {snapshot : Snapshot}
    {selected : ClientRange} {state after : σ} {accepted : Bool}
    (consulted : consult tester snapshot selected state = (some accepted, after)) :
    ¬ selected.isWhole snapshot.layerCount = true := by
  cases tester with
  | none => cases consulted
  | some test =>
      rcases consult_cases test snapshot selected state with ⟨_, unasked⟩ | ⟨partly, _⟩
      · rw [unasked] at consulted
        cases consulted
      · exact partly

/-- The range that is stamped after a verdict: the selected one, or the whole stack if the tester
said no. -/
def settledRange (layerCount : Nat) (selected : ClientRange) (verdict : Option Bool) :
    ClientRange :=
  if verdict = some false then ClientRange.whole layerCount else selected

end Consult

/-- Whatever the verdict, what holds of the whole stack and of the range grown for the budget holds
of the range that is stamped. -/
theorem holds_settledRange (holds : ClientRange → Prop) (planner : Planner) (snapshot : Snapshot)
    (video : Option DeviceRange) (verdict : Option Bool)
    (whole : holds (ClientRange.whole snapshot.layerCount))
    (fitted : holds (fit snapshot video (planner.needed snapshot)).range) :
    holds (settledRange snapshot.layerCount
      ((planner.select snapshot video).client snapshot.layerCount) verdict) := by
  rw [settledRange]
  split
  · exact whole
  · exact holds_client_select holds planner snapshot video whole fitted

/-- Whatever the verdict, the range that is stamped lies in the stack. -/
theorem stop_settledRange_le (planner : Planner) (snapshot : Snapshot)
    (video : Option DeviceRange) (verdict : Option Bool) :
    (settledRange snapshot.layerCount ((planner.select snapshot video).client snapshot.layerCount)
      verdict).stop ≤ snapshot.layerCount :=
  holds_settledRange (·.stop ≤ snapshot.layerCount) planner snapshot video verdict
    (Nat.le_of_eq (ClientRange.stop_whole _))
    (fit_within_covers (planner.stop_needed_le snapshot) video).1

end Planner

end Scanout
