/-
Module: Scanout.Proofs.Pass.Agreement
Purpose: All that a pass leaves behind describes one client range, whichever way the range was
  selected and whatever the tester said.
Imports: Scanout.Proofs.PlaneItems, Scanout.Proofs.Pass.Equations
Main exports: Pass.Describes, Planner.describes_pass_of_supported, Planner.settledRange_eq_whole
-/
import Scanout.Proofs.PlaneItems
import Scanout.Proofs.Pass.Equations

namespace Scanout

/-- What a pass over `snapshot` leaves behind describes `range`: the stamps, the result, the
counters, the one summary, and the plan that is read off the stamped frame. -/
structure Pass.Describes {σ : Type} (passed : Pass σ) (display : Display) (snapshot : Snapshot)
    (range : ClientRange) : Prop where
  within : range.stop ≤ snapshot.layerCount
  stamped (z : Nat) : passed.snapshot.layers[z]? = snapshot.layers[z]?.map fun layer =>
    { layer with
      decision := some (if range.contains z then .client else .device)
      alternatePath := !range.contains z }
  kept : passed.snapshot = { snapshot with layers := passed.snapshot.layers }
  result : passed.result = if range.isEmpty then .none else .hasChanges
  summary : ∃ outcome, summaries passed.events = [outcome] ∧ outcome.display = display.id ∧
    outcome.result = passed.result ∧ outcome.client = range ∧
    outcome.gpuPixels = (CostTable.ofLayers snapshot.layers).window range.start range.size ∧
    outcome.allPixels = (CostTable.ofLayers snapshot.layers).total
  gpuPixels : passed.display.stats.gpuPixels = Word.satAdd display.stats.gpuPixels
    ((CostTable.ofLayers snapshot.layers).window range.start range.size)
  allPixels : passed.display.stats.allPixels = Word.satAdd display.stats.allPixels
    (CostTable.ofLayers snapshot.layers).total
  plan : ∀ id, ∃ plan, Plan.ofSnapshot id passed.snapshot = .ok plan ∧
    plan.clientRange = if range.isEmpty then none else some range

namespace Planner

section Settled

variable {planner : Planner} {snapshot : Snapshot} {video : Option DeviceRange}

theorem client_select_eq_whole
    (all : planner.strategy = .clientOnly ∨ snapshot.flattenable = true) :
    (planner.select snapshot video).client snapshot.layerCount =
      ClientRange.whole snapshot.layerCount := by
  rcases planner.select_cases snapshot video with
    ⟨_, selected⟩ | ⟨_, _, selected⟩ | ⟨generic, moving, _⟩
  · rw [selected]
    rfl
  · rw [selected]
    rfl
  · simp [generic, moving] at all

/-- Everything goes to the client target if the planner always does that, if the frame is flattened,
or if the tester says no. -/
theorem settledRange_eq_whole {verdict : Option Bool}
    (all : planner.strategy = .clientOnly ∨ snapshot.flattenable = true ∨ verdict = some false) :
    settledRange snapshot.layerCount ((planner.select snapshot video).client snapshot.layerCount)
      verdict = ClientRange.whole snapshot.layerCount := by
  rw [settledRange]
  by_cases rejected : verdict = some false
  · rw [if_pos rejected]
  · rw [if_neg rejected]
    apply client_select_eq_whole
    simpa [rejected] using all

end Settled

section Pass

variable {σ : Type} {planner : Planner} {tester : Option (CommitTester σ)}
  {video : Option DeviceRange} {snapshot : Snapshot} {state : σ}

theorem describes_pass_of_supported (display : Display) (supported : snapshot.unsupported = false)
    {verdict : Option Bool} {after : σ}
    (consulted : consult tester snapshot
      ((planner.select snapshot video).client snapshot.layerCount) state = (verdict, after)) :
    (planner.pass tester video display snapshot state).Describes display snapshot
      (settledRange snapshot.layerCount
        ((planner.select snapshot video).client snapshot.layerCount) verdict) := by
  have inside := planner.stop_settledRange_le snapshot video verdict
  rw [pass_of_supported display supported rfl consulted]
  generalize settledRange snapshot.layerCount
    ((planner.select snapshot video).client snapshot.layerCount) verdict = range at inside ⊢
  simp only [countPass_eq]
  exact
    { within := inside
      stamped := fun z => getElem?_stampLayers range snapshot.layers z
      kept := rfl
      result := rfl
      summary := ⟨_, summaries_reports .., rfl, rfl, rfl, rfl, rfl⟩
      gpuPixels := rfl
      allPixels := rfl
      plan := Plan.exists_clientRange_of_stamp inside }

/-- All outputs of a pass agree.  A stack with display decoration is refused: nothing but the pass
counter moves, and the tester plays no part.  Any other stack has one range that everything the
pass leaves behind describes, and which is the whole stack if the planner always takes that, if
the frame is flattened, or if the tester says no. -/
theorem pass_outputs_agree (planner : Planner) (tester : Option (CommitTester σ))
    (video : Option DeviceRange) (display : Display) (snapshot : Snapshot) (state : σ) :
    let passed := planner.pass tester video display snapshot state
    ((∃ layer ∈ snapshot.layers, layer.hint = .displayDecoration) →
        passed.result = .unsupported ∧ passed.snapshot = snapshot ∧
          passed.display = { display with passes := Word.satAdd display.passes 1 } ∧
          passed.tester = state ∧ passed = planner.pass none video display snapshot state) ∧
      ((∀ layer ∈ snapshot.layers, layer.hint ≠ .displayDecoration) →
        ∃ range, passed.Describes display snapshot range ∧
          (planner.strategy = .clientOnly ∨ snapshot.flattenable = true ∨
              (∃ event ∈ passed.events, event.body = .commitTest false) →
            range = ClientRange.whole snapshot.layerCount)) := by
  intro passed
  constructor
  · intro decorated
    have unsupported := Snapshot.unsupported_iff.mpr decorated
    have refused : passed = _ := pass_of_unsupported display unsupported
    rw [refused, pass_of_unsupported display unsupported]
    exact ⟨rfl, rfl, rfl, rfl, rfl⟩
  · intro plain
    have supported : snapshot.unsupported = false := by
      rw [← Bool.not_eq_true, Snapshot.unsupported_iff]
      rintro ⟨layer, member, decoration⟩
      exact plain layer member decoration
    rcases consulted : consult tester snapshot
      ((planner.select snapshot video).client snapshot.layerCount) state with ⟨verdict, after⟩
    refine ⟨_, describes_pass_of_supported display supported consulted, ?_⟩
    intro all
    have planned : passed = _ := pass_of_supported display supported rfl consulted
    rw [planned, exists_mem_inFrame_iff, commitTest_mem_reports_iff] at all
    exact settledRange_eq_whole all

/-- Two layers on two planes fit, but a tester that says no sends both to the client target. -/
theorem pass_outputs_agree_on_rejected_plan :
    let frame : Snapshot := .ofLayers [{ frame := ⟨0, 0, 4, 4⟩ }, { frame := ⟨0, 0, 2, 2⟩ }] 2
    ((ofConfig {}).pass (some FixedVerdict.test) none (.new ⟨0⟩) frame
      { accepts := false }).Describes (.new ⟨0⟩) frame ⟨0, 2⟩ := by
  intro frame
  obtain ⟨range, describes, whole⟩ := (pass_outputs_agree (ofConfig {}) (some FixedVerdict.test)
    none (.new ⟨0⟩) frame { accepts := false }).2 (by decide)
  have all : range = ⟨0, 2⟩ :=
    whole (Or.inr (Or.inr ⟨⟨0, .commitTest false⟩, by decide, rfl⟩))
  rw [← all]
  exact describes

end Pass

end Planner

end Scanout
