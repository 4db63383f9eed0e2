/-
Module: Scanout.Proofs.Pass.Optimality
Purpose: Without video and tester, a pass stamps a range that no other range which fits the planes
  undercuts in pixels or layers.
Imports: Scanout.Proofs.Pass.Equations
Main exports: Planner.Allows, Planner.allows_iff_fitsPlanes
-/
import Scanout.Proofs.Pass.Equations

namespace Scanout

namespace Planner

/-- `range` lies in the stack, has every layer that the planner sends to the GPU, and leaves no more
layers outside than there are planes for them. -/
structure Allows (planner : Planner) (snapshot : Snapshot) (range : ClientRange) : Prop where
  within : range.stop ≤ snapshot.layerCount
  holds : ∀ z layer, snapshot.layers[z]? = some layer →
    planner.classifier snapshot layer = true → range.contains z = true
  fits : snapshot.layerCount - range.size ≤
    devicePlanes snapshot.layerCount snapshot.usablePlanes

/-- A range has every layer that needs the GPU exactly if it covers the least such range. -/
theorem allows_iff_fitsPlanes {planner : Planner} {snapshot : Snapshot} {range : ClientRange} :
    planner.Allows snapshot range ↔
      FitsPlanes snapshot.layerCount snapshot.usablePlanes (planner.needed snapshot) range := by
  constructor
  · intro allowed
    exact ⟨allowed.within, (planner.spans_needed snapshot).covered_of_forall allowed.holds,
      allowed.fits⟩
  · intro fitting
    refine ⟨fitting.within, ?_, fitting.fits⟩
    intro z layer present marked
    exact ClientRange.covers_iff_forall.mp fitting.covers z
      ((planner.spans_needed snapshot).holds z layer present marked)

/-- A plain pass decides every layer by one range, which is allowed; no allowed range of whatever
size costs fewer pixels or has fewer layers, and what fits already is not grown. -/
theorem passUntested_optimal {planner : Planner} {snapshot : Snapshot}
    (generic : planner.strategy = .generic) (supported : snapshot.unsupported = false)
    (moving : snapshot.flattenable = false) (display : Display) :
    ∃ range : ClientRange,
      (planner.passUntested none display snapshot).snapshot.layerCount = snapshot.layerCount ∧
        range.Decides (planner.passUntested none display snapshot).snapshot.layers ∧
        planner.Allows snapshot range ∧
        (∀ other, planner.Allows snapshot other →
          (CostTable.ofLayers snapshot.layers).window range.start range.size ≤
              (CostTable.ofLayers snapshot.layers).window other.start other.size ∧
            range.size ≤ other.size) ∧
        (snapshot.layerCount - (planner.needed snapshot).size ≤
            devicePlanes snapshot.layerCount snapshot.usablePlanes →
          range = planner.needed snapshot) := by
  have inside := planner.stop_needed_le snapshot
  have stamped : (planner.passUntested none display snapshot).snapshot = _ :=
    snapshot_passUntested display supported none
  rw [select_generic generic moving] at stamped
  refine ⟨fitToPlanes snapshot.layerCount snapshot.usablePlanes (planner.needed snapshot)
    (CostTable.ofLayers snapshot.layers).window, ?_, ?_, ?_, ?_, ?_⟩
  · rw [stamped, Snapshot.layerCount_stamp]
  · rw [stamped]
    exact decides_stampLayers _ _
  · exact allows_iff_fitsPlanes.mpr (fitToPlanes_fits _ _ inside)
  · intro other allowed
    have fitting := allows_iff_fitsPlanes.mp allowed
    exact ⟨cost_fitToPlanes_le _ (CostTable.window_monotone _) inside fitting,
      size_fitToPlanes_le _ _ inside fitting⟩
  · exact fitToPlanes_of_fits _ _

/-- Five layers on three planes; layer 3 needs the GPU. -/
def fiveLayerFrame : Snapshot :=
  .ofLayers
    [{ frame := ⟨0, 0, 40, 10⟩ }, { frame := ⟨0, 0, 10, 10⟩ }, { frame := ⟨0, 0, 20, 10⟩ },
      { hint := .client, frame := ⟨0, 0, 10, 10⟩ }, { frame := ⟨0, 0, 30, 10⟩ }] 3

/-- Layers 1 to 3 are merged rather than layers 2 to 4, which have more pixels. -/
theorem passUntested_optimal_on_five_layers :
    ((ofConfig {}).passUntested none (.new ⟨0⟩) fiveLayerFrame).snapshot.layers.map Layer.isClient =
        [false, true, true, true, false] ∧
      ∃ range : ClientRange,
        range.Decides ((ofConfig {}).passUntested none (.new ⟨0⟩) fiveLayerFrame).snapshot.layers ∧
          (ofConfig {}).Allows fiveLayerFrame range ∧
          ∀ other, (ofConfig {}).Allows fiveLayerFrame other →
            (CostTable.ofLayers fiveLayerFrame.layers).window range.start range.size ≤
                (CostTable.ofLayers fiveLayerFrame.layers).window other.start other.size ∧
              range.size ≤ other.size := by
  obtain ⟨range, _, decides, allowed, least, _⟩ :=
    @passUntested_optimal (ofConfig {}) fiveLayerFrame (by decide) (by decide) (by decide)
      (.new ⟨0⟩)
  exact ⟨by decide, range, decides, allowed, least⟩

end Planner

end Scanout
