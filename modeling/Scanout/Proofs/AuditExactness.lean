/-
Module: Scanout.Proofs.AuditExactness
Purpose: What the checker reports of a stack with decisions in any pattern, told by the decisions
  alone, and when it reports nothing.
Imports: Mathlib.Data.List.Sort, Scanout.Proofs.Decisions, Scanout.Proofs.PlaneCounts
Main exports: layersWhere, MarkedOnPlane, planesNeeded, eq_layersWhere,
  splitPositions_eq_layersWhere, violations_of_undecided, violations_of_decided
-/
import Mathlib.Data.List.Sort
import Scanout.Proofs.Decisions
import Scanout.Proofs.PlaneCounts

namespace Scanout

/-! ### Broken promises -/

/-- The positions in a stack at which something holds, from the bottom up. -/
def layersWhere (layers : List Layer) (holds : Nat → Prop) [DecidablePred holds] : List Nat :=
  (List.range layers.length).filter holds

/-- Layer `z` is on a plane, although it has to be composited by the GPU. -/
def MarkedOnPlane (snapshot : Snapshot) (classifier : Classifier) (z : Nat) : Prop :=
  ∃ layer, snapshot.layers[z]? = some layer ∧ layer.decision = some .device ∧
    classifier snapshot layer = true

instance (snapshot : Snapshot) (classifier : Classifier) :
    DecidablePred (MarkedOnPlane snapshot classifier) := fun z =>
  decidable_of_iff
    (∃ layer ∈ snapshot.layers[z]?, layer.decision = some .device ∧
      classifier snapshot layer = true)
    Iff.rfl

theorem MarkedOnPlane.lt_length {snapshot : Snapshot} {classifier : Classifier} {z : Nat}
    (marked : MarkedOnPlane snapshot classifier z) : z < snapshot.layers.length := by
  obtain ⟨_, present, _⟩ := marked
  exact (List.getElem?_eq_some_iff.mp present).1

/-- A plane for each device layer, a second one for each of them that carries video, and one for the
client target if any layer is client. -/
def planesNeeded (layers : List Layer) : Nat :=
  layers.countP (fun layer => layer.decision = some .device) +
    layers.countP (fun layer => layer.decision = some .device ∧ layer.isVideo = true) +
    if ∃ layer ∈ layers, layer.decision = some .client then 1 else 0

/-! ### Lists of positions -/

section Positions

variable {layers : List Layer}

/-- A list of positions that goes upwards is known from its members. -/
theorem eq_layersWhere {holds : Nat → Prop} [DecidablePred holds] {listed : List Nat}
    (upwards : listed.Pairwise (· < ·))
    (exactly : ∀ z, z ∈ listed ↔ z < layers.length ∧ holds z) :
    listed = layersWhere layers holds := by
  have ordered : (layersWhere layers holds).Pairwise (· < ·) := List.pairwise_lt_range.filter _
  apply upwards.eq_of_mem_iff ordered
  intro z
  rw [exactly, layersWhere, List.mem_filter, List.mem_range, decide_eq_true_eq]

/-- What holds at layers of the stack only is listed nowhere exactly if it holds nowhere. -/
theorem layersWhere_eq_nil_iff {holds : Nat → Prop} [DecidablePred holds]
    (inStack : ∀ z, holds z → z < layers.length) :
    layersWhere layers holds = [] ↔ ∀ z, ¬ holds z := by
  simp only [layersWhere, List.filter_eq_nil_iff, List.mem_range, decide_eq_true_eq]
  exact ⟨fun nowhere z held => nowhere z (inStack z held) held, fun nowhere z _ => nowhere z⟩

/-- Looking for layers by one of their fields finds the positions described by that field. -/
theorem positions_eq_layersWhere {reads : Layer → Bool} {holds : Nat → Prop} [DecidablePred holds]
    (same : ∀ z layer, layers[z]? = some layer → (reads layer = true ↔ holds z)) :
    positions reads layers = layersWhere layers holds := by
  apply eq_layersWhere (pairwise_positions reads layers)
  intro z
  rw [mem_positions_iff]
  constructor
  · rintro ⟨layer, present, read⟩
    exact ⟨(List.getElem?_eq_some_iff.mp present).1, (same z layer present).mp read⟩
  · rintro ⟨inStack, held⟩
    have present := List.getElem?_eq_getElem inStack
    exact ⟨_, present, (same z _ present).mpr held⟩

end Positions

/-! ### Stacks in which every layer is decided -/

section Decided

variable {layers : List Layer} (decided : ∀ z, ¬ Carries layers none z)

include decided

theorem splitPositions_eq_layersWhere :
    splitPositions layers = layersWhere layers (SplitsClients layers) := by
  have upwards : (splitPositions layers).Pairwise (· < ·) := by
    rw [splitPositions]
    split
    · exact (pairwise_positions _ layers).filter _
    · exact List.Pairwise.nil
  apply eq_layersWhere upwards
  intro z
  rw [mem_splitPositions_iff_splits decided]
  exact (and_iff_right_of_imp fun splits => splits.1.lt_length).symm

theorem planesInUse_eq_planesNeeded : planesInUse layers = planesNeeded layers := by
  have onPlane (layer : Layer) (member : layer ∈ layers) :
      (!layer.isClient) = true ↔ layer.decision = some .device := by
    obtain ⟨z, present⟩ := List.getElem?_of_mem member
    exact not_isClient_iff decided present
  have device : layers.countP (!·.isClient) =
      layers.countP (fun layer => layer.decision = some .device) := by
    apply List.countP_congr
    intro layer member
    rw [onPlane layer member, decide_eq_true_eq]
  have video : layers.countP (fun layer => layer.isVideo && !layer.isClient) =
      layers.countP (fun layer => layer.decision = some .device ∧ layer.isVideo = true) := by
    apply List.countP_congr
    intro layer member
    rw [Bool.and_eq_true, onPlane layer member, decide_eq_true_eq, and_comm]
  have target : layers.any Layer.isClient = true ↔
      ∃ layer ∈ layers, layer.decision = some .client := by
    simp only [List.any_eq_true, Layer.isClient, beq_iff_eq]
  rw [planesInUse_eq, planesNeeded, device, video]
  simp only [target]

end Decided

/-! ### The report -/

section Report

variable {snapshot : Snapshot} (classifier : Classifier)

theorem positions_isNone_eq :
    positions (·.decision.isNone) snapshot.layers =
      layersWhere snapshot.layers (Carries snapshot.layers none) := by
  apply positions_eq_layersWhere
  intro z layer present
  rw [carries_iff_of_getElem? present, Option.isNone_iff_eq_none]

/-- Undecided layers are reported alone. -/
theorem violations_of_undecided {z : Nat} (bare : Carries snapshot.layers none z) :
    violations snapshot classifier =
      (layersWhere snapshot.layers (Carries snapshot.layers none)).map .unplanned := by
  have listed : ¬ (layersWhere snapshot.layers (Carries snapshot.layers none)).isEmpty = true := by
    rw [List.isEmpty_iff, layersWhere_eq_nil_iff fun _ => Carries.lt_length]
    exact fun decided => decided z bare
  rw [violations, positions_isNone_eq, if_neg listed]

/-- Of a decided stack the checker reports the gaps, then the marked layers on planes, then the
planes if there are too few. -/
theorem violations_of_decided (decided : ∀ z, ¬ Carries snapshot.layers none z) :
    violations snapshot classifier =
      (layersWhere snapshot.layers (SplitsClients snapshot.layers)).map .splitClientRange ++
        (layersWhere snapshot.layers (MarkedOnPlane snapshot classifier)).map .mandatoryOnPlane ++
        (if snapshot.usablePlanes < planesNeeded snapshot.layers then
          [.overBudget (planesNeeded snapshot.layers) snapshot.usablePlanes] else []) := by
  have nothing : (layersWhere snapshot.layers (Carries snapshot.layers none)).isEmpty = true := by
    rw [List.isEmpty_iff, layersWhere_eq_nil_iff fun _ => Carries.lt_length]
    exact decided
  have marked : positions (fun layer => !layer.isClient && classifier snapshot layer)
      snapshot.layers = layersWhere snapshot.layers (MarkedOnPlane snapshot classifier) := by
    apply positions_eq_layersWhere
    intro z layer present
    rw [Bool.and_eq_true, not_isClient_iff decided present, MarkedOnPlane]
    simp [present]
  rw [violations, positions_isNone_eq, if_pos nothing, marked,
    splitPositions_eq_layersWhere decided, planesInUse_eq_planesNeeded decided]

end Report

/-- The report is exact, whatever decisions the layers carry.  If a layer is undecided, it names the
undecided layers and nothing else; otherwise it names the device layers between client layers, then
the device layers that need the GPU, and last the planes needed if there are not as many.  It is
empty exactly if every layer is decided, the client layers lie side by side, no layer that needs the
GPU is on a plane, and the planes are enough. -/
theorem violations_exact (snapshot : Snapshot) (classifier : Classifier) :
    let layers := snapshot.layers
    violations snapshot classifier =
        (if ∃ z < layers.length, Carries layers none z then
          (layersWhere layers (Carries layers none)).map .unplanned
        else
          (layersWhere layers (SplitsClients layers)).map .splitClientRange ++
            (layersWhere layers (MarkedOnPlane snapshot classifier)).map .mandatoryOnPlane ++
            (if snapshot.usablePlanes < planesNeeded layers then
              [.overBudget (planesNeeded layers) snapshot.usablePlanes] else [])) ∧
      (violations snapshot classifier = [] ↔
        (∀ z, ¬ Carries layers none z) ∧ Contiguous layers ∧
          (∀ z, ¬ MarkedOnPlane snapshot classifier z) ∧
          planesNeeded layers ≤ snapshot.usablePlanes) := by
  intro layers
  by_cases undecided : ∃ z < layers.length, Carries layers none z
  · obtain ⟨z, inStack, bare⟩ := undecided
    rw [if_pos ⟨z, inStack, bare⟩, violations_of_undecided classifier bare]
    refine ⟨rfl, ?_⟩
    rw [List.map_eq_nil_iff, layersWhere_eq_nil_iff fun _ => Carries.lt_length]
    exact iff_of_false (fun decided => decided z bare) (fun clean => clean.1 z bare)
  · have decided : ∀ z, ¬ Carries layers none z :=
      fun z bare => undecided ⟨z, bare.lt_length, bare⟩
    rw [if_neg undecided, violations_of_decided classifier decided]
    refine ⟨rfl, ?_⟩
    have unbroken : layersWhere layers (SplitsClients layers) = [] ↔ Contiguous layers := by
      rw [contiguous_iff_not_splits decided,
        layersWhere_eq_nil_iff fun _ split => split.1.lt_length]
    have unmarked : layersWhere layers (MarkedOnPlane snapshot classifier) = [] ↔
        ∀ z, ¬ MarkedOnPlane snapshot classifier z :=
      layersWhere_eq_nil_iff fun _ => MarkedOnPlane.lt_length
    have enough : (if snapshot.usablePlanes < planesNeeded layers then
        [Violation.overBudget (planesNeeded layers) snapshot.usablePlanes] else []) = [] ↔
        planesNeeded layers ≤ snapshot.usablePlanes := by
      rw [← Nat.not_lt]
      split <;> simp [*]
    rw [List.append_eq_nil_iff, List.append_eq_nil_iff, List.map_eq_nil_iff, List.map_eq_nil_iff,
      unbroken, unmarked, enough, and_assoc]
    exact (and_iff_right decided).symm

/-- Two device layers in a gap, one of which no plane can scan out, the other with video. -/
example :
    let merged : Layer := { frame := ⟨0, 0, 4, 4⟩, decision := some .client }
    let onPlane : Layer := { merged with decision := some .device }
    let unusable : Layer := { onPlane with planeUsable := false }
    let video : Layer := { onPlane with isVideo := true }
    violations (.ofLayers [merged, unusable, video, merged] 3) (PlaneRules.forcesClient {}) =
      [.splitClientRange 1, .splitClientRange 2, .mandatoryOnPlane 1, .overBudget 4 3] := by
  decide

end Scanout
