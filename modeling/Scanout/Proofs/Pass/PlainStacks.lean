/-
Module: Scanout.Proofs.Pass.PlainStacks
Purpose: A stack without video layers leaves every pass with a plan that keeps all promises,
  whatever was to be reserved and whatever the tester said.
Imports: Scanout.Proofs.PlaneCounts, Scanout.Proofs.Pass.Equations
Main exports: FitsWithTarget, FitsPlanes.withTarget, HonoursVideo.withTarget,
  planesInUse_stampLayers_of_no_video, Planner.fitsWithTarget_settled,
  Planner.contains_settled_of_marked
-/
import Scanout.Proofs.PlaneCounts
import Scanout.Proofs.Pass.Equations

namespace Scanout

/-! ### Room for the client target -/

/-- `range` lies in the stack, and one plane for each other layer leaves one for the client target
if there is any. -/
structure FitsWithTarget (layerCount usablePlanes : Nat) (range : ClientRange) : Prop where
  within : range.stop ≤ layerCount
  fits : (layerCount - range.size) + (if range.size = 0 then 0 else 1) ≤ usablePlanes

section Room

variable {layerCount usablePlanes : Nat} {client range : ClientRange}

/-- A plane is held back only from stacks with more layers than planes; in the others the layers of
the client range itself leave one. -/
theorem FitsPlanes.withTarget (positive : 1 ≤ usablePlanes)
    (fitting : FitsPlanes layerCount usablePlanes client range) :
    FitsWithTarget layerCount usablePlanes range := by
  have ⟨within, _, fits⟩ := fitting
  refine ⟨within, ?_⟩
  rw [ClientRange.stop_eq] at within
  rw [devicePlanes] at fits
  split at fits
  · split <;> omega
  · split <;> omega

/-- Two planes are counted for each layer of the reserved run, so there is one to spare. -/
theorem HonoursVideo.withTarget {device : DeviceRange} (reserved : device.size ≠ 0)
    (deviceInside : device.stop ≤ layerCount)
    (honoured : HonoursVideo layerCount usablePlanes client device range) :
    FitsWithTarget layerCount usablePlanes range := by
  have ⟨within, _, apart, fits⟩ := honoured
  refine ⟨within, ?_⟩
  have sides := (DeviceRange.disjoint_iff reserved).mp apart
  rw [ClientRange.stop_eq] at within sides
  rw [DeviceRange.stop_eq] at deviceInside sides
  split <;> omega

theorem fitsWithTarget_whole (positive : 1 ≤ usablePlanes) :
    FitsWithTarget layerCount usablePlanes (ClientRange.whole layerCount) := by
  refine ⟨Nat.le_of_eq (ClientRange.stop_whole _), ?_⟩
  rw [ClientRange.size_whole, Nat.sub_self, Nat.zero_add]
  split <;> omega

/-- Whichever run is to be reserved, the range found leaves room for its target. -/
theorem fitsWithTarget_fitAroundVideo (positive : 1 ≤ usablePlanes)
    (inside : client.stop ≤ layerCount) (device : DeviceRange) (cost : WindowCost) :
    FitsWithTarget layerCount usablePlanes
      (fitAroundVideo layerCount usablePlanes client device cost).range := by
  have plain := (fitToPlanes_fits usablePlanes cost inside).withTarget positive
  by_cases vacant : device.isEmpty = true
  · rw [fitAroundVideo, if_pos vacant]
    exact plain
  · by_cases outside : layerCount < device.stop
    · rw [fitAroundVideo, if_neg vacant, if_pos outside]
      exact plain
    · have reserved := DeviceRange.not_isEmpty_iff.mp vacant
      have deviceInside := Nat.le_of_not_lt outside
      rcases fitAroundVideo_cases usablePlanes cost inside reserved deviceInside with
        ⟨range, found, honoured, _⟩ | ⟨cause, given, _⟩
      · rw [found]
        exact honoured.withTarget reserved deviceInside
      · rw [given]
        exact plain

end Room

/-- Planes of a stack in which every layer takes one. -/
theorem planesInUse_stampLayers_of_no_video {layers : List Layer} {range : ClientRange}
    (noVideo : ∀ layer ∈ layers, layer.isVideo = false) (within : range.stop ≤ layers.length) :
    planesInUse (stampLayers range layers) =
      (layers.length - range.size) + (if range.size = 0 then 0 else 1) := by
  have none : (stampLayers range layers).countP
      (fun layer => layer.isVideo && !layer.isClient) = 0 := by
    rw [List.countP_eq_zero]
    intro layer member
    obtain ⟨z, present⟩ := List.getElem?_of_mem member
    obtain ⟨before, presentBefore, rfl⟩ := getElem?_stampLayers_eq_some present
    have plain : (before.stamp (range.contains z)).isVideo = false :=
      noVideo before (List.mem_of_getElem? presentBefore)
    simp [plain]
  have counted := planesInUse_of_decides (decides_stampLayers range layers)
    (by rw [length_stampLayers]; exact within)
  rw [counted, none, length_stampLayers, Nat.add_zero]

namespace Planner

section Settled

variable {snapshot : Snapshot}

/-- Whatever the verdict, the range that is stamped leaves room for the client target. -/
theorem fitsWithTarget_settled (positive : 1 ≤ snapshot.usablePlanes) (planner : Planner)
    (video : Option DeviceRange) (verdict : Option Bool) :
    FitsWithTarget snapshot.layerCount snapshot.usablePlanes
      (settledRange snapshot.layerCount
        ((planner.select snapshot video).client snapshot.layerCount) verdict) := by
  have inside := planner.stop_needed_le snapshot
  apply holds_settledRange (FitsWithTarget snapshot.layerCount snapshot.usablePlanes)
  case whole => exact fitsWithTarget_whole positive
  case fitted =>
    cases video with
    | none => exact (fitToPlanes_fits _ _ inside).withTarget positive
    | some device => exact fitsWithTarget_fitAroundVideo positive inside device _

/-- Whatever the verdict, the range that is stamped has every layer that needs the GPU. -/
theorem contains_settled_of_marked (planner : Planner) (video : Option DeviceRange)
    (verdict : Option Bool) {z : Nat} {layer : Layer} (present : snapshot.layers[z]? = some layer)
    (marked : planner.classifier snapshot layer = true) :
    (settledRange snapshot.layerCount
      ((planner.select snapshot video).client snapshot.layerCount) verdict).contains z = true := by
  apply holds_settledRange (·.contains z = true)
  case whole => exact ClientRange.whole_contains_iff.mpr (List.getElem?_eq_some_iff.mp present).1
  case fitted =>
    have covers := (fit_within_covers (planner.stop_needed_le snapshot) video).2
    have needs := (planner.spans_needed snapshot).holds z layer present marked
    exact ClientRange.covers_iff_forall.mp covers z needs

end Settled

/-- Without video layers a display with at least one plane never sees a broken promise: every
planner, reservation and tester leaves a stack that is decided, whose client layers are contiguous
and include all that need the GPU, and whose planes are enough. -/
theorem violations_pass_of_no_video {σ : Type} (config : Config) (tester : Option (CommitTester σ))
    (video : Option DeviceRange) (display : Display) {snapshot : Snapshot} (state : σ)
    (positive : 1 ≤ snapshot.usablePlanes)
    (noVideo : ∀ layer ∈ snapshot.layers, layer.isVideo = false)
    (plannable : ∀ layer ∈ snapshot.layers, layer.hint ≠ .displayDecoration) :
    violations ((ofConfig config).pass tester video display snapshot state).snapshot
      config.rules.forcesClient = [] := by
  have supported : snapshot.unsupported = false := by
    rw [← Bool.not_eq_true, Snapshot.unsupported_iff]
    rintro ⟨layer, member, decoration⟩
    exact plannable layer member decoration
  rcases consulted : consult tester snapshot
    (((ofConfig config).select snapshot video).client snapshot.layerCount) state with
    ⟨verdict, after⟩
  have fitting := fitsWithTarget_settled positive (ofConfig config) video verdict
  have holds (z : Nat) (layer : Layer) (present : snapshot.layers[z]? = some layer)
      (marked : config.rules.forcesClient snapshot layer = true) :=
    contains_settled_of_marked (ofConfig config) video verdict present marked
  rw [(pass_supported display supported consulted).1]
  generalize settledRange snapshot.layerCount
    (((ofConfig config).select snapshot video).client snapshot.layerCount) verdict = range
    at fitting holds ⊢
  have audited : violations (snapshot.stamp range) config.rules.forcesClient = _ :=
    violations_of_decides (snapshot.decides_stamp range) (by
      intro z layer present marked
      obtain ⟨before, presentBefore, rfl⟩ := getElem?_stampLayers_eq_some present
      -- The rules read neither decisions nor anything else that stamping changes.
      exact holds z before presentBefore marked)
  have planes : planesInUse (snapshot.stamp range).layers ≤ snapshot.usablePlanes := by
    have counted := planesInUse_stampLayers_of_no_video noVideo fitting.within
    exact Nat.le_trans (Nat.le_of_eq counted) fitting.fits
  rw [audited]
  exact if_neg (Nat.not_lt_of_le planes)

/-- Five layers on three planes, the middle one unfit for a plane.  A reservation for the two on top
is given up, since they are two planes each then; one that ends past the largest word is no better,
and with a tester that drives one plane all layers are merged. -/
theorem violations_pass_of_no_video_on_odd_reservations :
    let layer : Layer := { frame := ⟨0, 0, 4, 4⟩ }
    let frame := Snapshot.ofLayers
      [layer, layer, { layer with planeUsable := false }, layer, layer] 3
    violations ((ofConfig {}).pass (none : Option (CommitTester Unit)) (some ⟨3, 2⟩) (.new ⟨0⟩)
        frame ()).snapshot (PlaneRules.forcesClient {}) = [] ∧
      violations ((ofConfig {}).pass (some PlaneCap.test)
        (some ⟨Word.max64, Word.max64⟩) (.new ⟨0⟩) frame { planes := 1 }).snapshot
        (PlaneRules.forcesClient {}) = [] := by
  intro layer frame
  exact ⟨violations_pass_of_no_video {} none (some ⟨3, 2⟩) (.new ⟨0⟩) () (by decide) (by decide)
      (by decide),
    violations_pass_of_no_video {} (some PlaneCap.test) (some ⟨Word.max64, Word.max64⟩) (.new ⟨0⟩)
      { planes := 1 } (by decide) (by decide) (by decide)⟩

end Planner

end Scanout
