/-
Module: Scanout.Proofs.Pass.ReservedPlanes
Purpose: How many planes a frame takes whose video layers were kept on planes, and when that is one
  more than there are.
Imports: Scanout.Proofs.PlaneCounts, Scanout.Proofs.Pass.Equations
Main exports: Overcommits, planesInUse_stampLayers_of_apart, HonoursVideo.planes_of_least,
  Planner.honoursVideo_of_kept
-/
import Scanout.Proofs.PlaneCounts
import Scanout.Proofs.Pass.Equations

namespace Scanout

/-- The planes are too few for the stack with its video layers, but no plane is held back for the
client target, since the planes are compared with the layers only; and the range has to grow until
the layers outside it take every plane. -/
def Overcommits (layerCount usablePlanes : Nat) (client : ClientRange) (device : DeviceRange) :
    Prop :=
  layerCount ≤ usablePlanes ∧ usablePlanes < layerCount + device.size ∧
    usablePlanes + client.size ≤ layerCount + device.size

instance (layerCount usablePlanes : Nat) (client : ClientRange) (device : DeviceRange) :
    Decidable (Overcommits layerCount usablePlanes client device) :=
  inferInstanceAs (Decidable (_ ∧ _))

/-- Planes of a stack whose client range shares no layer with the video run. -/
theorem planesInUse_stampLayers_of_apart {layers : List Layer} {range : ClientRange}
    {device : DeviceRange} (found : DeviceRange.ofVideo layers = some device)
    (within : range.stop ≤ layers.length)
    (apart : ∀ z, range.contains z = true → ¬ device.Holds z) :
    planesInUse (stampLayers range layers) =
      (layers.length - range.size) + device.size + (if range.size = 0 then 0 else 1) := by
  have decides := decides_stampLayers range layers
  have outside (layer : Layer) (member : layer ∈ stampLayers range layers) :
      (layer.isVideo && !layer.isClient) = true ↔ layer.isVideo = true := by
    rw [Bool.and_eq_true]
    refine and_iff_left_of_imp fun video => ?_
    obtain ⟨z, present⟩ := List.getElem?_of_mem member
    have client := decides.isClient_iff present
    obtain ⟨before, presentBefore, rfl⟩ := getElem?_stampLayers_eq_some present
    have held := (DeviceRange.holds_iff_of_ofVideo found presentBefore).mpr video
    rw [Bool.not_eq_true', ← Bool.not_eq_true, client]
    exact fun inside => apart z inside held
  rw [planesInUse_of_decides decides (by rw [length_stampLayers]; exact within),
    List.countP_congr outside, countP_isVideo_stampLayers,
    DeviceRange.countP_isVideo_of_ofVideo found, length_stampLayers]

/-- A least range around the video run leaves a stack that fits together with its client target,
unless it overcommits, and then one plane is missing. -/
theorem HonoursVideo.planes_of_least {layerCount usablePlanes : Nat} {client range : ClientRange}
    {device : DeviceRange} (reserved : device.size ≠ 0)
    (honoured : HonoursVideo layerCount usablePlanes client device range)
    (least : ∀ other, HonoursVideo layerCount usablePlanes client device other →
      range.size ≤ other.size) :
    (Overcommits layerCount usablePlanes client device ∧
        (layerCount - range.size) + device.size + (if range.size = 0 then 0 else 1) =
          usablePlanes + 1) ∨
      (¬ Overcommits layerCount usablePlanes client device ∧
        (layerCount - range.size) + device.size + (if range.size = 0 then 0 else 1) ≤
          usablePlanes) := by
  have rangeStop := ClientRange.stop_eq range
  have deviceStop := DeviceRange.stop_eq device
  have sides := (DeviceRange.disjoint_iff reserved).mp honoured.apart
  have within := honoured.within
  have larger := ClientRange.size_le_of_covers honoured.covers
  have fits := honoured.fits
  have target : range.size = 0 ∧ (if range.size = 0 then 0 else 1) = 0 ∨
      range.size ≠ 0 ∧ (if range.size = 0 then 0 else 1) = 1 := by
    split
    · next vacant => exact Or.inl ⟨vacant, rfl⟩
    · next occupied => exact Or.inr ⟨occupied, rfl⟩
  by_cases fewer : usablePlanes < layerCount
  · rw [targetPlanes, if_pos fewer] at fits
    refine Or.inr ⟨fun overcommitted => absurd overcommitted.1 (Nat.not_le_of_lt fewer), ?_⟩
    omega
  · rw [targetPlanes, if_neg fewer] at fits
    by_cases overcommitted : Overcommits layerCount usablePlanes client device
    · have ⟨_, scarce, grown⟩ := overcommitted
      -- Minimality: the range is no larger than the planes require.
      have enough : (layerCount - device.size - (layerCount + device.size - usablePlanes)) +
          2 * device.size + targetPlanes layerCount usablePlanes ≤ usablePlanes := by
        rw [targetPlanes, if_neg fewer]
        omega
      obtain ⟨other, honouredOther, sizeEq⟩ :=
        honoured.exists_smaller (by omega) (by omega) enough
      have small := least other honouredOther
      refine Or.inl ⟨overcommitted, ?_⟩
      omega
    · refine Or.inr ⟨overcommitted, ?_⟩
      rw [Overcommits] at overcommitted
      omega

/-! ### The pass -/

namespace Planner

/-- Without a recorded fallback the stamped range is a least one that honours the reservation. -/
theorem honoursVideo_of_kept {planner : Planner} {snapshot : Snapshot} {device : DeviceRange}
    (generic : planner.strategy = .generic) (supported : snapshot.unsupported = false)
    (moving : snapshot.flattenable = false) (reserved : device.size ≠ 0)
    (deviceInside : device.stop ≤ snapshot.layerCount) (display : Display)
    (kept : ∀ event ∈ (planner.passUntested (some device) display snapshot).events,
      ∀ cause, event.body ≠ .fallback cause) :
    ∃ range, (planner.passUntested (some device) display snapshot).snapshot =
        snapshot.stamp range ∧
      HonoursVideo snapshot.layerCount snapshot.usablePlanes (planner.needed snapshot) device
        range ∧
      ∀ other, HonoursVideo snapshot.layerCount snapshot.usablePlanes (planner.needed snapshot)
        device other → range.size ≤ other.size := by
  have inside := planner.stop_needed_le snapshot
  have stamped : (planner.passUntested (some device) display snapshot).snapshot = _ :=
    snapshot_passUntested display supported (some device)
  have recorded (cause : FallbackCause) :
      (∃ event ∈ (planner.passUntested (some device) display snapshot).events,
        event.body = .fallback cause) ↔ _ :=
    exists_fallback_iff display supported
  rw [select_generic generic moving] at stamped recorded
  rcases fitAroundVideo_cases snapshot.usablePlanes (CostTable.ofLayers snapshot.layers).window
      inside reserved deviceInside with ⟨range, found, honoured, least⟩ | ⟨cause, given, _⟩
  · refine ⟨range, ?_, honoured, least⟩
    rw [stamped, Selection.client, fit, found]
  · have fallback : (Selection.fitted (planner.needed snapshot)
        (fit snapshot (some device) (planner.needed snapshot))).fallback = some cause := by
      rw [Selection.fallback, fit, given]
    obtain ⟨event, member, body⟩ := (recorded cause).mpr fallback
    exact absurd body (kept event member cause)

/-- Where no fallback is recorded, the stamped frame breaks no promise but the budget, which it
exceeds by one plane exactly if it overcommits. -/
theorem violations_passUntested_of_kept (rules : PlaneRules) {snapshot : Snapshot}
    {device : DeviceRange} (supported : snapshot.unsupported = false)
    (moving : snapshot.flattenable = false)
    (found : DeviceRange.ofVideo snapshot.layers = some device) (display : Display)
    (kept : ∀ event ∈ ((ofConfig { rules }).passUntested (some device) display snapshot).events,
      ∀ cause, event.body ≠ .fallback cause) :
    let passed := (ofConfig { rules }).passUntested (some device) display snapshot
    violations passed.snapshot rules.forcesClient =
        (if Overcommits snapshot.layerCount snapshot.usablePlanes
            ((ofConfig { rules }).needed snapshot) device then
          [.overBudget (snapshot.usablePlanes + 1) snapshot.usablePlanes]
        else []) ∧
      (planesInUse passed.snapshot.layers ≤ snapshot.usablePlanes ↔
        ¬ Overcommits snapshot.layerCount snapshot.usablePlanes
          ((ofConfig { rules }).needed snapshot) device) := by
  intro passed
  have reserved := DeviceRange.size_ne_zero_of_ofVideo found
  have deviceInside : device.stop ≤ snapshot.layerCount := DeviceRange.stop_le_of_ofVideo found
  obtain ⟨range, stamped, honoured, least⟩ := honoursVideo_of_kept rfl supported moving reserved
    deviceInside display kept
  have holds (z : Nat) (layer : Layer) (present : (snapshot.stamp range).layers[z]? = some layer)
      (marked : rules.forcesClient (snapshot.stamp range) layer = true) :
      range.contains z = true := by
    obtain ⟨before, presentBefore, rfl⟩ := getElem?_stampLayers_eq_some present
    have needs := ((ofConfig { rules }).spans_needed snapshot).holds z before presentBefore marked
    exact ClientRange.covers_iff_forall.mp honoured.covers z needs
  have planes : planesInUse (snapshot.stamp range).layers =
      (snapshot.layerCount - range.size) + device.size + (if range.size = 0 then 0 else 1) :=
    planesInUse_stampLayers_of_apart found honoured.within honoured.apart
  have audited := violations_of_decides (snapshot.decides_stamp range) holds
  have available : (snapshot.stamp range).usablePlanes = snapshot.usablePlanes := rfl
  rw [planes, available] at audited
  rw [show passed.snapshot = snapshot.stamp range from stamped, planes, audited]
  rcases honoured.planes_of_least reserved least with ⟨scarce, missing⟩ | ⟨enough, fits⟩
  · rw [missing, if_pos (Nat.lt_succ_self _), if_pos scarce]
    exact ⟨rfl, iff_of_false (Nat.not_succ_le_self _) fun enough => enough scarce⟩
  · rw [if_neg (Nat.not_lt_of_le fits), if_neg enough]
    exact ⟨rfl, iff_of_true fits enough⟩

/-- A layer above a video layer, on two planes. -/
def overlaidVideoFrame : Snapshot :=
  .ofLayers [{ frame := ⟨0, 0, 10, 10⟩, isVideo := true }, { frame := ⟨0, 0, 10, 10⟩ }] 2

/-- The upper layer goes to the client target, for which the video layer has left no plane. -/
theorem violations_passUntested_of_kept_on_overlaid_video :
    let passed := (ofConfig {}).passUntested (some ⟨0, 1⟩) (.new ⟨0⟩) overlaidVideoFrame
    DeviceRange.ofVideo overlaidVideoFrame.layers = some ⟨0, 1⟩ ∧
      (∀ event ∈ passed.events, ∀ cause, event.body ≠ .fallback cause) ∧
      violations passed.snapshot (PlaneRules.forcesClient {}) = [.overBudget 3 2] ∧
      ¬ planesInUse passed.snapshot.layers ≤ 2 := by
  intro passed
  have kept : ∀ event ∈ passed.events, ∀ cause, event.body ≠ .fallback cause := by
    intro event member cause body
    have givenUp := (exists_fallback_iff (.new ⟨0⟩) (by decide)).mp ⟨event, member, body⟩
    have kept : ((ofConfig {}).select overlaidVideoFrame (some ⟨0, 1⟩)).fallback = none := by
      decide
    rw [kept] at givenUp
    cases givenUp
  have broken := violations_passUntested_of_kept {} (by decide) (by decide) (by decide) (.new ⟨0⟩)
    kept
  exact ⟨by decide, kept, broken.1, fun fits => broken.2.mp fits (by decide)⟩

end Planner

end Scanout
