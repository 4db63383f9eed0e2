/-
Module: Scanout.Proofs.PlanPartition
Purpose: A renewed plan shows every layer of the stack once and in order, or the stack is refused
  because of its lowest fault and the plan is left without items.
Imports: Scanout.Proofs.DecidedStacks
Main exports: PlaneItem.position, PlaneItem.represents, PlaneItem.isTarget, Plan.Partitions,
  Plan.countP_represents, Plan.partitions_itemsAround
-/
import Scanout.Proofs.DecidedStacks

namespace Scanout

namespace PlaneItem

/-- Where the item is in the stack; a client target is where the lowest layer of its range is. -/
def position : PlaneItem → Nat
  | .layer z _ _ => z
  | .clientTarget range _ => range.start

/-- Whether layer `z` is shown by the item, on its own or merged with others. -/
def represents : PlaneItem → (z : Nat) → Bool
  | .layer own _ _, z => own == z
  | .clientTarget range _, z => range.contains z

def isTarget : PlaneItem → Bool
  | .layer .. => false
  | .clientTarget .. => true

end PlaneItem

namespace Plan

/-- The items show the layers of a stack as their decisions say. -/
structure Partitions (layers : List Layer) (items : List PlaneItem) : Prop where
  /-- Every layer of the stack is shown by one item, and nothing above the stack is shown. -/
  once : ∀ z, items.countP (·.represents z) = if z < layers.length then 1 else 0
  /-- The device layers, with their frames and video flags, are shown on their own. -/
  device : ∀ z frame video, .layer z frame video ∈ items ↔
    ∃ layer, layers[z]? = some layer ∧ layer.decision = some .device ∧ frame = layer.frame ∧
      video = layer.isVideo
  /-- A client target shows the client layers. -/
  merged : ∀ range bounds, .clientTarget range bounds ∈ items →
    ∀ z, range.contains z = true ↔ Carries layers (some .client) z
  /-- There is a client target exactly if there is a client layer. -/
  target : (∃ item ∈ items, item.isTarget = true) ↔ ∃ z, Carries layers (some .client) z
  single : items.countP PlaneItem.isTarget ≤ 1
  upwards : (items.map PlaneItem.position).Pairwise (· < ·)
  /-- The position of an item is that of the lowest layer it shows. -/
  lowest : ∀ item ∈ items, item.represents item.position = true ∧
    ∀ z, item.represents z = true → item.position ≤ z

/-! ### The items of a decided stack -/

section Items

variable {client : ClientRange} {layers : List Layer}

/-- The item that a layer and its position give rise to. -/
def itemAt (client : ClientRange) (layers : List Layer) (entry : Layer × Nat) : Option PlaneItem :=
  if client.contains entry.2 then
    if entry.2 = client.start then some (targetOf client layers) else none
  else some (.layer entry.2 entry.1.frame entry.1.isVideo)

theorem itemsAround_eq (client : ClientRange) (layers : List Layer) :
    itemsAround client layers = layers.zipIdx.filterMap (itemAt client layers) := rfl

theorem position_of_itemAt {entry : Layer × Nat} {item : PlaneItem}
    (made : itemAt client layers entry = some item) : item.position = entry.2 := by
  rw [itemAt] at made
  split at made
  · split at made
    · next lowest =>
        cases made
        exact lowest.symm
    · cases made
  · cases made
    rfl

/-- The position of the item that shows layer `z`. -/
def home (client : ClientRange) (z : Nat) : Nat := if client.contains z then client.start else z

theorem home_lt_iff (within : client.stop ≤ layers.length) {z : Nat} :
    home client z < layers.length ↔ z < layers.length := by
  rw [ClientRange.stop_eq] at within
  rw [home]
  split
  · next held =>
      rw [ClientRange.contains_iff] at held
      omega
  · rfl

/-- Of the positions in the range only the lowest is a home, that of all layers in the range. -/
theorem eq_home_iff_of_contains {position z : Nat} (inside : client.contains position = true) :
    position = home client z ↔ client.contains z = true ∧ position = client.start := by
  rw [home]
  split
  · next held => exact (and_iff_right held).symm
  · next outside =>
      constructor
      · rintro rfl
        exact absurd inside outside
      · rintro ⟨held, _⟩
        exact absurd held outside

/-- A position outside the range is the home of its own layer only. -/
theorem eq_home_iff_of_outside {position z : Nat} (outside : ¬ client.contains position = true) :
    position = home client z ↔ position = z := by
  rw [home]
  split
  · next held =>
      rw [ClientRange.contains_iff] at held outside
      omega
  · rfl

/-- A layer gives rise to the item that shows layer `z` exactly if it is at the home of `z`. -/
theorem represents_itemAt (entry : Layer × Nat) (z : Nat) :
    ((itemAt client layers entry).map (·.represents z)).getD false =
      (entry.2 == home client z) := by
  rw [Bool.eq_iff_iff, beq_iff_eq, itemAt]
  by_cases inside : client.contains entry.2 = true
  · rw [if_pos inside, eq_home_iff_of_contains inside]
    by_cases lowest : entry.2 = client.start
    · rw [if_pos lowest]
      exact (and_iff_left lowest).symm
    · rw [if_neg lowest]
      exact iff_of_false Bool.false_ne_true fun atStart => lowest atStart.2
  · rw [if_neg inside, eq_home_iff_of_outside inside]
    exact beq_iff_eq

/-- One item shows a layer of the stack, and none shows anything above it. -/
theorem countP_represents (within : client.stop ≤ layers.length) (z : Nat) :
    (itemsAround client layers).countP (·.represents z) = if z < layers.length then 1 else 0 := by
  calc (itemsAround client layers).countP (·.represents z)
      = layers.zipIdx.countP (fun entry => entry.2 == home client z) := by
        rw [itemsAround_eq, List.countP_filterMap]
        simp only [represents_itemAt]
    _ = (layers.zipIdx.map Prod.snd).count (home client z) := by
        rw [List.count_eq_countP, List.countP_map]
        rfl
    _ = (List.range layers.length).count (home client z) := by
        rw [List.zipIdx_map_snd, List.range_eq_range']
    _ = if z < layers.length then 1 else 0 := by
        simp only [List.count_range, home_lt_iff within]

/-- The items have the positions of different layers, in the order of the stack. -/
theorem pairwise_position_itemsAround (client : ClientRange) (layers : List Layer) :
    ((itemsAround client layers).map PlaneItem.position).Pairwise (· < ·) := by
  have upwards : (layers.zipIdx.map Prod.snd).Pairwise (· < ·) := by
    rw [List.zipIdx_map_snd]
    exact List.pairwise_lt_range'
  rw [itemsAround_eq, List.pairwise_map, List.pairwise_filterMap]
  rw [List.pairwise_map] at upwards
  refine upwards.imp ?_
  intro lower upper below first made second madeNext
  rw [position_of_itemAt made, position_of_itemAt madeNext]
  exact below

/-- A target among the items shows the lowest layer of the range, so there is at most one. -/
theorem countP_isTarget_le (within : client.stop ≤ layers.length) :
    (itemsAround client layers).countP PlaneItem.isTarget ≤ 1 := by
  calc (itemsAround client layers).countP PlaneItem.isTarget
      ≤ (itemsAround client layers).countP (·.represents client.start) := by
        apply List.countP_mono_left
        intro item member isTarget
        rcases (mem_itemsAround_iff within).mp member with ⟨z, layer, _, _, rfl⟩ | ⟨occupied, rfl⟩
        · cases isTarget
        · exact ClientRange.contains_start occupied
    _ ≤ 1 := by
        rw [countP_represents within]
        split <;> omega

section Decided

variable (within : client.stop ≤ layers.length) (decides : client.Decides layers)

include within decides

theorem layer_mem_itemsAround_iff {z : Nat} {frame : Rect} {video : Bool} :
    .layer z frame video ∈ itemsAround client layers ↔
      ∃ layer, layers[z]? = some layer ∧ layer.decision = some .device ∧ frame = layer.frame ∧
        video = layer.isVideo := by
  rw [mem_itemsAround_iff within]
  constructor
  · rintro (⟨_, layer, present, outside, same⟩ | ⟨_, same⟩)
    · cases same
      refine ⟨layer, present, ?_, rfl, rfl⟩
      rw [decides z layer present, ClientRange.decisionAt, outside]
      rfl
    · cases same
  · rintro ⟨layer, present, device, rfl, rfl⟩
    refine Or.inl ⟨z, layer, present, ?_, rfl⟩
    rw [← Bool.not_eq_true, ← decides.isClient_iff present, Layer.isClient, device]
    decide

theorem contains_iff_carries_client {z : Nat} :
    client.contains z = true ↔ Carries layers (some .client) z := by
  constructor
  · intro inside
    have bounds := ClientRange.contains_iff.mp inside
    rw [ClientRange.stop_eq] at within
    exact (carries_client_iff_of_decides decides (by omega)).mpr inside
  · intro isClient
    exact (carries_client_iff_of_decides decides isClient.lt_length).mp isClient

theorem exists_target_iff :
    (∃ item ∈ itemsAround client layers, item.isTarget = true) ↔
      ∃ z, Carries layers (some .client) z := by
  constructor
  · rintro ⟨item, member, isTarget⟩
    rcases (mem_itemsAround_iff within).mp member with ⟨_, _, _, _, rfl⟩ | ⟨occupied, rfl⟩
    · cases isTarget
    · refine ⟨client.start, (contains_iff_carries_client within decides).mp ?_⟩
      rw [ClientRange.contains_iff]
      omega
  · rintro ⟨z, isClient⟩
    have inside := (contains_iff_carries_client within decides).mpr isClient
    rw [ClientRange.contains_iff] at inside
    exact ⟨_, (mem_itemsAround_iff within).mpr (Or.inr ⟨by omega, rfl⟩), rfl⟩

/-- The items around a range show the layers of a stack that the range decides. -/
theorem partitions_itemsAround : Partitions layers (itemsAround client layers) where
  once := countP_represents within
  device := fun _ _ _ => layer_mem_itemsAround_iff within decides
  merged := by
    intro range bounds member z
    rcases (mem_itemsAround_iff within).mp member with ⟨_, _, _, _, same⟩ | ⟨_, same⟩
    · cases same
    · cases same
      exact contains_iff_carries_client within decides
  target := exists_target_iff within decides
  single := countP_isTarget_le within
  upwards := pairwise_position_itemsAround client layers
  lowest := by
    intro item member
    rcases (mem_itemsAround_iff within).mp member with ⟨z, layer, _, _, rfl⟩ | ⟨occupied, rfl⟩
    · exact ⟨beq_self_eq_true z, fun other same => Nat.le_of_eq (beq_iff_eq.mp same)⟩
    · refine ⟨ClientRange.contains_iff.mpr ?_, fun z inside => ?_⟩
      · show client.start ≤ client.start ∧ client.start < client.start + client.size
        omega
      · exact (ClientRange.contains_iff.mp inside).1

end Decided

end Items

/-! ### Plans of arbitrary stacks -/

/-- Renewing a plan succeeds exactly for stacks in which every layer is decided and the client
layers lie side by side, and then the items show the stack.  Otherwise it fails because of the
lowest fault and leaves no items.  Which items the plan had does not matter. -/
theorem renew_partitions_or_refuses (plan : Plan) (snapshot : Snapshot) :
    let layers := snapshot.layers
    ((∀ z, ¬ Carries layers none z) ∧ Contiguous layers →
        ∃ items, plan.renew snapshot = (.ok (), { plan with items }) ∧ Partitions layers items) ∧
      (¬ ((∀ z, ¬ Carries layers none z) ∧ Contiguous layers) →
        ∃ fault, plan.renew snapshot = (.error fault, { plan with items := [] }) ∧
          LowestFault layers fault) ∧
      ∀ previous, { plan with items := previous }.renew snapshot = plan.renew snapshot := by
  intro layers
  refine ⟨?shown, ?refused, ?anew⟩
  case shown =>
    intro planned
    obtain ⟨range, decides⟩ := exists_decides_iff_contiguous.mpr planned
    exact ⟨_, renew_of_decides decides plan,
      partitions_itemsAround (ClientRange.stop_below_le _ _) decides.below⟩
  case refused =>
    intro unplanned
    rcases stampedClientRange_outcome layers with ⟨range, _, decides, _⟩ | ⟨fault, read, lowest⟩
    · exact absurd (exists_decides_iff_contiguous.mp ⟨range, decides⟩) unplanned
    · refine ⟨fault, ?_, lowest⟩
      rw [renew, read]
  case anew =>
    intro previous
    rw [renew, renew]

/-- A plan that held something else is renewed with a stack whose layers 1 and 2 are merged, and
with one whose client layers have a gap at layer 1 and an undecided layer above it: the gap is
reported, at the client layer over it. -/
theorem renew_partitions_or_refuses_on_gap_below_undecided :
    let plan : Plan := { display := ⟨0⟩, items := [.layer 7 Rect.zero true] }
    let layer : Layer := { frame := ⟨0, 0, 4, 4⟩ }
    let merged := Snapshot.stamp (.ofLayers [layer, layer, layer, layer] 3) ⟨1, 2⟩
    let broken := Snapshot.ofLayers
      [layer.stamp true, layer.stamp false, layer.stamp true, layer, layer.stamp true] 3
    ((∀ z, ¬ Carries merged.layers none z) ∧ Contiguous merged.layers) ∧
      (∃ items, plan.renew merged = (.ok (), { plan with items }) ∧
        Partitions merged.layers items) ∧
      ¬ ((∀ z, ¬ Carries broken.layers none z) ∧ Contiguous broken.layers) ∧
      plan.renew broken = (.error (.splitClientRange 2), { plan with items := [] }) ∧
      LowestFault broken.layers (.splitClientRange 2) := by
  intro plan layer merged broken
  have planned : (∀ z, ¬ Carries merged.layers none z) ∧ Contiguous merged.layers :=
    exists_decides_iff_contiguous.mp ⟨⟨1, 2⟩, Snapshot.decides_stamp _ _⟩
  have unplanned : ¬ ((∀ z, ¬ Carries broken.layers none z) ∧ Contiguous broken.layers) :=
    fun ⟨decided, _⟩ => decided 3 (by decide)
  have shown := (renew_partitions_or_refuses plan merged).1 planned
  obtain ⟨fault, failed, lowest⟩ := (renew_partitions_or_refuses plan broken).2.1 unplanned
  have read : (plan.renew broken).1 = .error (.splitClientRange 2) := rfl
  rw [failed] at read
  cases read
  exact ⟨planned, shown, unplanned, failed, lowest⟩

end Plan

end Scanout
