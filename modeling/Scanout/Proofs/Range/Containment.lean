/-
Module: Scanout.Proofs.Range.Containment
Purpose: Client and video ranges as sets of positions: covering is inclusion, overlapping is a
  common position.
Imports: Scanout.Range.Device
Main exports: ClientRange.contains_start, ClientRange.contains_last, ClientRange.covers_iff,
  ClientRange.covers_iff_forall, ClientRange.covers_trans, ClientRange.exists_window_between,
  ClientRange.isWhole_iff_forall, DeviceRange.Holds, DeviceRange.overlaps_iff_bounds,
  DeviceRange.disjoint_iff
-/
import Scanout.Range.Device

namespace Scanout

namespace ClientRange

/-! ### Endpoints of the constructors -/

theorem isEmpty_iff {range : ClientRange} : range.isEmpty = true ↔ range.size = 0 :=
  beq_iff_eq

theorem not_isEmpty_iff {range : ClientRange} : ¬ range.isEmpty = true ↔ range.size ≠ 0 :=
  not_congr isEmpty_iff

theorem stop_eq (range : ClientRange) : range.stop = range.start + range.size := rfl

@[simp] theorem stop_mk (start size : Nat) : (ClientRange.mk start size).stop = start + size := rfl

theorem mk_contains_iff {start size z : Nat} :
    (ClientRange.mk start size).contains z = true ↔ start ≤ z ∧ z < start + size :=
  contains_iff

theorem size_ne_zero_of_contains {range : ClientRange} {z : Nat}
    (inside : range.contains z = true) : range.size ≠ 0 := by
  rw [contains_iff] at inside
  omega

/-- A range that is not empty has the layers at both of its ends. -/
theorem contains_start {range : ClientRange} (occupied : range.size ≠ 0) :
    range.contains range.start = true := by
  rw [contains_iff]
  omega

theorem contains_last {range : ClientRange} (occupied : range.size ≠ 0) :
    range.contains (range.stop - 1) = true := by
  rw [contains_iff, stop_eq]
  omega

@[simp] theorem stop_whole (layerCount : Nat) : (whole layerCount).stop = layerCount := by
  rw [stop_eq, start_whole, size_whole, Nat.zero_add]

@[simp] theorem size_ofBounds (start stop : Nat) : (ofBounds start stop).size = stop - start :=
  size_ofSpan start (stop - start)

theorem ofBounds_of_lt {start stop : Nat} (ordered : start < stop) :
    ofBounds start stop = ⟨start, stop - start⟩ :=
  ofSpan_of_pos start (Nat.sub_pos_of_lt ordered)

theorem ofBounds_of_le {start stop : Nat} (degenerate : stop ≤ start) :
    ofBounds start stop = empty := by
  rw [ofBounds, Nat.sub_eq_zero_of_le degenerate, ofSpan_zero]

theorem whole_contains_iff {layerCount z : Nat} :
    (whole layerCount).contains z = true ↔ z < layerCount := by
  rw [contains_iff, start_whole, size_whole, Nat.zero_add]
  exact and_iff_right (Nat.zero_le z)

/-! ### Covering -/

theorem covers_iff {range other : ClientRange} :
    range.covers other = true ↔
      other.size = 0 ∨ range.start ≤ other.start ∧ other.stop ≤ range.stop := by
  simp [covers, isEmpty]

theorem mk_covers_iff {start size : Nat} {other : ClientRange} :
    (ClientRange.mk start size).covers other = true ↔
      other.size = 0 ∨ start ≤ other.start ∧ other.stop ≤ start + size :=
  covers_iff

theorem covers_mk_iff {range : ClientRange} {start size : Nat} :
    range.covers ⟨start, size⟩ = true ↔
      size = 0 ∨ range.start ≤ start ∧ start + size ≤ range.stop :=
  covers_iff

@[simp] theorem covers_refl (range : ClientRange) : range.covers range = true :=
  covers_iff.mpr (Or.inr ⟨Nat.le_refl _, Nat.le_refl _⟩)

/-- Covering is inclusion of the sets of positions. -/
theorem covers_iff_forall {range other : ClientRange} :
    range.covers other = true ↔
      ∀ z, other.contains z = true → range.contains z = true := by
  rw [covers_iff]
  constructor
  · intro covering z inside
    rw [contains_iff] at inside ⊢
    rcases covering with vacant | ⟨below, above⟩
    · omega
    · rw [stop_eq, stop_eq] at above
      omega
  · intro inclusion
    by_cases vacant : other.size = 0
    · exact Or.inl vacant
    · -- The two end positions of the other range pin down the bounds.
      have bottom := inclusion other.start (contains_start vacant)
      have top := inclusion (other.stop - 1) (contains_last vacant)
      rw [contains_iff] at bottom top
      refine Or.inr ⟨bottom.1, ?_⟩
      rw [stop_eq] at top ⊢
      rw [stop_eq]
      omega

theorem covers_trans {outer middle inner : ClientRange} (outerCovers : outer.covers middle = true)
    (middleCovers : middle.covers inner = true) : outer.covers inner = true := by
  rw [covers_iff_forall] at outerCovers middleCovers ⊢
  intro z inside
  exact outerCovers z (middleCovers z inside)

/-- What covers a range has at least its size. -/
theorem size_le_of_covers {range other : ClientRange} (covering : range.covers other = true) :
    other.size ≤ range.size := by
  rcases covers_iff.mp covering with vacant | ⟨below, above⟩
  · omega
  · rw [stop_eq, stop_eq] at above
    omega

/-- Between a range and one that covers it there is a range of every size in between. -/
theorem exists_window_between {outer inner : ClientRange} {size : Nat}
    (covering : outer.covers inner = true) (large : inner.size ≤ size) (small : size ≤ outer.size) :
    ∃ start, outer.covers ⟨start, size⟩ = true ∧
      (ClientRange.mk start size).covers inner = true := by
  rcases covers_iff.mp covering with vacant | ⟨below, above⟩
  · refine ⟨outer.start, ?_, covers_iff.mpr (Or.inl vacant)⟩
    rw [covers_mk_iff, stop_eq]
    exact Or.inr ⟨Nat.le_refl _, Nat.add_le_add_left small _⟩
  · -- As low as the outer range allows, but high enough to reach the end of the inner one.
    refine ⟨max outer.start (inner.stop - size), ?_, ?_⟩
    · rw [covers_mk_iff]
      simp only [stop_eq] at above ⊢
      omega
    · rw [mk_covers_iff]
      simp only [stop_eq] at above ⊢
      omega

/-- There is one representation of a whole stack, also of the empty one. -/
theorem eq_whole_of_isWhole {range : ClientRange} {layerCount : Nat}
    (full : range.isWhole layerCount = true) : range = whole layerCount := by
  obtain ⟨start, size⟩ := range
  simp only [isWhole, Bool.and_eq_true, beq_iff_eq] at full
  rw [full.1, full.2]
  cases layerCount with
  | zero => rfl
  | succ count => rfl

/-- A range within a stack is reported as the whole stack exactly if it has every layer of it. -/
theorem isWhole_iff_forall {range : ClientRange} {layerCount : Nat}
    (within : range.stop ≤ layerCount) :
    range.isWhole layerCount = true ↔ ∀ z, z < layerCount → range.contains z = true := by
  rw [stop_eq] at within
  simp only [isWhole, Bool.and_eq_true, beq_iff_eq]
  constructor
  · intro ⟨bottom, full⟩ z inside
    rw [contains_iff]
    omega
  · intro holdsAll
    by_cases vacant : layerCount = 0
    · omega
    · have bottom := contains_iff.mp (holdsAll 0 (by omega))
      have top := contains_iff.mp (holdsAll (layerCount - 1) (by omega))
      omega

theorem not_isWhole_iff_exists {range : ClientRange} {layerCount : Nat}
    (within : range.stop ≤ layerCount) :
    ¬ range.isWhole layerCount = true ↔ ∃ z, z < layerCount ∧ range.contains z = false := by
  rw [isWhole_iff_forall within]
  simp only [Classical.not_forall, Bool.not_eq_true, exists_prop]

end ClientRange

namespace DeviceRange

/-- Whether the reserved run has layer `z`. -/
def Holds (device : DeviceRange) (z : Nat) : Prop := device.start ≤ z ∧ z < device.stop

instance (device : DeviceRange) (z : Nat) : Decidable (device.Holds z) :=
  inferInstanceAs (Decidable (_ ∧ _))

theorem stop_eq (device : DeviceRange) : device.stop = device.start + device.size := rfl

theorem mk_holds_iff {start size z : Nat} :
    (DeviceRange.mk start size).Holds z ↔ start ≤ z ∧ z < start + size := Iff.rfl

theorem isEmpty_iff {device : DeviceRange} : device.isEmpty = true ↔ device.size = 0 :=
  beq_iff_eq

theorem not_isEmpty_iff {device : DeviceRange} : ¬ device.isEmpty = true ↔ device.size ≠ 0 :=
  not_congr isEmpty_iff

/-- The test for an overlap compares the ends of two occupied ranges. -/
theorem overlaps_iff_bounds {device : DeviceRange} {client : ClientRange} :
    device.overlaps client = true ↔
      (device.size ≠ 0 ∧ client.size ≠ 0) ∧
        device.start < client.stop ∧ client.start < device.stop := by
  simp only [overlaps, isEmpty, ClientRange.isEmpty, Bool.and_eq_true, Bool.not_eq_true',
    beq_eq_false_iff_ne, decide_eq_true_eq, and_assoc]

/-- A client range and a video run without a common layer: one of them is empty, or one lies below
the other. -/
theorem disjoint_iff {device : DeviceRange} {client : ClientRange} (reserved : device.size ≠ 0) :
    (∀ z, client.contains z = true → ¬ device.Holds z) ↔
      client.size = 0 ∨ client.stop ≤ device.start ∨ device.stop ≤ client.start := by
  constructor
  · intro apart
    by_cases vacant : client.size = 0
    · exact Or.inl vacant
    · -- The higher one of the two lowest layers would be common if both ranges reached it.
      have outside := apart (max device.start client.start)
      rw [ClientRange.contains_iff, Holds, stop_eq] at outside
      rw [ClientRange.stop_eq, stop_eq]
      omega
  · intro sides z inClient inDevice
    rw [ClientRange.contains_iff] at inClient
    rw [ClientRange.stop_eq, stop_eq] at sides
    rw [Holds, stop_eq] at inDevice
    omega

end DeviceRange

end Scanout
