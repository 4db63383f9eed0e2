/-
Module: Scanout.Proofs.Budget.KeptLayers
Purpose: Which layers stay on planes where a video run is kept there: the gap between the client
  range and the run is given up last, and without a client range the cheaper end of the stack is.
Imports: Scanout.Proofs.Budget.Mirror
Main exports: GrowsBelow, GrowsAbove, AtCheaperEdge, growsBelow_of_reservedRange,
  growsAbove_of_reservedRange, atCheaperEdge_of_reservedRange, fitAroundVideo_kept_layers
-/
import Scanout.Proofs.Budget.Mirror

namespace Scanout

/-! ### Beside the client range -/

/-- `range` lies below the video run, and takes a layer of the gap below the run only together with
every layer below the client range. -/
structure GrowsBelow (client : ClientRange) (device : DeviceRange) (range : ClientRange) :
    Prop where
  side : range.stop ≤ device.start
  gap : client.stop < range.stop → range.start = 0

/-- `range` lies above the video run, and takes a layer of the gap above the run only together with
every layer above the client range. -/
structure GrowsAbove (layerCount : Nat) (client : ClientRange) (device : DeviceRange)
    (range : ClientRange) : Prop where
  side : device.stop ≤ range.start
  gap : range.start < client.start → range.stop = layerCount

theorem ClientRange.stop_ofBounds_le (start stop : Nat) : (ofBounds start stop).stop ≤ stop := by
  rcases Nat.lt_or_ge start stop with ordered | degenerate
  · rw [ofBounds_of_lt ordered, stop_mk]
    exact Nat.le_of_eq (Nat.add_sub_cancel' (Nat.le_of_lt ordered))
  · rw [ofBounds_of_le degenerate]
    exact Nat.zero_le stop

theorem ClientRange.start_ofBounds_zero (stop : Nat) : (ofBounds 0 stop).start = 0 := by
  cases stop <;> rfl

section Sides

variable {layerCount usablePlanes kept : Nat} {client range : ClientRange} {device : DeviceRange}
  {cost : WindowCost}

theorem growsBelow_ofBounds_zero {stop : Nat} (side : stop ≤ device.start) :
    GrowsBelow client device (ClientRange.ofBounds 0 stop) where
  side := Nat.le_trans (ClientRange.stop_ofBounds_le 0 stop) side
  gap := fun _ => ClientRange.start_ofBounds_zero stop

theorem growsBelow_ofBounds_stop (below : client.stop ≤ device.start) (start : Nat) :
    GrowsBelow client device (ClientRange.ofBounds start client.stop) where
  side := Nat.le_trans (ClientRange.stop_ofBounds_le start client.stop) below
  gap := fun higher =>
    absurd higher (Nat.not_lt_of_le (ClientRange.stop_ofBounds_le start client.stop))

theorem growsBelow_of_keepNextBelow (below : client.stop ≤ device.start)
    (found : keepNextBelow layerCount client device kept = .ok range) :
    GrowsBelow client device range := by
  simp only [keepNextBelow] at found
  split at found
  · cases found
  · split at found
    · cases found
      exact growsBelow_ofBounds_zero (Nat.sub_le _ _)
    · cases found
      exact growsBelow_ofBounds_stop below _

theorem growsBelow_of_besideVideo (occupied : client.size ≠ 0) (below : client.stop ≤ device.start)
    (found : besideVideo layerCount device = .ok range) : GrowsBelow client device range := by
  -- The client range leaves the run no place at the bottom of the stack.
  have notAtBottom : device.start ≠ 0 := by
    rw [ClientRange.stop_eq] at below
    omega
  rw [besideVideo, if_neg notAtBottom] at found
  split at found
  · cases found
    exact growsBelow_ofBounds_zero (Nat.le_refl device.start)
  · cases found

/-- Every rule that may apply to a client range below the video run grows it downwards first. -/
theorem growsBelow_of_reservedRange (reserved : device.size ≠ 0) (occupied : client.size ≠ 0)
    (below : client.stop ≤ device.start)
    (found : reservedRange layerCount client device usablePlanes cost = .ok range) :
    GrowsBelow client device range := by
  rw [reservedRange, ClientSide.of_below reserved occupied below] at found
  cases room : PlaneRoom.of layerCount usablePlanes device.size with
  | short =>
      rw [room] at found
      cases found
  | exact =>
      rw [room] at found
      exact growsBelow_of_besideVideo occupied below found
  | spare planes =>
      rw [room] at found
      simp only [unlessAllFit] at found
      split at found
      · cases found
        exact ⟨below, fun higher => absurd higher (Nat.lt_irrefl _)⟩
      · exact growsBelow_of_keepNextBelow below found

/-- Growing above the video run is growing below it in the stack upside down. -/
theorem growsAbove_of_mirror (reserved : device.size ≠ 0) (occupied : client.size ≠ 0)
    (clientInside : client.stop ≤ layerCount) (within : range.stop ≤ layerCount)
    (grown : range.size ≠ 0) (turned : GrowsBelow (client.mirror layerCount)
      (device.mirror layerCount) (range.mirror layerCount)) :
    GrowsAbove layerCount client device range := by
  obtain ⟨side, gap⟩ := turned
  rw [ClientRange.stop_mirror within grown, DeviceRange.start_mirror layerCount reserved] at side
  rw [ClientRange.stop_mirror clientInside occupied, ClientRange.stop_mirror within grown,
    ClientRange.start_mirror layerCount grown] at gap
  have clientEnd := ClientRange.stop_eq client
  have rangeEnd := ClientRange.stop_eq range
  refine ⟨by omega, ?_⟩
  intro lower
  have atTop := gap (by omega)
  exact Nat.le_antisymm within (Nat.sub_eq_zero_iff_le.mp atTop)

theorem growsAbove_of_reservedRange (reserved : device.size ≠ 0) (occupied : client.size ≠ 0)
    (clientInside : client.stop ≤ layerCount) (deviceInside : device.stop ≤ layerCount)
    (above : device.stop ≤ client.start)
    (found : reservedRange layerCount client device usablePlanes cost = .ok range) :
    GrowsAbove layerCount client device range := by
  have settled := reservedRange_settles usablePlanes cost reserved clientInside deviceInside
  rw [found] at settled
  have grown : range.size ≠ 0 :=
    Nat.ne_of_gt (Nat.lt_of_lt_of_le (Nat.pos_of_ne_zero occupied)
      (ClientRange.size_le_of_covers settled.1.covers))
  have turnedFound := reservedRange_mirror usablePlanes cost cost occupied reserved clientInside
    deviceInside
  rw [found] at turnedFound
  have turned := growsBelow_of_reservedRange (DeviceRange.mirror_reserved layerCount reserved)
    (ClientRange.mirror_occupied layerCount occupied)
    (ClientRange.mirror_below occupied reserved clientInside above) turnedFound
  exact growsAbove_of_mirror reserved occupied clientInside settled.1.within grown turned

end Sides

/-! ### Without a client range -/

/-- `range` is at one edge of the stack and clear of the video run.  Where the range of its size at
the other edge is clear of the run too, it costs no more than that one, and less if it is the lower
one of the two. -/
structure AtCheaperEdge (layerCount : Nat) (device : DeviceRange) (cost : WindowCost)
    (range : ClientRange) : Prop where
  edge : range.start = 0 ∧ range.stop ≤ device.start ∨
    range.stop = layerCount ∧ device.stop ≤ range.start
  bottomCheaper : range.start = 0 →
    (∀ z, (ClientRange.mk (layerCount - range.size) range.size).contains z = true →
      ¬ device.Holds z) →
    cost range.start range.size < cost (layerCount - range.size) range.size
  topNoDearer : range.stop = layerCount →
    (∀ z, (ClientRange.mk 0 range.size).contains z = true → ¬ device.Holds z) →
    cost range.start range.size ≤ cost 0 range.size

section Edges

variable {layerCount usablePlanes kept : Nat} {client range : ClientRange} {device : DeviceRange}
  {cost : WindowCost}

theorem atCheaperEdge_bottom {size : Nat} (reserved : device.size ≠ 0) (occupied : size ≠ 0)
    (deviceInside : device.stop ≤ layerCount) (clear : size ≤ device.start)
    (cheaper : device.stop ≤ layerCount - size → cost 0 size < cost (layerCount - size) size) :
    AtCheaperEdge layerCount device cost ⟨0, size⟩ := by
  have deviceEnd := DeviceRange.stop_eq device
  refine ⟨Or.inl ⟨rfl, ?_⟩, ?_, ?_⟩
  · rwa [ClientRange.stop_mk, Nat.zero_add]
  · intro _ apart
    rw [DeviceRange.disjoint_iff reserved, ClientRange.stop_mk] at apart
    apply cheaper
    rcases apart with vacant | below | above
    · exact absurd vacant occupied
    · simp only at below
      omega
    · exact above
  · intro atTop
    rw [ClientRange.stop_mk] at atTop
    omega

theorem atCheaperEdge_top {start size : Nat} (reserved : device.size ≠ 0) (occupied : size ≠ 0)
    (atTop : start + size = layerCount) (clear : device.stop ≤ start)
    (noDearer : size ≤ device.start → cost start size ≤ cost 0 size) :
    AtCheaperEdge layerCount device cost ⟨start, size⟩ := by
  have deviceEnd := DeviceRange.stop_eq device
  refine ⟨Or.inr ⟨atTop, clear⟩, ?_, ?_⟩
  · intro atBottom
    simp only at atBottom
    omega
  · intro _ apart
    rw [DeviceRange.disjoint_iff reserved, ClientRange.stop_mk, Nat.zero_add] at apart
    apply noDearer
    rcases apart with vacant | below | above
    · exact absurd vacant occupied
    · exact below
    · simp only at above
      omega

/-- With no plane left beside the video run, the layers that join leave no other place for them. -/
theorem atCheaperEdge_of_besideVideo (reserved : device.size ≠ 0)
    (deviceInside : device.stop ≤ layerCount) (grown : range.size ≠ 0)
    (found : besideVideo layerCount device = .ok range) :
    AtCheaperEdge layerCount device cost range := by
  rw [besideVideo] at found
  split at found
  · next atBottom =>
      cases found
      rw [ClientRange.size_ofBounds] at grown
      rw [ClientRange.ofBounds_of_lt (Nat.lt_of_sub_ne_zero grown)]
      apply atCheaperEdge_top reserved grown (Nat.add_sub_cancel' deviceInside)
        (Nat.le_refl device.stop)
      intro fits
      rw [atBottom] at fits
      exact absurd (Nat.le_zero.mp fits) grown
  · split at found
    · next notAtBottom atTop =>
        cases found
        rw [ClientRange.ofBounds_of_lt (Nat.pos_of_ne_zero notAtBottom)]
        apply atCheaperEdge_bottom reserved notAtBottom deviceInside (Nat.le_refl device.start)
        intro fits
        rw [atTop] at fits deviceInside
        have deviceEnd := DeviceRange.stop_eq device
        omega
    · cases found

/-- Where both edges will do, the ranges there have the same size, and the costs decide. -/
theorem atCheaperEdge_of_cheaperEdge (reserved : device.size ≠ 0)
    (deviceInside : device.stop ≤ layerCount) (pressure : kept < layerCount - device.size)
    (found : cheaperEdge layerCount device cost kept = .ok range) :
    AtCheaperEdge layerCount device cost range := by
  have deviceEnd := DeviceRange.stop_eq device
  obtain ⟨size, sizeEq⟩ : ∃ size, size = layerCount - device.size - kept := ⟨_, rfl⟩
  have occupied : size ≠ 0 := by omega
  have bottomEq (upper : layerCount - device.stop ≤ kept) :
      ClientRange.ofBounds 0 (device.start - (kept - (layerCount - device.stop))) = ⟨0, size⟩ := by
    rw [ClientRange.ofBounds_of_lt (by omega)]
    congr 1
    omega
  have topEq (lower : device.start ≤ kept) :
      ClientRange.ofBounds (device.stop + (kept - device.start)) layerCount =
        ⟨layerCount - size, size⟩ := by
    rw [ClientRange.ofBounds_of_lt (by omega)]
    congr 1 <;> omega
  -- The range at an edge is clear of the run where the layers beyond the run may all stay.
  have bottomClear : layerCount - device.stop ≤ kept ↔ size ≤ device.start := by omega
  have topClear : device.start ≤ kept ↔ device.stop ≤ layerCount - size := by omega
  have atTop : layerCount - size + size = layerCount := by omega
  simp only [cheaperEdge] at found
  by_cases lower : device.start ≤ kept
  · rw [if_pos lower, topEq lower] at found
    split at found
    · next choice =>
        obtain ⟨upper, cheaper⟩ := choice
        rw [bottomEq upper] at found cheaper
        cases found
        exact atCheaperEdge_bottom reserved occupied deviceInside (bottomClear.mp upper)
          fun _ => cheaper
    · next noChoice =>
        cases found
        apply atCheaperEdge_top reserved occupied atTop (topClear.mp lower)
        intro fits
        have upper := bottomClear.mpr fits
        rw [bottomEq upper] at noChoice
        exact Nat.le_of_not_lt fun cheaper => noChoice ⟨upper, cheaper⟩
  · rw [if_neg lower] at found
    split at found
    · next upper =>
        rw [bottomEq upper] at found
        cases found
        exact atCheaperEdge_bottom reserved occupied deviceInside (bottomClear.mp upper)
          fun fits => absurd (topClear.mpr fits) lower
    · cases found

/-- Without a client range the layers that join do so at the cheaper edge. -/
theorem atCheaperEdge_of_reservedRange (reserved : device.size ≠ 0)
    (deviceInside : device.stop ≤ layerCount) (vacant : client.size = 0) (grown : range.size ≠ 0)
    (found : reservedRange layerCount client device usablePlanes cost = .ok range) :
    AtCheaperEdge layerCount device cost range := by
  rw [reservedRange, ClientSide.of_vacant device vacant] at found
  cases room : PlaneRoom.of layerCount usablePlanes device.size with
  | short =>
      rw [room] at found
      cases found
  | exact =>
      rw [room] at found
      exact atCheaperEdge_of_besideVideo reserved deviceInside grown found
  | spare planes =>
      rw [room] at found
      simp only [unlessAllFit, freeLayers, vacant, Nat.sub_zero] at found
      split at found
      · cases found
        exact absurd vacant grown
      · next tooMany =>
          exact atCheaperEdge_of_cheaperEdge reserved deviceInside (Nat.lt_of_not_le tooMany) found

end Edges

/-! ### Keeping a video run on planes -/

/-- Where the video run stays on planes, which other layers stay there too depends on the client
range.  Below the run it gives up the gap to the run only after every layer beneath it, above the
run only after every layer above it; without a client range the layers at the cheaper edge of the
stack are given up, the top ones on a tie. -/
theorem fitAroundVideo_kept_layers {layerCount usablePlanes : Nat} {client : ClientRange}
    {device : DeviceRange} {cost : WindowCost} (clientInside : client.stop ≤ layerCount)
    (reserved : device.size ≠ 0) (deviceInside : device.stop ≤ layerCount)
    (kept : (fitAroundVideo layerCount usablePlanes client device cost).fallback = none) :
    let range := (fitAroundVideo layerCount usablePlanes client device cost).range
    (client.size ≠ 0 → client.stop ≤ device.start → GrowsBelow client device range) ∧
      (client.size ≠ 0 → device.stop ≤ client.start →
        GrowsAbove layerCount client device range) ∧
      (client.size = 0 → range.size ≠ 0 → AtCheaperEdge layerCount device cost range) := by
  intro range
  have found : reservedRange layerCount client device usablePlanes cost = .ok range :=
    fitAroundVideo_eq_of_kept reserved deviceInside kept
  refine ⟨?below, ?above, ?vacant⟩
  case below =>
    intro occupied below
    exact growsBelow_of_reservedRange reserved occupied below found
  case above =>
    intro occupied above
    exact growsAbove_of_reservedRange reserved occupied clientInside deviceInside above found
  case vacant =>
    intro vacant grown
    exact atCheaperEdge_of_reservedRange reserved deviceInside vacant grown found

/-- On eight layers a client range at layer 1 takes layers 2 and 3 of the gap below the video at
layer 5 and layer 0 with them.  On seven layers around video at layer 3, where every window costs
the same, the three top layers are given up and not the three bottom ones. -/
theorem fitAroundVideo_kept_layers_on_gap_and_tie :
    let cost : WindowCost := fun _ _ => 0
    (fitAroundVideo 8 6 ⟨1, 1⟩ ⟨5, 1⟩ cost = { range := ⟨0, 4⟩ } ∧
        GrowsBelow ⟨1, 1⟩ ⟨5, 1⟩ ⟨0, 4⟩) ∧
      fitAroundVideo 7 6 ⟨0, 0⟩ ⟨3, 1⟩ cost = { range := ⟨4, 3⟩ } ∧
        AtCheaperEdge 7 ⟨3, 1⟩ cost ⟨4, 3⟩ := by
  intro cost
  have beside : fitAroundVideo 8 6 ⟨1, 1⟩ ⟨5, 1⟩ cost = { range := ⟨0, 4⟩ } := by decide
  have alone : fitAroundVideo 7 6 ⟨0, 0⟩ ⟨3, 1⟩ cost = { range := ⟨4, 3⟩ } := by decide
  have below := (@fitAroundVideo_kept_layers 8 6 ⟨1, 1⟩ ⟨5, 1⟩ cost (by decide) (by decide)
    (by decide) (by rw [beside])).1 (by decide) (by decide)
  have atEdge := (@fitAroundVideo_kept_layers 7 6 ⟨0, 0⟩ ⟨3, 1⟩ cost (by decide) (by decide)
    (by decide) (by rw [alone])).2.2 (by decide) (by rw [alone]; decide)
  rw [beside] at below
  rw [alone] at atEdge
  exact ⟨⟨beside, below⟩, alone, atEdge⟩

end Scanout
