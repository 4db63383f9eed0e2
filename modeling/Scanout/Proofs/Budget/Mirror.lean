/-
Module: Scanout.Proofs.Budget.Mirror
Purpose: A stack turned upside down has its client range grown around the video run as if the answer
  had been turned upside down.
Imports: Scanout.Proofs.Budget.Video
Main exports: ClientRange.mirror, DeviceRange.mirror, ClientSide.of_mirror, keepNextAbove_mirror,
  reservedRange_mirror, causeOf_reservedRange_mirror, fitAroundVideo_mirror
-/
import Scanout.Proofs.Budget.Video

namespace Scanout

/-! ### Ranges upside down -/

/-- The layers of a range, counted from the top of the stack; a range without layers stays as it
is. -/
def ClientRange.mirror (layerCount : Nat) (range : ClientRange) : ClientRange :=
  if range.isEmpty then range else ⟨layerCount - range.stop, range.size⟩

/-- The layers of a video run, counted from the top of the stack. -/
def DeviceRange.mirror (layerCount : Nat) (device : DeviceRange) : DeviceRange :=
  if device.isEmpty then device else ⟨layerCount - device.stop, device.size⟩

namespace ClientRange

variable {layerCount : Nat} {range : ClientRange}

theorem mirror_of_vacant (layerCount : Nat) (vacant : range.size = 0) :
    range.mirror layerCount = range := if_pos (isEmpty_iff.mpr vacant)

theorem mirror_of_occupied (layerCount : Nat) (occupied : range.size ≠ 0) :
    range.mirror layerCount = ⟨layerCount - range.stop, range.size⟩ :=
  if_neg (not_isEmpty_iff.mpr occupied)

@[simp] theorem size_mirror (layerCount : Nat) (range : ClientRange) :
    (range.mirror layerCount).size = range.size := by
  by_cases vacant : range.size = 0
  · rw [mirror_of_vacant layerCount vacant]
  · rw [mirror_of_occupied layerCount vacant]

theorem mirror_occupied (layerCount : Nat) (occupied : range.size ≠ 0) :
    (range.mirror layerCount).size ≠ 0 := by
  rwa [size_mirror]

theorem start_mirror (layerCount : Nat) (occupied : range.size ≠ 0) :
    (range.mirror layerCount).start = layerCount - range.stop := by
  rw [mirror_of_occupied layerCount occupied]

theorem stop_mirror (inside : range.stop ≤ layerCount) (occupied : range.size ≠ 0) :
    (range.mirror layerCount).stop = layerCount - range.start := by
  rw [mirror_of_occupied layerCount occupied, stop_mk]
  rw [stop_eq] at inside ⊢
  omega

theorem stop_mirror_le (inside : range.stop ≤ layerCount) :
    (range.mirror layerCount).stop ≤ layerCount := by
  by_cases vacant : range.size = 0
  · rwa [mirror_of_vacant layerCount vacant]
  · rw [stop_mirror inside vacant]
    exact Nat.sub_le layerCount range.start

/-- Turned upside down twice a range is as it was. -/
theorem mirror_mirror (inside : range.stop ≤ layerCount) :
    (range.mirror layerCount).mirror layerCount = range := by
  by_cases vacant : range.size = 0
  · rw [mirror_of_vacant layerCount vacant, mirror_of_vacant layerCount vacant]
  · rw [mirror_of_occupied layerCount (mirror_occupied layerCount vacant), stop_mirror inside vacant, size_mirror]
    have back : layerCount - (layerCount - range.start) = range.start := by
      rw [stop_eq] at inside
      omega
    rw [back]

/-- Bounds change places. -/
theorem mirror_ofBounds {start stop : Nat} (inside : stop ≤ layerCount) :
    (ofBounds start stop).mirror layerCount = ofBounds (layerCount - stop) (layerCount - start) := by
  rcases Nat.lt_or_ge start stop with ordered | degenerate
  · have occupied : (ClientRange.mk start (stop - start)).size ≠ 0 := Nat.sub_ne_zero_of_lt ordered
    have turned : layerCount - stop < layerCount - start := by omega
    have sizeEq : layerCount - start - (layerCount - stop) = stop - start := by omega
    rw [ofBounds_of_lt ordered, ofBounds_of_lt turned, mirror_of_occupied layerCount occupied,
      stop_mk, Nat.add_sub_cancel' (Nat.le_of_lt ordered), sizeEq]
  · rw [ofBounds_of_le degenerate, ofBounds_of_le (Nat.sub_le_sub_left degenerate layerCount)]
    rfl

end ClientRange

namespace DeviceRange

variable {layerCount : Nat} {device : DeviceRange}

theorem mirror_of_reserved (layerCount : Nat) (reserved : device.size ≠ 0) :
    device.mirror layerCount = ⟨layerCount - device.stop, device.size⟩ :=
  if_neg (not_isEmpty_iff.mpr reserved)

theorem size_mirror (layerCount : Nat) (reserved : device.size ≠ 0) :
    (device.mirror layerCount).size = device.size := by
  rw [mirror_of_reserved layerCount reserved]

theorem mirror_reserved (layerCount : Nat) (reserved : device.size ≠ 0) :
    (device.mirror layerCount).size ≠ 0 := by
  rwa [size_mirror layerCount reserved]

theorem start_mirror (layerCount : Nat) (reserved : device.size ≠ 0) :
    (device.mirror layerCount).start = layerCount - device.stop := by
  rw [mirror_of_reserved layerCount reserved]

theorem stop_mirror (inside : device.stop ≤ layerCount) (reserved : device.size ≠ 0) :
    (device.mirror layerCount).stop = layerCount - device.start := by
  rw [stop_eq, size_mirror layerCount reserved, start_mirror layerCount reserved]
  rw [stop_eq] at inside ⊢
  omega

theorem stop_mirror_le (inside : device.stop ≤ layerCount) (reserved : device.size ≠ 0) :
    (device.mirror layerCount).stop ≤ layerCount := by
  rw [stop_mirror inside reserved]
  exact Nat.sub_le layerCount device.start

theorem mirror_mirror (inside : device.stop ≤ layerCount) (reserved : device.size ≠ 0) :
    (device.mirror layerCount).mirror layerCount = device := by
  rw [mirror_of_reserved layerCount (mirror_reserved layerCount reserved),
    stop_mirror inside reserved, size_mirror layerCount reserved]
  have back : layerCount - (layerCount - device.start) = device.start := by
    rw [stop_eq] at inside
    omega
  rw [back]

end DeviceRange

/-! ### Sides and rules upside down -/

/-- The side after the stack was turned upside down. -/
def ClientSide.opposite : ClientSide → ClientSide
  | noClient => noClient
  | belowVideo => aboveVideo
  | aboveVideo => belowVideo
  | overlapping => overlapping

section Rules

variable {layerCount : Nat} {client : ClientRange} {device : DeviceRange}

/-- A client range above the video run lies below it in the stack upside down. -/
theorem ClientRange.mirror_below (occupied : client.size ≠ 0) (reserved : device.size ≠ 0)
    (clientInside : client.stop ≤ layerCount) (above : device.stop ≤ client.start) :
    (client.mirror layerCount).stop ≤ (device.mirror layerCount).start := by
  rw [stop_mirror clientInside occupied, DeviceRange.start_mirror layerCount reserved]
  exact Nat.sub_le_sub_left above layerCount

/-- A client range below the video run lies above it in the stack upside down. -/
theorem ClientRange.mirror_above (occupied : client.size ≠ 0) (reserved : device.size ≠ 0)
    (deviceInside : device.stop ≤ layerCount) (below : client.stop ≤ device.start) :
    (device.mirror layerCount).stop ≤ (client.mirror layerCount).start := by
  rw [start_mirror layerCount occupied, DeviceRange.stop_mirror deviceInside reserved]
  exact Nat.sub_le_sub_left below layerCount

theorem ClientSide.of_mirror (reserved : device.size ≠ 0) (clientInside : client.stop ≤ layerCount)
    (deviceInside : device.stop ≤ layerCount) :
    ClientSide.of (client.mirror layerCount) (device.mirror layerCount) =
      (ClientSide.of client device).opposite := by
  have turnedReserved := DeviceRange.mirror_reserved layerCount reserved
  rcases of_cases client reserved with
    ⟨side, vacant⟩ | ⟨side, occupied, low, high⟩ | ⟨side, occupied, below⟩ |
    ⟨side, occupied, above⟩
  · rw [side, ClientRange.mirror_of_vacant layerCount vacant]
    exact of_vacant _ vacant
  · have clientEnd := ClientRange.stop_eq client
    rw [side]
    apply of_overlap turnedReserved (ClientRange.mirror_occupied layerCount occupied)
    · rw [ClientRange.stop_mirror clientInside occupied,
        DeviceRange.start_mirror layerCount reserved]
      omega
    · rw [ClientRange.start_mirror layerCount occupied,
        DeviceRange.stop_mirror deviceInside reserved]
      omega
  · rw [side]
    exact of_above turnedReserved (ClientRange.mirror_occupied layerCount occupied)
      (ClientRange.mirror_above occupied reserved deviceInside below)
  · rw [side]
    exact of_below turnedReserved (ClientRange.mirror_occupied layerCount occupied)
      (ClientRange.mirror_below occupied reserved clientInside above)

/-- With no plane left beside the video run, both ends of the stack are treated alike. -/
theorem besideVideo_mirror (reserved : device.size ≠ 0) (deviceInside : device.stop ≤ layerCount) :
    besideVideo layerCount (device.mirror layerCount) =
      (besideVideo layerCount device).map (ClientRange.mirror layerCount) := by
  have deviceEnd := DeviceRange.stop_eq device
  have startInside : device.start ≤ layerCount := by omega
  have turnedBottom : layerCount - device.stop = 0 ↔ device.stop = layerCount := by omega
  have turnedTop : layerCount - device.start = layerCount ↔ device.start = 0 := by omega
  simp only [besideVideo, DeviceRange.start_mirror layerCount reserved,
    DeviceRange.stop_mirror deviceInside reserved, turnedBottom, turnedTop]
  by_cases atBottom : device.start = 0
  · rw [if_pos atBottom, if_pos atBottom, Except.map,
      ClientRange.mirror_ofBounds (Nat.le_refl layerCount), Nat.sub_self]
    by_cases atTop : device.stop = layerCount
    · -- A run that fills the stack leaves no layer at either end.
      rw [if_pos atTop, atBottom, atTop, Nat.sub_zero, Nat.sub_self,
        ClientRange.ofBounds_of_le (Nat.le_refl layerCount)]
      rfl
    · rw [if_neg atTop]
  · rw [if_neg atBottom, if_neg atBottom]
    by_cases atTop : device.stop = layerCount
    · rw [if_pos atTop, if_pos atTop, Except.map, ClientRange.mirror_ofBounds startInside,
        Nat.sub_zero]
    · rw [if_neg atTop, if_neg atTop]
      rfl

/-- The rule for a client range above the video is the one for a client range below it, upside
down. -/
theorem keepNextAbove_mirror (kept : Nat) (occupied : client.size ≠ 0)
    (reserved : device.size ≠ 0) (clientInside : client.stop ≤ layerCount)
    (deviceInside : device.stop ≤ layerCount) :
    keepNextAbove layerCount (client.mirror layerCount) (device.mirror layerCount) kept =
      (keepNextBelow layerCount client device kept).map (ClientRange.mirror layerCount) := by
  have deviceEnd := DeviceRange.stop_eq device
  have gapEq : layerCount - client.stop - (layerCount - device.start) =
      device.start - client.stop := by omega
  simp only [keepNextAbove, keepNextBelow, DeviceRange.start_mirror layerCount reserved,
    DeviceRange.stop_mirror deviceInside reserved, ClientRange.start_mirror layerCount occupied,
    gapEq]
  by_cases tooHigh : kept < layerCount - device.stop
  · rw [if_pos tooHigh, if_pos tooHigh]
    rfl
  · rw [if_neg tooHigh, if_neg tooHigh]
    generalize kept - (layerCount - device.stop) = rest
    by_cases inGap : rest ≤ device.start - client.stop
    · have stopInside : device.start - rest ≤ layerCount := by omega
      have turned : layerCount - (device.start - rest) = layerCount - device.start + rest := by
        omega
      rw [if_pos inGap, if_pos inGap, Except.map, ClientRange.mirror_ofBounds stopInside, turned,
        Nat.sub_zero]
    · rw [if_neg inGap, if_neg inGap, Except.map, ClientRange.mirror_ofBounds clientInside]

theorem freeLayers_mirror (reserved : device.size ≠ 0) :
    freeLayers layerCount (client.mirror layerCount) (device.mirror layerCount) =
      freeLayers layerCount client device := by
  rw [freeLayers, freeLayers, ClientRange.size_mirror, DeviceRange.size_mirror layerCount reserved]

theorem unlessAllFit_mirror (planes : Nat) (reserved : device.size ≠ 0)
    {rule turnedRule : Nat → Except FallbackCause ClientRange}
    (turned : turnedRule planes = (rule planes).map (ClientRange.mirror layerCount)) :
    unlessAllFit layerCount (client.mirror layerCount) (device.mirror layerCount) planes
        turnedRule =
      (unlessAllFit layerCount client device planes rule).map (ClientRange.mirror layerCount) := by
  rw [unlessAllFit, unlessAllFit, freeLayers_mirror reserved, turned]
  split <;> rfl

/-- Below the video run the answer turned upside down is the one for the stack upside down. -/
private theorem reservedRange_mirror_of_below (usablePlanes : Nat) (cost turnedCost : WindowCost)
    (occupied : client.size ≠ 0) (reserved : device.size ≠ 0)
    (clientInside : client.stop ≤ layerCount) (deviceInside : device.stop ≤ layerCount)
    (below : client.stop ≤ device.start) :
    reservedRange layerCount (client.mirror layerCount) (device.mirror layerCount) usablePlanes
        turnedCost =
      (reservedRange layerCount client device usablePlanes cost).map
        (ClientRange.mirror layerCount) := by
  have side := ClientSide.of_below reserved occupied below
  have turnedSide := ClientSide.of_mirror reserved clientInside deviceInside
  rw [side, ClientSide.opposite] at turnedSide
  rw [reservedRange, reservedRange, side, turnedSide, DeviceRange.size_mirror layerCount reserved]
  cases PlaneRoom.of layerCount usablePlanes device.size with
  | short => rfl
  | exact => exact besideVideo_mirror reserved deviceInside
  | spare planes =>
      exact unlessAllFit_mirror planes reserved
        (keepNextAbove_mirror planes occupied reserved clientInside deviceInside)

/-- Whatever the costs, the answer for an occupied client range turned upside down is the one for
the stack upside down. -/
theorem reservedRange_mirror (usablePlanes : Nat) (cost turnedCost : WindowCost)
    (occupied : client.size ≠ 0) (reserved : device.size ≠ 0)
    (clientInside : client.stop ≤ layerCount) (deviceInside : device.stop ≤ layerCount) :
    reservedRange layerCount (client.mirror layerCount) (device.mirror layerCount) usablePlanes
        turnedCost =
      (reservedRange layerCount client device usablePlanes cost).map
        (ClientRange.mirror layerCount) := by
  rcases ClientSide.of_cases client reserved with
    ⟨_, vacant⟩ | ⟨side, _⟩ | ⟨_, _, below⟩ | ⟨side, _, above⟩
  · exact absurd vacant occupied
  · have turnedSide := ClientSide.of_mirror reserved clientInside deviceInside
    rw [side, ClientSide.opposite] at turnedSide
    rw [reservedRange, reservedRange, side, turnedSide, DeviceRange.size_mirror layerCount reserved]
    cases PlaneRoom.of layerCount usablePlanes device.size <;> rfl
  · exact reservedRange_mirror_of_below usablePlanes cost turnedCost occupied reserved
      clientInside deviceInside below
  · -- The stack upside down has its client range below the run, and upside down once more it is
    -- the stack itself.
    have turnedReserved := DeviceRange.mirror_reserved layerCount reserved
    have turnedClientInside := ClientRange.stop_mirror_le clientInside
    have turnedDeviceInside := DeviceRange.stop_mirror_le deviceInside reserved
    have back := reservedRange_mirror_of_below usablePlanes turnedCost cost
      (ClientRange.mirror_occupied layerCount occupied) turnedReserved turnedClientInside
      turnedDeviceInside (ClientRange.mirror_below occupied reserved clientInside above)
    rw [ClientRange.mirror_mirror clientInside, DeviceRange.mirror_mirror deviceInside reserved]
      at back
    have settled := reservedRange_settles usablePlanes turnedCost turnedReserved turnedClientInside
      turnedDeviceInside
    rw [back]
    cases outcome : reservedRange layerCount (client.mirror layerCount) (device.mirror layerCount)
        usablePlanes turnedCost with
    | ok range =>
        rw [outcome] at settled
        simp only [Except.map, ClientRange.mirror_mirror settled.1.within]
    | error cause => rfl

/-! ### Without a client range -/

/-- Why the reservation is given up, if it is. -/
def causeOf : Except FallbackCause ClientRange → Option FallbackCause
  | .ok _ => none
  | .error cause => some cause

theorem causeOf_map (change : ClientRange → ClientRange)
    (outcome : Except FallbackCause ClientRange) :
    causeOf (outcome.map change) = causeOf outcome := by
  cases outcome <;> rfl

theorem causeOf_unlessAllFit (layerCount planes : Nat) (client : ClientRange)
    (device : DeviceRange) (rule : Nat → Except FallbackCause ClientRange) :
    causeOf (unlessAllFit layerCount client device planes rule) =
      if freeLayers layerCount client device ≤ planes then none else causeOf (rule planes) := by
  rw [unlessAllFit]
  split <;> rfl

/-- Without a client range the reservation is given up where neither end of the stack will do. -/
theorem causeOf_cheaperEdge (layerCount kept : Nat) (device : DeviceRange) (cost : WindowCost) :
    causeOf (cheaperEdge layerCount device cost kept) =
      if device.start ≤ kept ∨ layerCount - device.stop ≤ kept then none
      else some .sideOverReservation := by
  simp only [cheaperEdge]
  by_cases lower : device.start ≤ kept
  · rw [if_pos lower, if_pos (Or.inl lower)]
    split <;> rfl
  · rw [if_neg lower]
    by_cases upper : layerCount - device.stop ≤ kept
    · rw [if_pos upper, if_pos (Or.inr upper)]
      rfl
    · rw [if_neg upper, if_neg (not_or.mpr ⟨lower, upper⟩)]
      rfl

theorem causeOf_cheaperEdge_mirror (kept : Nat) (cost turnedCost : WindowCost)
    (reserved : device.size ≠ 0) (deviceInside : device.stop ≤ layerCount) :
    causeOf (cheaperEdge layerCount (device.mirror layerCount) turnedCost kept) =
      causeOf (cheaperEdge layerCount device cost kept) := by
  have deviceEnd := DeviceRange.stop_eq device
  have turnedAbove : layerCount - (layerCount - device.start) = device.start := by omega
  rw [causeOf_cheaperEdge, causeOf_cheaperEdge, DeviceRange.start_mirror layerCount reserved,
    DeviceRange.stop_mirror deviceInside reserved, turnedAbove]
  simp only [or_comm]

/-- Turning the stack upside down changes nothing about whether the reservation can be kept, and
nothing about the reason if it cannot. -/
theorem causeOf_reservedRange_mirror (usablePlanes : Nat) (cost turnedCost : WindowCost)
    (reserved : device.size ≠ 0) (clientInside : client.stop ≤ layerCount)
    (deviceInside : device.stop ≤ layerCount) :
    causeOf (reservedRange layerCount (client.mirror layerCount) (device.mirror layerCount)
        usablePlanes turnedCost) =
      causeOf (reservedRange layerCount client device usablePlanes cost) := by
  by_cases vacant : client.size = 0
  · have turnedVacant : (client.mirror layerCount).size = 0 := by rwa [ClientRange.size_mirror]
    rw [reservedRange, reservedRange, ClientSide.of_vacant device vacant,
      ClientSide.of_vacant _ turnedVacant, DeviceRange.size_mirror layerCount reserved]
    cases PlaneRoom.of layerCount usablePlanes device.size with
    | short => rfl
    | exact =>
        show causeOf (besideVideo layerCount (device.mirror layerCount)) =
          causeOf (besideVideo layerCount device)
        rw [besideVideo_mirror reserved deviceInside, causeOf_map]
    | spare planes =>
        simp only [causeOf_unlessAllFit, freeLayers_mirror reserved,
          causeOf_cheaperEdge_mirror planes cost turnedCost reserved deviceInside]
  · rw [reservedRange_mirror usablePlanes cost turnedCost vacant reserved clientInside deviceInside,
      causeOf_map]

end Rules

/-! ### Growing around the video run upside down -/

section Growth

variable {layerCount usablePlanes : Nat} {client : ClientRange} {device : DeviceRange}

/-- Around a run within the stack the outcome is that of the rules, or the range grown for the
planes alone. -/
theorem fitAroundVideo_of_reserved (cost : WindowCost) (reserved : device.size ≠ 0)
    (deviceInside : device.stop ≤ layerCount) :
    fitAroundVideo layerCount usablePlanes client device cost =
      match reservedRange layerCount client device usablePlanes cost with
      | .ok range => { range }
      | .error cause =>
          { range := fitToPlanes layerCount usablePlanes client cost, fallback := some cause } := by
  have occupied : ¬ device.isEmpty = true := DeviceRange.not_isEmpty_iff.mpr reserved
  have inside : ¬ layerCount < device.stop := Nat.not_lt_of_le deviceInside
  cases outcome : reservedRange layerCount client device usablePlanes cost with
  | ok range => simp only [fitAroundVideo, if_neg occupied, if_neg inside, outcome]
  | error cause => simp only [fitAroundVideo, if_neg occupied, if_neg inside, outcome]

theorem fallback_fitAroundVideo (cost : WindowCost) (reserved : device.size ≠ 0)
    (deviceInside : device.stop ≤ layerCount) :
    (fitAroundVideo layerCount usablePlanes client device cost).fallback =
      causeOf (reservedRange layerCount client device usablePlanes cost) := by
  rw [fitAroundVideo_of_reserved cost reserved deviceInside]
  cases reservedRange layerCount client device usablePlanes cost <;> rfl

/-- A reservation that is kept is kept by the range of the rules. -/
theorem fitAroundVideo_eq_of_kept {cost : WindowCost} (reserved : device.size ≠ 0)
    (deviceInside : device.stop ≤ layerCount)
    (kept : (fitAroundVideo layerCount usablePlanes client device cost).fallback = none) :
    reservedRange layerCount client device usablePlanes cost =
      .ok (fitAroundVideo layerCount usablePlanes client device cost).range := by
  rw [fitAroundVideo_of_reserved cost reserved deviceInside] at kept ⊢
  cases outcome : reservedRange layerCount client device usablePlanes cost with
  | ok range => rfl
  | error cause =>
      rw [outcome] at kept
      cases kept

/-- The two directions mirror each other.  For the stack turned upside down the reservation is given
up for the same reason or kept, whatever the costs; where it is kept for an occupied client range,
the range is the one for the stack itself turned upside down. -/
theorem fitAroundVideo_mirror (cost turnedCost : WindowCost) (clientInside : client.stop ≤ layerCount)
    (reserved : device.size ≠ 0) (deviceInside : device.stop ≤ layerCount) :
    let fit := fitAroundVideo layerCount usablePlanes client device cost
    let turned := fitAroundVideo layerCount usablePlanes (client.mirror layerCount)
      (device.mirror layerCount) turnedCost
    turned.fallback = fit.fallback ∧
      (client.size ≠ 0 → fit.fallback = none → turned.range = fit.range.mirror layerCount) := by
  intro fit turned
  have turnedReserved := DeviceRange.mirror_reserved layerCount reserved
  have turnedInside := DeviceRange.stop_mirror_le deviceInside reserved
  have sameCause : turned.fallback = fit.fallback := by
    rw [fallback_fitAroundVideo turnedCost turnedReserved turnedInside,
      fallback_fitAroundVideo cost reserved deviceInside,
      causeOf_reservedRange_mirror usablePlanes cost turnedCost reserved clientInside deviceInside]
  refine ⟨sameCause, ?_⟩
  intro occupied kept
  have found := fitAroundVideo_eq_of_kept reserved deviceInside kept
  have turnedFound := fitAroundVideo_eq_of_kept turnedReserved turnedInside (sameCause.trans kept)
  rw [reservedRange_mirror usablePlanes cost turnedCost occupied reserved clientInside deviceInside,
    found] at turnedFound
  exact (Except.ok.inj turnedFound).symm

/-- Eight layers on seven planes with video at layer 4.  With layer 3 on the GPU layers 1 to 3 join;
upside down video is at layer 3, layer 4 is on the GPU, and layers 4 to 6 join. -/
theorem fitAroundVideo_mirror_on_eight_layers :
    let cost : WindowCost := fun first size => first + size
    let fit := fitAroundVideo 8 7 ⟨3, 1⟩ ⟨4, 1⟩ cost
    let turned := fitAroundVideo 8 7 ⟨4, 1⟩ ⟨3, 1⟩ fun _ _ => 0
    (ClientRange.mirror 8 ⟨3, 1⟩ = ⟨4, 1⟩ ∧ DeviceRange.mirror 8 ⟨4, 1⟩ = ⟨3, 1⟩) ∧
      fit = { range := ⟨1, 3⟩ } ∧ turned.fallback = none ∧ turned.range = ⟨4, 3⟩ := by
  intro cost fit turned
  obtain ⟨sameCause, sameRange⟩ := @fitAroundVideo_mirror 8 7 ⟨3, 1⟩ ⟨4, 1⟩ cost (fun _ _ => 0)
    (by decide) (by decide) (by decide)
  have found : fit = { range := ⟨1, 3⟩ } := by decide
  have kept : fit.fallback = none := by rw [found]
  have turnedRange := sameRange (by decide) kept
  refine ⟨⟨rfl, rfl⟩, found, sameCause.trans kept, turnedRange.trans ?_⟩
  show fit.range.mirror 8 = ⟨4, 3⟩
  rw [found]
  rfl

end Growth

end Scanout
