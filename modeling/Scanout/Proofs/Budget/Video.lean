/-
Module: Scanout.Proofs.Budget.Video
Purpose: Growing a client range around a reserved video run is exact: it finds a least range that
  keeps the run on planes, and gives the reservation up only where there is none.
Imports: Scanout.Budget.Video, Scanout.Proofs.Budget.Plain
Main exports: targetPlanes, HonoursVideo, Settles, PlaneRoom.of_cases, ClientSide.of_cases,
  HonoursVideo.exists_smaller, reservedRange_settles, fitAroundVideo_cases
-/
import Scanout.Budget.Video
import Scanout.Proofs.Budget.Plain

namespace Scanout

/-- Planes held back for the client target. -/
def targetPlanes (layerCount usablePlanes : Nat) : Nat :=
  if usablePlanes < layerCount then 1 else 0

/-- `range` takes in every layer of `client`, shares none with the video run, and leaves a stack
that fits: two planes for each video layer, one for each other layer outside, and the planes held
back. -/
structure HonoursVideo (layerCount usablePlanes : Nat) (client : ClientRange)
    (device : DeviceRange) (range : ClientRange) : Prop where
  within : range.stop ≤ layerCount
  covers : range.covers client = true
  apart : ∀ z, range.contains z = true → ¬ device.Holds z
  fits : (layerCount - device.size - range.size) + 2 * device.size +
    targetPlanes layerCount usablePlanes ≤ usablePlanes

/-- An outcome settles a question about ranges: it is a least range with the property, or the
failure to find one where there is none. -/
def Settles (holds : ClientRange → Prop) : Except FallbackCause ClientRange → Prop
  | .ok range => holds range ∧ ∀ other, holds other → range.size ≤ other.size
  | .error _ => ∀ other, ¬ holds other

/-! ### The room and the side -/

/-- The room compares the planes with two for each video layer and those held back. -/
theorem PlaneRoom.of_cases (layerCount usablePlanes videoLayers : Nat)
    (reserved : videoLayers ≠ 0) :
    (PlaneRoom.of layerCount usablePlanes videoLayers = .short ∧
        usablePlanes < 2 * videoLayers + targetPlanes layerCount usablePlanes) ∨
      (PlaneRoom.of layerCount usablePlanes videoLayers = .exact ∧
        usablePlanes = 2 * videoLayers + targetPlanes layerCount usablePlanes) ∨
      ∃ planes, PlaneRoom.of layerCount usablePlanes videoLayers = .spare planes ∧
        usablePlanes = 2 * videoLayers + targetPlanes layerCount usablePlanes + planes := by
  unfold PlaneRoom.of targetPlanes
  by_cases tooFew : usablePlanes < videoLayers
  · rw [if_pos tooFew]
    exact Or.inl ⟨rfl, by omega⟩
  · rw [if_neg tooFew]
    have availableEq :
        (if usablePlanes < layerCount then usablePlanes - videoLayers - 1
          else usablePlanes - videoLayers) =
        usablePlanes - videoLayers - (if usablePlanes < layerCount then 1 else 0) := by
      split <;> rfl
    simp only [availableEq]
    generalize (if usablePlanes < layerCount then 1 else 0) = held
    by_cases short : usablePlanes - videoLayers - held < videoLayers
    · rw [if_pos short]
      exact Or.inl ⟨rfl, by omega⟩
    · rw [if_neg short]
      by_cases exactly : usablePlanes - videoLayers - held = videoLayers
      · rw [if_pos exactly]
        exact Or.inr (Or.inl ⟨rfl, by omega⟩)
      · rw [if_neg exactly]
        exact Or.inr (Or.inr ⟨_, rfl, by omega⟩)

/-- A client range has no layer, overlaps the video run, or lies on one side of it. -/
theorem ClientSide.of_cases (client : ClientRange) {device : DeviceRange}
    (reserved : device.size ≠ 0) :
    (ClientSide.of client device = .noClient ∧ client.size = 0) ∨
      (ClientSide.of client device = .overlapping ∧ client.size ≠ 0 ∧
        device.start < client.stop ∧ client.start < device.stop) ∨
      (ClientSide.of client device = .belowVideo ∧ client.size ≠ 0 ∧
        client.stop ≤ device.start) ∨
      (ClientSide.of client device = .aboveVideo ∧ client.size ≠ 0 ∧
        device.stop ≤ client.start) := by
  unfold ClientSide.of
  by_cases vacant : client.isEmpty = true
  · rw [if_pos vacant]
    exact Or.inl ⟨rfl, ClientRange.isEmpty_iff.mp vacant⟩
  · have occupied := ClientRange.not_isEmpty_iff.mp vacant
    rw [if_neg vacant]
    by_cases overlap : device.overlaps client = true
    · rw [if_pos overlap]
      exact Or.inr (Or.inl ⟨rfl, occupied, (DeviceRange.overlaps_iff_bounds.mp overlap).2⟩)
    · rw [if_neg overlap]
      rw [DeviceRange.overlaps_iff_bounds] at overlap
      by_cases below : client.stop ≤ device.start
      · rw [if_pos below]
        exact Or.inr (Or.inr (Or.inl ⟨rfl, occupied, below⟩))
      · rw [if_neg below]
        exact Or.inr (Or.inr (Or.inr ⟨rfl, occupied, by omega⟩))

section Sides

variable {client : ClientRange} {device : DeviceRange}

theorem ClientSide.of_vacant (device : DeviceRange) (vacant : client.size = 0) :
    ClientSide.of client device = .noClient := if_pos (ClientRange.isEmpty_iff.mpr vacant)

theorem ClientSide.of_overlap (reserved : device.size ≠ 0) (occupied : client.size ≠ 0)
    (low : device.start < client.stop) (high : client.start < device.stop) :
    ClientSide.of client device = .overlapping := by
  rcases of_cases client reserved with
    ⟨_, vacant⟩ | ⟨side, _⟩ | ⟨_, _, below⟩ | ⟨_, _, above⟩
  · exact absurd vacant occupied
  · exact side
  · exact absurd low (Nat.not_lt_of_le below)
  · exact absurd high (Nat.not_lt_of_le above)

theorem ClientSide.of_below (reserved : device.size ≠ 0) (occupied : client.size ≠ 0)
    (below : client.stop ≤ device.start) : ClientSide.of client device = .belowVideo := by
  have clientStop := ClientRange.stop_eq client
  have deviceStop := DeviceRange.stop_eq device
  rcases of_cases client reserved with
    ⟨_, vacant⟩ | ⟨_, _, low, _⟩ | ⟨side, _⟩ | ⟨_, _, above⟩
  · exact absurd vacant occupied
  · exact absurd low (Nat.not_lt_of_le below)
  · exact side
  · omega

theorem ClientSide.of_above (reserved : device.size ≠ 0) (occupied : client.size ≠ 0)
    (above : device.stop ≤ client.start) : ClientSide.of client device = .aboveVideo := by
  have clientStop := ClientRange.stop_eq client
  have deviceStop := DeviceRange.stop_eq device
  rcases of_cases client reserved with
    ⟨_, vacant⟩ | ⟨_, _, _, high⟩ | ⟨_, _, below⟩ | ⟨side, _⟩
  · exact absurd vacant occupied
  · exact absurd high (Nat.not_lt_of_le above)
  · omega
  · exact side

end Sides

/-! ### The rules -/

section Rules

variable {layerCount usablePlanes kept : Nat} {client : ClientRange} {device : DeviceRange}

/-- Where `kept` planes are left after the video run, a range has to lie in the stack, reach around
the client range, stay on one side of the run, and leave at most `kept` other layers. -/
theorem honoursVideo_mk_iff (reserved : device.size ≠ 0)
    (room : usablePlanes = 2 * device.size + targetPlanes layerCount usablePlanes + kept)
    {start size : Nat} :
    HonoursVideo layerCount usablePlanes client device ⟨start, size⟩ ↔
      start + size ≤ layerCount ∧
        (client.size = 0 ∨ start ≤ client.start ∧ client.stop ≤ start + size) ∧
        (size = 0 ∨ start + size ≤ device.start ∨ device.stop ≤ start) ∧
        layerCount ≤ device.size + size + kept := by
  have deviceStop := DeviceRange.stop_eq device
  constructor
  · intro ⟨within, covers, apart, fits⟩
    have sides := (DeviceRange.disjoint_iff reserved).mp apart
    rw [ClientRange.stop_mk] at within
    rw [ClientRange.mk_covers_iff] at covers
    simp only [ClientRange.stop_mk] at sides fits
    exact ⟨within, covers, sides, by omega⟩
  · intro ⟨within, covers, sides, fits⟩
    refine ⟨within, ClientRange.mk_covers_iff.mpr covers,
      (DeviceRange.disjoint_iff reserved).mpr sides, ?_⟩
    simp only
    omega

/-- A range that is larger than it has to be can be shrunk around the client range. -/
theorem HonoursVideo.exists_smaller {range : ClientRange} {size : Nat}
    (honoured : HonoursVideo layerCount usablePlanes client device range)
    (large : client.size ≤ size) (small : size ≤ range.size)
    (fits : (layerCount - device.size - size) + 2 * device.size +
      targetPlanes layerCount usablePlanes ≤ usablePlanes) :
    ∃ other, HonoursVideo layerCount usablePlanes client device other ∧ other.size = size := by
  obtain ⟨start, inRange, coversClient⟩ :=
    ClientRange.exists_window_between honoured.covers large small
  have apart (z : Nat) (inside : (ClientRange.mk start size).contains z = true) :
      ¬ device.Holds z :=
    honoured.apart z (ClientRange.covers_iff_forall.mp inRange z inside)
  by_cases vacant : size = 0
  · subst vacant
    refine ⟨⟨0, 0⟩, ⟨Nat.zero_le _, ?_, ?_, fits⟩, rfl⟩
    · exact ClientRange.covers_iff.mpr (Or.inl (Nat.le_zero.mp large))
    · intro z inside
      rw [ClientRange.mk_contains_iff] at inside
      omega
  · rcases ClientRange.covers_mk_iff.mp inRange with none | ⟨_, above⟩
    · exact absurd none vacant
    · exact ⟨⟨start, size⟩, ⟨Nat.le_trans above honoured.within, coversClient, apart, fits⟩, rfl⟩

/-- A range of the right size in the right place settles the question. -/
private theorem settles_ok (reserved : device.size ≠ 0)
    (room : usablePlanes = 2 * device.size + targetPlanes layerCount usablePlanes + kept)
    {start size : Nat}
    (honoured : HonoursVideo layerCount usablePlanes client device ⟨start, size⟩)
    (least : size + device.size + kept ≤ layerCount ∨ size ≤ client.size) :
    Settles (HonoursVideo layerCount usablePlanes client device) (.ok ⟨start, size⟩) := by
  refine ⟨honoured, ?_⟩
  intro other honouredOther
  have larger := ClientRange.size_le_of_covers honouredOther.covers
  have enough := ((honoursVideo_mk_iff reserved room).mp honouredOther).2.2.2
  show size ≤ other.size
  omega

/-- The bounds of a rule's range are checked by arithmetic. -/
private theorem settles_ofBounds (reserved : device.size ≠ 0)
    (room : usablePlanes = 2 * device.size + targetPlanes layerCount usablePlanes + kept)
    {start stop : Nat} (ordered : start < stop)
    (placed : stop ≤ layerCount ∧
      (client.size = 0 ∨ start ≤ client.start ∧ client.stop ≤ stop) ∧
      (stop ≤ device.start ∨ device.stop ≤ start))
    (sized : stop + device.size + kept = layerCount + start) :
    Settles (HonoursVideo layerCount usablePlanes client device)
      (.ok (ClientRange.ofBounds start stop)) := by
  rw [ClientRange.ofBounds_of_lt ordered]
  refine settles_ok reserved room ?_ (Or.inl (by omega))
  rw [honoursVideo_mk_iff reserved room]
  omega

/-- A client range that leaves no more free layers than planes for them is the answer. -/
theorem unlessAllFit_settles (reserved : device.size ≠ 0) (clientInside : client.stop ≤ layerCount)
    (room : usablePlanes = 2 * device.size + targetPlanes layerCount usablePlanes + kept)
    (apart : client.size = 0 ∨ client.stop ≤ device.start ∨ device.stop ≤ client.start)
    {rule : Nat → Except FallbackCause ClientRange}
    (settled : kept < freeLayers layerCount client device →
      Settles (HonoursVideo layerCount usablePlanes client device) (rule kept)) :
    Settles (HonoursVideo layerCount usablePlanes client device)
      (unlessAllFit layerCount client device kept rule) := by
  rw [unlessAllFit]
  by_cases allFit : freeLayers layerCount client device ≤ kept
  · rw [if_pos allFit]
    refine settles_ok reserved room ?_ (Or.inr (Nat.le_refl _))
    rw [honoursVideo_mk_iff reserved room]
    rw [freeLayers] at allFit
    exact ⟨clientInside, Or.inr ⟨Nat.le_refl _, Nat.le_refl _⟩, apart, by omega⟩
  · rw [if_neg allFit]
    exact settled (Nat.lt_of_not_le allFit)

/-- With no plane left, every other layer joins the client range, which has one side for them. -/
theorem besideVideo_settles (reserved : device.size ≠ 0) (deviceInside : device.stop ≤ layerCount)
    (clientInside : client.stop ≤ layerCount)
    (room : usablePlanes = 2 * device.size + targetPlanes layerCount usablePlanes)
    (apart : client.size = 0 ∨ client.stop ≤ device.start ∨ device.stop ≤ client.start) :
    Settles (HonoursVideo layerCount usablePlanes client device)
      (besideVideo layerCount device) := by
  have noneKept : usablePlanes =
      2 * device.size + targetPlanes layerCount usablePlanes + 0 := room
  have clientStop := ClientRange.stop_eq client
  have deviceStop := DeviceRange.stop_eq device
  rw [besideVideo]
  by_cases atBottom : device.start = 0
  · rw [if_pos atBottom]
    rcases Nat.lt_or_ge device.stop layerCount with others | none
    · exact settles_ofBounds reserved noneKept others (by omega) (by omega)
    · rw [ClientRange.ofBounds_of_le none]
      refine settles_ok reserved noneKept ?_ (Or.inl (by omega))
      rw [honoursVideo_mk_iff reserved noneKept]
      omega
  · rw [if_neg atBottom]
    by_cases atTop : device.stop = layerCount
    · rw [if_pos atTop]
      exact settles_ofBounds reserved noneKept (Nat.pos_of_ne_zero atBottom) (by omega) (by omega)
    · rw [if_neg atTop]
      intro other honoured
      have placed := (honoursVideo_mk_iff reserved noneKept).mp honoured
      omega

/-- Below the video run there is room for the layers that have to join, or they are too few. -/
theorem keepNextBelow_settles (reserved : device.size ≠ 0)
    (deviceInside : device.stop ≤ layerCount)
    (room : usablePlanes = 2 * device.size + targetPlanes layerCount usablePlanes + kept)
    (occupied : client.size ≠ 0) (below : client.stop ≤ device.start)
    (pressure : kept < freeLayers layerCount client device) :
    Settles (HonoursVideo layerCount usablePlanes client device)
      (keepNextBelow layerCount client device kept) := by
  have clientStop := ClientRange.stop_eq client
  have deviceStop := DeviceRange.stop_eq device
  rw [freeLayers] at pressure
  simp only [keepNextBelow]
  by_cases tooHigh : kept < layerCount - device.stop
  · rw [if_pos tooHigh]
    intro other honoured
    have placed := (honoursVideo_mk_iff reserved room).mp honoured
    omega
  · rw [if_neg tooHigh]
    by_cases inGap : kept - (layerCount - device.stop) ≤ device.start - client.stop
    · rw [if_pos inGap]
      exact settles_ofBounds reserved room (by omega) (by omega) (by omega)
    · rw [if_neg inGap]
      exact settles_ofBounds reserved room (by omega) (by omega) (by omega)

theorem keepNextAbove_settles (reserved : device.size ≠ 0)
    (clientInside : client.stop ≤ layerCount)
    (room : usablePlanes = 2 * device.size + targetPlanes layerCount usablePlanes + kept)
    (occupied : client.size ≠ 0) (above : device.stop ≤ client.start)
    (pressure : kept < freeLayers layerCount client device) :
    Settles (HonoursVideo layerCount usablePlanes client device)
      (keepNextAbove layerCount client device kept) := by
  have clientStop := ClientRange.stop_eq client
  have deviceStop := DeviceRange.stop_eq device
  rw [freeLayers] at pressure
  simp only [keepNextAbove]
  by_cases tooLow : kept < device.start
  · rw [if_pos tooLow]
    intro other honoured
    have placed := (honoursVideo_mk_iff reserved room).mp honoured
    omega
  · rw [if_neg tooLow]
    by_cases inGap : kept - device.start ≤ client.start - device.stop
    · rw [if_pos inGap]
      exact settles_ofBounds reserved room (by omega) (by omega) (by omega)
    · rw [if_neg inGap]
      exact settles_ofBounds reserved room (by omega) (by omega) (by omega)

/-- Without a client range either end of the stack will do; both ranges have the same size. -/
theorem cheaperEdge_settles (reserved : device.size ≠ 0) (deviceInside : device.stop ≤ layerCount)
    (room : usablePlanes = 2 * device.size + targetPlanes layerCount usablePlanes + kept)
    (vacant : client.size = 0) (pressure : kept < freeLayers layerCount client device)
    (cost : WindowCost) :
    Settles (HonoursVideo layerCount usablePlanes client device)
      (cheaperEdge layerCount device cost kept) := by
  have deviceStop := DeviceRange.stop_eq device
  rw [freeLayers] at pressure
  have top (lower : device.start ≤ kept) :
      Settles (HonoursVideo layerCount usablePlanes client device)
        (.ok (ClientRange.ofBounds (device.stop + (kept - device.start)) layerCount)) :=
    settles_ofBounds reserved room (by omega) (by omega) (by omega)
  have bottom (upper : layerCount - device.stop ≤ kept) :
      Settles (HonoursVideo layerCount usablePlanes client device)
        (.ok (ClientRange.ofBounds 0 (device.start - (kept - (layerCount - device.stop))))) :=
    settles_ofBounds reserved room (by omega) (by omega) (by omega)
  simp only [cheaperEdge]
  by_cases lower : device.start ≤ kept
  · rw [if_pos lower]
    split
    · next cheaper => exact bottom cheaper.1
    · exact top lower
  · rw [if_neg lower]
    by_cases upper : layerCount - device.stop ≤ kept
    · rw [if_pos upper]
      exact bottom upper
    · rw [if_neg upper]
      intro other honoured
      have placed := (honoursVideo_mk_iff reserved room).mp honoured
      omega

/-- The rules together settle whether one range can honour the reservation. -/
theorem reservedRange_settles (usablePlanes : Nat) (cost : WindowCost) (reserved : device.size ≠ 0)
    (clientInside : client.stop ≤ layerCount) (deviceInside : device.stop ≤ layerCount) :
    Settles (HonoursVideo layerCount usablePlanes client device)
      (reservedRange layerCount client device usablePlanes cost) := by
  have deviceStop := DeviceRange.stop_eq device
  have clientStop := ClientRange.stop_eq client
  rcases PlaneRoom.of_cases layerCount usablePlanes device.size reserved with
    ⟨roomEq, short⟩ | noRoom
  · rw [reservedRange, roomEq]
    intro other honoured
    have fits := honoured.fits
    omega
  · rcases ClientSide.of_cases client reserved with
      ⟨sideEq, vacant⟩ | ⟨sideEq, occupied, low, high⟩ | ⟨sideEq, occupied, below⟩ |
      ⟨sideEq, occupied, above⟩
    · rcases noRoom with ⟨roomEq, exactly⟩ | ⟨planes, roomEq, room⟩
      · rw [reservedRange, roomEq, sideEq]
        exact besideVideo_settles reserved deviceInside clientInside exactly (Or.inl vacant)
      · rw [reservedRange, roomEq, sideEq]
        exact unlessAllFit_settles reserved clientInside room (Or.inl vacant) fun pressure =>
          cheaperEdge_settles reserved deviceInside room vacant pressure cost
    · have overlapping : Settles (HonoursVideo layerCount usablePlanes client device)
          (.error .clientOverlapsVideo) := by
        intro other honoured
        have common : client.contains (max client.start device.start) = true :=
          ClientRange.contains_iff.mpr ⟨Nat.le_max_left _ _, by omega⟩
        have inside := ClientRange.covers_iff_forall.mp honoured.covers _ common
        exact honoured.apart _ inside ⟨Nat.le_max_right _ _, by omega⟩
      rcases noRoom with ⟨roomEq, _⟩ | ⟨planes, roomEq, _⟩
      · rw [reservedRange, roomEq, sideEq]
        exact overlapping
      · rw [reservedRange, roomEq, sideEq]
        exact overlapping
    · rcases noRoom with ⟨roomEq, exactly⟩ | ⟨planes, roomEq, room⟩
      · rw [reservedRange, roomEq, sideEq]
        exact besideVideo_settles reserved deviceInside clientInside exactly
          (Or.inr (Or.inl below))
      · rw [reservedRange, roomEq, sideEq]
        exact unlessAllFit_settles reserved clientInside room (Or.inr (Or.inl below))
          fun pressure =>
            keepNextBelow_settles reserved deviceInside room occupied below pressure
    · rcases noRoom with ⟨roomEq, exactly⟩ | ⟨planes, roomEq, room⟩
      · rw [reservedRange, roomEq, sideEq]
        exact besideVideo_settles reserved deviceInside clientInside exactly
          (Or.inr (Or.inr above))
      · rw [reservedRange, roomEq, sideEq]
        exact unlessAllFit_settles reserved clientInside room (Or.inr (Or.inr above))
          fun pressure =>
            keepNextAbove_settles reserved clientInside room occupied above pressure

end Rules

/-! ### Growing around the video run -/

section Growth

variable {layerCount : Nat} (usablePlanes : Nat) {client : ClientRange} {device : DeviceRange}

/-- A run within the stack is reserved for by a least range that honours it, or given up because
there is none. -/
theorem fitAroundVideo_cases (cost : WindowCost) (clientInside : client.stop ≤ layerCount)
    (reserved : device.size ≠ 0) (deviceInside : device.stop ≤ layerCount) :
    (∃ range, fitAroundVideo layerCount usablePlanes client device cost = { range } ∧
        HonoursVideo layerCount usablePlanes client device range ∧
        ∀ other, HonoursVideo layerCount usablePlanes client device other →
          range.size ≤ other.size) ∨
      (∃ cause, fitAroundVideo layerCount usablePlanes client device cost =
          { range := fitToPlanes layerCount usablePlanes client cost, fallback := some cause } ∧
        ∀ other, ¬ HonoursVideo layerCount usablePlanes client device other) := by
  have settled := reservedRange_settles usablePlanes cost reserved clientInside
    deviceInside
  have notEmpty := DeviceRange.not_isEmpty_iff.mpr reserved
  rw [fitAroundVideo, if_neg notEmpty, if_neg (Nat.not_lt_of_le deviceInside)]
  cases outcome : reservedRange layerCount client device usablePlanes cost with
  | ok range =>
      rw [outcome] at settled
      exact Or.inl ⟨range, rfl, settled.1, settled.2⟩
  | error cause =>
      rw [outcome] at settled
      exact Or.inr ⟨cause, rfl, settled⟩

/-- Whatever run is to be reserved, the range found lies in the stack and covers the old one. -/
theorem fitAroundVideo_within_covers (cost : WindowCost) (device : DeviceRange)
    (clientInside : client.stop ≤ layerCount) :
    (fitAroundVideo layerCount usablePlanes client device cost).range.stop ≤ layerCount ∧
      (fitAroundVideo layerCount usablePlanes client device cost).range.covers client = true := by
  have plain := fitToPlanes_fits usablePlanes cost clientInside
  by_cases reserved : device.isEmpty = true
  · rw [fitAroundVideo, if_pos reserved]
    exact ⟨plain.within, plain.covers⟩
  · by_cases outside : layerCount < device.stop
    · rw [fitAroundVideo, if_neg reserved, if_pos outside]
      exact ⟨plain.within, plain.covers⟩
    · have occupied := DeviceRange.not_isEmpty_iff.mp reserved
      rcases fitAroundVideo_cases usablePlanes cost clientInside occupied
          (Nat.le_of_not_lt outside) with
        ⟨range, found, honoured, _⟩ | ⟨cause, given, _⟩
      · rw [found]
        exact ⟨honoured.within, honoured.covers⟩
      · rw [given]
        exact ⟨plain.within, plain.covers⟩

/-- Growing around a video run is exact.  The reservation is kept exactly if some range can honour
it, and then by a least such range; otherwise the range is the one grown for the planes alone. -/
theorem fitAroundVideo_exact (cost : WindowCost) (clientInside : client.stop ≤ layerCount)
    (reserved : device.size ≠ 0) (deviceInside : device.stop ≤ layerCount) :
    ((fitAroundVideo layerCount usablePlanes client device cost).fallback = none ↔
        ∃ range, HonoursVideo layerCount usablePlanes client device range) ∧
      ((fitAroundVideo layerCount usablePlanes client device cost).fallback = none →
        HonoursVideo layerCount usablePlanes client device
            (fitAroundVideo layerCount usablePlanes client device cost).range ∧
          ∀ other, HonoursVideo layerCount usablePlanes client device other →
            (fitAroundVideo layerCount usablePlanes client device cost).range.size ≤
              other.size) ∧
      (∀ cause, (fitAroundVideo layerCount usablePlanes client device cost).fallback = some cause →
        (fitAroundVideo layerCount usablePlanes client device cost).range =
            fitToPlanes layerCount usablePlanes client cost ∧
          FitsPlanes layerCount usablePlanes client
            (fitToPlanes layerCount usablePlanes client cost)) := by
  rcases fitAroundVideo_cases usablePlanes cost clientInside reserved
      deviceInside with ⟨range, found, honoured, least⟩ | ⟨cause, given, impossible⟩
  · rw [found]
    refine ⟨iff_of_true rfl ⟨range, honoured⟩, fun _ => ⟨honoured, least⟩, ?_⟩
    intro cause contradictory
    cases contradictory
  · rw [given]
    refine ⟨⟨?_, ?_⟩, ?_, ?_⟩
    · intro contradictory
      cases contradictory
    · rintro ⟨range, honoured⟩
      exact absurd honoured (impossible range)
    · intro contradictory
      cases contradictory
    · intro _ _
      exact ⟨rfl, fitToPlanes_fits usablePlanes cost clientInside⟩

/-- Eight layers on seven planes: with layer 3 on the GPU and video above it, layers 1 to 3 join.
Six layers on five planes with two video layers in the middle: no range will do. -/
theorem fitAroundVideo_exact_on_two_stacks :
    (fitAroundVideo 8 7 ⟨3, 1⟩ ⟨4, 1⟩ (fun _ size => size) = { range := ⟨1, 3⟩ } ∧
        HonoursVideo 8 7 ⟨3, 1⟩ ⟨4, 1⟩ ⟨1, 3⟩ ∧
        ∀ other, HonoursVideo 8 7 ⟨3, 1⟩ ⟨4, 1⟩ other → 3 ≤ other.size) ∧
      (fitAroundVideo 6 5 .empty ⟨2, 2⟩ (fun _ size => size) =
          { range := ⟨0, 2⟩, fallback := some .videoNotAtEdge } ∧
        FitsPlanes 6 5 .empty ⟨0, 2⟩ ∧ ¬ ∃ range, HonoursVideo 6 5 .empty ⟨2, 2⟩ range) := by
  have kept := @fitAroundVideo_exact 8 7 ⟨3, 1⟩ ⟨4, 1⟩ (fun _ size => size) (by decide) (by decide)
    (by decide)
  have dropped := @fitAroundVideo_exact 6 5 .empty ⟨2, 2⟩ (fun _ size => size) (by decide)
    (by decide) (by decide)
  have keeps : fitAroundVideo 8 7 ⟨3, 1⟩ ⟨4, 1⟩ (fun _ size => size) = { range := ⟨1, 3⟩ } := by
    decide
  have drops : fitAroundVideo 6 5 .empty ⟨2, 2⟩ (fun _ size => size) =
      { range := ⟨0, 2⟩, fallback := some .videoNotAtEdge } := by decide
  rw [keeps] at kept
  rw [drops] at dropped
  refine ⟨⟨keeps, kept.2.1 rfl⟩, drops, ?_, ?_⟩
  · have plain := dropped.2.2 _ rfl
    have plainEq : fitToPlanes 6 5 .empty (fun _ size => size) = ⟨0, 2⟩ := plain.1.symm
    rw [plainEq] at plain
    exact plain.2
  · intro possible
    cases dropped.1.mpr possible

end Growth

end Scanout
