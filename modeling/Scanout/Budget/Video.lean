/-
Module: Scanout.Budget.Video
Purpose: Growing a client range for the plane budget around a reserved run of video layers.
Imports: Scanout.Budget.Plain, Scanout.Budget.Fit, Scanout.Range.Device
Main exports: PlaneRoom, ClientSide, reservedRange, fitAroundVideo
-/
import Scanout.Budget.Plain
import Scanout.Budget.Fit
import Scanout.Range.Device

namespace Scanout

/-!
Reserved video layers stay on planes and take two each.  What is left of the budget after them, and
where the client range lies relative to them, select one of a few rules.  Layers next to the video
keep their planes longest.  Where no single client range can honour the reservation, it is given up
for the plain rule, which always yields a plan that fits.
-/

/-- What a budget leaves for the layers outside the video run. -/
inductive PlaneRoom where
  /-- The video layers alone do not fit. -/
  | short
  /-- The video layers take every plane. -/
  | exact
  /-- So many planes are left; at least one. -/
  | spare (planes : Nat)
deriving DecidableEq, Repr, Inhabited

/-- The room left by `videoLayers` layers of two planes each, less one plane for the client
target where the stack has more layers than planes. -/
def PlaneRoom.of (layerCount usablePlanes videoLayers : Nat) : PlaneRoom :=
  if usablePlanes < videoLayers then .short
  else
    let afterSecondPlanes := usablePlanes - videoLayers
    let available :=
      if usablePlanes < layerCount then afterSecondPlanes - 1 else afterSecondPlanes
    if available < videoLayers then .short
    else if available = videoLayers then .exact
    else .spare (available - videoLayers)

/-- Where a client range lies relative to the video run. -/
inductive ClientSide where
  | noClient
  | belowVideo
  | aboveVideo
  | overlapping
deriving DecidableEq, Repr, Inhabited

/-- The place of a client range. -/
def ClientSide.of (client : ClientRange) (device : DeviceRange) : ClientSide :=
  if client.isEmpty then .noClient
  else if device.overlaps client then .overlapping
  else if client.stop ≤ device.start then .belowVideo
  else .aboveVideo

section Rules

variable (layerCount : Nat) (client : ClientRange) (device : DeviceRange)

/-- Layers outside both the client range and the video run. -/
def freeLayers : Nat := layerCount - device.size - client.size

/-- The video run takes every plane: all other layers have to lie on one side of it. -/
def besideVideo : Except FallbackCause ClientRange :=
  if device.start = 0 then .ok (ClientRange.ofBounds device.stop layerCount)
  else if device.stop = layerCount then .ok (ClientRange.ofBounds 0 device.start)
  else .error .videoNotAtEdge

/-- The client range lies below the video and `kept` other layers may stay on planes: those above
the video first, then the ones just below it, then the lowest ones. -/
def keepNextBelow (kept : Nat) : Except FallbackCause ClientRange :=
  let aboveVideo := layerCount - device.stop
  if kept < aboveVideo then .error .sideOverReservation
  else
    let rest := kept - aboveVideo
    let between := device.start - client.stop
    if rest ≤ between then .ok (ClientRange.ofBounds 0 (device.start - rest))
    else .ok (ClientRange.ofBounds (rest - between) client.stop)

/-- The client range lies above the video and `kept` other layers may stay on planes: those below
the video first, then the ones just above it, then the highest ones. -/
def keepNextAbove (kept : Nat) : Except FallbackCause ClientRange :=
  let belowVideo := device.start
  if kept < belowVideo then .error .sideOverReservation
  else
    let rest := kept - belowVideo
    let between := client.start - device.stop
    if rest ≤ between then .ok (ClientRange.ofBounds (device.stop + rest) layerCount)
    else .ok (ClientRange.ofBounds client.start (layerCount - (rest - between)))

/-- Only the budget asks for a client range, and `kept` other layers may stay on planes: the range
is the top of the stack or its bottom, whichever the planes allow and is cheaper, the top if both
cost the same. -/
def cheaperEdge (cost : WindowCost) (kept : Nat) : Except FallbackCause ClientRange :=
  let belowVideo := device.start
  let aboveVideo := layerCount - device.stop
  let top := ClientRange.ofBounds (device.stop + (kept - belowVideo)) layerCount
  let bottom := ClientRange.ofBounds 0 (device.start - (kept - aboveVideo))
  if belowVideo ≤ kept then
    if aboveVideo ≤ kept ∧ cost bottom.start bottom.size < cost top.start top.size then .ok bottom
    else .ok top
  else if aboveVideo ≤ kept then .ok bottom
  else .error .sideOverReservation

/-- Apply a rule to the layers that may stay on `planes` planes, unless all of them may. -/
def unlessAllFit (planes : Nat) (rule : Nat → Except FallbackCause ClientRange) :
    Except FallbackCause ClientRange :=
  if freeLayers layerCount client device ≤ planes then .ok client else rule planes

/-- The client range that keeps the video run on planes, or why there is none. -/
def reservedRange (usablePlanes : Nat) (cost : WindowCost) : Except FallbackCause ClientRange :=
  match PlaneRoom.of layerCount usablePlanes device.size, ClientSide.of client device with
  | .short, _ => .error .videoOverBudget
  | _, .overlapping => .error .clientOverlapsVideo
  | .exact, _ => besideVideo layerCount device
  | .spare planes, .noClient =>
      unlessAllFit layerCount client device planes (cheaperEdge layerCount device cost)
  | .spare planes, .belowVideo =>
      unlessAllFit layerCount client device planes (keepNextBelow layerCount client device)
  | .spare planes, .aboveVideo =>
      unlessAllFit layerCount client device planes (keepNextAbove layerCount client device)

end Rules

/-- Grow a client range for the budget and keep a video run on planes if one range can do both. -/
def fitAroundVideo (layerCount usablePlanes : Nat) (client : ClientRange)
    (device : DeviceRange) (cost : WindowCost) : BudgetFit :=
  let plain := fitToPlanes layerCount usablePlanes client cost
  if device.isEmpty then { range := plain }
  else if layerCount < device.stop then
    { range := plain, fallback := some .deviceRangeOutOfBounds }
  else
    match reservedRange layerCount client device usablePlanes cost with
    | .ok range => { range }
    | .error cause => { range := plain, fallback := some cause }

end Scanout
