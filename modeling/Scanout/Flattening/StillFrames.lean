/-
Module: Scanout.Flattening.StillFrames
Purpose: Deciding from the signatures of successive frames whether a frame may be flattened.
Imports: Scanout.Flattening.Signature
Main exports: StillFrameDetector, StillFrameDetector.observe
-/
import Scanout.Flattening.Signature

namespace Scanout

/-- The signature of the frame before, and whether it matters. -/
structure StillFrameDetector where
  enabled : Bool := true
  last : Option UInt64 := none
deriving DecidableEq, Repr, Inhabited

namespace StillFrameDetector

/-- A detector that has seen no frame. -/
def new : StillFrameDetector := {}

/-- A detector that never allows flattening. -/
def disabled : StillFrameDetector := { enabled := false }

/-- Take in the next frame.  It may be flattened if it has the signature of the frame before or at
most one layer. -/
def observe (detector : StillFrameDetector) (layers : List Layer) : Bool × StillFrameDetector :=
  if detector.enabled then
    let signature := stackSignature layers
    (detector.last == some signature || layers.length ≤ 1, { detector with last := some signature })
  else (false, detector)

/-- Forget the frame before. -/
def reset (detector : StillFrameDetector) : StillFrameDetector := { detector with last := none }

end StillFrameDetector

end Scanout
