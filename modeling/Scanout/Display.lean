/-
Module: Scanout.Display
Purpose: What is kept about a display from frame to frame.
Imports: Scanout.Flattening.StillFrames, Scanout.Snapshot, Scanout.Stats
Main exports: DisplayId, Display, Display.new, Display.prepare, Display.beginPass
-/
import Scanout.Flattening.StillFrames
import Scanout.Snapshot
import Scanout.Stats

namespace Scanout

/-- A number that tells displays apart. -/
structure DisplayId where
  number : Nat
deriving DecidableEq, Repr, Inhabited

namespace DisplayId

/-- The display as traces name it. -/
def label (id : DisplayId) : String := s!"display-{id.number}"

/-- The display as reports on control calls name it. -/
def text (id : DisplayId) : String := s!"DisplayId({id.number})"

end DisplayId

/-- The state of a display that outlives a frame. -/
structure Display where
  id : DisplayId
  stats : Stats := {}
  flattening : StillFrameDetector := .new
  /-- Passes begun, also over unsupported stacks. -/
  passes : Nat := 0
deriving DecidableEq, Repr, Inhabited

namespace Display

/-- A display that has shown nothing yet. -/
def new (id : DisplayId) : Display := { id }

/-- Show the next frame's layers to the still-frame detector and note its verdict in the frame. -/
def prepare (display : Display) (snapshot : Snapshot) : Display × Snapshot :=
  let (flattenable, flattening) := display.flattening.observe snapshot.layers
  ({ display with flattening }, { snapshot with flattenable })

/-- Count a pass that begins; its index is the number of passes before it. -/
def beginPass (display : Display) : Display :=
  { display with passes := Word.satAdd display.passes 1 }

end Display

end Scanout
