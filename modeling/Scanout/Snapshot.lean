/-
Module: Scanout.Snapshot
Purpose: Everything that planning needs to know about one display for one frame.
Imports: Scanout.Layer, Scanout.Range.Client
Main exports: Snapshot, Snapshot.ofLayers, Snapshot.stamp
-/
import Scanout.Layer
import Scanout.Range.Client

namespace Scanout

/-- One frame of one display: its layer stack and what the hardware offers for it. -/
structure Snapshot where
  /-- The layers, bottom first. -/
  layers : List Layer := []
  usablePlanes : Nat := 0
  /-- The color transform changes nothing; only the GPU can apply another one. -/
  identityTransform : Bool := false
  /-- The frame may go to the client target as a whole. -/
  flattenable : Bool := false
deriving DecidableEq, Repr, Inhabited

/-- Mark the layers inside a client range as client, the others as device. -/
def stampLayers (client : ClientRange) (layers : List Layer) : List Layer :=
  layers.mapIdx fun z layer => layer.stamp (client.contains z)

namespace Snapshot

/-- A frame with an identity color transform that is not to be flattened. -/
def ofLayers (layers : List Layer) (usablePlanes : Nat) : Snapshot :=
  { layers, usablePlanes, identityTransform := true }

def layerCount (snapshot : Snapshot) : Nat := snapshot.layers.length

/-- Write the decisions that a client range stands for into every layer. -/
def stamp (snapshot : Snapshot) (client : ClientRange) : Snapshot :=
  { snapshot with layers := stampLayers client snapshot.layers }

/-- Whether the stack holds a layer that no plan can be made around. -/
def unsupported (snapshot : Snapshot) : Bool := snapshot.layers.any (·.hint.unsupported)

@[simp] theorem layerCount_stamp (snapshot : Snapshot) (client : ClientRange) :
    (snapshot.stamp client).layerCount = snapshot.layerCount := by
  simp [layerCount, stamp, stampLayers]

end Snapshot

end Scanout
