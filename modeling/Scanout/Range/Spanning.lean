/-
Module: Scanout.Range.Spanning
Purpose: The least contiguous range that holds every layer a plane cannot take.
Imports: Scanout.Layer, Scanout.Range.Client
Main exports: spanningRange
-/
import Scanout.Layer
import Scanout.Range.Client

namespace Scanout

/-!
The client target is one plane at one height, so layers between two marked ones are merged as well.
The scan goes upwards from layer `z` and carries the range found so far.
-/

/-- Extend a range by the marked layers among `layers`, the first of which has position `z`. -/
def extendByMarked (marked : Layer → Bool) :
    (found : ClientRange) → (z : Nat) → List Layer → ClientRange
  | found, _, [] => found
  | found, z, layer :: layers =>
      let next :=
        if marked layer then
          if found.isEmpty then ClientRange.ofSpan z 1 else ClientRange.ofBounds found.start (z + 1)
        else found
      extendByMarked marked next (z + 1) layers

/-- From the lowest marked layer to the highest one; empty if there is none. -/
def spanningRange (marked : Layer → Bool) (layers : List Layer) : ClientRange :=
  extendByMarked marked ClientRange.empty 0 layers

end Scanout
