/-
Module: Scanout.Classifier
Purpose: Which layers a hardware plane cannot take.
Imports: Scanout.Snapshot
Main exports: Classifier, PlaneRules, PlaneRules.forcesClient, smallLayersClient
-/
import Scanout.Snapshot

namespace Scanout

/-- Whether a layer of a snapshot has to be composited by the GPU. -/
abbrev Classifier := Snapshot → Layer → Bool

/-- The stock rules, with the one choice that platforms make differently. -/
structure PlaneRules where
  /-- Layers that have to be scaled go through the GPU. -/
  scalingOnGpu : Bool := false
deriving DecidableEq, Repr, Inhabited

/-- A layer needs the GPU if its hint is no kind for planes, if its buffer cannot be scanned out, if
the display's colors are transformed, or if it has to be scaled and the platform does that there. -/
def PlaneRules.forcesClient (policy : PlaneRules) : Classifier :=
  fun snapshot layer =>
    !layer.hint.planeCapable || !layer.planeUsable || !snapshot.identityTransform ||
      (layer.needsScaling && policy.scalingOnGpu)

/-- The rule that layers of at most `area` pixels are not worth a plane. -/
def smallLayersClient (area : Nat) : Classifier := fun _ layer => layer.pixels ≤ area

end Scanout
