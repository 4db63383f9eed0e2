/-
Module: Scanout.Audit
Purpose: Checking a stamped layer stack against the promises of planning.
Imports: Scanout.Classifier
Main exports: Violation, violations
-/
import Scanout.Classifier

namespace Scanout

/-- A broken promise. -/
inductive Violation where
  /-- Layer `z` is undecided. -/
  | unplanned (z : Nat)
  /-- Device layer `z` lies between two client layers. -/
  | splitClientRange (z : Nat)
  /-- Layer `z` needs the GPU and is on a plane. -/
  | mandatoryOnPlane (z : Nat)
  /-- The stack takes more planes than there are. -/
  | overBudget (required available : Nat)
deriving DecidableEq, Repr, Inhabited

namespace Violation

def message : Violation → String
  | unplanned z => s!"layer {z} has no decision"
  | splitClientRange z => s!"device layer {z} splits the client range"
  | mandatoryOnPlane z => s!"layer {z} must be client but is on a plane"
  | overBudget required available => s!"plan needs {required} planes, {available} available"

def name : Violation → String
  | unplanned _ => "Unplanned"
  | splitClientRange _ => "SplitClientRange"
  | mandatoryOnPlane _ => "MandatoryOnPlane"
  | overBudget _ _ => "OverBudget"

end Violation

/-- Positions of the layers with some property, lowest first. -/
def positions (holds : Layer → Bool) (layers : List Layer) : List Nat :=
  (layers.zipIdx.filter fun (layer, _) => holds layer).map fun (_, z) => z

/-- Device layers from the lowest client layer up to the highest one. -/
def splitPositions (layers : List Layer) : List Nat :=
  let client := positions Layer.isClient layers
  match client.head?, client.getLast? with
  | some first, some last =>
      (positions (!·.isClient) layers).filter fun z => first ≤ z && z < last
  | _, _ => []

/-- Planes of the layers outside the client target, and one for the target if there is one. -/
def planesInUse (layers : List Layer) : Nat :=
  ((layers.filter (!·.isClient)).map Layer.planeCost).foldr (· + ·) 0 +
    (if layers.any Layer.isClient then 1 else 0)

/-- Every promise that a stamped frame breaks.  Undecided layers hide all other violations. -/
def violations (snapshot : Snapshot) (classifier : Classifier) : List Violation :=
  let layers := snapshot.layers
  let undecided := positions (·.decision.isNone) layers
  if undecided.isEmpty then
    let marked := positions (fun layer => !layer.isClient && classifier snapshot layer) layers
    let required := planesInUse layers
    (splitPositions layers).map .splitClientRange ++ marked.map .mandatoryOnPlane ++
      (if snapshot.usablePlanes < required then [.overBudget required snapshot.usablePlanes]
        else [])
  else undecided.map .unplanned

end Scanout
