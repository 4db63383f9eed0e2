/-
Module: Scanout.Layer
Purpose: One entry of a display's z-ordered layer stack.
Imports: Scanout.Layer.Kind, Scanout.Rect
Main exports: Decision, Layer, Layer.stamp, Layer.planeCost, Layer.forgetDecision
-/
import Scanout.Layer.Kind
import Scanout.Rect

namespace Scanout

/-- Where a planning pass sends a layer. -/
inductive Decision where
  /-- Into the client target. -/
  | client
  /-- Onto a hardware plane. -/
  | device
deriving DecidableEq, Repr, Inhabited

def Decision.kind : Decision → Kind
  | .client => .client
  | .device => .device

/-- A layer: what its owner asks for, and what the last planning pass decided. -/
structure Layer where
  /-- How the owner wants the layer composited. -/
  hint : Kind := .device
  /-- Where the layer appears on the display. -/
  frame : Rect
  /-- The layer has to be scaled or shifted by parts of a pixel. -/
  needsScaling : Bool := false
  /-- The layer carries video, which takes two planes. -/
  isVideo : Bool := false
  /-- A plane can scan out the layer's buffer. -/
  planeUsable : Bool := true
  /-- The decision of the last planning pass, if any. -/
  decision : Option Decision := none
  /-- The last planning pass enabled the hardware composition path. -/
  alternatePath : Bool := false
deriving DecidableEq, Repr, Inhabited

namespace Layer

/-- Pixels that the GPU touches to composite the layer. -/
def pixels (layer : Layer) : Nat := layer.frame.area

/-- Whether the last pass sent the layer to the client target. -/
def isClient (layer : Layer) : Bool := layer.decision == some .client

/-- Hardware planes that the layer takes when it is not composited by the GPU. -/
def planeCost (layer : Layer) : Nat := if layer.isVideo then 2 else 1

/-- Record whether the layer goes to the client target; the hardware path is used otherwise. -/
def stamp (layer : Layer) (client : Bool) : Layer :=
  { layer with
    decision := some (if client then .client else .device)
    alternatePath := !client }

/-- The layer as if no pass had seen it. -/
def forgetDecision (layer : Layer) : Layer :=
  { layer with decision := none, alternatePath := false }

@[simp] theorem isClient_stamp (layer : Layer) (client : Bool) :
    (layer.stamp client).isClient = client := by
  cases client <;> rfl

@[simp] theorem stamp_stamp (layer : Layer) (first second : Bool) :
    (layer.stamp first).stamp second = layer.stamp second := rfl

@[simp] theorem stamp_forgetDecision (layer : Layer) (client : Bool) :
    layer.forgetDecision.stamp client = layer.stamp client := rfl

end Layer

end Scanout
