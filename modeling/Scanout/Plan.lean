/-
Module: Scanout.Plan
Purpose: The plane assignments that a stamped layer stack stands for.
Imports: Scanout.Display
Main exports: PlaneItem, PlanFault, Plan, Plan.renew, Plan.ofSnapshot, Plan.planeCount
-/
import Scanout.Display

namespace Scanout

/-- One plane of a plan, or the two planes of a video layer. -/
inductive PlaneItem where
  /-- A layer that is scanned out as it is. -/
  | layer (z : Nat) (frame : Rect) (video : Bool)
  /-- The merged layers of a range, and the box around them. -/
  | clientTarget (range : ClientRange) (bounds : Rect)
deriving DecidableEq, Repr, Inhabited

/-- Hardware planes that an item takes. -/
def PlaneItem.planes : PlaneItem → Nat
  | .layer _ _ video => if video then 2 else 1
  | .clientTarget _ _ => 1

/-- Why a stack is no plan. -/
inductive PlanFault where
  /-- The lowest undecided layer is `z`. -/
  | unplanned (z : Nat)
  /-- Client layer `z` has a client layer below it, but not right below. -/
  | splitClientRange (z : Nat)
deriving DecidableEq, Repr, Inhabited

namespace PlanFault

/-- Wording of the error. -/
def message : PlanFault → String
  | unplanned z => s!"layer {z} has not been planned"
  | splitClientRange z => s!"client layers are not contiguous at layer {z}"

/-- Name of the error as a word of its own. -/
def name : PlanFault → String
  | unplanned _ => "Unplanned"
  | splitClientRange _ => "SplitClientRange"

end PlanFault

/-! ### The client range of a stamped stack -/

/-- Extend the client range `found` below layer `z` by the layers from `z` on. -/
def scanClientRange (found : ClientRange) : (z : Nat) → List Layer → Except PlanFault ClientRange
  | _, [] => .ok found
  | z, layer :: layers =>
      match layer.decision with
      | none => .error (.unplanned z)
      | some .device => scanClientRange found (z + 1) layers
      | some .client =>
          if found.isEmpty then scanClientRange (ClientRange.ofSpan z 1) (z + 1) layers
          else if z = found.stop then
            scanClientRange (ClientRange.ofSpan found.start (found.size + 1)) (z + 1) layers
          else .error (.splitClientRange z)

/-- The range of the layers stamped client, or the lowest layer at which the stack is no plan. -/
def stampedClientRange (layers : List Layer) : Except PlanFault ClientRange :=
  scanClientRange ClientRange.empty 0 layers

/-! ### Bounds of merged layers -/

/-- The least rectangle around two. -/
def Rect.hull (a b : Rect) : Rect where
  left := min a.left b.left
  top := min a.top b.top
  right := max a.right b.right
  bottom := max a.bottom b.bottom

/-- The least rectangle around the frames that cover any pixel, or zero if none does. -/
def boundsOf (frames : List Rect) : Rect :=
  match frames.filter (0 < ·.area) with
  | [] => Rect.zero
  | first :: others => others.foldl Rect.hull first

/-! ### Plans -/

/-- The items of a frame on a display, from the bottom up.  The client target has the height of the
lowest layer in it. -/
structure Plan where
  display : DisplayId
  items : List PlaneItem := []
deriving DecidableEq, Repr, Inhabited

namespace Plan

/-- A plan with no items. -/
def new (display : DisplayId) : Plan := { display }

/-- The items of a stack whose client layers are those of `client`. -/
def itemsAround (client : ClientRange) (layers : List Layer) : List PlaneItem :=
  layers.zipIdx.filterMap fun (layer, z) =>
    if client.contains z then
      if z = client.start then
        let merged := (layers.drop client.start).take client.size
        some (.clientTarget client (boundsOf (merged.map Layer.frame)))
      else none
    else some (.layer z layer.frame layer.isVideo)

/-- Replace the items by those of a stamped frame; an error leaves none. -/
def renew (plan : Plan) (snapshot : Snapshot) : Except PlanFault Unit × Plan :=
  match stampedClientRange snapshot.layers with
  | .ok client => (.ok (), { plan with items := itemsAround client snapshot.layers })
  | .error problem => (.error problem, { plan with items := [] })

/-- The plan of a stamped frame. -/
def ofSnapshot (display : DisplayId) (snapshot : Snapshot) : Except PlanFault Plan :=
  match (new display).renew snapshot with
  | (.ok (), plan) => .ok plan
  | (.error problem, _) => .error problem

/-- Hardware planes that the plan takes. -/
def planeCount (plan : Plan) : Nat := (plan.items.map PlaneItem.planes).foldr (· + ·) 0

/-- The range of the client target, if the plan has one. -/
def clientRange (plan : Plan) : Option ClientRange :=
  plan.items.findSome? fun
    | .clientTarget range _ => some range
    | .layer .. => none

/-- Whether the plan fits some planes. -/
def fits (plan : Plan) (usablePlanes : Nat) : Bool := plan.planeCount ≤ usablePlanes

end Plan

end Scanout
