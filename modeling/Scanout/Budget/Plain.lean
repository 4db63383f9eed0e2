/-
Module: Scanout.Budget.Plain
Purpose: Growing a client range until the layers outside it fit the hardware planes.
Imports: Scanout.Cost, Scanout.Range.Client
Main exports: devicePlanes, candidateStarts, cheapestStart, fitToPlanes
-/
import Scanout.Cost
import Scanout.Range.Client

namespace Scanout

/-!
A stack with more layers than planes needs a client target, which takes one plane itself.  If the
layers outside the client range outnumber the planes left, the range grows by the excess.  Every
window of the new size that still covers the old range is a candidate; the cheapest wins, and of
equally cheap ones the lowest.
-/

/-- Planes for layers outside the client range. -/
def devicePlanes (layerCount usablePlanes : Nat) : Nat :=
  if usablePlanes < layerCount then usablePlanes - 1 else usablePlanes

/-- Layers that have to join the client range. -/
def excessLayers (layerCount usablePlanes : Nat) (client : ClientRange) : Nat :=
  layerCount - client.size - devicePlanes layerCount usablePlanes

/-- First layers of the windows of `client.size + excess` layers within the stack that cover
`client`, lowest first. -/
def candidateStarts (layerCount excess : Nat) (client : ClientRange) : List Nat :=
  if client.isEmpty then List.range' 0 (layerCount - excess + 1)
  else
    let below := min client.start excess
    let above := min (layerCount - client.stop) excess
    let first := client.start - below
    let roomAbove := layerCount - (first + (client.size + excess))
    List.range' first (1 + min (min above below) roomAbove)

/-- The cheapest of some starts, `best` being the first of them; the earliest of equally cheap
ones. -/
def cheapestStart (cost : Nat → Nat) : (best : Nat) → List Nat → Nat
  | best, [] => best
  | best, start :: starts =>
      cheapestStart cost (if cost start < cost best then start else best) starts

/-- Grow a client range until the layers outside it fit `usablePlanes`, at the least cost. -/
def fitToPlanes (layerCount usablePlanes : Nat) (client : ClientRange) (cost : WindowCost) :
    ClientRange :=
  let excess := excessLayers layerCount usablePlanes client
  if excess = 0 then client
  else
    let size := client.size + excess
    match candidateStarts layerCount excess client with
    | [] => client
    | first :: others =>
        ClientRange.ofSpan (cheapestStart (fun start => cost start size) first others) size

end Scanout
