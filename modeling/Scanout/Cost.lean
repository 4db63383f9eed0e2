/-
Module: Scanout.Cost
Purpose: The pixel cost of compositing a window of layers on the GPU.
Imports: Scanout.Word, Scanout.Layer
Main exports: WindowCost, windowPixels, CostTable, CostTable.ofLayers, CostTable.window
-/
import Scanout.Word
import Scanout.Layer

namespace Scanout

/-- Cost of the window with a given first layer and size. -/
abbrev WindowCost := (first size : Nat) → Nat

/-- Sum of some costs, stopping at the largest 64-bit word. -/
def satSum (costs : List Nat) : Nat := costs.foldl Word.satAdd 0

/-- Pixels of the `size` layers from `first` on; positions past the top of the stack are nothing. -/
def windowPixels (layers : List Layer) (first size : Nat) : Nat :=
  satSum (((layers.drop first).take size).map Layer.pixels)

/-!
Window costs of one stack are asked for again and again, so they are read off a table of running
sums.  A running sum stops at the largest word; a window above that point costs less in the table
than its layers do.
-/

/-- `total`, then `total` with the first cost added, then with the second one added, and so on. -/
def runningSums (total : Nat) : List Nat → List Nat
  | [] => [total]
  | cost :: costs => total :: runningSums (Word.satAdd total cost) costs

/-- Running pixel sums of a stack: entry `i` is the cost of the `i` lowest layers. -/
structure CostTable where
  sums : Array Nat
deriving DecidableEq, Repr, Inhabited

namespace CostTable

/-- The table of a stack. -/
def ofLayers (layers : List Layer) : CostTable :=
  ⟨(runningSums 0 (layers.map Layer.pixels)).toArray⟩

/-- Number of layers of the stack. -/
def layerCount (cost : CostTable) : Nat := cost.sums.size - 1

/-- Cost of the `count` lowest layers, or of all of them if there are fewer. -/
def below (cost : CostTable) (count : Nat) : Nat :=
  cost.sums.getD (min count cost.layerCount) 0

/-- Cost of the whole stack. -/
def total (cost : CostTable) : Nat := cost.below cost.layerCount

/-- Cost of the `size` layers from `first` on; positions past the top of the stack are nothing. -/
def window (cost : CostTable) : WindowCost := fun first size =>
  cost.below (first + size) - cost.below first

end CostTable

@[simp] theorem length_runningSums (total : Nat) (costs : List Nat) :
    (runningSums total costs).length = costs.length + 1 := by
  induction costs generalizing total with
  | nil => rfl
  | cons cost costs inductionHypothesis => simp [runningSums, inductionHypothesis]

@[simp] theorem CostTable.layerCount_ofLayers (layers : List Layer) :
    (CostTable.ofLayers layers).layerCount = layers.length := by
  simp [CostTable.ofLayers, CostTable.layerCount]

end Scanout
