/-
Module: Scanout.Proofs.Cost
Purpose: The table of running sums holds the exact pixel sums, cut off at the largest word, so
  windows never cost less than windows inside them.
Imports: Scanout.Cost
Main exports: stackPixels, getElem?_runningSums, CostTable.below_ofLayers, CostTable.below_mono,
  WindowCost.Monotone, CostTable.window_monotone
-/
import Scanout.Cost

namespace Scanout

/-- Pixels of a stack, without a bound. -/
def stackPixels (layers : List Layer) : Nat := (layers.map Layer.pixels).foldr (· + ·) 0

/-- A higher cut through a stack leaves at least as many pixels below it. -/
theorem stackPixels_take_mono (layers : List Layer) {low high : Nat} (ordered : low ≤ high) :
    stackPixels (layers.take low) ≤ stackPixels (layers.take high) := by
  induction layers generalizing low high with
  | nil =>
      exact Nat.le_of_eq (by rw [List.take_nil, List.take_nil])
  | cons layer layers inductionHypothesis =>
      cases low with
      | zero =>
          rw [List.take_zero]
          exact Nat.zero_le _
      | succ low =>
          cases high with
          | zero => exact absurd ordered (Nat.not_succ_le_zero low)
          | succ high =>
              have rest := inductionHypothesis (Nat.le_of_succ_le_succ ordered)
              simp only [stackPixels, List.take_succ_cons, List.map_cons, List.foldr_cons] at rest ⊢
              exact Nat.add_le_add_left rest _

/-- An entry of a table of running sums is the exact sum up to it, cut off at the largest word.
The total the table starts from varies in the induction. -/
theorem getElem?_runningSums {total : Nat} {costs : List Nat} {i : Nat}
    (bounded : total ≤ Word.max64) (inTable : i ≤ costs.length) :
    (runningSums total costs)[i]? =
      some (min (total + (costs.take i).foldr (· + ·) 0) Word.max64) := by
  induction costs generalizing total i with
  | nil =>
      have first : i = 0 := Nat.le_zero.mp inTable
      subst first
      simp [runningSums, Nat.min_eq_left bounded]
  | cons cost costs inductionHypothesis =>
      cases i with
      | zero => simp [runningSums, Nat.min_eq_left bounded]
      | succ i =>
          have next := inductionHypothesis (Word.satAdd_le_max64 total cost)
            (Nat.le_of_succ_le_succ inTable)
          rw [runningSums, List.getElem?_cons_succ, next, List.take_succ_cons, List.foldr_cons]
          -- Cutting off on the way and once more at the end is cutting off at the end.
          congr 1
          rw [Word.satAdd]
          omega

namespace CostTable

/-- The cost of the lowest layers is their exact pixel sum, cut off at the largest word. -/
theorem below_ofLayers (layers : List Layer) (count : Nat) :
    (ofLayers layers).below count = min (stackPixels (layers.take count)) Word.max64 := by
  have inTable : min count layers.length ≤ (layers.map Layer.pixels).length := by
    rw [List.length_map]
    exact Nat.min_le_right _ _
  have entry := getElem?_runningSums (Nat.zero_le Word.max64) inTable
  rw [Nat.zero_add, ← List.map_take, ← List.take_eq_take_min] at entry
  rw [below, layerCount_ofLayers, ofLayers, Array.getD_eq_getD_getElem?, List.getElem?_toArray,
    entry, Option.getD_some, stackPixels]

theorem below_mono (layers : List Layer) {low high : Nat} (ordered : low ≤ high) :
    (ofLayers layers).below low ≤ (ofLayers layers).below high := by
  have exactly := stackPixels_take_mono layers ordered
  rw [below_ofLayers, below_ofLayers]
  omega

end CostTable

/-- A cost of windows under which an empty window is free and a window costs no less than any
window inside it. -/
structure WindowCost.Monotone (cost : WindowCost) : Prop where
  vacant : ∀ first, cost first 0 = 0
  inside : ∀ {innerFirst innerSize outerFirst outerSize : Nat}, outerFirst ≤ innerFirst →
    innerFirst + innerSize ≤ outerFirst + outerSize →
    cost innerFirst innerSize ≤ cost outerFirst outerSize

/-- Saturation included, the table of a stack is monotone in its windows. -/
theorem CostTable.window_monotone (layers : List Layer) :
    WindowCost.Monotone (CostTable.ofLayers layers).window where
  vacant := fun first => Nat.sub_self ((CostTable.ofLayers layers).below first)
  inside := by
    intro innerFirst innerSize outerFirst outerSize bottom top
    exact Nat.le_trans
      (Nat.sub_le_sub_right (CostTable.below_mono layers top) _)
      (Nat.sub_le_sub_left (CostTable.below_mono layers bottom) _)

end Scanout
