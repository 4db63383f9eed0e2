/-
Module: Scanout.Proofs.Checked.DirectSum
Purpose: What a window costs in the table of running sums and what its layers add up to: both follow
  from the exact pixel sums below the two ends of the window, and where these fit a word they agree.
Imports: Scanout.Proofs.Checked.Cost
Main exports: Rect.ExactArea, windowPixelsChecked, satSum_eq, windowPixels_eq, CostTable.window_eq,
  cutDifference_eq_iff
-/
import Scanout.Proofs.Checked.Cost

namespace Scanout

/-! ### Areas of rectangles with any edges -/

/-- The area of a rectangle is computed without a fault, is never more than a square of the widest
extent, and is the product of the distances of its edges, or zero if some edges are out of order. -/
structure Rect.ExactArea (r : Rect) : Prop where
  computed : r.areaChecked = .ok r.area
  bounded : r.area ≤ Word.max32 * Word.max32
  inOrder : r.left.toInt ≤ r.right.toInt → r.top.toInt ≤ r.bottom.toInt →
    (r.area : Int) = (r.right.toInt - r.left.toInt) * (r.bottom.toInt - r.top.toInt)
  malformed : r.right.toInt < r.left.toInt ∨ r.bottom.toInt < r.top.toInt → r.area = 0

theorem Rect.exactArea (r : Rect) : r.ExactArea where
  computed := r.areaChecked_eq
  bounded := Nat.mul_le_mul (extent_le_max32 r.left r.right) (extent_le_max32 r.top r.bottom)
  inOrder := by
    intro across down
    rw [area, Int.natCast_mul, width, height, Int.toNat_of_nonneg (Int.sub_nonneg.mpr across),
      Int.toNat_of_nonneg (Int.sub_nonneg.mpr down)]
  malformed := by
    intro disordered
    rw [area, Nat.mul_eq_zero, width, height]
    omega

/-! ### Adding up the layers of a window -/

/-- Add the areas of some layers to a total. -/
def addPixelsChecked (total : Nat) : List Layer → Checked Nat
  | [] => return total
  | layer :: layers => do
      let pixels ← layer.frame.areaChecked
      addPixelsChecked (Word.satAdd total pixels) layers

/-- The layers from position `start` up to position `stop`; the positions have to be in order and
within the stack. -/
def sliceChecked (layers : List Layer) (start stop : Nat) : Checked (List Layer) :=
  if start ≤ stop ∧ stop ≤ layers.length then .ok ((layers.drop start).take (stop - start))
  else .error .outOfBounds

/-- A window is cut off at the top of the stack before its layers are added up. -/
def windowPixelsChecked (layers : List Layer) (first size : Nat) : Checked Nat := do
  let start := min first layers.length
  let stop := min (Word.satAdd first size) layers.length
  addPixelsChecked 0 (← sliceChecked layers start stop)

theorem addPixelsChecked_eq (total : Nat) (layers : List Layer) :
    addPixelsChecked total layers = .ok ((layers.map Layer.pixels).foldl Word.satAdd total) := by
  induction layers generalizing total with
  | nil => rfl
  | cons layer layers inductionHypothesis =>
      simp only [addPixelsChecked, Rect.areaChecked_eq, Checked.ok_bind, inductionHypothesis,
        List.map_cons, List.foldl_cons]
      rfl

/-- The layers between the two cut ends of a window are those of the window. -/
theorem slice_eq_window (layers : List Layer) (first size : Nat) :
    (layers.drop (min first layers.length)).take
        (min (first + size) layers.length - min first layers.length) =
      (layers.drop first).take size := by
  apply List.ext_getElem?
  intro i
  by_cases inWindow : i < size ∧ first + i < layers.length
  · rw [List.getElem?_take_of_lt (by omega), List.getElem?_take_of_lt inWindow.1,
      List.getElem?_drop, List.getElem?_drop, Nat.min_eq_left (by omega)]
  · rw [List.getElem?_eq_none, List.getElem?_eq_none] <;>
      simp only [List.length_take, List.length_drop] <;> omega

theorem windowPixelsChecked_eq {layers : List Layer} (small : layers.length < Word.max64)
    (first size : Nat) :
    windowPixelsChecked layers first size = .ok (windowPixels layers first size) := by
  -- Cutting the end off at the largest word first makes no difference.
  have stop : min (Word.satAdd first size) layers.length = min (first + size) layers.length := by
    rw [Word.satAdd]
    omega
  have inOrder : min first layers.length ≤ min (first + size) layers.length := by omega
  simp only [windowPixelsChecked, stop, sliceChecked, inOrder, Nat.min_le_right, and_self, if_true,
    Checked.ok_bind, addPixelsChecked_eq, slice_eq_window]
  rfl

/-! ### Both costs from the exact sums -/

/-- A sum that stops at the largest word is the exact sum, cut off there once. -/
theorem foldl_satAdd_eq {total : Nat} (costs : List Nat) (bounded : total ≤ Word.max64) :
    costs.foldl Word.satAdd total = min (total + costs.foldr (· + ·) 0) Word.max64 := by
  induction costs generalizing total with
  | nil => exact (Nat.min_eq_left bounded).symm
  | cons cost costs inductionHypothesis =>
      rw [List.foldl_cons, inductionHypothesis (Word.satAdd_le_max64 total cost), List.foldr_cons,
        Word.satAdd]
      omega

theorem satSum_eq (costs : List Nat) :
    satSum costs = min (costs.foldr (· + ·) 0) Word.max64 := by
  rw [satSum, foldl_satAdd_eq costs (Nat.zero_le _), Nat.zero_add]

/-- The layers below the end of a window are those below its start and those in it. -/
theorem stackPixels_take_add (layers : List Layer) (first size : Nat) :
    stackPixels (layers.take (first + size)) =
      stackPixels (layers.take first) + stackPixels ((layers.drop first).take size) := by
  induction layers generalizing first with
  | nil => simp [stackPixels]
  | cons layer layers inductionHypothesis =>
      cases first with
      | zero => simp [stackPixels]
      | succ first =>
          have rest := inductionHypothesis first
          rw [Nat.add_right_comm]
          simp only [stackPixels, List.take_succ_cons, List.drop_succ_cons, List.map_cons,
            List.foldr_cons] at rest ⊢
          omega

/-- A count past the top of the stack stands for all of its layers. -/
theorem stackPixels_take_min (layers : List Layer) (count : Nat) :
    stackPixels (layers.take (min count layers.length)) = stackPixels (layers.take count) := by
  rw [← List.take_eq_take_min]

/-- The layers of a window add up to the difference of the exact sums below its ends, cut off at the
largest word. -/
theorem windowPixels_eq (layers : List Layer) (first size : Nat) :
    windowPixels layers first size =
      min (stackPixels (layers.take (first + size)) - stackPixels (layers.take first))
        Word.max64 := by
  rw [windowPixels, satSum_eq, stackPixels_take_add, Nat.add_sub_cancel_left]
  rfl

/-- In the table the exact sums are cut off before the difference is taken. -/
theorem CostTable.window_eq (layers : List Layer) (first size : Nat) :
    (ofLayers layers).window first size =
      min (stackPixels (layers.take (first + size))) Word.max64 -
        min (stackPixels (layers.take first)) Word.max64 := by
  rw [window, below_ofLayers, below_ofLayers]

/-- Cutting off before or after taking a difference is the same exactly if nothing is cut off before
it, or nothing is taken away, or nothing is left. -/
theorem cutDifference_eq_iff {low high : Nat} (inOrder : low ≤ high) :
    min high Word.max64 - min low Word.max64 = min (high - low) Word.max64 ↔
      high ≤ Word.max64 ∨ low = 0 ∨ low = high := by
  have positive : 0 < Word.max64 := by decide
  omega

/-! ### The two costs of a window -/

/-- The exact sums below the two cut ends of a window decide what it costs in the table and what its
layers add up to, wherever the window starts and however long it is.  The table never charges more,
and charges the same exactly if the upper sum fits a word, the lower one is zero, or both are the
same.  Neither computation underflows, overflows or reads outside the stack, and the areas that they
add are exact whatever the edges of the rectangles are. -/
theorem CostTable.costs_from_exact_sums (layers : List Layer) (first size : Nat) :
    let low := stackPixels (layers.take (min first layers.length))
    let high := stackPixels (layers.take (min (first + size) layers.length))
    let cost := ofLayers layers
    low ≤ high ∧
      cost.window first size = min high Word.max64 - min low Word.max64 ∧
      windowPixels layers first size = min (high - low) Word.max64 ∧
      cost.window first size ≤ windowPixels layers first size ∧
      (cost.window first size = windowPixels layers first size ↔
        high ≤ Word.max64 ∨ low = 0 ∨ low = high) ∧
      (layers.length < Word.max64 →
        ofLayersChecked layers = .ok cost ∧
          cost.windowChecked first size = .ok (cost.window first size) ∧
          windowPixelsChecked layers first size = .ok (windowPixels layers first size)) ∧
      (∀ r : Rect, r.ExactArea) ∧ ∃ r : Rect, r.area = Word.max32 * Word.max32 := by
  intro low high cost
  have inOrder : low ≤ high := stackPixels_take_mono layers (by omega)
  have lookedUp : cost.window first size = min high Word.max64 - min low Word.max64 := by
    rw [window_eq, ← stackPixels_take_min layers first,
      ← stackPixels_take_min layers (first + size)]
  have summed : windowPixels layers first size = min (high - low) Word.max64 := by
    rw [windowPixels_eq, ← stackPixels_take_min layers first,
      ← stackPixels_take_min layers (first + size)]
  refine ⟨inOrder, lookedUp, summed, ?cheaper, ?agree, ?checked, Rect.exactArea, ?widest⟩
  case cheaper =>
    rw [lookedUp, summed]
    omega
  case agree =>
    rw [lookedUp, summed]
    exact cutDifference_eq_iff inOrder
  case checked =>
    intro small
    exact ⟨ofLayersChecked_eq small, windowChecked_eq small first size,
      windowPixelsChecked_eq small first size⟩
  case widest =>
    exact ⟨⟨Int32.minValue, Int32.minValue, Int32.maxValue, Int32.maxValue⟩, by decide⟩

/-- Five layers, the middle three so wide that the sums are cut off above the second of them, the
top one malformed.  From layer 1 on, up to an end past the largest word, the table charges ten
pixels less than the layers add up to; from the bottom on, where nothing is taken away, the costs
agree. -/
theorem CostTable.costs_from_exact_sums_past_full_table :
    let wide : Layer :=
      { frame := ⟨Int32.minValue, Int32.minValue, Int32.maxValue, Int32.maxValue⟩ }
    let layers : List Layer :=
      [{ frame := ⟨0, 0, 10, 1⟩ }, wide, wide, wide, { frame := ⟨20, 1, 0, 0⟩ }]
    let cost := ofLayers layers
    layers.length < Word.max64 ∧
      cost.windowChecked 1 Word.max64 = .ok (Word.max64 - 10) ∧
      windowPixelsChecked layers 1 Word.max64 = .ok Word.max64 ∧
      cost.window 1 Word.max64 ≠ windowPixels layers 1 Word.max64 ∧
      cost.window 0 Word.max64 = windowPixels layers 0 Word.max64 := by
  intro wide layers cost
  have small : layers.length < Word.max64 := by decide
  obtain ⟨_, lookedUp, summed, _, agree, checked, _⟩ :=
    costs_from_exact_sums layers 1 Word.max64
  obtain ⟨_, _, _, _, agreeBelow, _⟩ := costs_from_exact_sums layers 0 Word.max64
  obtain ⟨_, windowOk, sumOk⟩ := checked small
  refine ⟨small, ?_, ?_, ?_, agreeBelow.mpr (by decide)⟩
  · rw [windowOk, lookedUp]
    exact congrArg Except.ok (by decide)
  · rw [sumOk, summed]
    exact congrArg Except.ok (by decide)
  · rw [Ne, agree]
    decide

end Scanout
