/-
Module: Scanout.Proofs.Checked.Cost
Purpose: Areas, cost tables and the scan for marked layers stay within machine words, for frames
  with any edges and stacks of any size.
Imports: Scanout.Range.Spanning, Scanout.Proofs.Cost, Scanout.Proofs.Checked.Word
Main exports: Rect.areaChecked_eq, CheckedCost, Reads, CostTable.ofLayersChecked_eq,
  CostTable.windowChecked_reads, spanningRangeChecked_eq
-/
import Scanout.Range.Spanning
import Scanout.Proofs.Cost
import Scanout.Proofs.Checked.Word

namespace Scanout

/-! ### Areas -/

namespace Rect

/-- Pixels between two edges; none if they are out of order. -/
def extentChecked (low high : Int32) : Checked Nat :=
  return (← Checked.subSigned high.toInt low.toInt).toNat

def areaChecked (r : Rect) : Checked Nat := do
  Checked.mul (← extentChecked r.left r.right) (← extentChecked r.top r.bottom)

/-- Edges of 32 bits are at most a 32-bit word apart. -/
theorem extent_le_max32 (low high : Int32) : (high.toInt - low.toInt).toNat ≤ Word.max32 := by
  have lowest := low.le_toInt
  have highest := high.toInt_lt
  have limit : Word.max32 = 2 ^ 32 - 1 := rfl
  omega

theorem extentChecked_eq (low high : Int32) :
    extentChecked low high = .ok (high.toInt - low.toInt).toNat := by
  have lowBounds := And.intro low.le_toInt low.toInt_lt
  have highBounds := And.intro high.le_toInt high.toInt_lt
  have difference : Checked.subSigned high.toInt low.toInt = .ok (high.toInt - low.toInt) := by
    apply if_pos
    rw [Int64.toInt_minValue, Int64.toInt_maxValue]
    omega
  simp [extentChecked, difference]

/-- The area of a rectangle is a word whatever its edges are. -/
theorem area_le_max64 (r : Rect) : r.area ≤ Word.max64 := by
  calc r.area ≤ Word.max32 * Word.max32 :=
        Nat.mul_le_mul (extent_le_max32 r.left r.right) (extent_le_max32 r.top r.bottom)
    _ ≤ Word.max64 := by decide

theorem areaChecked_eq (r : Rect) : r.areaChecked = .ok r.area := by
  simp only [areaChecked, extentChecked_eq, Checked.ok_bind]
  exact Checked.mul_of_le r.area_le_max64

end Rect

/-! ### Cost tables -/

/-- Cost of the window with a given first layer and size, looked up with checks. -/
abbrev CheckedCost := (first size : Nat) → Checked Nat

/-- Every look-up succeeds, and what it finds is a word. -/
structure Reads (read : CheckedCost) (cost : WindowCost) : Prop where
  exactly : ∀ first size, read first size = .ok (cost first size)
  bounded : ∀ first size, cost first size ≤ Word.max64

/-- Running sums stop at the largest word, so only areas can fail. -/
def runningSumsChecked (total : Nat) : List Layer → Checked (List Nat)
  | [] => return [total]
  | layer :: layers => do
      let pixels ← layer.frame.areaChecked
      return total :: (← runningSumsChecked (Word.satAdd total pixels) layers)

theorem runningSumsChecked_eq (total : Nat) (layers : List Layer) :
    runningSumsChecked total layers = .ok (runningSums total (layers.map Layer.pixels)) := by
  induction layers generalizing total with
  | nil => rfl
  | cons layer layers inductionHypothesis =>
      simp [runningSumsChecked, runningSums, Rect.areaChecked_eq, inductionHypothesis,
        Layer.pixels]

namespace CostTable

/-- The table has one entry more than the stack has layers. -/
def ofLayersChecked (layers : List Layer) : Checked CostTable := do
  let _capacity ← Checked.add layers.length 1
  return ⟨(← runningSumsChecked 0 layers).toArray⟩

/-- A window is cut off at the top of the stack before its sums are looked up. -/
def windowChecked (cost : CostTable) (first size : Nat) : Checked Nat := do
  let start := min first cost.layerCount
  let stop := min (Word.satAdd first size) cost.layerCount
  Checked.sub (← Checked.entry cost.sums stop) (← Checked.entry cost.sums start)

theorem ofLayersChecked_eq {layers : List Layer} (small : layers.length < Word.max64) :
    ofLayersChecked layers = .ok (ofLayers layers) := by
  have room : layers.length + 1 ≤ Word.max64 := small
  simp [ofLayersChecked, Checked.add_of_le room, runningSumsChecked_eq, ofLayers]

/-- The table has an entry for every position that a window is cut off at. -/
theorem entry_ofLayers (layers : List Layer) (count : Nat) :
    Checked.entry (ofLayers layers).sums (min count (ofLayers layers).layerCount) =
      .ok ((ofLayers layers).below count) := by
  have inTable : min count layers.length < (ofLayers layers).sums.size := by
    simp only [ofLayers, List.size_toArray, length_runningSums, List.length_map]
    omega
  apply Checked.entry_of_getElem?
  rw [below, layerCount_ofLayers, Array.getD_eq_getD_getElem?, Array.getElem?_eq_getElem inTable,
    Option.getD_some]

theorem windowChecked_eq {layers : List Layer} (small : layers.length < Word.max64)
    (first size : Nat) :
    (ofLayers layers).windowChecked first size = .ok ((ofLayers layers).window first size) := by
  -- Cutting the end off at the largest word first makes no difference.
  have stop : min (Word.satAdd first size) (ofLayers layers).layerCount =
      min (first + size) (ofLayers layers).layerCount := by
    rw [layerCount_ofLayers, Word.satAdd]
    omega
  simp only [windowChecked, stop, entry_ofLayers, Checked.ok_bind]
  exact Checked.sub_of_le (below_mono layers (Nat.le_add_right first size))

theorem window_le_max64 (layers : List Layer) (first size : Nat) :
    (ofLayers layers).window first size ≤ Word.max64 := by
  calc (ofLayers layers).window first size
      ≤ (ofLayers layers).below (first + size) := Nat.sub_le _ _
    _ = min (stackPixels (layers.take (first + size))) Word.max64 := below_ofLayers layers _
    _ ≤ Word.max64 := Nat.min_le_right _ _

/-- The table of a stack can be read at any window. -/
theorem windowChecked_reads {layers : List Layer} (small : layers.length < Word.max64) :
    Reads (ofLayers layers).windowChecked (ofLayers layers).window where
  exactly := windowChecked_eq small
  bounded := window_le_max64 layers

end CostTable

/-! ### The scan for marked layers -/

/-- The lowest and the highest marked layer among those seen and `layers`, the first of which has
position `z`. -/
def markedEnds (marked : Layer → Bool) :
    (ends : Option (Nat × Nat)) → (z : Nat) → List Layer → Option (Nat × Nat)
  | ends, _, [] => ends
  | ends, z, layer :: layers =>
      let next := if marked layer then some ((ends.map Prod.fst).getD z, z) else ends
      markedEnds marked next (z + 1) layers

def spanningRangeChecked (marked : Layer → Bool) (layers : List Layer) : Checked ClientRange :=
  match markedEnds marked none 0 layers with
  | none => return ClientRange.empty
  | some (lowest, highest) => do ClientRange.ofBoundsChecked lowest (← Checked.add highest 1)

/-- The range between two marked layers. -/
def rangeBetween : Option (Nat × Nat) → ClientRange
  | none => ClientRange.empty
  | some (lowest, highest) => ClientRange.ofBounds lowest (highest + 1)

/-- The ends are in order and below position `z`. -/
def EndsBelow (z : Nat) : Option (Nat × Nat) → Prop
  | none => True
  | some (lowest, highest) => lowest ≤ highest ∧ highest < z

/-- A further marked layer moves the upper end, or is both ends if it is the first one. -/
theorem rangeBetween_extended {ends : Option (Nat × Nat)} {z : Nat} (inOrder : EndsBelow z ends) :
    (if (rangeBetween ends).isEmpty then ClientRange.ofSpan z 1
        else ClientRange.ofBounds (rangeBetween ends).start (z + 1)) =
      rangeBetween (some ((ends.map Prod.fst).getD z, z)) := by
  cases ends with
  | none => simp [rangeBetween, ClientRange.isEmpty, ClientRange.empty, ClientRange.ofBounds]
  | some pair =>
      obtain ⟨lowest, highest⟩ := pair
      have occupied : rangeBetween (some (lowest, highest)) =
          ⟨lowest, highest + 1 - lowest⟩ :=
        ClientRange.ofBounds_of_lt (Nat.lt_succ_of_le inOrder.1)
      have present : ¬ (rangeBetween (some (lowest, highest))).isEmpty = true := by
        rw [ClientRange.not_isEmpty_iff, occupied]
        exact Nat.sub_ne_zero_of_lt (Nat.lt_succ_of_le inOrder.1)
      rw [if_neg present, occupied]
      rfl

/-- The scan that carries the ends finds what the scan that carries the range finds. -/
theorem extendByMarked_rangeBetween (marked : Layer → Bool) (layers : List Layer) :
    ∀ (ends : Option (Nat × Nat)) (z : Nat), EndsBelow z ends →
      EndsBelow (z + layers.length) (markedEnds marked ends z layers) ∧
        extendByMarked marked (rangeBetween ends) z layers =
          rangeBetween (markedEnds marked ends z layers) := by
  induction layers with
  | nil => exact fun ends z inOrder => ⟨inOrder, rfl⟩
  | cons layer layers inductionHypothesis =>
      intro ends z inOrder
      have above : z + (layer :: layers).length = z + 1 + layers.length := by
        rw [List.length_cons]
        omega
      rw [extendByMarked, markedEnds, above]
      by_cases isMarked : marked layer = true
      · simp only [if_pos isMarked, rangeBetween_extended inOrder]
        apply inductionHypothesis
        cases ends with
        | none => exact ⟨Nat.le_refl z, Nat.lt_succ_self z⟩
        | some pair => exact ⟨Nat.le_trans inOrder.1 (Nat.le_of_lt inOrder.2), Nat.lt_succ_self z⟩
      · simp only [if_neg isMarked]
        apply inductionHypothesis
        cases ends with
        | none => trivial
        | some pair => exact ⟨inOrder.1, Nat.lt_succ_of_lt inOrder.2⟩

theorem spanningRangeChecked_eq (marked : Layer → Bool) {layers : List Layer}
    (small : layers.length < Word.max64) :
    spanningRangeChecked marked layers = .ok (spanningRange marked layers) := by
  obtain ⟨inOrder, scanned⟩ := extendByMarked_rangeBetween marked layers none 0 trivial
  have spanning : spanningRange marked layers = rangeBetween (markedEnds marked none 0 layers) :=
    scanned
  rw [spanningRangeChecked, spanning]
  cases found : markedEnds marked none 0 layers with
  | none => rfl
  | some ends =>
      rw [found] at inOrder
      obtain ⟨ordered, inStack⟩ := inOrder
      have room : ends.2 + 1 ≤ Word.max64 := by omega
      simp only [Checked.add_of_le room, Checked.ok_bind]
      exact ClientRange.ofBoundsChecked_eq (Nat.le_succ_of_le ordered)

end Scanout
