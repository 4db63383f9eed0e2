/-
Module: Scanout.Range.Client
Purpose: The contiguous run of layers that is merged into the client target.
Main exports: ClientRange, ClientRange.ofSpan, ClientRange.ofBounds, ClientRange.whole,
  ClientRange.contains, ClientRange.covers, ClientRange.text
-/

namespace Scanout

/-- The layers `start`, `start + 1`, … , `size` of them, counted from the bottom of the stack. -/
structure ClientRange where
  start : Nat
  size : Nat
deriving DecidableEq, Repr, Inhabited

namespace ClientRange

/-!
A range of size zero means that nothing is composited by the GPU.  The constructors below store it
with start zero, so that equal sets of layers are equal ranges.
-/

/-- No layer at all. -/
def empty : ClientRange := ⟨0, 0⟩

/-- The range of `size` layers from `start` on. -/
def ofSpan (start size : Nat) : ClientRange := if size = 0 then empty else ⟨start, size⟩

/-- The range from layer `start` up to, not including, layer `stop`. -/
def ofBounds (start stop : Nat) : ClientRange := ofSpan start (stop - start)

/-- The range of a whole stack. -/
def whole (layerCount : Nat) : ClientRange := ofSpan 0 layerCount

/-- The first position after the range. -/
def stop (range : ClientRange) : Nat := range.start + range.size

/-- Whether the range has no layer. -/
def isEmpty (range : ClientRange) : Bool := range.size == 0

/-- Whether the range has layer `z`. -/
def contains (range : ClientRange) (z : Nat) : Bool := range.start ≤ z && z < range.stop

/-- Whether the range is a stack of `layerCount` layers. -/
def isWhole (range : ClientRange) (layerCount : Nat) : Bool :=
  range.start == 0 && range.size == layerCount

/-- Whether every layer of `other` is in the range. -/
def covers (range other : ClientRange) : Bool :=
  other.isEmpty || (range.start ≤ other.start && other.stop ≤ range.stop)

/-- The range as traces and reports write it. -/
def text (range : ClientRange) : String :=
  if range.isEmpty then "ClientRange(empty)" else s!"ClientRange({range.start}..{range.stop})"

@[simp] theorem ofSpan_zero (start : Nat) : ofSpan start 0 = empty := rfl

theorem ofSpan_of_pos (start : Nat) {size : Nat} (positive : 0 < size) :
    ofSpan start size = ⟨start, size⟩ := if_neg (Nat.ne_of_gt positive)

@[simp] theorem size_ofSpan (start size : Nat) : (ofSpan start size).size = size := by
  cases size <;> rfl

@[simp] theorem size_whole (layerCount : Nat) : (whole layerCount).size = layerCount :=
  size_ofSpan 0 layerCount

@[simp] theorem start_whole (layerCount : Nat) : (whole layerCount).start = 0 := by
  cases layerCount <;> rfl

theorem contains_iff {range : ClientRange} {z : Nat} :
    range.contains z = true ↔ range.start ≤ z ∧ z < range.start + range.size := by
  simp only [contains, Bool.and_eq_true, decide_eq_true_eq]
  rfl

theorem contains_ofSpan_iff {start size z : Nat} :
    (ofSpan start size).contains z = true ↔ start ≤ z ∧ z < start + size := by
  cases size with
  | zero => simp only [contains_iff, ofSpan_zero, empty]; omega
  | succ size => simp [contains_iff, ofSpan]

end ClientRange

end Scanout
