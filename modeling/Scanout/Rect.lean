/-
Module: Scanout.Rect
Purpose: Axis-aligned rectangles in whole display pixels.
Main exports: Rect, Rect.width, Rect.height, Rect.area, Rect.area_pos_iff, Rect.ofCorner
-/

namespace Scanout

/-- A rectangle given by its edges; left and top belong to it, right and bottom do not. -/
structure Rect where
  left : Int32
  top : Int32
  right : Int32
  bottom : Int32
deriving DecidableEq, Repr, Inhabited

namespace Rect

/-!
Edges are 32-bit coordinates.  A rectangle whose right edge lies left of its left edge, or whose
bottom lies above its top, is malformed: it has no extent that way and no area.
-/

def zero : Rect := ⟨0, 0, 0, 0⟩

/-- Pixels from the left edge to the right edge. -/
def width (r : Rect) : Nat := (r.right.toInt - r.left.toInt).toNat

/-- Pixels from the top edge to the bottom edge. -/
def height (r : Rect) : Nat := (r.bottom.toInt - r.top.toInt).toNat

def area (r : Rect) : Nat := r.width * r.height

/-- A rectangle covers a pixel exactly if its edges are in order and apart both ways. -/
theorem area_pos_iff {r : Rect} : 0 < r.area ↔ r.left < r.right ∧ r.top < r.bottom := by
  rw [area, Nat.pos_iff_ne_zero, Nat.mul_ne_zero_iff, width, height, Int32.lt_iff_toInt_lt,
    Int32.lt_iff_toInt_lt]
  omega

/-- The coordinate `extent` pixels after `origin`, stopping at the largest coordinate. -/
def edgeAfter (origin : Int32) (extent : Nat) : Int32 :=
  Int32.ofInt (min (origin.toInt + extent) Int32.maxValue.toInt)

/-- The rectangle with a given top-left corner and size. -/
def ofCorner (left top : Int32) (width height : Nat) : Rect :=
  { left, top, right := edgeAfter left width, bottom := edgeAfter top height }

end Rect

end Scanout
