/-
Module: Scanout.Rect.Layout
Purpose: Layout rectangles with float edges and their snapping to whole pixels.
Imports: Scanout.Rect
Main exports: LayoutRect, LayoutRect.ofCorner, LayoutRect.ofSize, LayoutRect.snap, Rect.toLayout
-/
import Scanout.Rect

namespace Scanout

/-- A rectangle with float edges, as layout code produces it; it may be inside out. -/
structure LayoutRect where
  x0 : Float
  y0 : Float
  x1 : Float
  y1 : Float
deriving Repr, Inhabited

namespace LayoutRect

/-- The smaller of two floats; a number wins over NaN. -/
def lesser (a b : Float) : Float :=
  if a.isNaN then b else if b.isNaN then a else if b < a then b else a

/-- The larger of two floats; a number wins over NaN. -/
def greater (a b : Float) : Float :=
  if a.isNaN then b else if b.isNaN then a else if a < b then b else a

/-- The same rectangle with its edges in order. -/
def normalized (r : LayoutRect) : LayoutRect :=
  ⟨lesser r.x0 r.x1, lesser r.y0 r.y1, greater r.x0 r.x1, greater r.y0 r.y1⟩

/-- The rectangle of a given size with a corner at a given point, edges in order. -/
def ofCorner (x y width height : Float) : LayoutRect :=
  normalized ⟨x, y, x + width, y + height⟩

/-- The rectangle of a given size with a corner at the origin; a negative size stays negative. -/
def ofSize (width height : Float) : LayoutRect := ⟨0.0, 0.0, width, height⟩

/-- The nearest coordinate: halves move away from zero, far values stop at the ends of the
coordinate range, and NaN gives zero. -/
def snapEdge (x : Float) : Int32 := x.round.toInt32

/-- The nearest rectangle in whole pixels; its edges are in order. -/
def snap (r : LayoutRect) : Rect :=
  let ordered := r.normalized
  ⟨snapEdge ordered.x0, snapEdge ordered.y0, snapEdge ordered.x1, snapEdge ordered.y1⟩

end LayoutRect

/-- The same rectangle with float edges; every coordinate is exact. -/
def Rect.toLayout (r : Rect) : LayoutRect :=
  ⟨r.left.toFloat, r.top.toFloat, r.right.toFloat, r.bottom.toFloat⟩

end Scanout
