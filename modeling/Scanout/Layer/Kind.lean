/-
Module: Scanout.Layer.Kind
Purpose: The ways in which a layer can be composited.
Main exports: Kind, Kind.planeCapable, Kind.unsupported, Kind.index
-/

namespace Scanout

/-- How a layer is, or should be, composited. -/
inductive Kind where
  /-- Not classified yet. -/
  | invalid
  /-- Merged into the client target by the GPU. -/
  | client
  /-- Scanned out by a hardware plane of its own. -/
  | device
  /-- A solid fill by the display controller. -/
  | solidColor
  /-- Content of the cursor plane. -/
  | cursor
  /-- Content streamed from a sideband source. -/
  | sideband
  /-- Decoration of the display itself, such as corner masks. -/
  | displayDecoration
deriving DecidableEq, Repr, Inhabited

namespace Kind

/-- Kinds that a hardware plane can take. -/
def planeCapable : Kind → Bool
  | device | cursor => true
  | _ => false

/-- Kinds that no plan can be made around. -/
def unsupported : Kind → Bool
  | displayDecoration => true
  | _ => false

/-- Position in the order of declaration. -/
def index : Kind → Nat
  | invalid => 0
  | client => 1
  | device => 2
  | solidColor => 3
  | cursor => 4
  | sideband => 5
  | displayDecoration => 6

theorem index_injective {a b : Kind} (same : a.index = b.index) : a = b := by
  cases a <;> cases b <;> simp_all [index]

end Kind

end Scanout
