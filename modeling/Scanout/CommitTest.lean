/-
Module: Scanout.CommitTest
Purpose: Asking the display controller whether it would accept a plan.
Imports: Scanout.Snapshot
Main exports: CommitTester, PlaneCap, PlaneCap.test, FixedVerdict, FixedVerdict.test
-/
import Scanout.Snapshot

namespace Scanout

/-- Answers whether a stamped frame with a given client range can be shown.  The tester has a state
`σ` of its own, which the question may change. -/
abbrev CommitTester (σ : Type) := Snapshot → ClientRange → σ → Bool × σ

/-- Planes that a stack takes when the layers of `client` are merged into one client target: one
for the target and the planes of each other layer. -/
def planesAround (layers : List Layer) (client : ClientRange) : Nat :=
  let outside := layers.zipIdx.filter fun (_, z) => !client.contains z
  (outside.map fun (layer, _) => layer.planeCost).foldr (· + ·) 0 +
    (if client.isEmpty then 0 else 1)

/-- A controller that drives a fixed number of planes, and how often it was asked and said no. -/
structure PlaneCap where
  planes : Nat
  tested : Nat := 0
  rejected : Nat := 0
deriving DecidableEq, Repr, Inhabited

/-- A plan is accepted if it takes no more planes than the limit. -/
def PlaneCap.test : CommitTester PlaneCap := fun snapshot client limit =>
  let accepted := planesAround snapshot.layers client ≤ limit.planes
  (accepted,
    { limit with
      tested := limit.tested + 1
      rejected := if accepted then limit.rejected else limit.rejected + 1 })

/-- A controller that gives one answer to everything, and what it was asked last. -/
structure FixedVerdict where
  accepts : Bool
  calls : Nat := 0
  last : Option ClientRange := none
deriving DecidableEq, Repr, Inhabited

/-- Every plan gets the same answer. -/
def FixedVerdict.test : CommitTester FixedVerdict := fun _ client verdict =>
  (verdict.accepts, { verdict with calls := verdict.calls + 1, last := some client })

end Scanout
