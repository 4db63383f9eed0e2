/-
Module: Scanout.Planner
Purpose: One planning pass: which layers of a frame get hardware planes.
Imports: Scanout.Range.Spanning, Scanout.Budget.Video, Scanout.CommitTest, Scanout.Config,
  Scanout.Trace.Event
Main exports: Planner, Selection, Planner.select, Pass, Planner.pass, Planner.passUntested,
  Planner.passTested
-/
import Scanout.Range.Spanning
import Scanout.Budget.Video
import Scanout.CommitTest
import Scanout.Config
import Scanout.Trace.Event

namespace Scanout

/-!
A pass selects one client range, asks the commit tester about it where there is one, and stamps
every layer.  A range is selected in one of three ways:

* a client-only planner takes the whole stack;
* a frame that may be flattened goes to the client target as a whole;
* otherwise the range of the layers that need the GPU is grown for the plane budget.

If the tester rejects the plan, the whole stack goes to the client target; a plan that already does
that is not tested.  A stack with an unsupported layer ends the pass at its start.
-/

/-- A planner: how it distributes layers, and which of them need the GPU.  All that outlives a pass
is in the display, so one planner can serve several displays. -/
structure Planner where
  strategy : Strategy
  classifier : Classifier

/-- The planner of some settings. -/
def Planner.ofConfig (config : Config) : Planner :=
  { strategy := config.strategy, classifier := config.rules.forcesClient }

/-- How the client range of a pass was selected. -/
inductive Selection where
  /-- The planner sends everything to the client target. -/
  | everything
  | flattened
  /-- The range `needed` has to be on the GPU; it was grown for the budget. -/
  | fitted (needed : ClientRange) (fit : BudgetFit)
deriving DecidableEq, Repr, Inhabited

namespace Selection

/-- The selected range in a stack of `layerCount` layers. -/
def client (selection : Selection) (layerCount : Nat) : ClientRange :=
  match selection with
  | everything | flattened => ClientRange.whole layerCount
  | fitted _ fit => fit.range

def isFlattened : Selection → Bool
  | flattened => true
  | _ => false

/-- Why a video reservation was given up, if it was. -/
def fallback : Selection → Option FallbackCause
  | fitted _ fit => fit.fallback
  | _ => none

def report : Selection → List (EventBody (List StampedLayer))
  | everything => []
  | flattened => [.state .flattened]
  | fitted needed fit =>
      [.state .rangeComputed, .range .mandatory needed] ++
        (fit.fallback.map EventBody.fallback).toList ++
        [.state .budgetResolved, .range .resolved fit.range]

def count (selection : Selection) (stats : Stats) : Stats :=
  let flattenings := if selection.isFlattened then stats.countFlattened else stats
  if selection.fallback.isSome then flattenings.countFallback else flattenings

end Selection

/-- What a pass leaves behind. -/
structure Pass (σ : Type) where
  result : PassResult
  display : Display
  snapshot : Snapshot
  /-- The state of the commit tester. -/
  tester : σ
  /-- What the pass reported, in order. -/
  events : List TraceEvent

namespace Planner

/-- The least client range that fits the budget, around reserved video layers if there are any. -/
def fit (snapshot : Snapshot) (video : Option DeviceRange) (needed : ClientRange) : BudgetFit :=
  let cost := (CostTable.ofLayers snapshot.layers).window
  match video with
  | some device =>
      fitAroundVideo snapshot.layerCount snapshot.usablePlanes needed device cost
  | none => { range := fitToPlanes snapshot.layerCount snapshot.usablePlanes needed cost }

def select (planner : Planner) (snapshot : Snapshot) (video : Option DeviceRange) : Selection :=
  match planner.strategy with
  | .clientOnly => .everything
  | .generic =>
      if snapshot.flattenable then .flattened
      else
        let needed := spanningRange (planner.classifier snapshot) snapshot.layers
        .fitted needed (fit snapshot video needed)

/-- Ask the tester, if there is one, about a plan that leaves some layer on a plane. -/
def consult {σ : Type} (tester : Option (CommitTester σ)) (snapshot : Snapshot)
    (client : ClientRange) (state : σ) : Option Bool × σ :=
  match tester with
  | none => (none, state)
  | some test =>
      if client.isWhole snapshot.layerCount then (none, state)
      else
        let (accepted, state) := test (snapshot.stamp client) client state
        (some accepted, state)

/-- The decisions of a stamped stack, from the bottom up. -/
def stampedLayers (layers : List Layer) : List StampedLayer :=
  layers.zipIdx.filterMap fun (layer, z) =>
    layer.decision.map fun decision => { z := Word.clamp32 z, kind := decision.kind }

/-- Attach the index of a pass to what it reports. -/
def inFrame (frame : Nat) (bodies : List (EventBody (List StampedLayer))) : List TraceEvent :=
  bodies.map fun body => { frame, body }

/-- Run one planning pass over a frame of a display. -/
def pass {σ : Type} (planner : Planner) (tester : Option (CommitTester σ))
    (video : Option DeviceRange) (display : Display) (snapshot : Snapshot) (state : σ) : Pass σ :=
  let frame := display.passes
  let begun := display.beginPass
  let layerCount := snapshot.layerCount
  let opening : List (EventBody (List StampedLayer)) :=
    [.begin
        { display := display.id
          layerCount := Word.clamp32 layerCount
          usablePlanes := Word.clamp32 snapshot.usablePlanes
          flattenable := snapshot.flattenable },
      .state .start]
  if snapshot.unsupported then
    let summary : PassSummary :=
      { display := display.id
        result := .unsupported
        client := ClientRange.empty
        layerCount := Word.clamp32 layerCount
        flattened := false
        gpuPixels := 0
        allPixels := 0 }
    { result := .unsupported
      display := begun
      snapshot
      tester := state
      events := inFrame frame (opening ++ [.summary summary]) }
  else
    let selection := planner.select snapshot video
    let selected := selection.client layerCount
    let (verdict, state) := consult tester snapshot selected state
    -- The whole stack needs no second opinion: it takes one plane.
    let client := if verdict = some false then ClientRange.whole layerCount else selected
    let stamped := snapshot.stamp client
    let cost := CostTable.ofLayers snapshot.layers
    let gpuPixels := cost.window client.start client.size
    let allPixels := cost.total
    let counted := selection.count begun.stats
    let tested := if verdict = some false then counted.countRejected else counted
    let result := if client.isEmpty then PassResult.none else PassResult.hasChanges
    let summary : PassSummary :=
      { display := display.id
        result, client
        layerCount := Word.clamp32 layerCount
        flattened := selection.isFlattened
        gpuPixels, allPixels }
    { result
      display := { begun with stats := tested.countPixels gpuPixels allPixels }
      snapshot := stamped
      tester := state
      events := inFrame frame
        (opening ++ selection.report ++ (verdict.map EventBody.commitTest).toList ++
          [.state .stamped, .decisions (stampedLayers stamped.layers), .summary summary]) }

/-- Run one planning pass without a commit test. -/
def passUntested (planner : Planner) (video : Option DeviceRange) (display : Display)
    (snapshot : Snapshot) : Pass Unit :=
  planner.pass none video display snapshot ()

/-- Run one planning pass and let a tester judge the plan. -/
def passTested {σ : Type} (planner : Planner) (tester : CommitTester σ)
    (video : Option DeviceRange) (display : Display) (snapshot : Snapshot) (state : σ) : Pass σ :=
  planner.pass (some tester) video display snapshot state

end Planner

end Scanout
