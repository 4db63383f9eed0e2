/-
Module: Scanout.Trace.Event
Purpose: What a planning pass reports while it runs.
Imports: Scanout.Budget.Fit, Scanout.Display
Main exports: PassResult, PassState, RangeRole, PassBegin, PassSummary, EventBody, Event,
  TraceEvent, CountedEvent
-/
import Scanout.Budget.Fit
import Scanout.Display

namespace Scanout

/-- The outcome of a pass for its caller. -/
inductive PassResult where
  /-- Every layer is on a plane. -/
  | none
  /-- Some layer goes to the client target. -/
  | hasChanges
  /-- The stack holds a layer that no plan can be made around. -/
  | unsupported
deriving DecidableEq, Repr, Inhabited

namespace PassResult

def label : PassResult → String
  | none => "none"
  | hasChanges => "has-changes"
  | unsupported => "unsupported"

def name : PassResult → String
  | none => "None"
  | hasChanges => "HasChanges"
  | unsupported => "Unsupported"

def all : List PassResult := [none, hasChanges, unsupported]

end PassResult

/-- Stages that a pass goes through. -/
inductive PassState where
  /-- The frame has arrived. -/
  | start
  /-- The whole stack goes to the client target. -/
  | flattened
  /-- The range that needs the GPU is known. -/
  | rangeComputed
  /-- The client range fits the plane budget. -/
  | budgetResolved
  /-- Every layer carries its decision. -/
  | stamped
deriving DecidableEq, Repr, Inhabited

namespace PassState

def label : PassState → String
  | start => "start"
  | flattened => "flattened"
  | rangeComputed => "range-computed"
  | budgetResolved => "budget-resolved"
  | stamped => "stamped"

def name : PassState → String
  | start => "Start"
  | flattened => "Flattened"
  | rangeComputed => "RangeComputed"
  | budgetResolved => "BudgetResolved"
  | stamped => "Stamped"

def all : List PassState := [start, flattened, rangeComputed, budgetResolved, stamped]

end PassState

/-- Which of the two ranges of a pass is reported. -/
inductive RangeRole where
  /-- The range that needs the GPU. -/
  | mandatory
  /-- That range grown for the budget. -/
  | resolved
deriving DecidableEq, Repr, Inhabited

namespace RangeRole

def label : RangeRole → String
  | mandatory => "mandatory"
  | resolved => "resolved"

def name : RangeRole → String
  | mandatory => "Mandatory"
  | resolved => "Resolved"

def all : List RangeRole := [mandatory, resolved]

end RangeRole

/-- What is known when a pass begins. -/
structure PassBegin where
  display : DisplayId
  layerCount : Nat
  usablePlanes : Nat
  flattenable : Bool
deriving DecidableEq, Repr, Inhabited

/-- What is known when a pass ends. -/
structure PassSummary where
  display : DisplayId
  result : PassResult
  client : ClientRange
  layerCount : Nat
  flattened : Bool
  gpuPixels : Nat
  allPixels : Nat
deriving DecidableEq, Repr, Inhabited

/-- The kind that a layer was stamped with. -/
structure StampedLayer where
  z : Nat
  kind : Kind
deriving DecidableEq, Repr, Inhabited

/-- How many layers were stamped client, and how many otherwise. -/
structure DecisionCounts where
  client : Nat
  device : Nat
deriving DecidableEq, Repr, Inhabited

/-- One report of a pass; `δ` is what is reported about the layers' decisions. -/
inductive EventBody (δ : Type) where
  | begin (begin : PassBegin)
  | state (state : PassState)
  | range (stage : RangeRole) (range : ClientRange)
  | fallback (reason : FallbackCause)
  | commitTest (accepted : Bool)
  | summary (summary : PassSummary)
  | decisions (decisions : δ)
deriving DecidableEq, Repr, Inhabited

/-- A report together with the index of its pass. -/
structure Event (δ : Type) where
  frame : Nat
  body : EventBody δ
deriving DecidableEq, Repr, Inhabited

/-- An event as a pass reports it, with the decision about every layer. -/
abbrev TraceEvent := Event (List StampedLayer)

/-- An event as a recording keeps it, with the decisions only counted. -/
abbrev CountedEvent := Event DecisionCounts

end Scanout
