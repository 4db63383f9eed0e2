/-
Module: Scanout.Proofs.Trace.Tally
Purpose: The counters that a trace stands for, counted from its events without any bound.
Imports: Scanout.Trace.Event
Main exports: summaries, Stats.ofTrace, beginnings, Stats.plus, Stats.ofTrace_append,
  Stats.flattened_ofTrace_pos_iff, Stats.fallbacks_ofTrace_pos_iff,
  Stats.rejectedPlans_ofTrace_pos_iff
-/
import Scanout.Trace.Event

namespace Scanout

section Kinds

variable {δ : Type}

/-- The summary that a report is, if it is one. -/
def EventBody.summary? : EventBody δ → Option PassSummary
  | .summary outcome => some outcome
  | _ => none

def EventBody.isBegin : EventBody δ → Bool
  | .begin _ => true
  | _ => false

def EventBody.isFallback : EventBody δ → Bool
  | .fallback _ => true
  | _ => false

/-- Whether a report says that the tester rejected a plan. -/
def EventBody.isRejection : EventBody δ → Bool
  | .commitTest accepted => !accepted
  | _ => false

theorem EventBody.isFallback_iff {body : EventBody δ} :
    body.isFallback = true ↔ ∃ cause, body = .fallback cause := by
  cases body <;> simp [isFallback]

theorem EventBody.isRejection_iff {body : EventBody δ} :
    body.isRejection = true ↔ body = .commitTest false := by
  cases body <;> simp [isRejection]

end Kinds

/-- The pass summaries among some events, in order. -/
def summaries (events : List TraceEvent) : List PassSummary :=
  events.filterMap fun event => event.body.summary?

/-- How many passes begin in a trace. -/
def beginnings (events : List TraceEvent) : Nat := events.countP fun event => event.body.isBegin

namespace Stats

/-- The counters with the exact values that a trace gives them. -/
def ofTrace (events : List TraceEvent) : Stats where
  frames := (summaries events).countP fun outcome => outcome.result ≠ .unsupported
  flattened := (summaries events).countP fun outcome => outcome.flattened
  gpuPixels := ((summaries events).map fun outcome => outcome.gpuPixels).foldr (· + ·) 0
  allPixels := ((summaries events).map fun outcome => outcome.allPixels).foldr (· + ·) 0
  rejectedPlans := events.countP fun event => event.body.isRejection
  fallbacks := events.countP fun event => event.body.isFallback

/-- Counter by counter, the sum of two records. -/
def plus (first second : Stats) : Stats where
  frames := first.frames + second.frames
  flattened := first.flattened + second.flattened
  gpuPixels := first.gpuPixels + second.gpuPixels
  allPixels := first.allPixels + second.allPixels
  rejectedPlans := first.rejectedPlans + second.rejectedPlans
  fallbacks := first.fallbacks + second.fallbacks

/-! ### What a positive counter says -/

section Positive

variable {events : List TraceEvent}

theorem flattened_ofTrace_pos_iff :
    0 < (ofTrace events).flattened ↔ ∃ outcome ∈ summaries events, outcome.flattened = true :=
  List.countP_pos_iff

theorem fallbacks_ofTrace_pos_iff :
    0 < (ofTrace events).fallbacks ↔ ∃ event ∈ events, ∃ cause, event.body = .fallback cause := by
  simp [ofTrace, List.countP_pos_iff, EventBody.isFallback_iff]

theorem rejectedPlans_ofTrace_pos_iff :
    0 < (ofTrace events).rejectedPlans ↔ ∃ event ∈ events, event.body = .commitTest false := by
  simp [ofTrace, List.countP_pos_iff, EventBody.isRejection_iff]

end Positive

end Stats

/-! ### Traces laid end to end -/

section Append

variable (events others : List TraceEvent)

@[simp] theorem summaries_append :
    summaries (events ++ others) = summaries events ++ summaries others :=
  List.filterMap_append

theorem Stats.ofTrace_append :
    Stats.ofTrace (events ++ others) = (Stats.ofTrace events).plus (Stats.ofTrace others) := by
  simp only [Stats.ofTrace, summaries_append, List.countP_append, List.map_append,
    ← List.sum_eq_foldr, List.sum_append]
  rfl

theorem beginnings_append :
    beginnings (events ++ others) = beginnings events + beginnings others :=
  List.countP_append

end Append

end Scanout
