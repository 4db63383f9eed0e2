/-
Module: Scanout.Trace.Line
Purpose: Trace events as lines for readers.
Imports: Scanout.Trace.Event
Main exports: TraceEvent.line
-/
import Scanout.Trace.Event

namespace Scanout

/-- One character per stamped layer: `C` for client, `D` for any other kind. -/
def stampMarks (layers : List StampedLayer) : String :=
  String.ofList (layers.map fun layer => if layer.kind = .client then 'C' else 'D')

/-- The end of a summary line of a flattened pass. -/
def flattenedMark (flattened : Bool) : String := if flattened then " flattened" else ""

/-- The line of an event, without its end. -/
def TraceEvent.line (event : TraceEvent) : String :=
  let frame := event.frame
  match event.body with
  | .begin e =>
      s!"[begin] frame={frame} {e.display.label} layers={e.layerCount} " ++
        s!"planes={e.usablePlanes} flatten={e.flattenable}"
  | .state state => s!"[state] frame={frame} {state.label}"
  | .range stage range => s!"[range] frame={frame} {stage.label} {range.text}"
  | .fallback reason => s!"[fallback] frame={frame} reason={reason.label}"
  | .commitTest accepted =>
      s!"[commit-test] frame={frame} " ++ (if accepted then "ok" else "REJECTED")
  | .summary e =>
      s!"[summary] frame={frame} {e.display.label} result={e.result.label} " ++
        s!"client={e.client.text} layers={e.layerCount} gpu={e.gpuPixels}/{e.allPixels}" ++
        flattenedMark e.flattened
  | .decisions layers => s!"[layers] frame={frame} " ++ stampMarks layers

end Scanout
