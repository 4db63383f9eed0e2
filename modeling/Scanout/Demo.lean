/-
Module: Scanout.Demo
Purpose: A media player shown for two seconds, planned frame by frame, with all diagnostics.
Imports: Scanout.Audit, Scanout.Load, Scanout.Plan, Scanout.Planner, Scanout.Stack,
  Scanout.Trace.Line, Scanout.Trace.Timeline
Main exports: Demo.Scene, Demo.Output, Demo.run, Demo.complaint
-/
import Scanout.Audit
import Scanout.Load
import Scanout.Plan
import Scanout.Planner
import Scanout.Stack
import Scanout.Trace.Line
import Scanout.Trace.Timeline

namespace Scanout.Demo

def frameCount : Nat := 120

/-- Microseconds per frame, at sixty frames per second. -/
def frameInterval : Float := 16666.7

/-- Planes that the display advertises. -/
def usablePlanes : Nat := 6

/-- Planes that the controller drives while the keyboard is shown. -/
def planesWithKeyboard : Nat := 4

/-- Frames over which the load is averaged, and between two load lines. -/
def loadWindow : Nat := 30

def defaultDriver : String := "msm"

/-- Name of the file that holds the timeline. -/
def timelineFile : String := "plan_trace.json"

/-! ### What is shown -/

/-- What is on the screen in one frame. -/
structure Scene where
  /-- Lower edge of the notification, if there is one. -/
  toast : Option Float
  keyboard : Bool
  video : Bool
  cursorX : Float
  cursorY : Float
deriving Repr, Inhabited

namespace Scene

/-- The scene of a frame.  The notification slides in and then rests, and the cursor moves in the
first frames only, so that later frames are equal. -/
def ofFrame (frame : Nat) : Scene where
  toast :=
    if 20 ≤ frame ∧ frame < 80 then some (Word.toFloat (min (frame - 20) 30) * 8.0) else none
  keyboard := 60 ≤ frame ∧ frame < 90
  video := frame < 100
  cursorX := Word.toFloat (min frame 40) * 20.0
  cursorY := 300.0

def stack (scene : Scene) : StackDraft :=
  let background := (StackDraft.new 1920.0 1080.0).fullscreen
  let picture : LayoutRect := ⟨160.0, 90.0, 1760.0, 990.0⟩
  let playing := if scene.video then (background.video picture).video picture else background
  let controls := playing.layer ⟨0.0, 980.0, 1920.0, 1080.0⟩
  let notified :=
    match scene.toast with
    | none => controls
    | some edge => controls.layer ⟨1520.0, edge - 120.0, 1900.0, edge⟩
  let typing := if scene.keyboard then notified.scaled ⟨0.0, 640.0, 1920.0, 1080.0⟩ else notified
  typing.layer (.ofCorner scene.cursorX scene.cursorY 32.0 32.0)

end Scene

/-! ### Frame by frame -/

/-- What is kept from frame to frame, and the lines written so far. -/
structure State where
  display : Display := .new ⟨0⟩
  plan : Plan := .new ⟨0⟩
  load : LoadMeter loadWindow := .new loadWindow
  recording : List UInt8 := []
  lines : Array String := #[]

def planLine (outcome : Except PlanFault Unit) (plan : Plan) : String :=
  match outcome with
  | .error problem => s!"  plan: {problem.message}"
  | .ok () =>
      let client :=
        match plan.clientRange with
        | none => "None"
        | some range => s!"Some({range.text})"
      s!"  plan: {plan.items.length} items, {plan.planeCount} planes, client {client}"

def loadLine (reading : LoadReading) (sparkline : String) : String :=
  s!"  load: grade={reading.grade.label} mean=" ++ Decimal.fixed 1 reading.meanShare ++
    "% degraded=" ++ Decimal.fixed 0 reading.degradedPer1000 ++ "/1000 [" ++ sparkline ++ "]"

/-- Plan one frame and report on it. -/
def showFrame (planner : Planner) (state : State) (frame : Nat) : State :=
  let scene := Scene.ofFrame frame
  let (prepared, snapshot) := state.display.prepare (scene.stack.snapshot usablePlanes)
  let video := DeviceRange.ofVideo snapshot.layers
  let limit : PlaneCap :=
    { planes := if scene.keyboard then planesWithKeyboard else usablePlanes }
  let pass := planner.passTested PlaneCap.test video prepared snapshot limit
  let traced :=
    { state with
      display := pass.display
      recording := state.recording ++ Record.encodeAll pass.events
      lines := state.lines ++ pass.events.map TraceEvent.line }
  if pass.result = .unsupported then traced
  else
    let broken := violations pass.snapshot planner.classifier
    let (outcome, plan) := state.plan.renew pass.snapshot
    let sample := FrameLoad.ofStats (pass.display.stats.since prepared.stats)
    let (reading, load) := state.load.observe sample
    let summary :=
      broken.map (fun violation => s!"  ! {violation.message}") ++ [planLine outcome plan] ++
        (if (frame + 1) % loadWindow = 0 then [loadLine reading load.sparkline] else [])
    { traced with plan, load, lines := traced.lines ++ summary }

/-- What the demonstration leaves behind. -/
structure Output where
  /-- The lines about the run. -/
  report : List String
  /-- The text of the timeline file. -/
  timeline : String
  /-- The line that says the timeline file was written. -/
  closing : String
deriving Repr, Inhabited

/-- Run the demonstration for a driver, with another strategy if one is named. -/
def run (driver strategy : Option String) : Except UnknownStrategy Output :=
  let driver := driver.getD defaultDriver
  match Config.forDriver driver strategy with
  | .error problem => .error problem
  | .ok config =>
      let opening := s!"driver={driver} strategy={config.strategy.name}"
      let final := (List.range frameCount).foldl (showFrame (Planner.ofConfig config)) {}
      .ok
        { report := opening :: final.lines.toList ++ final.display.stats.lines
          timeline := Timeline.ofRecording frameInterval final.recording
          closing := s!"Wrote {timelineFile} ({frameCount} frames)" }

/-- What is said about a strategy that does not exist. -/
def complaint (problem : UnknownStrategy) : String := s!"bad strategy: {problem.message}"

end Scanout.Demo
