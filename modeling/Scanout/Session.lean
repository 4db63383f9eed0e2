/-
Module: Scanout.Session
Purpose: A working session: one planner, some displays, the frame at hand and what was kept of
  earlier ones.
Imports: Scanout.Load, Scanout.Plan, Scanout.Planner, Scanout.Trace.Record
Main exports: Session, Session.new, Session.runPass, Session.renewPlan, Session.observeLoad
-/
import Scanout.Load
import Scanout.Plan
import Scanout.Planner
import Scanout.Trace.Record

namespace Scanout

/-- One character per layer: `C` for client, `D` for device, `-` for undecided. -/
def decisionMarks (layers : List Layer) : String :=
  String.ofList <| layers.map fun layer =>
    match layer.decision with
    | none => '-'
    | some .client => 'C'
    | some .device => 'D'

/-- One character per layer: whether it is composited by the hardware. -/
def alternateMarks (layers : List Layer) : String :=
  String.ofList <| layers.map fun layer => if layer.alternatePath then '1' else '0'

structure Session where
  planner : Planner
  displays : List Display
  /-- The plan that is renewed for frame after frame. -/
  plan : Plan
  snapshot : Snapshot := {}
  /-- Layers set aside, with their decisions. -/
  stash : List Layer := []
  /-- The record of every pass that was recorded. -/
  recording : List UInt8 := []
  load : LoadMeter 4 := .new 4
  /-- The counters when the load was last measured. -/
  measured : Stats := {}

namespace Session

/-- The display that stands in for one that does not exist. -/
def noDisplay : Display := .new ⟨0⟩

/-- A session with new displays and an empty frame; the plan is for the first display. -/
def new (planner : Planner) (ids : List DisplayId) : Session where
  planner
  displays := ids.map Display.new
  plan := .new (ids.headD noDisplay.id)

/-! ### Displays -/

def display (session : Session) (index : Nat) : Display := session.displays.getD index noDisplay

/-- Put a display in place of the one with a given index. -/
def setDisplay (session : Session) (index : Nat) (display : Display) : Session :=
  { session with displays := session.displays.set index display }

def updateDisplay (session : Session) (index : Nat) (change : Display → Display) : Session :=
  session.setDisplay index (change (session.display index))

/-! ### The frame at hand -/

def setSnapshot (session : Session) (snapshot : Snapshot) : Session := { session with snapshot }

def updateLayers (session : Session) (change : List Layer → List Layer) : Session :=
  session.setSnapshot { session.snapshot with layers := change session.snapshot.layers }

def updateLayer (session : Session) (z : Nat) (change : Layer → Layer) : Session :=
  session.updateLayers fun layers => layers.modify z change

def pushLayer (session : Session) (layer : Layer) : Session :=
  session.updateLayers (· ++ [layer])

def removeLayer (session : Session) (z : Nat) : Session :=
  session.updateLayers (·.eraseIdx z)

/-- Exchange two layers, with their decisions. -/
def swapLayers (session : Session) (a b : Nat) : Session :=
  session.updateLayers fun layers =>
    match layers[a]?, layers[b]? with
    | some first, some second => (layers.set a second).set b first
    | _, _ => layers

/-- Set a copy of the layers aside. -/
def stashLayers (session : Session) : Session :=
  { session with stash := session.snapshot.layers }

/-- Put the layers set aside on top. -/
def appendStash (session : Session) : Session :=
  session.updateLayers (· ++ session.stash)

/-! ### Work on the frame -/

/-- Let a display judge whether the frame may be flattened. -/
def prepare (session : Session) (index : Nat) : Session :=
  let (display, snapshot) := (session.display index).prepare session.snapshot
  (session.setDisplay index display).setSnapshot snapshot

/-- Run a planning pass on a display. -/
def runPass {σ : Type} (session : Session) (index : Nat) (tester : Option (CommitTester σ))
    (video : Option DeviceRange) (state : σ) : Pass σ × Session :=
  let pass := session.planner.pass tester video (session.display index) session.snapshot state
  (pass, (session.setDisplay index pass.display).setSnapshot pass.snapshot)

/-- Append the events of a pass to the recording. -/
def record (session : Session) (events : List TraceEvent) : Session :=
  { session with recording := session.recording ++ Record.encodeAll events }

def renewPlan (session : Session) : Except PlanFault Unit × Session :=
  let (outcome, plan) := session.plan.renew session.snapshot
  (outcome, { session with plan })

/-- Take what a display counted since the last measurement as one sample of the load. -/
def observeLoad (session : Session) (index : Nat) : FrameLoad × LoadReading × Session :=
  let stats := (session.display index).stats
  let sample := FrameLoad.ofStats (stats.since session.measured)
  let (reading, load) := session.load.observe sample
  (sample, reading, { session with load, measured := stats })

end Session

end Scanout
