/-
Module: Scanout.Trace.Timeline
Purpose: Recordings as timelines in the trace event format of trace viewers.
Imports: Scanout.Decimal.Shortest, Scanout.Trace.Record
Main exports: Timeline.Entry, Timeline.entries, Timeline.render, Timeline.ofRecording
-/
import Scanout.Decimal.Shortest
import Scanout.Trace.Record

namespace Scanout.Timeline

/-!
Every pass is a slice: it begins with the first event of the pass, ends with its summary, and the
events between them are instants.  Events carry no time of their own, so a pass is placed at its
index times the frame interval, and its events one microsecond apart.
-/

/-- Role of an entry on the timeline. -/
inductive Phase where
  | begin
  | instant
  | finish
deriving DecidableEq, Repr, Inhabited

def Phase.code : Phase → String
  | begin => "B"
  | instant => "i"
  | finish => "E"

/-- How much of the timeline an instant is drawn across. -/
inductive Scope where
  | thread
  | process
deriving DecidableEq, Repr, Inhabited

def Scope.code : Scope → String
  | thread => "t"
  | process => "p"

inductive Argument where
  | number (n : Nat)
  | flag (b : Bool)
  | label (text : String)
deriving DecidableEq, Repr, Inhabited

structure Entry where
  phase : Phase
  name : String
  category : String
  /-- Microseconds from the start of the timeline. -/
  time : Float
  /-- The track: the number of the display. -/
  process : Nat
  /-- Drawn extent; slices have none. -/
  scope : Option Scope
  /-- Arguments in alphabetical order of their names. -/
  arguments : List (String × Argument)
deriving Repr, Inhabited

/-! ### Time -/

/-- Time inside the pass that is being shown. -/
structure Clock where
  interval : Float
  frame : Nat := 0
  offset : Float := 0.0
deriving Repr, Inhabited

namespace Clock

def base (clock : Clock) : Float := Word.toFloat clock.frame * clock.interval

def begin (clock : Clock) (frame : Nat) : Clock := { clock with frame, offset := 0.0 }

/-- Move one microsecond on, first to the start of the event's pass if it is another one. -/
def step (clock : Clock) (frame : Nat) : Clock :=
  let inPass := if frame = clock.frame then clock else clock.begin frame
  { inPass with offset := inPass.offset + 1.0 }

def now (clock : Clock) : Float := clock.base + clock.offset

end Clock

/-! ### Entries -/

/-- Where the export of a recording stands. -/
structure State where
  clock : Clock
  /-- The display of the pass that began last. -/
  process : Nat := 0
deriving Repr, Inhabited

/-- The entry of an event inside a pass: one microsecond on, on the track of the pass that began
last. -/
def instant (state : State) (frame : Nat) (name category : String) (scope : Scope)
    (arguments : List (String × Argument)) : Entry × State :=
  let clock := state.clock.step frame
  ({ phase := .instant
     name, category
     time := clock.now
     process := state.process
     scope := some scope
     arguments },
    { state with clock })

/-- The entry of one event, and where the export stands after it. -/
def entry (state : State) (event : CountedEvent) : Entry × State :=
  let frame := event.frame
  match event.body with
  | .begin e =>
      let clock := state.clock.begin frame
      let process := e.display.number
      ({ phase := .begin
         name := "Plan"
         category := "Planner"
         time := clock.base
         process
         scope := none
         arguments :=
           [("flattening_eligible", .flag e.flattenable), ("frame_index", .number frame),
             ("layer_count", .number e.layerCount), ("usable_planes", .number e.usablePlanes)] },
        { clock, process })
  | .state stage =>
      instant state frame stage.name "State" .thread [("frame_index", .number frame)]
  | .range stage range =>
      instant state frame (stage.name ++ "Range") "Range" .thread
        [("frame_index", .number frame), ("size", .number range.size),
          ("start", .number range.start)]
  | .fallback reason =>
      instant state frame "Fallback" "Range" .process
        [("frame_index", .number frame), ("reason", .label reason.label)]
  | .commitTest accepted =>
      instant state frame "CommitTest" "Backend" .thread
        [("accepted", .flag accepted), ("frame_index", .number frame)]
  | .decisions counts =>
      instant state frame "LayerDecisions" "Rich" .thread
        [("client", .number counts.client), ("device", .number counts.device),
          ("frame_index", .number frame)]
  | .summary e =>
      let clock := state.clock.step frame
      ({ phase := .finish
         name := "Plan"
         category := "Planner"
         time := clock.now
         process := e.display.number
         scope := none
         arguments :=
           [("client_size", .number e.client.size), ("client_start", .number e.client.start),
             ("flattened", .flag e.flattened), ("frame_index", .number frame),
             ("gpu_pixel_ops", .number e.gpuPixels), ("layer_count", .number e.layerCount),
             ("result", .label e.result.label), ("total_pixel_ops", .number e.allPixels)] },
        { state with clock })

/-- The entries of some events, from a given state on. -/
def entriesFrom (state : State) : List CountedEvent → List Entry
  | [] => []
  | event :: events => (entry state event).1 :: entriesFrom (entry state event).2 events

def entries (interval : Float) (recording : List UInt8) : List Entry :=
  entriesFrom { clock := { interval } } (Record.decode recording)

/-! ### Text -/

/-- Times have at least one place and are written positionally from `0.00001` up to sixteen digits
before the point. -/
def timeLayout : Decimal.Layout where
  leastPositional := -5
  mostPositional := 15

/-- A text in quotes; the texts of timelines have no character that needs an escape. -/
def quoted (text : String) : String := "\"" ++ text ++ "\""

/-- A time; one that is not finite is unknown. -/
def timeText (time : Float) : String := (timeLayout.text? time).getD "null"

def Argument.text : Argument → String
  | number n => toString n
  | flag b => toString b
  | label text => quoted text

/-- Lines of the members of an object, each but the last with a comma after it. -/
def memberLines (indent : String) : List (String × String) → List String
  | [] => []
  | [(key, value)] => [indent ++ quoted key ++ ": " ++ value]
  | (key, value) :: members =>
      (indent ++ quoted key ++ ": " ++ value ++ ",") :: memberLines indent members

/-- Lines of the members of an entry, in alphabetical order of their keys. -/
def Entry.lines (entry : Entry) : List String :=
  let arguments := entry.arguments.map fun (key, argument) => (key, argument.text)
  let scope :=
    match entry.scope with
    | none => []
    | some scope => [("s", quoted scope.code)]
  ["    \"args\": \x7b"] ++ memberLines "      " arguments ++ ["    \x7d,"] ++
    memberLines "    "
      ([("cat", quoted entry.category), ("name", quoted entry.name),
          ("ph", quoted entry.phase.code), ("pid", toString entry.process)] ++ scope ++
        [("tid", "0"), ("ts", timeText entry.time)])

/-- Lines of the entries of a timeline, each in braces. -/
def entryLines : List Entry → List String
  | [] => []
  | [entry] => "  \x7b" :: entry.lines ++ ["  \x7d"]
  | entry :: entries => "  \x7b" :: entry.lines ++ "  \x7d," :: entryLines entries

def lines (entries : List Entry) : List String :=
  if entries.isEmpty then ["[]"] else "[" :: entryLines entries ++ ["]"]

/-- The text of a timeline, with no end of line after the last line. -/
def render (entries : List Entry) : String := String.intercalate "\n" (lines entries)

/-- The timeline of a recording as text. -/
def ofRecording (interval : Float) (recording : List UInt8) : String :=
  render (entries interval recording)

end Scanout.Timeline
