/-
Module: Scanout.Proofs.Run.Fleet
Purpose: Passes on several displays in any order, all traced into one recording, and the timeline of
  that recording: one slice for each pass, in the order of the passes.
Imports: Scanout.Proofs.Checked.Cost, Scanout.Proofs.Run.Blocks, Scanout.Proofs.Trace.Slices
Main exports: PlannedPass, FleetRun, Display.Fits, FleetRun.fits, PassReport.shape,
  PlannedPass.Exported, PlannedPass.exported_entriesFrom, exists_exported,
  FleetRun.timeline_bracketed
-/
import Scanout.Proofs.Checked.Cost
import Scanout.Proofs.Run.Blocks
import Scanout.Proofs.Trace.Slices

namespace Scanout

/-! ### Fleets -/

/-- A pass, with the display as it stands when the pass begins. -/
structure PlannedPass where
  display : Display
  request : PassRequest
  {σ : Type}
  tester : Option (CommitTester σ)
  state : σ

def PlannedPass.run (pass : PlannedPass) : Pass pass.σ :=
  pass.request.passOn pass.display pass.tester pass.state

/-- Displays reached from those in `start` by passes, each by any planner over any frame of one of
them and with or without a tester.  Between the passes displays may look at frames.  The passes are
kept in order. -/
inductive FleetRun (start : List Display) : List PlannedPass → List Display → Prop where
  | refl : FleetRun start [] start
  | prepare {passes : List PlannedPass} {displays : List Display} {display : Display}
      (before : FleetRun start passes displays) (position : Nat)
      (shown : displays[position]? = some display) (snapshot : Snapshot) :
      FleetRun start passes (displays.set position (display.prepare snapshot).1)
  | pass {passes : List PlannedPass} {displays : List Display}
      (before : FleetRun start passes displays) (position : Nat) (pass : PlannedPass)
      (shown : displays[position]? = some pass.display) :
      FleetRun start (passes ++ [pass]) (displays.set position pass.run.display)

/-- The number of the display has 32 bits, its pass counter 64. -/
def Display.Fits (display : Display) : Prop :=
  display.id.number < UInt32.size ∧ display.passes < UInt64.size

/-- A full pass counter stays full. -/
theorem PlannedPass.fits_run {pass : PlannedPass} (fits : pass.display.Fits) :
    pass.run.display.Fits := by
  rw [Display.Fits, run, PassRequest.id_passOn, PassRequest.passes_passOn]
  exact ⟨fits.1, Nat.lt_of_le_of_lt (Word.satAdd_le_max64 _ _) (by decide)⟩

/-- A fleet keeps its displays within their words, also when their passes begin. -/
theorem FleetRun.fits {start displays : List Display} {passes : List PlannedPass}
    (run : FleetRun start passes displays) (fit : ∀ display ∈ start, display.Fits) :
    (∀ display ∈ displays, display.Fits) ∧ ∀ pass ∈ passes, pass.display.Fits := by
  induction run with
  | refl =>
      refine ⟨fit, ?_⟩
      intro pass impossible
      cases impossible
  | prepare _ position shown snapshot inductionHypothesis =>
      obtain ⟨displaysFit, passesFit⟩ := inductionHypothesis
      have shownFits := displaysFit _ (List.mem_of_getElem? shown)
      refine ⟨?_, passesFit⟩
      intro display member
      rcases List.mem_or_eq_of_mem_set member with old | rfl
      · exact displaysFit display old
      · exact shownFits
  | pass _ position pass shown inductionHypothesis =>
      obtain ⟨displaysFit, passesFit⟩ := inductionHypothesis
      have passFits := displaysFit _ (List.mem_of_getElem? shown)
      constructor
      · intro display member
        rcases List.mem_or_eq_of_mem_set member with old | rfl
        · exact displaysFit display old
        · exact PlannedPass.fits_run passFits
      · intro other member
        rcases List.mem_append.mp member with earlier | last
        · exact passesFit other earlier
        · rw [List.mem_singleton.mp last]
          exact passFits

/-! ### What one pass reports -/

theorem ClientRange.fits_of_stop_le {range : ClientRange} {layerCount : Nat}
    (within : range.stop ≤ layerCount) (bounded : layerCount < UInt64.size) : range.Fits :=
  ⟨Nat.lt_of_le_of_lt (Nat.le_trans (Nat.le_add_right _ _) within) bounded,
    Nat.lt_of_le_of_lt (Nat.le_trans (Nat.le_add_left _ _) within) bounded⟩

section Reports

variable {id : DisplayId} {planner : Planner} {snapshot : Snapshot}

/-- Selecting a range begins and ends nothing, and its numbers fit. -/
theorem SelectionReport.inner_and_fits {selection : List TraceBody} {flattened : Bool}
    {selected : ClientRange}
    (selects : SelectionReport planner snapshot selection flattened selected)
    (bounded : snapshot.layerCount < UInt64.size) :
    selected.stop ≤ snapshot.layerCount ∧ ∀ body ∈ selection, body.Inner ∧ body.Fits := by
  cases selects with
  | clientOnly _ => exact ⟨Nat.le_of_eq (ClientRange.stop_whole _), by simp⟩
  | flattened _ _ =>
      exact ⟨Nat.le_of_eq (ClientRange.stop_whole _),
        List.forall_mem_singleton.mpr ⟨⟨rfl, rfl⟩, trivial⟩⟩
  | fitted _ _ cause resolved within _ =>
      have mandatoryFits := ClientRange.fits_of_stop_le (planner.stop_needed_le snapshot) bounded
      have resolvedFits := ClientRange.fits_of_stop_le within bounded
      refine ⟨within, ?_⟩
      cases cause <;>
        simp [EventBody.Inner, EventBody.isBegin, EventBody.summary?, EventBody.Fits,
          mandatoryFits, resolvedFits]

theorem Planner.fits_conclusion (display : id.number < UInt32.size) (flattened : Bool)
    {client : ClientRange} (within : client.stop ≤ snapshot.layerCount)
    (bounded : snapshot.layerCount < UInt64.size) :
    (EventBody.summary (Planner.conclusion id snapshot flattened client) : TraceBody).Fits := by
  have gpuPixels := CostTable.window_le_max64 snapshot.layers client.start client.size
  have allPixels : (CostTable.ofLayers snapshot.layers).total ≤ Word.max64 := by
    rw [CostTable.total, CostTable.below_ofLayers]
    exact Nat.min_le_right _ _
  exact ⟨display, ClientRange.fits_of_stop_le within bounded, Record.clamp32_lt _,
    Nat.lt_of_le_of_lt gpuPixels (by decide), Nat.lt_of_le_of_lt allPixels (by decide)⟩

/-- A pass begins with its opening and ends with its summary, both of them about its display, and
has neither in between.  Every number that it reports has the width of its field. -/
theorem PassReport.shape {bodies : List TraceBody}
    (report : PassReport id planner snapshot bodies) (display : id.number < UInt32.size)
    (bounded : snapshot.layerCount < UInt64.size) :
    ∃ opening inside closing, bodies = .begin opening :: (inside ++ [.summary closing]) ∧
      opening.display = id ∧ closing.display = id ∧
      (EventBody.begin opening : TraceBody).Fits ∧ (EventBody.summary closing : TraceBody).Fits ∧
      ∀ body ∈ inside, body.Inner ∧ body.Fits := by
  let opening : PassBegin :=
    { display := id
      layerCount := Word.clamp32 snapshot.layerCount
      usablePlanes := Word.clamp32 snapshot.usablePlanes
      flattenable := snapshot.flattenable }
  have openingFits : (EventBody.begin opening : TraceBody).Fits :=
    ⟨display, Record.clamp32_lt _, Record.clamp32_lt _⟩
  cases report with
  | refused _ =>
      have zeroFits : 0 < UInt64.size := by decide
      refine ⟨opening, [.state .start], Planner.refusal id snapshot, rfl, rfl, rfl, openingFits,
        ⟨display, ⟨zeroFits, zeroFits⟩, Record.clamp32_lt _, zeroFits, zeroFits⟩, ?_⟩
      exact List.forall_mem_singleton.mpr ⟨⟨rfl, rfl⟩, trivial⟩
  | @planned _ selection flattened selected client selects verdict _ settled =>
      obtain ⟨within, selectionInside⟩ := selects.inner_and_fits bounded
      have clientWithin : client.stop ≤ snapshot.layerCount := by
        rw [settled]
        split
        · exact Nat.le_of_eq (ClientRange.stop_whole _)
        · exact within
      refine ⟨opening, .state .start :: (selection ++ (verdict.map EventBody.commitTest).toList ++
        [.state .stamped, .decisions (client.stampedKinds snapshot.layerCount)]),
        Planner.conclusion id snapshot flattened client, ?_, rfl, rfl, openingFits,
        Planner.fits_conclusion display flattened clientWithin bounded, ?_⟩
      · simp [Planner.opening, opening]
      · intro body member
        rcases List.mem_cons.mp member with rfl | later
        · exact ⟨⟨rfl, rfl⟩, trivial⟩
        rcases List.mem_append.mp later with early | stamped
        · rcases List.mem_append.mp early with selecting | testing
          · exact selectionInside body selecting
          · obtain ⟨accepted, _, rfl⟩ := Option.map_eq_some_iff.mp (Option.mem_toList.mp testing)
            exact ⟨⟨rfl, rfl⟩, trivial⟩
        · rcases List.mem_cons.mp stamped with rfl | last
          · exact ⟨⟨rfl, rfl⟩, trivial⟩
          · rw [List.mem_singleton.mp last]
            exact ⟨⟨rfl, rfl⟩, trivial⟩

end Reports

/-! ### What one pass looks like on the timeline -/

namespace PlannedPass

/-- Every number of the pass has the width of its machine word. -/
structure Fits (pass : PlannedPass) : Prop where
  display : pass.display.Fits
  layers : pass.request.snapshot.layerCount < UInt64.size

/-- The entries are those of the events that the pass reported, and they are a slice on the track of
its display and under its index. -/
structure Exported (pass : PlannedPass) (block : List Timeline.Entry) : Prop where
  entries : ∃ state,
    block = Timeline.entriesFrom state (pass.run.events.map TraceEvent.canonical)
  slice : Timeline.Slice pass.display.id.number pass.display.passes block

variable {pass : PlannedPass}

/-- The events of a pass: its beginning, its end, and what is in between. -/
theorem exists_shape (fits : pass.Fits) :
    ∃ opening inside closing,
      pass.run.events = Planner.inFrame pass.display.passes
        (.begin opening :: (inside ++ [.summary closing])) ∧
      opening.display = pass.display.id ∧ closing.display = pass.display.id ∧
      (EventBody.begin opening : TraceBody).Fits ∧ (EventBody.summary closing : TraceBody).Fits ∧
      ∀ body ∈ inside, body.Inner ∧ body.Fits := by
  obtain ⟨bodies, reported, report⟩ :=
    pass.request.exists_passReport pass.display pass.tester pass.state
  obtain ⟨opening, inside, closing, rfl, shape⟩ := report.shape fits.display.1 fits.layers
  exact ⟨opening, inside, closing, reported, shape⟩

/-- What a pass reports can be recorded in full. -/
theorem fits_of_mem_events (fits : pass.Fits) : ∀ event ∈ pass.run.events, event.Fits := by
  obtain ⟨opening, inside, closing, events, _, _, openingFits, closingFits, insideFits⟩ :=
    exists_shape fits
  rw [events]
  intro event member
  obtain ⟨body, present, rfl⟩ := List.mem_map.mp member
  refine ⟨fits.display.2, ?_⟩
  rcases List.mem_cons.mp present with rfl | later
  · exact openingFits
  rcases List.mem_append.mp later with inner | last
  · exact (insideFits body inner).2
  · rw [List.mem_singleton.mp last]
    exact closingFits

/-- A pass is a slice, wherever the export stands when the pass begins. -/
theorem exported_entriesFrom (fits : pass.Fits) (state : Timeline.State) :
    pass.Exported (Timeline.entriesFrom state (pass.run.events.map TraceEvent.canonical)) := by
  obtain ⟨opening, inside, closing, events, opens, closes, _, _, insideFits⟩ := exists_shape fits
  refine ⟨⟨state, rfl⟩, ?_⟩
  have canonical : pass.run.events.map TraceEvent.canonical =
      ⟨pass.display.passes, .begin opening⟩ ::
        ((Planner.inFrame pass.display.passes inside).map TraceEvent.canonical ++
          [⟨pass.display.passes,
            .summary { closing with client := closing.client.canonical }⟩]) := by
    rw [events, Planner.inFrame, List.map_cons, List.map_append, List.map_cons, List.map_append]
    rfl
  have canonicalCloses :
      ({ closing with client := closing.client.canonical } : PassSummary).display =
        pass.display.id := closes
  rw [canonical]
  refine Timeline.slice_entriesFrom opens canonicalCloses ?inner ?sameFrame state
  case inner =>
    intro event member
    obtain ⟨reportedEvent, present, rfl⟩ := List.mem_map.mp member
    obtain ⟨body, among, rfl⟩ := List.mem_map.mp present
    exact TraceEvent.inner_canonical (insideFits body among).1
  case sameFrame =>
    intro event member
    obtain ⟨reportedEvent, present, rfl⟩ := List.mem_map.mp member
    exact frame_of_mem_inFrame present

end PlannedPass

/-! ### Recordings of several passes -/

/-- Passes that are traced one after the other are exported one after the other.  The export may
start anywhere, since every pass brings its own track with it. -/
theorem exists_exported {passes : List PlannedPass} (fit : ∀ pass ∈ passes, pass.Fits)
    (state : Timeline.State) :
    ∃ blocks : List (List Timeline.Entry),
      Timeline.entriesFrom state
          ((passes.flatMap fun pass => pass.run.events).map TraceEvent.canonical) =
        blocks.flatten ∧
      blocks.length = passes.length ∧
      ∀ (k : Nat) (pass : PlannedPass) (block : List Timeline.Entry),
        passes[k]? = some pass → blocks[k]? = some block → pass.Exported block := by
  induction passes generalizing state with
  | nil =>
      refine ⟨[], rfl, rfl, ?_⟩
      intro k pass block planned
      cases planned
  | cons first passes inductionHypothesis =>
      obtain ⟨firstFits, othersFit⟩ := List.forall_mem_cons.mp fit
      have firstExported := PlannedPass.exported_entriesFrom firstFits state
      obtain ⟨blocks, entries, sameLength, exported⟩ := inductionHypothesis othersFit
        (Timeline.stateAfter state (first.run.events.map TraceEvent.canonical))
      refine ⟨Timeline.entriesFrom state (first.run.events.map TraceEvent.canonical) :: blocks, ?_,
        congrArg (· + 1) sameLength, ?_⟩
      · rw [List.flatMap_cons, List.map_append, Timeline.entriesFrom_append, entries,
          List.flatten_cons]
      · intro k pass block planned shown
        cases k with
        | zero =>
            cases planned
            cases shown
            exact firstExported
        | succ k => exact exported k pass block planned shown

/-- The timeline of a fleet's recording is bracketed.  It has one slice for each pass, in the order
of the passes, on the track of the display of the pass and under the index of the pass; in the slice
there is one entry for each event that the pass reported, in the order of the events.  So beginnings
and ends take turns, and all else lies between the beginning and the end of its own pass. -/
theorem FleetRun.timeline_bracketed {start displays : List Display} {passes : List PlannedPass}
    (run : FleetRun start passes displays) (fit : ∀ display ∈ start, display.Fits)
    (bounded : ∀ pass ∈ passes, pass.request.snapshot.layerCount < UInt64.size)
    (interval : Float) :
    let events := passes.flatMap fun pass => pass.run.events
    let entries := Timeline.entries interval (Record.encodeAll events)
    entries.length = events.length ∧
      (∀ (i : Nat) (event : TraceEvent) (shown : Timeline.Entry), events[i]? = some event →
        entries[i]? = some shown → Timeline.Shows (TraceEvent.canonical event) shown) ∧
      (entries.map Timeline.Entry.phase).filter (· ≠ .instant) =
        (List.replicate passes.length [Timeline.Phase.begin, .finish]).flatten ∧
      ∃ blocks : List (List Timeline.Entry), entries = blocks.flatten ∧
        blocks.length = passes.length ∧
        ∀ (k : Nat) (pass : PlannedPass) (block : List Timeline.Entry),
          passes[k]? = some pass → blocks[k]? = some block → pass.Exported block := by
  intro events entries
  have passesFit : ∀ pass ∈ passes, pass.Fits := fun pass member =>
    ⟨(run.fits fit).2 pass member, bounded pass member⟩
  have eventsFit : ∀ event ∈ events, event.Fits := by
    intro event member
    obtain ⟨pass, present, reported⟩ := List.mem_flatMap.mp member
    exact PlannedPass.fits_of_mem_events (passesFit pass present) event reported
  obtain ⟨blocks, flattened, sameLength, exported⟩ :=
    exists_exported passesFit { clock := { interval } }
  have written : entries =
      Timeline.entriesFrom { clock := { interval } } (events.map TraceEvent.canonical) := by
    rw [← Record.decode_encodeAll eventsFit]
    rfl
  refine ⟨?length, ?shows, ?turns, blocks, written.trans flattened, sameLength, exported⟩
  case length => rw [written, Timeline.length_entriesFrom, List.length_map]
  case shows =>
    intro i event shown recorded placed
    rw [written] at placed
    refine Timeline.shows_entriesFrom ?_ placed
    rw [List.getElem?_map, recorded, Option.map_some]
  case turns =>
    rw [written.trans flattened, ← sameLength]
    apply Timeline.filter_phases_of_slices
    intro block member
    obtain ⟨k, inside, rfl⟩ := List.mem_iff_getElem.mp member
    have planned : k < passes.length := sameLength ▸ inside
    exact ⟨_, _, (exported k passes[k] blocks[k] (List.getElem?_eq_getElem planned)
      (List.getElem?_eq_getElem inside)).slice⟩

/-- Two displays that take turns and use the same indices: the first and the second pass are both
the one with index 0. -/
theorem FleetRun.timeline_bracketed_of_two_displays :
    let request : PassRequest := ⟨.ofConfig {}, none, .ofLayers [{ frame := ⟨0, 0, 4, 4⟩ }] 2⟩
    let passOf (display : Display) : PlannedPass :=
      { display, request, tester := (none : Option (CommitTester Unit)), state := () }
    let first := passOf (.new ⟨7⟩)
    let passes := [first, passOf (.new ⟨9⟩), passOf first.run.display]
    let recording := Record.encodeAll (passes.flatMap fun pass => pass.run.events)
    (∃ displays, FleetRun [.new ⟨7⟩, .new ⟨9⟩] passes displays) ∧
      (∀ display ∈ [Display.new ⟨7⟩, .new ⟨9⟩], display.Fits) ∧
      (∀ pass ∈ passes, pass.request.snapshot.layerCount < UInt64.size) ∧
      ((Timeline.entries 1000.0 recording).map Timeline.Entry.phase).filter (· ≠ .instant) =
        [.begin, .finish, .begin, .finish, .begin, .finish] := by
  intro request passOf first passes recording
  have run : FleetRun [.new ⟨7⟩, .new ⟨9⟩] passes _ :=
    ((FleetRun.refl.pass 0 first rfl).pass 1 (passOf (.new ⟨9⟩)) rfl).pass 0
      (passOf first.run.display) rfl
  have fit : ∀ display ∈ [Display.new ⟨7⟩, .new ⟨9⟩], display.Fits :=
    List.forall_mem_cons.mpr ⟨⟨by decide, by decide⟩,
      List.forall_mem_singleton.mpr ⟨by decide, by decide⟩⟩
  have bounded : ∀ pass ∈ passes, pass.request.snapshot.layerCount < UInt64.size := by
    have small : request.snapshot.layerCount < UInt64.size := by decide
    exact List.forall_mem_cons.mpr ⟨small, List.forall_mem_cons.mpr ⟨small,
      List.forall_mem_singleton.mpr small⟩⟩
  exact ⟨⟨_, run⟩, fit, bounded, (run.timeline_bracketed fit bounded 1000.0).2.2.1⟩

end Scanout
