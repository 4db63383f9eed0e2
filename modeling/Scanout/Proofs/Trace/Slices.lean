/-
Module: Scanout.Proofs.Trace.Slices
Purpose: Timelines event by event: every event has one entry, and the events of one pass make up one
  slice, wherever the export stands when the pass begins.
Imports: Scanout.Proofs.Trace.RoundTrip, Scanout.Proofs.Trace.Tally, Scanout.Trace.Timeline
Main exports: EventBody.Inner, Timeline.stateAfter, Timeline.Shows, Timeline.Slice,
  Timeline.entriesFrom_append, Timeline.shows_entriesFrom, Timeline.slice_entriesFrom,
  Timeline.filter_phases_of_slices
-/
import Scanout.Proofs.Trace.RoundTrip
import Scanout.Proofs.Trace.Tally
import Scanout.Trace.Timeline

namespace Scanout

/-- The report neither begins nor ends a pass. -/
def EventBody.Inner {δ : Type} (body : EventBody δ) : Prop :=
  body.isBegin = false ∧ body.summary? = none

theorem TraceEvent.inner_canonical {event : TraceEvent} (inner : event.body.Inner) :
    (TraceEvent.canonical event).body.Inner := by
  obtain ⟨frame, body⟩ := event
  cases body with
  | begin opening => cases inner.1
  | summary outcome => cases inner.2
  | state state => exact ⟨rfl, rfl⟩
  | range stage client => exact ⟨rfl, rfl⟩
  | fallback reason => exact ⟨rfl, rfl⟩
  | commitTest accepted => exact ⟨rfl, rfl⟩
  | decisions layers => exact ⟨rfl, rfl⟩

namespace Timeline

/-- Where the export stands after some events. -/
def stateAfter (state : State) (events : List CountedEvent) : State :=
  events.foldl (fun state event => (entry state event).2) state

/-- The entry is that of the event, wherever the export stood. -/
def Shows (event : CountedEvent) (shown : Entry) : Prop :=
  ∃ state, shown = (entry state event).1

/-- The entries are a slice: its beginning, then instants, and then its end, all of them on the
track `process` and in the pass with index `frame`. -/
structure Slice (process frame : Nat) (entries : List Entry) : Prop where
  bounded : ∃ opening instants closing, entries = opening :: (instants ++ [closing]) ∧
    opening.phase = .begin ∧ (∀ shown ∈ instants, shown.phase = .instant) ∧
    closing.phase = .finish
  onTrack : ∀ shown ∈ entries, shown.process = process
  inPass : ∀ shown ∈ entries, shown.arguments.lookup "frame_index" = some (.number frame)

/-! ### One event -/

/-- Every entry names the index of its pass. -/
theorem lookup_frame_index (state : State) (event : CountedEvent) :
    (entry state event).1.arguments.lookup "frame_index" = some (.number event.frame) := by
  obtain ⟨frame, body⟩ := event
  cases body <;> rfl

/-- What neither begins nor ends a pass is an instant on the track of the pass that began last, and
leaves the export on that track. -/
theorem entry_of_inner (state : State) {event : CountedEvent} (inner : event.body.Inner) :
    (entry state event).1.phase = .instant ∧ (entry state event).1.process = state.process ∧
      (entry state event).2.process = state.process := by
  obtain ⟨frame, body⟩ := event
  cases body with
  | begin opening => cases inner.1
  | summary outcome => cases inner.2
  | state stage => exact ⟨rfl, rfl, rfl⟩
  | range stage client => exact ⟨rfl, rfl, rfl⟩
  | fallback reason => exact ⟨rfl, rfl, rfl⟩
  | commitTest accepted => exact ⟨rfl, rfl, rfl⟩
  | decisions counts => exact ⟨rfl, rfl, rfl⟩

/-! ### Events in order -/

theorem entriesFrom_append (state : State) (events others : List CountedEvent) :
    entriesFrom state (events ++ others) =
      entriesFrom state events ++ entriesFrom (stateAfter state events) others := by
  induction events generalizing state with
  | nil => rfl
  | cons event events inductionHypothesis =>
      exact congrArg ((entry state event).1 :: ·) (inductionHypothesis (entry state event).2)

theorem length_entriesFrom (state : State) (events : List CountedEvent) :
    (entriesFrom state events).length = events.length := by
  induction events generalizing state with
  | nil => rfl
  | cons event events inductionHypothesis =>
      exact congrArg (· + 1) (inductionHypothesis (entry state event).2)

/-- The entries stand in the order of the events. -/
theorem shows_entriesFrom {state : State} {events : List CountedEvent} {i : Nat}
    {event : CountedEvent} {shown : Entry} (recorded : events[i]? = some event)
    (written : (entriesFrom state events)[i]? = some shown) : Shows event shown := by
  induction events generalizing state i with
  | nil => cases recorded
  | cons first events inductionHypothesis =>
      cases i with
      | zero =>
          cases recorded
          cases written
          exact ⟨state, rfl⟩
      | succ i => exact inductionHypothesis recorded written

theorem inPass_entriesFrom {frame : Nat} {events : List CountedEvent}
    (sameFrame : ∀ event ∈ events, event.frame = frame) (state : State) :
    ∀ shown ∈ entriesFrom state events,
      shown.arguments.lookup "frame_index" = some (.number frame) := by
  induction events generalizing state with
  | nil =>
      intro shown impossible
      cases impossible
  | cons event events inductionHypothesis =>
      obtain ⟨head, tail⟩ := List.forall_mem_cons.mp sameFrame
      refine List.forall_mem_cons.mpr ⟨?_, inductionHypothesis tail _⟩
      rw [lookup_frame_index, head]

/-- Events inside a pass stay on its track. -/
theorem entriesFrom_of_inner {events : List CountedEvent}
    (inner : ∀ event ∈ events, event.body.Inner) (state : State) :
    (∀ shown ∈ entriesFrom state events,
        shown.phase = .instant ∧ shown.process = state.process) ∧
      (stateAfter state events).process = state.process := by
  induction events generalizing state with
  | nil =>
      refine ⟨?_, rfl⟩
      intro shown impossible
      cases impossible
  | cons event events inductionHypothesis =>
      obtain ⟨head, tail⟩ := List.forall_mem_cons.mp inner
      obtain ⟨isInstant, onTrack, kept⟩ := entry_of_inner state head
      have others := inductionHypothesis tail (entry state event).2
      rw [kept] at others
      exact ⟨List.forall_mem_cons.mpr ⟨⟨isInstant, onTrack⟩, others.1⟩, others.2⟩

/-- The events of a pass are a slice.  Only the first one decides on the track, so nothing that was
exported before matters. -/
theorem slice_entriesFrom {id : DisplayId} {frame : Nat} {opening : PassBegin}
    {closing : PassSummary} {inside : List CountedEvent} (opens : opening.display = id)
    (closes : closing.display = id) (inner : ∀ event ∈ inside, event.body.Inner)
    (sameFrame : ∀ event ∈ inside, event.frame = frame) (state : State) :
    Slice id.number frame
      (entriesFrom state (⟨frame, .begin opening⟩ :: (inside ++ [⟨frame, .summary closing⟩]))) := by
  subst opens
  have tracked := entriesFrom_of_inner inner (entry state ⟨frame, .begin opening⟩).2
  have entries : entriesFrom state
      (⟨frame, .begin opening⟩ :: (inside ++ [⟨frame, .summary closing⟩])) =
        (entry state ⟨frame, .begin opening⟩).1 ::
          (entriesFrom (entry state ⟨frame, .begin opening⟩).2 inside ++
            [(entry (stateAfter (entry state ⟨frame, .begin opening⟩).2 inside)
              ⟨frame, .summary closing⟩).1]) := by
    rw [entriesFrom, entriesFrom_append]
    rfl
  constructor
  case bounded =>
    exact ⟨_, _, _, entries, rfl, fun shown member => (tracked.1 shown member).1, rfl⟩
  case onTrack =>
    rw [entries]
    intro shown member
    rcases List.mem_cons.mp member with rfl | later
    · rfl
    · rcases List.mem_append.mp later with instant | last
      · exact (tracked.1 shown instant).2
      · rw [List.mem_singleton.mp last, ← closes]
        rfl
  case inPass =>
    refine inPass_entriesFrom (List.forall_mem_cons.mpr ⟨rfl, ?_⟩) state
    intro event member
    rcases List.mem_append.mp member with early | last
    · exact sameFrame event early
    · rw [List.mem_singleton.mp last]

/-! ### Slices in order -/

/-- Beginnings and ends take turns. -/
theorem filter_phases_of_slices {blocks : List (List Entry)}
    (slices : ∀ block ∈ blocks, ∃ process frame, Slice process frame block) :
    (blocks.flatten.map Entry.phase).filter (· ≠ .instant) =
      (List.replicate blocks.length [Phase.begin, .finish]).flatten := by
  have turns : ∀ block ∈ blocks, (block.map Entry.phase).filter (· ≠ .instant) =
      [Phase.begin, .finish] := by
    intro block member
    obtain ⟨process, frame, slice⟩ := slices block member
    obtain ⟨opening, instants, closing, rfl, opens, inner, closes⟩ := slice.bounded
    have none : (instants.map Entry.phase).filter (· ≠ .instant) = [] := by
      rw [List.filter_eq_nil_iff]
      intro phase shown
      obtain ⟨instant, present, rfl⟩ := List.mem_map.mp shown
      simp [inner instant present]
    rw [List.map_cons, List.map_append, List.map_singleton, opens, closes,
      List.filter_cons_of_pos (by decide), List.filter_append, none]
    rfl
  rw [List.map_flatten, List.filter_flatten, List.map_map, ← List.map_const']
  exact congrArg List.flatten (List.map_congr_left turns)

end Timeline

end Scanout
