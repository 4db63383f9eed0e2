/-
Module: Scanout.Proofs.Run.Blocks
Purpose: The grammar of a trace.  A run reports one block for each pass, and a block has one of few
  shapes, in which the ranges, the verdict, the decisions and the summary agree.
Imports: Mathlib.Data.List.Basic, Scanout.Proofs.Run
Main exports: ClientRange.stampedKinds, SelectionReport, PassReport, Planner.selectionReport_select,
  PassRequest.exists_passReport
-/
import Mathlib.Data.List.Basic
import Scanout.Proofs.Run

namespace Scanout

/-! ### What one pass may report -/

/-- The decisions that a client range stands for in a stack, from the bottom up.  A position is
reported in a 32-bit field. -/
def ClientRange.stampedKinds (client : ClientRange) (layerCount : Nat) : List StampedLayer :=
  (List.range layerCount).map fun z =>
    { z := Word.clamp32 z, kind := if client.contains z then .client else .device }

/-- What a planner may report about selecting a range for a frame, whether the frame is flattened,
and the range. -/
inductive SelectionReport (planner : Planner) (snapshot : Snapshot) :
    List TraceBody → Bool → ClientRange → Prop where
  | clientOnly (strategy : planner.strategy = .clientOnly) :
      SelectionReport planner snapshot [] false (ClientRange.whole snapshot.layerCount)
  | flattened (strategy : planner.strategy = .generic) (eligible : snapshot.flattenable = true) :
      SelectionReport planner snapshot [.state .flattened] true
        (ClientRange.whole snapshot.layerCount)
  | fitted (strategy : planner.strategy = .generic) (moving : snapshot.flattenable = false)
      (cause : Option FallbackCause) (resolved : ClientRange)
      (within : resolved.stop ≤ snapshot.layerCount)
      (covers : resolved.covers (planner.needed snapshot) = true) :
      SelectionReport planner snapshot
        ([.state .rangeComputed, .range .mandatory (planner.needed snapshot)] ++
          (cause.map EventBody.fallback).toList ++
          [.state .budgetResolved, .range .resolved resolved])
        false resolved

/-- What a pass over a frame of the display `id` may report.  If the tester rejects the selected
range, the whole stack is `client`; a tester is not asked about the whole stack. -/
inductive PassReport (id : DisplayId) (planner : Planner) (snapshot : Snapshot) :
    List TraceBody → Prop where
  | refused (unsupported : snapshot.unsupported = true) :
      PassReport id planner snapshot
        (Planner.opening id snapshot ++ [.summary (Planner.refusal id snapshot)])
  | planned (supported : snapshot.unsupported = false) {selection : List TraceBody}
      {flattened : Bool} {selected client : ClientRange}
      (selects : SelectionReport planner snapshot selection flattened selected)
      (verdict : Option Bool)
      (asked : verdict ≠ none → ¬ selected.isWhole snapshot.layerCount = true)
      (settled :
        client = if verdict = some false then ClientRange.whole snapshot.layerCount else selected) :
      PassReport id planner snapshot
        (Planner.opening id snapshot ++ selection ++ (verdict.map EventBody.commitTest).toList ++
          [.state .stamped, .decisions (client.stampedKinds snapshot.layerCount),
            .summary (Planner.conclusion id snapshot flattened client)])

namespace Planner

/-! ### One pass -/

/-- The reported decisions of layers from position `z` on.  The induction is on the layers, since
`stampedLayers` drops the layers without a decision one by one. -/
private theorem filterMap_decision_of_decidesFrom {client : ClientRange} {layers : List Layer} :
    ∀ z, client.DecidesFrom z layers →
      ((layers.zipIdx z).filterMap fun (layer, z) =>
          layer.decision.map fun decision =>
            ({ z := Word.clamp32 z, kind := decision.kind } : StampedLayer)) =
        (List.range' z layers.length).map fun z =>
          { z := Word.clamp32 z, kind := if client.contains z then .client else .device } := by
  induction layers with
  | nil => exact fun _ _ => rfl
  | cons lowest layers inductionHypothesis =>
      rintro z ⟨decided, rest⟩
      have kind : (client.decisionAt z).kind = if client.contains z then .client else .device := by
        rw [ClientRange.decisionAt]
        split <;> rfl
      simp only [List.zipIdx_cons, List.filterMap_cons, decided, Option.map_some, kind,
        List.length_cons, List.range'_succ, List.map_cons]
      rw [inductionHypothesis (z + 1) rest]

theorem stampedLayers_stamp (snapshot : Snapshot) (client : ClientRange) :
    stampedLayers (snapshot.stamp client).layers = client.stampedKinds snapshot.layerCount := by
  rw [← Snapshot.layerCount_stamp snapshot client, stampedLayers, ClientRange.stampedKinds,
    List.range_eq_range']
  exact filterMap_decision_of_decidesFrom 0 (snapshot.decides_stamp client).decidesFrom

theorem selectionReport_select (planner : Planner) (snapshot : Snapshot)
    (video : Option DeviceRange) :
    SelectionReport planner snapshot (planner.select snapshot video).report
      (planner.select snapshot video).isFlattened
      ((planner.select snapshot video).client snapshot.layerCount) := by
  rcases planner.select_cases snapshot video with
    ⟨clientOnly, selected⟩ | ⟨generic, still, selected⟩ | ⟨generic, moving, selected⟩
  · rw [selected]
    exact .clientOnly clientOnly
  · rw [selected]
    exact .flattened generic still
  · obtain ⟨within, covers⟩ := fit_within_covers (planner.stop_needed_le snapshot) video
    rw [selected]
    exact .fitted generic moving _ _ within covers

end Planner

/-- A pass reports what it may, under its own index. -/
theorem PassRequest.exists_passReport {σ : Type} (request : PassRequest) (display : Display)
    (tester : Option (CommitTester σ)) (state : σ) :
    ∃ bodies, (request.passOn display tester state).events =
        Planner.inFrame display.passes bodies ∧
      PassReport display.id request.planner request.snapshot bodies := by
  rcases request.passOn_cases display tester state with
    ⟨unsupported, _, reported⟩ | ⟨verdict, supported, asked, _, reported⟩
  · exact ⟨_, reported, .refused unsupported⟩
  · refine ⟨_, reported, ?_⟩
    rw [Planner.reports, Planner.stampedLayers_stamp]
    exact .planned supported (request.planner.selectionReport_select _ _) verdict asked rfl

/-! ### A run -/

theorem map_body_inFrame (frame : Nat) (bodies : List TraceBody) :
    (Planner.inFrame frame bodies).map Event.body = bodies := by
  rw [Planner.inFrame, List.map_map]
  exact List.map_id _

theorem frame_of_mem_inFrame {frame : Nat} {bodies : List TraceBody} {event : TraceEvent}
    (member : event ∈ Planner.inFrame frame bodies) : event.frame = frame := by
  obtain ⟨body, _, rfl⟩ := List.mem_map.mp member
  rfl

namespace Run

/-- Every pass of a run on a new display reports one block, under the number of passes before it,
and the block is one that the pass may report. -/
theorem exists_blocks {id : DisplayId} {requests : List PassRequest} {events : List TraceEvent}
    {display : Display} (run : Run (.new id) requests events display)
    (bounded : requests.length < UInt64.size) :
    ∃ blocks : List (List TraceEvent), events = blocks.flatten ∧
      blocks.length = requests.length ∧
      ∀ (k : Nat) (request : PassRequest) (block : List TraceEvent),
        requests[k]? = some request → blocks[k]? = some block →
          (∀ event ∈ block, event.frame = k) ∧
            PassReport id request.planner request.snapshot (block.map Event.body) := by
  induction run with
  | refl =>
      refine ⟨[], rfl, rfl, ?_⟩
      intro k request block asked
      cases asked
  | prepare _ _ inductionHypothesis => exact inductionHypothesis bounded
  | @pass requests events display _ before request tester state inductionHypothesis =>
      rw [List.length_append, List.length_singleton] at bounded
      obtain ⟨blocks, rfl, sameLength, told⟩ :=
        inductionHypothesis (Nat.lt_of_succ_lt bounded)
      -- The counter is not full yet, so it still gives every pass an index of its own.
      have index : display.passes = requests.length := by
        rw [before.passes_eq]
        exact Nat.min_eq_left (Nat.le_sub_one_of_lt (Nat.lt_of_succ_lt bounded))
      obtain ⟨bodies, reported, report⟩ := request.exists_passReport display tester state
      rw [index] at reported
      rw [show display.id = id from before.id_eq] at report
      refine ⟨blocks ++ [Planner.inFrame requests.length bodies], ?_, ?_, ?_⟩
      · rw [reported, List.flatten_append, List.flatten_singleton]
      · rw [List.length_append, List.length_append, sameLength]
        rfl
      · apply forall_paired_concat sameLength told
        rw [map_body_inFrame]
        exact ⟨fun event => frame_of_mem_inFrame, report⟩

/-- Of two blocks laid end to end, each is known from the index of its pass. -/
theorem blocks_unique {first second one two : List TraceEvent} {k later : Nat}
    (apart : k ≠ later)
    (inFirst : ∀ event ∈ first, event.frame = k) (inSecond : ∀ event ∈ second, event.frame = later)
    (inOne : ∀ event ∈ one, event.frame = k) (inTwo : ∀ event ∈ two, event.frame = later)
    (same : first ++ second = one ++ two) : first = one ∧ second = two := by
  have keptLeft {left right : List TraceEvent} (inLeft : ∀ event ∈ left, event.frame = k)
      (inRight : ∀ event ∈ right, event.frame = later) :
      (left ++ right).filter (·.frame = k) = left := by
    have kept : left.filter (·.frame = k) = left :=
      List.filter_eq_self.mpr fun event member => decide_eq_true (inLeft event member)
    have dropped : right.filter (·.frame = k) = [] :=
      List.filter_eq_nil_iff.mpr fun event member => by
        rw [decide_eq_true_eq, inRight event member]
        exact apart.symm
    rw [List.filter_append, kept, dropped, List.append_nil]
  have firsts : first = one := by
    calc first = (first ++ second).filter (·.frame = k) := (keptLeft inFirst inSecond).symm
      _ = (one ++ two).filter (·.frame = k) := by rw [same]
      _ = one := keptLeft inOne inTwo
  exact ⟨firsts, List.append_cancel_left (firsts ▸ same)⟩

/-- A frame that is refused, then one whose plan is rejected: the trace falls into these two
blocks. -/
theorem exists_blocks_of_refused_then_rejected :
    let refused : Snapshot := .ofLayers [{ hint := .displayDecoration, frame := ⟨0, 0, 4, 4⟩ }] 2
    let rejected : Snapshot := .ofLayers [{ frame := ⟨0, 0, 4, 4⟩ }, { frame := ⟨0, 0, 2, 2⟩ }] 2
    let requests : List PassRequest :=
      [⟨.ofConfig {}, none, refused⟩, ⟨.ofConfig {}, none, rejected⟩]
    let first : List TraceEvent :=
      [⟨0, .begin ⟨⟨7⟩, 1, 2, false⟩⟩, ⟨0, .state .start⟩,
        ⟨0, .summary ⟨⟨7⟩, .unsupported, ⟨0, 0⟩, 1, false, 0, 0⟩⟩]
    let second : List TraceEvent :=
      [⟨1, .begin ⟨⟨7⟩, 2, 2, false⟩⟩, ⟨1, .state .start⟩, ⟨1, .state .rangeComputed⟩,
        ⟨1, .range .mandatory ⟨0, 0⟩⟩, ⟨1, .state .budgetResolved⟩, ⟨1, .range .resolved ⟨0, 0⟩⟩,
        ⟨1, .commitTest false⟩, ⟨1, .state .stamped⟩, ⟨1, .decisions [⟨0, .client⟩, ⟨1, .client⟩]⟩,
        ⟨1, .summary ⟨⟨7⟩, .hasChanges, ⟨0, 2⟩, 2, false, 20, 20⟩⟩]
    ∃ display, Run (.new ⟨7⟩) requests (first ++ second) display ∧
      requests.length < UInt64.size ∧
      ∀ (k : Nat) (request : PassRequest) (block : List TraceEvent),
        requests[k]? = some request → [first, second][k]? = some block →
          (∀ event ∈ block, event.frame = k) ∧
            PassReport ⟨7⟩ request.planner request.snapshot (block.map Event.body) := by
  intro refused rejected requests first second
  have short : requests.length < UInt64.size := by decide
  have run : Run (.new ⟨7⟩) requests (first ++ second) _ :=
    (Run.refl.pass ⟨.ofConfig {}, none, refused⟩ (none : Option (CommitTester Unit)) ()).pass
      ⟨.ofConfig {}, none, rejected⟩ (some FixedVerdict.test) { accepts := false }
  obtain ⟨blocks, laid, count, told⟩ := exists_blocks run short
  obtain ⟨one, two, rfl⟩ := List.length_eq_two.mp count
  obtain ⟨rfl, rfl⟩ : first = one ∧ second = two :=
    blocks_unique Nat.zero_ne_one (by decide) (by decide) (told 0 _ one rfl rfl).1
      (told 1 _ two rfl rfl).1 (laid.trans (by simp))
  exact ⟨_, run, short, told⟩

end Run

end Scanout
