/-
Module: Scanout.Proofs.Pass.Equations
Purpose: A pass in full, as one equation for a stack that it refuses and one for a stack that it
  plans, and what its events add up to.  All that is proved about whole passes rests on these.
Imports: Scanout.Proofs.Pass.Outcome, Scanout.Proofs.Trace.Tally
Main exports: TraceBody, Planner.opening, Planner.refusal, Planner.conclusion, Planner.reports,
  Planner.countPass, Planner.pass_of_unsupported, Planner.pass_of_supported,
  Planner.pass_unsupported, Planner.pass_supported, Planner.exists_fallback_iff,
  Planner.commitTest_mem_reports_iff, Planner.ofTrace_refusal, Planner.ofTrace_reports
-/
import Scanout.Proofs.Pass.Outcome
import Scanout.Proofs.Trace.Tally

namespace Scanout

/-- What an event of a pass reports, apart from the index of the pass. -/
abbrev TraceBody := EventBody (List StampedLayer)

theorem Snapshot.unsupported_iff {snapshot : Snapshot} :
    snapshot.unsupported = true ↔ ∃ layer ∈ snapshot.layers, layer.hint = .displayDecoration := by
  rw [Snapshot.unsupported, List.any_eq_true]
  constructor
  · rintro ⟨layer, member, refused⟩
    refine ⟨layer, member, ?_⟩
    cases kind : layer.hint <;> simp [kind, Kind.unsupported] at refused
    rfl
  · rintro ⟨layer, member, decoration⟩
    exact ⟨layer, member, by rw [decoration]; rfl⟩

theorem Snapshot.supported_iff {snapshot : Snapshot} :
    snapshot.unsupported = false ↔ ∀ layer ∈ snapshot.layers, layer.hint ≠ .displayDecoration := by
  rw [← Bool.not_eq_true, unsupported_iff]
  constructor
  · intro supported layer member decoration
    exact supported ⟨layer, member, decoration⟩
  · rintro plain ⟨layer, member, decoration⟩
    exact plain layer member decoration

namespace Planner

/-! ### Parts of a pass -/

/-- The reports with which every pass opens. -/
def opening (id : DisplayId) (snapshot : Snapshot) : List TraceBody :=
  [.begin
      { display := id
        layerCount := Word.clamp32 snapshot.layerCount
        usablePlanes := Word.clamp32 snapshot.usablePlanes
        flattenable := snapshot.flattenable },
    .state .start]

/-- The summary of a pass over an unsupported stack. -/
def refusal (id : DisplayId) (snapshot : Snapshot) : PassSummary where
  display := id
  result := .unsupported
  client := ClientRange.empty
  layerCount := Word.clamp32 snapshot.layerCount
  flattened := false
  gpuPixels := 0
  allPixels := 0

/-- The summary of a pass that sends the layers of `client` to the client target. -/
def conclusion (id : DisplayId) (snapshot : Snapshot) (flattened : Bool) (client : ClientRange) :
    PassSummary where
  display := id
  result := if client.isEmpty then .none else .hasChanges
  client := client
  layerCount := Word.clamp32 snapshot.layerCount
  flattened := flattened
  gpuPixels := (CostTable.ofLayers snapshot.layers).window client.start client.size
  allPixels := (CostTable.ofLayers snapshot.layers).total

/-- The reports of a pass that stamps `client`. -/
def reports (id : DisplayId) (snapshot : Snapshot) (selection : Selection)
    (verdict : Option Bool) (client : ClientRange) : List TraceBody :=
  opening id snapshot ++ selection.report ++ (verdict.map EventBody.commitTest).toList ++
    [.state .stamped, .decisions (stampedLayers (snapshot.stamp client).layers),
      .summary (conclusion id snapshot selection.isFlattened client)]

/-- What a completed pass adds to the counters. -/
def countPass (selection : Selection) (verdict : Option Bool) (outcome : PassSummary)
    (stats : Stats) : Stats :=
  let counted := selection.count stats
  let tested := if verdict = some false then counted.countRejected else counted
  tested.countPixels outcome.gpuPixels outcome.allPixels

/-- Each counter on its own. -/
theorem countPass_eq (selection : Selection) (verdict : Option Bool) (outcome : PassSummary)
    (stats : Stats) :
    countPass selection verdict outcome stats =
      { frames := Word.satAdd stats.frames 1
        flattened :=
          if selection.isFlattened then Word.satAdd stats.flattened 1 else stats.flattened
        gpuPixels := Word.satAdd stats.gpuPixels outcome.gpuPixels
        allPixels := Word.satAdd stats.allPixels outcome.allPixels
        rejectedPlans :=
          if verdict = some false then Word.satAdd stats.rejectedPlans 1 else stats.rejectedPlans
        fallbacks :=
          if selection.fallback.isSome then Word.satAdd stats.fallbacks 1 else stats.fallbacks } := by
  simp only [countPass, Selection.count]
  cases selection.isFlattened <;> cases selection.fallback.isSome <;>
    rcases verdict with _ | _ | _ <;> rfl

/-! ### The two equations -/

section Equations

variable {σ : Type} {planner : Planner} {tester : Option (CommitTester σ)}
  {video : Option DeviceRange} {snapshot : Snapshot} {state : σ}

/-- An unsupported stack ends the pass at its start, and nobody is asked. -/
theorem pass_of_unsupported (display : Display) (unsupported : snapshot.unsupported = true) :
    planner.pass tester video display snapshot state =
      { result := .unsupported
        display := display.beginPass
        snapshot
        tester := state
        events := inFrame display.passes
          (opening display.id snapshot ++ [.summary (refusal display.id snapshot)]) } := by
  rw [pass, if_pos unsupported]
  rfl

/-- A supported stack is selected from, tested and stamped; one range settles everything that the
pass leaves behind. -/
theorem pass_of_supported (display : Display) (supported : snapshot.unsupported = false)
    {selection : Selection} (selected : planner.select snapshot video = selection)
    {verdict : Option Bool} {after : σ}
    (consulted : consult tester snapshot (selection.client snapshot.layerCount) state =
      (verdict, after)) :
    let client := settledRange snapshot.layerCount (selection.client snapshot.layerCount) verdict
    let outcome := conclusion display.id snapshot selection.isFlattened client
    planner.pass tester video display snapshot state =
      { result := outcome.result
        display :=
          { display.beginPass with stats := countPass selection verdict outcome display.stats }
        snapshot := snapshot.stamp client
        tester := after
        events :=
          inFrame display.passes (reports display.id snapshot selection verdict client) } := by
  subst selected
  rw [pass, if_neg (ne_true_of_eq_false supported)]
  simp only [consulted]
  rfl

theorem pass_unsupported (display : Display) (unsupported : snapshot.unsupported = true) :
    (planner.pass tester video display snapshot state).result = .unsupported ∧
      (planner.pass tester video display snapshot state).snapshot = snapshot ∧
      (planner.pass tester video display snapshot state).tester = state ∧
      (planner.pass tester video display snapshot state).display.stats = display.stats := by
  rw [pass_of_unsupported display unsupported]
  exact ⟨rfl, rfl, rfl, rfl⟩

theorem pass_supported (display : Display) (supported : snapshot.unsupported = false)
    {verdict : Option Bool} {after : σ}
    (consulted : consult tester snapshot
      ((planner.select snapshot video).client snapshot.layerCount) state = (verdict, after)) :
    (planner.pass tester video display snapshot state).snapshot =
        snapshot.stamp (settledRange snapshot.layerCount
          ((planner.select snapshot video).client snapshot.layerCount) verdict) ∧
      (planner.pass tester video display snapshot state).tester = after ∧
      (planner.pass tester video display snapshot state).display.stats.rejectedPlans =
        (if verdict = some false then Word.satAdd display.stats.rejectedPlans 1
          else display.stats.rejectedPlans) := by
  rw [pass_of_supported display supported rfl consulted]
  refine ⟨rfl, rfl, ?_⟩
  rw [countPass_eq]

/-- Without a tester the selected range is stamped. -/
theorem snapshot_passUntested (display : Display) (supported : snapshot.unsupported = false)
    (video : Option DeviceRange) :
    (planner.passUntested video display snapshot).snapshot =
      snapshot.stamp ((planner.select snapshot video).client snapshot.layerCount) :=
  (pass_supported display supported rfl).1

end Equations

/-! ### What a pass reports -/

theorem exists_mem_inFrame_iff {frame : Nat} {bodies : List TraceBody} {body : TraceBody} :
    (∃ event ∈ inFrame frame bodies, event.body = body) ↔ body ∈ bodies := by
  rw [inFrame]
  constructor
  · rintro ⟨event, member, rfl⟩
    obtain ⟨reported, inBodies, rfl⟩ := List.mem_map.mp member
    exact inBodies
  · intro member
    exact ⟨_, List.mem_map_of_mem member, rfl⟩

section Reports

variable {id : DisplayId} {snapshot : Snapshot} {selection : Selection} {verdict : Option Bool}
  {client : ClientRange}

theorem fallback_mem_reports_iff {cause : FallbackCause} :
    EventBody.fallback cause ∈ reports id snapshot selection verdict client ↔
      selection.fallback = some cause := by
  have selected : EventBody.fallback cause ∈ selection.report ↔ selection.fallback = some cause := by
    cases selection with
    | everything => simp [Selection.report, Selection.fallback]
    | flattened => simp [Selection.report, Selection.fallback]
    | fitted needed fit => simp [Selection.report, Selection.fallback]
  simp [reports, opening, selected]

/-- A completed pass reports the verdict of the tester, if it was asked. -/
theorem commitTest_mem_reports_iff {accepted : Bool} :
    EventBody.commitTest accepted ∈ reports id snapshot selection verdict client ↔
      verdict = some accepted := by
  have selected : EventBody.commitTest accepted ∉ selection.report := by
    rcases selection with _ | _ | ⟨needed, range, _ | cause⟩ <;> simp [Selection.report]
  simp [reports, opening, selected]

end Reports

/-- A supported pass records a fallback exactly if its selection gave a reservation up. -/
theorem exists_fallback_iff {σ : Type} {planner : Planner} {tester : Option (CommitTester σ)}
    {video : Option DeviceRange} {snapshot : Snapshot} {state : σ} (display : Display)
    (supported : snapshot.unsupported = false) {cause : FallbackCause} :
    (∃ event ∈ (planner.pass tester video display snapshot state).events,
        event.body = .fallback cause) ↔
      (planner.select snapshot video).fallback = some cause := by
  rcases consulted : consult tester snapshot
    ((planner.select snapshot video).client snapshot.layerCount) state with ⟨verdict, after⟩
  rw [pass_of_supported display supported rfl consulted, exists_mem_inFrame_iff,
    fallback_mem_reports_iff]

/-! ### What the events add up to -/

section Tally

variable (frame : Nat) (id : DisplayId) (snapshot : Snapshot)

theorem summaries_inFrame (bodies : List TraceBody) :
    summaries (inFrame frame bodies) = bodies.filterMap EventBody.summary? := by
  rw [summaries, inFrame, List.filterMap_map]
  rfl

theorem countP_inFrame (holds : TraceBody → Bool) (bodies : List TraceBody) :
    (inFrame frame bodies).countP (fun event => holds event.body) = bodies.countP holds := by
  rw [inFrame, List.countP_map]
  rfl

theorem filterMap_summary?_report (selection : Selection) :
    selection.report.filterMap EventBody.summary? = [] := by
  rcases selection with _ | _ | ⟨needed, range, _ | cause⟩ <;> rfl

theorem countP_isFallback_report (selection : Selection) :
    selection.report.countP EventBody.isFallback = selection.fallback.isSome.toNat := by
  rcases selection with _ | _ | ⟨needed, range, _ | cause⟩ <;> rfl

theorem countP_isRejection_report (selection : Selection) :
    selection.report.countP EventBody.isRejection = 0 := by
  rcases selection with _ | _ | ⟨needed, range, _ | cause⟩ <;> rfl

theorem countP_isBegin_report (selection : Selection) :
    selection.report.countP EventBody.isBegin = 0 := by
  rcases selection with _ | _ | ⟨needed, range, _ | cause⟩ <;> rfl

/-- Only the end of a completed pass is a summary. -/
theorem summaries_reports (selection : Selection) (verdict : Option Bool) (client : ClientRange) :
    summaries (inFrame frame (reports id snapshot selection verdict client)) =
      [conclusion id snapshot selection.isFlattened client] := by
  rw [summaries_inFrame, reports, List.filterMap_append, List.filterMap_append,
    List.filterMap_append, filterMap_summary?_report]
  cases verdict <;> rfl

/-- A completed pass is one frame, with at most one flattening, one fallback and one rejection. -/
theorem ofTrace_reports (selection : Selection) (verdict : Option Bool) (client : ClientRange) :
    Stats.ofTrace (inFrame frame (reports id snapshot selection verdict client)) =
      { frames := 1
        flattened := selection.isFlattened.toNat
        gpuPixels := (CostTable.ofLayers snapshot.layers).window client.start client.size
        allPixels := (CostTable.ofLayers snapshot.layers).total
        rejectedPlans := if verdict = some false then 1 else 0
        fallbacks := selection.fallback.isSome.toNat } := by
  have frames : [conclusion id snapshot selection.isFlattened client].countP
      (fun outcome => outcome.result ≠ .unsupported) = 1 := by
    cases vacant : client.isEmpty <;> simp [conclusion, vacant]
  have flattenings : [conclusion id snapshot selection.isFlattened client].countP
      (fun outcome => outcome.flattened) = selection.isFlattened.toNat := by
    cases flattened : selection.isFlattened <;> rfl
  have rejections : (reports id snapshot selection verdict client).countP EventBody.isRejection =
      if verdict = some false then 1 else 0 := by
    simp only [reports, List.countP_append, countP_isRejection_report]
    rcases verdict with _ | _ | _ <;> rfl
  have fallbacks : (reports id snapshot selection verdict client).countP EventBody.isFallback =
      selection.fallback.isSome.toNat := by
    simp only [reports, List.countP_append, countP_isFallback_report]
    rcases verdict with _ | _ | _ <;> simp [opening, EventBody.isFallback]
  rw [Stats.ofTrace, summaries_reports, countP_inFrame, countP_inFrame, frames, flattenings,
    rejections, fallbacks]
  rfl

theorem ofTrace_refusal :
    Stats.ofTrace (inFrame frame (opening id snapshot ++ [.summary (refusal id snapshot)])) = {} :=
  rfl

theorem beginnings_reports (selection : Selection) (verdict : Option Bool) (client : ClientRange) :
    beginnings (inFrame frame (reports id snapshot selection verdict client)) = 1 := by
  rw [beginnings, countP_inFrame, reports, List.countP_append, List.countP_append,
    List.countP_append, countP_isBegin_report]
  cases verdict <;> rfl

end Tally

end Planner

end Scanout
