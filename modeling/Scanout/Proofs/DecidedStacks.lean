/-
Module: Scanout.Proofs.DecidedStacks
Purpose: A stack with arbitrary decisions is a plan exactly if a range decides it, which is exactly
  if the checker finds no undecided layer and no gap; plan, checker and tester then count the same
  planes.  Any other stack is refused because of its lowest fault.
Imports: Scanout.Proofs.Decisions, Scanout.Proofs.PlaneItems, Scanout.Proofs.Range.Spanning
Main exports: ClientRange.Decides.concat, stampedClientRange_outcome, decides_of_stampedClientRange,
  exists_decides_iff_contiguous, exists_decides_iff_of_positions, exists_gap_iff_not_decides,
  overBudget_mem_violations_iff, Plan.plane_counts_agree
-/
import Scanout.Proofs.Decisions
import Scanout.Proofs.PlaneItems
import Scanout.Proofs.Range.Spanning

namespace Scanout

/-! ### What the scan for the client range accepts -/

/-- A range that decides a stack, and changes only above it, decides the stack with one more
layer. -/
theorem ClientRange.Decides.concat {range extended : ClientRange} {layers : List Layer}
    (decides : range.Decides layers)
    (same : ∀ z, z < layers.length → extended.contains z = range.contains z) {last : Layer}
    (decided : last.decision = some (extended.decisionAt layers.length)) :
    extended.Decides (layers ++ [last]) := by
  intro z layer present
  rcases getElem?_concat_cases present with old | ⟨rfl, rfl⟩
  · have inStack := (List.getElem?_eq_some_iff.mp old).1
    rw [decides z layer old, ClientRange.decisionAt, ClientRange.decisionAt, same z inStack]
  · exact decided

/-- A step of the scan makes the range found decide one more layer, or stops there because of what
is wrong with the layer. -/
theorem scanClientRange_step {found : ClientRange} {seen : List Layer}
    (decides : found.Decides seen) (within : found.stop ≤ seen.length) (layer : Layer) :
    (∃ next : ClientRange, next.Decides (seen ++ [layer]) ∧
        next.stop ≤ (seen ++ [layer]).length ∧
        ∀ rest, scanClientRange found seen.length (layer :: rest) =
          scanClientRange next (seen ++ [layer]).length rest) ∨
      ∃ fault, FaultAt (seen ++ [layer]) seen.length fault ∧
        ∀ rest, scanClientRange found seen.length (layer :: rest) = .error fault := by
  rw [ClientRange.stop_eq] at within
  rw [List.length_append, List.length_singleton]
  cases decision : layer.decision with
  | none =>
      refine Or.inr ⟨_, .undecided (carries_concat_length_iff.mpr decision), ?_⟩
      intro rest
      rw [scanClientRange, decision]
  | some decision' =>
      cases decision' with
      | device =>
          refine Or.inl ⟨found, ?_, Nat.le_succ_of_le within, ?_⟩
          · have outside : ¬ found.contains seen.length = true := by
              rw [ClientRange.contains_iff]
              omega
            apply decides.concat (fun _ _ => rfl)
            rw [decision, ClientRange.decisionAt, if_neg outside]
          · intro rest
            rw [scanClientRange, decision]
      | client =>
          by_cases vacant : found.isEmpty = true
          · refine Or.inl ⟨⟨seen.length, 1⟩, ?_, Nat.le_refl _, ?_⟩
            · apply decides.concat
              · intro z below
                rw [ClientRange.isEmpty_iff] at vacant
                rw [Bool.eq_iff_iff, ClientRange.contains_iff, ClientRange.contains_iff]
                simp only
                omega
              · rw [decision, ClientRange.decisionAt,
                  if_pos (ClientRange.contains_iff.mpr (by simp))]
            · intro rest
              simp only [scanClientRange, decision, if_pos vacant]
              rfl
          · by_cases adjacent : seen.length = found.stop
            · refine Or.inl ⟨⟨found.start, found.size + 1⟩, ?_, ?_, ?_⟩
              · rw [ClientRange.stop_eq] at adjacent
                apply decides.concat
                · intro z below
                  rw [Bool.eq_iff_iff, ClientRange.contains_iff, ClientRange.contains_iff]
                  simp only
                  omega
                · rw [decision, ClientRange.decisionAt,
                    if_pos (ClientRange.contains_iff.mpr (by simp only; omega))]
              · rw [ClientRange.stop_mk]
                omega
              · intro rest
                simp only [scanClientRange, decision, if_neg vacant, if_pos adjacent]
                rfl
            · have occupied := ClientRange.not_isEmpty_iff.mp vacant
              rw [ClientRange.stop_eq] at adjacent
              have lowest : found.start < seen.length := by omega
              have before : seen.length - 1 < seen.length := by omega
              refine Or.inr
                ⟨_, .detached (carries_concat_length_iff.mpr decision) ?_ lowest ?_, ?_⟩
              · rw [carries_append_iff lowest, carries_client_iff_of_decides decides lowest,
                  ClientRange.contains_iff]
                omega
              · rw [carries_append_iff before, carries_client_iff_of_decides decides before,
                  ClientRange.contains_iff]
                omega
              · intro rest
                simp only [scanClientRange, decision, if_neg vacant]
                exact if_neg adjacent

/-- The scan returns a range that decides the whole stack, or the lowest fault in it.  The induction
is on the layers still to come; the layers seen are decided by the range found, so none of them has
a fault. -/
theorem scanClientRange_outcome (layers : List Layer) :
    ∀ (seen : List Layer) (found : ClientRange), found.Decides seen → found.stop ≤ seen.length →
      (∃ range : ClientRange, scanClientRange found seen.length layers = .ok range ∧
          range.Decides (seen ++ layers) ∧ range.stop ≤ (seen ++ layers).length) ∨
        ∃ fault, scanClientRange found seen.length layers = .error fault ∧
          LowestFault (seen ++ layers) fault := by
  induction layers with
  | nil =>
      intro seen found decides within
      rw [List.append_nil]
      exact Or.inl ⟨found, rfl, decides, within⟩
  | cons layer layers inductionHypothesis =>
      intro seen found decides within
      rw [List.append_cons]
      rcases scanClientRange_step decides within layer with
        ⟨next, decidesNext, nextWithin, scanned⟩ | ⟨fault, faulty, scanned⟩
      · rw [scanned]
        exact inductionHypothesis (seen ++ [layer]) next decidesNext nextWithin
      · refine Or.inr ⟨fault, scanned layers, seen.length, ?_, ?_⟩
        · rw [faultAt_append_iff (by rw [List.length_append]; exact Nat.lt_succ_self _)]
          exact faulty
        · intro lower below other
          rw [List.append_assoc, faultAt_append_iff below]
          exact not_faultAt_of_contiguous (fun _ => not_carries_none_of_decides decides)
            (contiguous_of_decides decides) other

/-- The same for a whole stack. -/
theorem stampedClientRange_outcome (layers : List Layer) :
    (∃ range : ClientRange, stampedClientRange layers = .ok range ∧
        range.Decides layers ∧ range.stop ≤ layers.length) ∨
      ∃ fault, stampedClientRange layers = .error fault ∧ LowestFault layers fault := by
  have nothingSeen : ClientRange.empty.Decides [] := by
    intro z layer present
    cases present
  exact scanClientRange_outcome layers [] .empty nothingSeen (Nat.le_refl 0)

/-- The range read off a stack decides it. -/
theorem decides_of_stampedClientRange {layers : List Layer} {range : ClientRange}
    (read : stampedClientRange layers = .ok range) :
    range.Decides layers ∧ range.stop ≤ layers.length := by
  rcases stampedClientRange_outcome layers with ⟨found, same, decides⟩ | ⟨fault, failed, _⟩
  · rw [read] at same
    cases same
    exact decides
  · rw [read] at failed
    cases failed

/-- Some range decides a stack exactly if every layer is decided and the client layers lie side by
side. -/
theorem exists_decides_iff_contiguous {layers : List Layer} :
    (∃ range : ClientRange, range.Decides layers) ↔
      (∀ z, ¬ Carries layers none z) ∧ Contiguous layers := by
  constructor
  · rintro ⟨range, decides⟩
    exact ⟨fun _ => not_carries_none_of_decides decides, contiguous_of_decides decides⟩
  · rintro ⟨decided, contiguous⟩
    rcases stampedClientRange_outcome layers with
      ⟨range, _, decides, _⟩ | ⟨fault, _, z, faulty, _⟩
    · exact ⟨range, decides⟩
    · exact absurd faulty (not_faultAt_of_contiguous decided contiguous fault)

/-! ### What the checker accepts -/

/-- Some range decides a stack exactly if the checker looks in vain for undecided layers and for
device layers between client layers. -/
theorem exists_decides_iff_of_positions {layers : List Layer} :
    (∃ range : ClientRange, range.Decides layers) ↔
      positions (·.decision.isNone) layers = [] ∧ splitPositions layers = [] := by
  have allDecided : positions (·.decision.isNone) layers = [] ↔
      ∀ z, ¬ Carries layers none z := by
    simp only [List.eq_nil_iff_forall_not_mem, mem_positions_iff, Option.isNone_iff_eq_none,
      Carries]
  rw [exists_decides_iff_contiguous, allDecided]
  refine and_congr_right fun decided => ?_
  rw [contiguous_iff_not_splits decided, List.eq_nil_iff_forall_not_mem]
  simp only [mem_splitPositions_iff_splits decided]

/-- The checker names an undecided layer or a gap exactly if no range decides the stack. -/
theorem exists_gap_iff_not_decides (snapshot : Snapshot) (classifier : Classifier) :
    (∃ z, .unplanned z ∈ violations snapshot classifier ∨
        .splitClientRange z ∈ violations snapshot classifier) ↔
      ¬ ∃ range : ClientRange, range.Decides snapshot.layers := by
  rw [exists_decides_iff_of_positions, violations]
  cases undecided : positions (·.decision.isNone) snapshot.layers with
  | nil =>
      simp only [List.isEmpty_nil, if_true, true_and]
      constructor
      · rintro ⟨z, reported⟩ unbroken
        rw [unbroken] at reported
        split at reported <;> simp at reported
      · intro broken
        obtain ⟨z, member⟩ := List.exists_mem_of_ne_nil _ broken
        exact ⟨z, Or.inr (by simp [member])⟩
  | cons z others => simp

/-- The checker of a decided stack reports its planes exactly if they are too many. -/
theorem overBudget_mem_violations_iff {range : ClientRange} {snapshot : Snapshot}
    (decides : range.Decides snapshot.layers) (classifier : Classifier)
    {required available : Nat} :
    .overBudget required available ∈ violations snapshot classifier ↔
      snapshot.usablePlanes < planesInUse snapshot.layers ∧
        required = planesInUse snapshot.layers ∧ available = snapshot.usablePlanes := by
  rw [violations, positions_isNone_of_decides decides]
  by_cases excess : snapshot.usablePlanes < planesInUse snapshot.layers
  · simp [excess]
  · simp [excess]

/-! ### Plans of arbitrary stacks -/

namespace Plan

/-- Whatever its items were, a plan takes over the items around the range that decides a stack. -/
theorem renew_of_decides {range : ClientRange} {snapshot : Snapshot}
    (decides : range.Decides snapshot.layers) (plan : Plan) :
    plan.renew snapshot =
      (.ok (),
        { plan with
          items := itemsAround (range.below snapshot.layers.length) snapshot.layers }) := by
  rw [renew, stampedClientRange_of_decides decides]

theorem renew_eq_ok_iff (plan : Plan) (snapshot : Snapshot) :
    (plan.renew snapshot).1 = .ok () ↔ ∃ range : ClientRange, range.Decides snapshot.layers := by
  constructor
  · intro succeeded
    rw [renew] at succeeded
    cases read : stampedClientRange snapshot.layers with
    | ok range => exact ⟨range, (decides_of_stampedClientRange read).1⟩
    | error fault =>
        rw [read] at succeeded
        cases succeeded
  · rintro ⟨range, decides⟩
    rw [renew_of_decides decides]

/-- A stack is refused as a plan exactly if the checker finds an undecided layer or a gap in it.
The planes of any other stack are counted alike by the plan, the checker and a tester that is asked
about the plan's client range. -/
theorem plane_counts_agree (plan : Plan) (snapshot : Snapshot) (classifier : Classifier) :
    ((∃ fault, (plan.renew snapshot).1 = .error fault) ↔
        ∃ z, .unplanned z ∈ violations snapshot classifier ∨
          .splitClientRange z ∈ violations snapshot classifier) ∧
      ((plan.renew snapshot).1 = .ok () → ∀ planes,
        let renewed := (plan.renew snapshot).2
        let offered := { snapshot with usablePlanes := planes }
        (renewed.fits planes = true ↔
            ∀ required available,
              .overBudget required available ∉ violations offered classifier) ∧
          (renewed.fits planes = true ↔
            (PlaneCap.test snapshot (renewed.clientRange.getD .empty) { planes }).1 = true) ∧
          ∀ required available, .overBudget required available ∈ violations offered classifier →
            required = renewed.planeCount ∧ available = planes) := by
  constructor
  · rw [exists_gap_iff_not_decides, ← renew_eq_ok_iff plan]
    cases (plan.renew snapshot).1 with
    | ok done => simp
    | error fault => simp
  · intro succeeded planes renewed offered
    obtain ⟨range, decides⟩ := (renew_eq_ok_iff plan snapshot).mp succeeded
    have within := ClientRange.stop_below_le range snapshot.layers.length
    have renewedEq : renewed = _ := congrArg Prod.snd (renew_of_decides decides plan)
    have counted : renewed.planeCount = planesInUse snapshot.layers := by
      rw [renewedEq, planeCount, planes_itemsAround within,
        planesAround_of_decides decides.below within]
    have read : renewed.clientRange.getD .empty = range.below snapshot.layers.length := by
      rw [renewedEq, clientRange_eq, findSome?_itemsAround within]
      split
      · next vacant =>
          rw [ClientRange.isEmpty_iff, ClientRange.size_below] at vacant
          rw [ClientRange.below, ClientRange.ofBounds_of_le (by omega)]
          rfl
      · rfl
    have decidesOffered : range.Decides offered.layers := decides
    have reported {required available : Nat} :
        .overBudget required available ∈ violations offered classifier ↔ _ :=
      overBudget_mem_violations_iff decidesOffered classifier
    refine ⟨?_, ?_, ?_⟩
    · rw [fits, counted, decide_eq_true_eq]
      constructor
      · intro enough required available excess
        exact Nat.not_lt_of_le enough (reported.mp excess).1
      · intro silent
        exact Nat.le_of_not_lt fun excess => silent _ _ (reported.mpr ⟨excess, rfl, rfl⟩)
    · rw [read]
      simp [fits, counted, PlaneCap.test, planesAround_of_decides decides.below within]
    · intro required available excess
      rw [counted]
      exact (reported.mp excess).2

/-- A device layer below two client layers, one of them video, and a video layer on top: four planes
in all, however they are counted. -/
theorem plane_counts_agree_on_merged_video :
    let layer : Layer := { frame := ⟨0, 0, 4, 4⟩, decision := some .device }
    let merged : Layer := { layer with decision := some .client }
    let frame : Snapshot := .ofLayers
      [layer, merged, { merged with isVideo := true }, { layer with isVideo := true }] 3
    let renewed := ((Plan.new ⟨0⟩).renew frame).2
    renewed.clientRange = some ⟨1, 2⟩ ∧
      .overBudget 4 3 ∈ violations frame (PlaneRules.forcesClient {}) ∧
      renewed.planeCount = 4 ∧ renewed.fits 3 = false ∧
      (PlaneCap.test frame ⟨1, 2⟩ { planes := 3 }).1 = false := by
  intro layer merged frame renewed
  have made : ((Plan.new ⟨0⟩).renew frame).1 = .ok () := rfl
  obtain ⟨checked, tested, counted⟩ :=
    (plane_counts_agree (.new ⟨0⟩) frame (PlaneRules.forcesClient {})).2 made 3
  have merges : renewed.clientRange = some ⟨1, 2⟩ := by decide
  have reported : .overBudget 4 3 ∈ violations frame (PlaneRules.forcesClient {}) := by decide
  have tooMany : renewed.fits 3 = false := by
    rw [← Bool.not_eq_true, checked]
    exact fun silent => silent 4 3 reported
  refine ⟨merges, reported, (counted 4 3 reported).1.symm, tooMany, ?_⟩
  rw [← Bool.not_eq_true]
  intro accepted
  rw [merges] at tested
  have fits := tested.mpr accepted
  rw [tooMany] at fits
  cases fits

end Plan

end Scanout
