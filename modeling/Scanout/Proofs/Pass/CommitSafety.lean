/-
Module: Scanout.Proofs.Pass.CommitSafety
Purpose: With a tester that counts planes, a pass leaves a plan that fits whatever was selected, and
  counts the tester's rejections.
Imports: Scanout.Proofs.PlaneCounts, Scanout.Proofs.Pass.Equations
Main exports: planesInUse_stampLayers_whole_le, Planner.passTested_planeCap_cases
-/
import Scanout.Proofs.PlaneCounts
import Scanout.Proofs.Pass.Equations

namespace Scanout

/-- A stack that is client as a whole takes the plane of the client target at most. -/
theorem planesInUse_stampLayers_whole_le (layers : List Layer) :
    planesInUse (stampLayers (ClientRange.whole layers.length) layers) ≤ 1 := by
  have decides := decides_stampLayers (ClientRange.whole layers.length) layers
  have noneOutside : (stampLayers (ClientRange.whole layers.length) layers).filter
      (fun layer => !layer.isClient) = [] := by
    rw [List.filter_eq_nil_iff]
    intro layer member device
    obtain ⟨z, present⟩ := List.getElem?_of_mem member
    have inStack := (List.getElem?_eq_some_iff.mp present).1
    rw [length_stampLayers] at inStack
    rw [(decides.isClient_iff present).mpr (ClientRange.whole_contains_iff.mpr inStack)] at device
    cases device
  rw [planesInUse, noneOutside]
  simp only [List.map_nil, List.foldr_nil, Nat.zero_add]
  split
  · exact Nat.le_refl 1
  · exact Nat.zero_le 1

theorem PlaneCap.test_of_le {snapshot : Snapshot} {client : ClientRange} {limit : PlaneCap}
    (fits : planesAround snapshot.layers client ≤ limit.planes) :
    PlaneCap.test snapshot client limit = (true, { limit with tested := limit.tested + 1 }) := by
  simp only [PlaneCap.test, decide_eq_true fits, if_pos fits]

theorem PlaneCap.test_of_lt {snapshot : Snapshot} {client : ClientRange} {limit : PlaneCap}
    (excess : limit.planes < planesAround snapshot.layers client) :
    PlaneCap.test snapshot client limit =
      (false, { limit with tested := limit.tested + 1, rejected := limit.rejected + 1 }) := by
  simp only [PlaneCap.test, decide_eq_false (Nat.not_le_of_lt excess),
    if_neg (Nat.not_le_of_lt excess)]

namespace Planner

section PlaneCap

variable {planes : Nat}

/-- What a pass does with a fresh tester that drives `planes` planes: it does not ask about the
whole stack, keeps the selected range if that fits, and takes the whole stack if it does not. -/
theorem passTested_planeCap_cases {planner : Planner} {snapshot : Snapshot}
    (supported : snapshot.unsupported = false) (video : Option DeviceRange) (display : Display) :
    let selected := (planner.select snapshot video).client snapshot.layerCount
    let passed := planner.passTested PlaneCap.test video display snapshot { planes }
    (selected.isWhole snapshot.layerCount = true ∧
        passed.snapshot = snapshot.stamp selected ∧
        passed.tester = { planes } ∧
        passed.display.stats.rejectedPlans = display.stats.rejectedPlans) ∨
      (¬ selected.isWhole snapshot.layerCount = true ∧
        planesInUse (snapshot.stamp selected).layers ≤ planes ∧
        passed.snapshot = snapshot.stamp selected ∧
        passed.tester = { planes, tested := 1 } ∧
        passed.display.stats.rejectedPlans = display.stats.rejectedPlans) ∨
      (¬ selected.isWhole snapshot.layerCount = true ∧
        passed.snapshot = snapshot.stamp (ClientRange.whole snapshot.layerCount) ∧
        passed.tester = { planes, tested := 1, rejected := 1 } ∧
        passed.display.stats.rejectedPlans = Word.satAdd display.stats.rejectedPlans 1) := by
  intro selected passed
  have inside : selected.stop ≤ (snapshot.stamp selected).layers.length := by
    have same := Snapshot.layerCount_stamp snapshot selected
    rw [Snapshot.layerCount] at same
    rw [same]
    exact planner.stop_client_select_le snapshot video
  have counted : planesAround (snapshot.stamp selected).layers selected =
      planesInUse (snapshot.stamp selected).layers :=
    planesAround_of_decides (snapshot.decides_stamp selected) inside
  rcases consult_cases PlaneCap.test snapshot selected { planes } with
    ⟨everything, consulted⟩ | ⟨notWhole, consulted⟩
  · have settled := pass_supported display supported consulted
    exact Or.inl ⟨everything, settled⟩
  · by_cases fits : planesInUse (snapshot.stamp selected).layers ≤ planes
    · rw [PlaneCap.test_of_le (by rw [counted]; exact fits)] at consulted
      exact Or.inr (Or.inl ⟨notWhole, fits, pass_supported display supported consulted⟩)
    · rw [PlaneCap.test_of_lt (by rw [counted]; exact Nat.lt_of_not_le fits)] at consulted
      exact Or.inr (Or.inr ⟨notWhole, pass_supported display supported consulted⟩)

/-- A pass with a fresh tester is safe: the stamped frame is a plan that fits the tester's planes,
the display counts what the tester rejects, and the tester is asked once if some layer was to be
left on a plane, and else not at all. -/
theorem passTested_planeCap_safe (planner : Planner) (video : Option DeviceRange)
    (display : Display) (snapshot : Snapshot) (positive : 1 ≤ planes) :
    let selected := (planner.select snapshot video).client snapshot.layerCount
    let passed := planner.passTested PlaneCap.test video display snapshot { planes }
    (passed.result ≠ .unsupported →
        ∀ id, ∃ plan, Plan.ofSnapshot id passed.snapshot = .ok plan ∧ plan.fits planes = true) ∧
      (display.stats.rejectedPlans < Word.max64 →
        passed.display.stats.rejectedPlans =
          display.stats.rejectedPlans + passed.tester.rejected) ∧
      passed.tester.tested ≤ 1 ∧
      (passed.result ≠ .unsupported →
        (passed.tester.tested = 1 ↔
          ∃ z, z < snapshot.layerCount ∧ selected.contains z = false)) := by
  intro selected passed
  have oneEnough : planesInUse (snapshot.stamp (ClientRange.whole snapshot.layerCount)).layers ≤
      planes := Nat.le_trans (planesInUse_stampLayers_whole_le snapshot.layers) positive
  have partly := ClientRange.not_isWhole_iff_exists
    (planner.stop_client_select_le snapshot video)
  cases supported : snapshot.unsupported with
  | true =>
      obtain ⟨refused, _, unasked, uncounted⟩ :
          passed.result = .unsupported ∧ passed.snapshot = snapshot ∧
            passed.tester = { planes } ∧ passed.display.stats = display.stats :=
        pass_unsupported display supported
      rw [unasked, uncounted]
      exact ⟨fun accepted => absurd refused accepted, fun _ => rfl, Nat.zero_le 1,
        fun accepted => absurd refused accepted⟩
  | false =>
      rcases passTested_planeCap_cases supported video display with
        ⟨everything, stamped, asked, rejections⟩ | ⟨notWhole, fits, stamped, asked, rejections⟩ |
        ⟨notWhole, stamped, asked, rejections⟩
      · rw [stamped, ClientRange.eq_whole_of_isWhole everything, asked, rejections]
        refine ⟨fun _ => Plan.exists_fits_of_stamp oneEnough, fun _ => rfl, Nat.zero_le 1,
          fun _ => ?_⟩
        exact iff_of_false Nat.zero_ne_one fun outside => partly.mpr outside everything
      · rw [stamped, asked, rejections]
        refine ⟨fun _ => Plan.exists_fits_of_stamp fits, fun _ => rfl, Nat.le_refl 1, fun _ => ?_⟩
        exact iff_of_true rfl (partly.mp notWhole)
      · rw [stamped, asked, rejections]
        refine ⟨fun _ => Plan.exists_fits_of_stamp oneEnough, fun room => ?_, Nat.le_refl 1,
          fun _ => ?_⟩
        · exact Nat.min_eq_left room
        · exact iff_of_true rfl (partly.mp notWhole)

/-- Two video layers with a layer between them; all three together take five planes. -/
def separatedVideoFrame : Snapshot :=
  .ofLayers
    [{ frame := ⟨0, 0, 10, 10⟩, isVideo := true }, { frame := ⟨0, 0, 10, 10⟩ },
      { frame := ⟨0, 0, 10, 10⟩, isVideo := true }] 5

/-- A controller that drives four planes rejects the plan for five and gets one that fits. -/
theorem passTested_planeCap_safe_on_separated_video :
    let passed := (ofConfig {}).passTested PlaneCap.test none (.new ⟨0⟩) separatedVideoFrame
      { planes := 4 }
    (∀ id, ∃ plan, Plan.ofSnapshot id passed.snapshot = .ok plan ∧ plan.fits 4 = true) ∧
      passed.display.stats.rejectedPlans = 0 + passed.tester.rejected ∧
      passed.tester.rejected = 1 ∧ passed.tester.tested = 1 := by
  intro passed
  have positive : 1 ≤ 4 := by decide
  have safe := passTested_planeCap_safe (ofConfig {}) none (.new ⟨0⟩) separatedVideoFrame positive
  have accepted : passed.result ≠ .unsupported := by decide
  exact ⟨safe.1 accepted, safe.2.1 (by decide), by decide, (safe.2.2.2 accepted).mpr (by decide)⟩

end PlaneCap

end Planner

end Scanout
