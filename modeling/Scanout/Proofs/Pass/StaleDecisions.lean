/-
Module: Scanout.Proofs.Pass.StaleDecisions
Purpose: A pass reads nothing that an earlier pass has left behind: neither the decisions in the
  layers nor what the display has counted and remembered.
Imports: Scanout.Proofs.Pass.Equations
Main exports: Snapshot.forgetDecisions, Classifier.IgnoresDecisions, Stateless, Stats.Grows,
  Pass.Leaves, Planner.pass_forgetDecisions, Planner.pass_leaves, Planner.pass_ignores_history
-/
import Scanout.Proofs.Pass.Equations

namespace Scanout

/-! ### Frames without decisions -/

/-- The frame as if no pass had seen it. -/
def Snapshot.forgetDecisions (snapshot : Snapshot) : Snapshot :=
  { snapshot with layers := snapshot.layers.map Layer.forgetDecision }

/-- The classifier reads no decision. -/
def Classifier.IgnoresDecisions (classifier : Classifier) : Prop :=
  ∀ snapshot layer,
    classifier (Snapshot.forgetDecisions snapshot) layer.forgetDecision = classifier snapshot layer

theorem PlaneRules.ignoresDecisions (rules : PlaneRules) :
    Classifier.IgnoresDecisions rules.forcesClient :=
  fun _ _ => rfl

/-- The answer of the tester depends on the stamped frame and the range alone. -/
def Stateless {σ : Type} (test : CommitTester σ) : Prop :=
  ∀ snapshot client state other, (test snapshot client state).1 = (test snapshot client other).1

/-- Between two moments every counter grew by its part of `added`, and stopped where it got full.
Counters are words. -/
structure Stats.Grows (before after added : Stats) : Prop where
  frames : before.frames ≤ Word.max64 → after.frames = Word.satAdd before.frames added.frames
  flattened : before.flattened ≤ Word.max64 →
    after.flattened = Word.satAdd before.flattened added.flattened
  gpuPixels : before.gpuPixels ≤ Word.max64 →
    after.gpuPixels = Word.satAdd before.gpuPixels added.gpuPixels
  allPixels : before.allPixels ≤ Word.max64 →
    after.allPixels = Word.satAdd before.allPixels added.allPixels
  rejectedPlans : before.rejectedPlans ≤ Word.max64 →
    after.rejectedPlans = Word.satAdd before.rejectedPlans added.rejectedPlans
  fallbacks : before.fallbacks ≤ Word.max64 →
    after.fallbacks = Word.satAdd before.fallbacks added.fallbacks

/-- What a pass on `display` leaves behind, apart from what the display had before: its result, the
stamped frame and what it reports.  The counters grow by what these reports add up to. -/
structure Pass.Leaves {σ : Type} (passed : Pass σ) (display : Display) (result : PassResult)
    (stamped : Snapshot) (bodies : List TraceBody) : Prop where
  result : passed.result = result
  snapshot : passed.snapshot = stamped
  events : passed.events = Planner.inFrame display.passes bodies
  counted :
    display.stats.Grows passed.display.stats (Stats.ofTrace (Planner.inFrame 0 bodies))
  passes : passed.display.passes = Word.satAdd display.passes 1

namespace Snapshot

variable (snapshot : Snapshot)

@[simp] theorem layerCount_forgetDecisions :
    snapshot.forgetDecisions.layerCount = snapshot.layerCount :=
  List.length_map _

@[simp] theorem unsupported_forgetDecisions :
    snapshot.forgetDecisions.unsupported = snapshot.unsupported :=
  List.any_map

/-- Stamping overwrites whatever decisions there were. -/
@[simp] theorem stamp_forgetDecisions (client : ClientRange) :
    snapshot.forgetDecisions.stamp client = snapshot.stamp client := by
  have layers : stampLayers client (snapshot.layers.map Layer.forgetDecision) =
      stampLayers client snapshot.layers := by
    apply List.ext_getElem?
    intro z
    rw [getElem?_stampLayers, getElem?_stampLayers, List.getElem?_map, Option.map_map]
    rfl
  simp only [stamp, forgetDecisions, layers]

@[simp] theorem forgetDecisions_stamp (client : ClientRange) :
    (snapshot.stamp client).forgetDecisions = snapshot.forgetDecisions := by
  simp only [stamp, forgetDecisions, map_stampLayers Layer.forgetDecision fun _ _ => rfl]

/-- Pixel costs depend on frames alone. -/
@[simp] theorem ofLayers_forgetDecisions :
    CostTable.ofLayers snapshot.forgetDecisions.layers = CostTable.ofLayers snapshot.layers := by
  simp only [CostTable.ofLayers, forgetDecisions, List.map_map]
  rfl

end Snapshot

/-- The scan reads layers through the classifier only. -/
theorem extendByMarked_map (marked : Layer → Bool) (change : Layer → Layer) (layers : List Layer) :
    ∀ found z, extendByMarked marked found z (layers.map change) =
      extendByMarked (fun layer => marked (change layer)) found z layers := by
  induction layers with
  | nil => exact fun _ _ => rfl
  | cons layer layers inductionHypothesis => exact fun _ _ => inductionHypothesis _ _

namespace Planner

/-! ### One frame, with and without decisions -/

section Decisions

variable {planner : Planner} (blind : planner.classifier.IgnoresDecisions) (snapshot : Snapshot)

include blind

theorem needed_forgetDecisions :
    planner.needed snapshot.forgetDecisions = planner.needed snapshot := by
  rw [needed, needed, spanningRange, Snapshot.forgetDecisions, extendByMarked_map]
  congr 1
  funext layer
  exact blind snapshot layer

theorem select_forgetDecisions (video : Option DeviceRange) :
    planner.select snapshot.forgetDecisions video = planner.select snapshot video := by
  have fitted (range : ClientRange) :
      fit snapshot.forgetDecisions video range = fit snapshot video range := by
    simp only [fit, Snapshot.layerCount_forgetDecisions, Snapshot.ofLayers_forgetDecisions]
    rfl
  rcases planner.select_cases snapshot video with
    ⟨clientOnly, selected⟩ | ⟨generic, still, selected⟩ | ⟨generic, moving, selected⟩
  · rw [selected, select, clientOnly]
  · rw [selected, select, generic]
    exact if_pos still
  · have alsoMoving : snapshot.forgetDecisions.flattenable = false := moving
    rw [selected, select_generic generic alsoMoving, needed_forgetDecisions blind, fitted]

/-- A pass does not see what is not there: without decisions it ends the same. -/
theorem pass_forgetDecisions {σ : Type} (tester : Option (CommitTester σ))
    (video : Option DeviceRange) (display : Display)
    (supported : snapshot.unsupported = false) (state : σ) :
    planner.pass tester video display snapshot.forgetDecisions state =
      planner.pass tester video display snapshot state := by
  have selected := select_forgetDecisions blind snapshot video
  have consulted (client : ClientRange) :
      consult tester snapshot.forgetDecisions client state =
        consult tester snapshot client state := by
    simp only [consult, Snapshot.layerCount_forgetDecisions, Snapshot.stamp_forgetDecisions]
  have supportedToo : snapshot.forgetDecisions.unsupported = false := by
    rw [Snapshot.unsupported_forgetDecisions, supported]
  rw [pass_of_supported display supported rfl rfl, pass_of_supported display supportedToo selected
    (consulted _)]
  simp only [conclusion, reports, opening, Snapshot.layerCount_forgetDecisions,
    Snapshot.stamp_forgetDecisions, Snapshot.ofLayers_forgetDecisions]
  rfl

end Decisions

/-! ### One frame on two displays -/

/-- A completed pass adds to the counters what its reports add up to. -/
theorem grows_countPass (frame : Nat) (id : DisplayId) (snapshot : Snapshot)
    (selection : Selection) (verdict : Option Bool) (client : ClientRange) (stats : Stats) :
    stats.Grows
      (countPass selection verdict (conclusion id snapshot selection.isFlattened client) stats)
      (Stats.ofTrace (inFrame frame (reports id snapshot selection verdict client))) := by
  rw [ofTrace_reports, countPass_eq]
  refine ⟨fun _ => rfl, ?flattened, fun _ => rfl, fun _ => rfl, ?rejectedPlans, ?fallbacks⟩
  case flattened =>
    intro word
    cases selection.isFlattened with
    | true => rfl
    | false => exact (Word.satAdd_zero word).symm
  case rejectedPlans =>
    intro word
    rcases verdict with _ | _ | _
    · exact (Word.satAdd_zero word).symm
    · rfl
    · exact (Word.satAdd_zero word).symm
  case fallbacks =>
    intro word
    cases selection.fallback.isSome with
    | true => rfl
    | false => exact (Word.satAdd_zero word).symm

section Displays

variable {σ : Type} {planner : Planner} {tester : Option (CommitTester σ)}

/-- A tester that depends on nothing else gives the same verdict in all its states. -/
theorem verdict_of_stateless (stateless : ∀ test, tester = some test → Stateless test)
    (snapshot : Snapshot) (client : ClientRange) (state other : σ) :
    (consult tester snapshot client state).1 = (consult tester snapshot client other).1 := by
  cases tester with
  | none => rfl
  | some test =>
      rcases consult_cases test snapshot client state with ⟨whole, asked⟩ | ⟨partly, asked⟩
      · rw [asked, consult, if_pos whole]
      · rw [asked, consult, if_neg partly]
        exact congrArg some (stateless test rfl _ _ _ _)

/-- What a pass over a supported frame leaves behind is settled by the frame, the display's name
and the verdict. -/
theorem pass_leaves {video : Option DeviceRange} {snapshot : Snapshot} {state : σ}
    {display : Display} {id : DisplayId} (named : display.id = id)
    (supported : snapshot.unsupported = false) {verdict : Option Bool}
    (judged : (consult tester snapshot
      ((planner.select snapshot video).client snapshot.layerCount) state).1 = verdict) :
    let selection := planner.select snapshot video
    let client := settledRange snapshot.layerCount (selection.client snapshot.layerCount) verdict
    let bodies := reports id snapshot selection verdict client
    (planner.pass tester video display snapshot state).Leaves display
      (conclusion id snapshot selection.isFlattened client).result (snapshot.stamp client)
      bodies := by
  subst named judged
  rw [pass_of_supported display supported rfl rfl]
  exact ⟨rfl, rfl, rfl, grows_countPass .., rfl⟩

end Displays

/-- Nothing that earlier passes left behind has a bearing on a pass.  Two frames that differ in the
decisions of their layers only, on two displays that share nothing but their name, get the same
result, the same stamps and the same reports, and each counter grows by what these reports add up
to.  A frame that has been stamped is stamped the same again. -/
theorem pass_ignores_history {σ : Type} (strategy : Strategy) (rules : PlaneRules)
    {tester : Option (CommitTester σ)} (stateless : ∀ test, tester = some test → Stateless test)
    (video : Option DeviceRange) {first second : Snapshot}
    (plain : ∀ layer ∈ first.layers, layer.hint ≠ .displayDecoration)
    (sameInputs : first.forgetDecisions = second.forgetDecisions) {display other : Display}
    (sameId : display.id = other.id) (state otherState : σ) :
    let planner : Planner := { strategy, classifier := rules.forcesClient }
    ∃ result stamped bodies,
      (planner.pass tester video display first state).Leaves display result stamped bodies ∧
        (planner.pass tester video other second otherState).Leaves other result stamped bodies ∧
        ∀ (later : Display) (laterState : σ),
          (planner.pass tester video later stamped laterState).snapshot = stamped := by
  intro planner
  have blind : planner.classifier.IgnoresDecisions := rules.ignoresDecisions
  have supported := Snapshot.supported_iff.mpr plain
  -- Passes over frames with the same inputs are passes over one frame without decisions.
  have cleared {frame : Snapshot} (inputs : frame.forgetDecisions = first.forgetDecisions)
      (shown : Display) (now : σ) :
      planner.pass tester video shown frame now = planner.pass tester video shown first now := by
    have frameSupported : frame.unsupported = false := by
      rw [← Snapshot.unsupported_forgetDecisions, inputs, Snapshot.unsupported_forgetDecisions,
        supported]
    rw [← pass_forgetDecisions blind frame tester video shown frameSupported, inputs,
      pass_forgetDecisions blind first tester video shown supported]
  have judged (now : σ) := verdict_of_stateless stateless first
    ((planner.select first video).client first.layerCount) now state
  refine ⟨_, _, _, pass_leaves sameId supported (judged state), ?_, ?_⟩
  · rw [cleared sameInputs.symm]
    exact pass_leaves rfl supported (judged otherState)
  · intro later laterState
    rw [cleared (first.forgetDecisions_stamp _)]
    exact (pass_leaves rfl supported (judged laterState)).snapshot

/-- A tester that counts its calls and drives two planes; a frame with a layer that needs the GPU,
once fresh and once with decisions that no pass would make; a new display and a busy one, whose
counter of GPU pixels is full. -/
theorem pass_ignores_history_on_misleading_decisions :
    let test : CommitTester Nat := fun stamped client asked =>
      (planesAround stamped.layers client ≤ 2, asked + 1)
    let plain : Layer := { frame := ⟨0, 0, 4, 4⟩ }
    let scaled : Layer := { plain with planeUsable := false }
    let fresh : Snapshot := .ofLayers [plain, scaled, plain] 3
    let stale : Snapshot := .ofLayers [plain.stamp true, scaled.stamp false, plain.stamp true] 3
    let busy : Display :=
      { id := ⟨7⟩, stats := { frames := 9, gpuPixels := Word.max64 }, flattening := .disabled
        passes := 41 }
    let one := (ofConfig {}).passTested test none (.new ⟨7⟩) fresh 0
    let two := (ofConfig {}).passTested test none busy stale 5
    let added : Stats := { frames := 1, gpuPixels := 48, allPixels := 48, rejectedPlans := 1 }
    fresh.forgetDecisions = stale.forgetDecisions ∧ one.result = two.result ∧
      one.snapshot = two.snapshot ∧ one.events.map Event.body = two.events.map Event.body ∧
      Stats.Grows {} one.display.stats added ∧ busy.stats.Grows two.display.stats added ∧
      one.display.stats = added ∧
      two.display.stats =
        { frames := 10, gpuPixels := Word.max64, allPixels := 48, rejectedPlans := 1 } := by
  intro test plain scaled fresh stale busy one two added
  have stateless : ∀ chosen, some test = some chosen → Stateless chosen := by
    rintro _ ⟨⟩ _ _ _ _
    rfl
  have sameInputs : fresh.forgetDecisions = stale.forgetDecisions := by decide
  have sameId : (Display.new ⟨7⟩).id = busy.id := rfl
  obtain ⟨_, _, bodies, first, second, _⟩ :=
    pass_ignores_history .generic {} stateless none (by decide) sameInputs sameId 0 5
  have sum : Stats.ofTrace (inFrame 0 bodies) = added := by
    calc Stats.ofTrace (inFrame 0 bodies) = Stats.ofTrace one.events := by
          rw [show one.events = _ from first.events]
          rfl
      _ = added := by decide
  refine ⟨sameInputs, first.result.trans second.result.symm,
    first.snapshot.trans second.snapshot.symm, ?told, sum ▸ first.counted, sum ▸ second.counted,
    by decide, by decide⟩
  case told =>
    rw [show one.events = _ from first.events, show two.events = _ from second.events, inFrame,
      inFrame, List.map_map, List.map_map]
    rfl

end Planner

end Scanout
