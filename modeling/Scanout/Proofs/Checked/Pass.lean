/-
Module: Scanout.Proofs.Checked.Pass
Purpose: A pass carried out on machine words, with a check of every condition that one of its steps
  relies on, has the outcome of the pass on natural numbers: no step of it can fail.
Imports: Scanout.Proofs.Checked.Budget, Scanout.Proofs.Pass.Equations
Main exports: Snapshot.stampChecked_eq, Planner.selectChecked_eq, Planner.passChecked,
  Planner.passChecked_eq_ok
-/
import Scanout.Proofs.Checked.Budget
import Scanout.Proofs.Pass.Equations

namespace Scanout

/-! ### Stamping -/

/-- Stamp some layers, the first of which has position `z`. -/
def stampFromChecked (client : ClientRange) : (z : Nat) → List Layer → Checked (List Layer)
  | _, [] => return []
  | z, layer :: layers => do
      let inClient ← client.containsChecked z
      return layer.stamp inClient :: (← stampFromChecked client (z + 1) layers)

theorem stampFromChecked_eq {client : ClientRange} (inside : client.stop ≤ Word.max64)
    (z : Nat) (layers : List Layer) :
    stampFromChecked client z layers =
      .ok (layers.mapIdx fun i layer => layer.stamp (client.contains (i + z))) := by
  induction layers generalizing z with
  | nil => rfl
  | cons layer layers inductionHypothesis =>
      simp [stampFromChecked, ClientRange.containsChecked_eq inside, inductionHypothesis,
        List.mapIdx_cons, Nat.add_assoc, Nat.add_comm 1 z]

namespace Snapshot

def stampChecked (snapshot : Snapshot) (client : ClientRange) : Checked Snapshot :=
  return { snapshot with layers := ← stampFromChecked client 0 snapshot.layers }

theorem stampChecked_eq (snapshot : Snapshot) {client : ClientRange}
    (inside : client.stop ≤ Word.max64) :
    snapshot.stampChecked client = .ok (snapshot.stamp client) := by
  simp [stampChecked, stampFromChecked_eq inside, stamp, stampLayers]

/-- Stamping again overwrites what was stamped. -/
theorem stamp_stamp (snapshot : Snapshot) (first second : ClientRange) :
    (snapshot.stamp first).stamp second = snapshot.stamp second := by
  simp [stamp, stampLayers, Function.comp_def]

end Snapshot

namespace Planner

/-! ### Selection -/

def fitChecked (snapshot : Snapshot) (video : Option DeviceRange) (needed : ClientRange)
    (read : CheckedCost) : Checked BudgetFit :=
  match video with
  | some device =>
      fitAroundVideoChecked snapshot.layerCount snapshot.usablePlanes needed device read
  | none =>
      return { range := ← fitToPlanesChecked snapshot.layerCount snapshot.usablePlanes needed read }

/-- The range found has to cover the one that was asked for. -/
def selectChecked (planner : Planner) (snapshot : Snapshot) (video : Option DeviceRange)
    (read : CheckedCost) : Checked Selection :=
  match planner.strategy with
  | .clientOnly => return .everything
  | .generic =>
      if snapshot.flattenable then return .flattened
      else do
        let needed ← spanningRangeChecked (planner.classifier snapshot) snapshot.layers
        let fit ← fitChecked snapshot video needed read
        Checked.require (← fit.range.coversChecked needed)
        return .fitted needed fit

section Selection

variable {snapshot : Snapshot}

theorem fitChecked_eq (room : snapshot.layerCount < Word.max64) (video : Option DeviceRange)
    {needed : ClientRange} (inside : needed.stop ≤ snapshot.layerCount) :
    fitChecked snapshot video needed (CostTable.ofLayers snapshot.layers).windowChecked =
      .ok (fit snapshot video needed) := by
  have reads := CostTable.windowChecked_reads room
  cases video with
  | none => simp [fitChecked, fit, fitToPlanesChecked_eq reads _ room inside]
  | some device => exact fitAroundVideoChecked_eq reads _ device room inside

theorem selectChecked_eq (planner : Planner) (room : snapshot.layerCount < Word.max64)
    (video : Option DeviceRange) :
    planner.selectChecked snapshot video (CostTable.ofLayers snapshot.layers).windowChecked =
      .ok (planner.select snapshot video) := by
  rcases planner.select_cases snapshot video with
    ⟨strategy, selected⟩ | ⟨strategy, still, selected⟩ | ⟨strategy, moving, selected⟩
  · rw [selected, selectChecked, strategy]
    rfl
  · rw [selected, selectChecked, strategy]
    simp [still]
  · have inside := planner.stop_needed_le snapshot
    have spanned : spanningRangeChecked (planner.classifier snapshot) snapshot.layers =
        .ok (planner.needed snapshot) := spanningRangeChecked_eq _ room
    have fitted := fitChecked_eq room video inside
    have small := Nat.le_of_lt room
    obtain ⟨within, covering⟩ := fit_within_covers inside video
    have covered := ClientRange.coversChecked_eq (Nat.le_trans within small)
      (Nat.le_trans inside small)
    rw [covering] at covered
    rw [selected, selectChecked, strategy]
    simp [moving, spanned, fitted, covered, Checked.require_of_true]

end Selection

/-! ### The pass -/

section Pass

variable {σ : Type}

/-- Ask the tester, if there is one, about a stamped frame. -/
def consultStamped (tester : Option (CommitTester σ)) (stamped : Snapshot) (client : ClientRange)
    (state : σ) : Option Bool × σ :=
  match tester with
  | none => (none, state)
  | some test =>
      if client.isWhole stamped.layerCount then (none, state)
      else
        let (accepted, state) := test stamped client state
        (some accepted, state)

theorem consultStamped_stamp (tester : Option (CommitTester σ)) (snapshot : Snapshot)
    (client : ClientRange) (state : σ) :
    consultStamped tester (snapshot.stamp client) client state =
      consult tester snapshot client state := by
  cases tester with
  | none => rfl
  | some test => simp only [consultStamped, consult, Snapshot.layerCount_stamp]

/-- A frame that the tester has rejected is stamped once more. -/
def restampChecked (stamped : Snapshot) (verdict : Option Bool) (client : ClientRange) :
    Checked Snapshot :=
  if verdict = some false then stamped.stampChecked client else return stamped

theorem restampChecked_eq (snapshot : Snapshot) {selected : ClientRange} {verdict : Option Bool}
    (inside : (settledRange snapshot.layerCount selected verdict).stop ≤ Word.max64) :
    restampChecked (snapshot.stamp selected) verdict
        (settledRange snapshot.layerCount selected verdict) =
      .ok (snapshot.stamp (settledRange snapshot.layerCount selected verdict)) := by
  rw [restampChecked]
  split
  · rw [Snapshot.stampChecked_eq _ inside, Snapshot.stamp_stamp]
  · next kept => rw [settledRange, if_neg kept, Checked.pure_eq_ok]

/-- One planning pass on machine words.  The cost table is made once; the frame is stamped before
the tester sees it, and stamped again if the tester says no. -/
def passChecked (planner : Planner) (tester : Option (CommitTester σ))
    (video : Option DeviceRange) (display : Display) (snapshot : Snapshot) (state : σ) :
    Checked (Pass σ) :=
  if snapshot.unsupported then
    return {
      result := .unsupported
      display := display.beginPass
      snapshot
      tester := state
      events := inFrame display.passes
        (opening display.id snapshot ++ [.summary (refusal display.id snapshot)]) }
  else do
    let cost ← CostTable.ofLayersChecked snapshot.layers
    let selection ← planner.selectChecked snapshot video cost.windowChecked
    let selected := selection.client snapshot.layerCount
    let stamped ← snapshot.stampChecked selected
    let (verdict, state) := consultStamped tester stamped selected state
    let client := settledRange snapshot.layerCount selected verdict
    let settled ← restampChecked stamped verdict client
    let outcome : PassSummary :=
      { display := display.id
        result := if client.isEmpty then .none else .hasChanges
        client
        layerCount := Word.clamp32 snapshot.layerCount
        flattened := selection.isFlattened
        gpuPixels := ← cost.windowChecked client.start client.size
        allPixels := cost.total }
    return {
      result := outcome.result
      display :=
        { display.beginPass with stats := countPass selection verdict outcome display.stats }
      snapshot := settled
      tester := state
      events := inFrame display.passes
        (opening display.id snapshot ++ selection.report ++
          (verdict.map EventBody.commitTest).toList ++
          [.state .stamped, .decisions (stampedLayers settled.layers), .summary outcome]) }

/-- No step of a pass fails, whatever the frames of the layers are, however many planes there are,
and whichever run is to be reserved: the checks never change the outcome. -/
theorem passChecked_eq_ok (planner : Planner) (tester : Option (CommitTester σ))
    (video : Option DeviceRange) (display : Display) {snapshot : Snapshot}
    (room : snapshot.layerCount < Word.max64) (state : σ) :
    planner.passChecked tester video display snapshot state =
      .ok (planner.pass tester video display snapshot state) := by
  cases supported : snapshot.unsupported with
  | true =>
      rw [passChecked, if_pos supported, pass_of_unsupported display supported]
      rfl
  | false =>
      rcases consulted : consult tester snapshot
        ((planner.select snapshot video).client snapshot.layerCount) state with ⟨verdict, after⟩
      have small := Nat.le_of_lt room
      have selectedInside := Nat.le_trans (planner.stop_client_select_le snapshot video) small
      have settledInside := Nat.le_trans (planner.stop_settledRange_le snapshot video verdict) small
      rw [passChecked, if_neg (ne_true_of_eq_false supported),
        pass_of_supported display supported rfl consulted]
      simp only [CostTable.ofLayersChecked_eq room, selectChecked_eq planner room video,
        snapshot.stampChecked_eq selectedInside, consultStamped_stamp, consulted,
        restampChecked_eq snapshot settledInside, CostTable.windowChecked_eq room, Checked.ok_bind]
      rfl

/-- Four layers on three planes, one of them upside down, the others as large as edges allow, and a
video run that ends past the largest word.  The run is given up, the grown range is rejected, and
the whole stack is merged at more pixels than a word counts. -/
theorem passChecked_eq_ok_on_extreme_frame :
    let wide : Layer :=
      { frame := ⟨Int32.minValue, Int32.minValue, Int32.maxValue, Int32.maxValue⟩ }
    let inverted : Layer :=
      { frame := ⟨Int32.maxValue, Int32.maxValue, Int32.minValue, Int32.minValue⟩ }
    let frame := Snapshot.ofLayers [wide, inverted, { wide with planeUsable := false }, wide] 3
    frame.layerCount < Word.max64 ∧
      ∃ passed, (ofConfig {}).passChecked (some PlaneCap.test) (some ⟨Word.max64, Word.max64⟩)
          (.new ⟨0⟩) frame { planes := 1 } = .ok passed ∧
        passed.display.stats.fallbacks = 1 ∧ passed.display.stats.rejectedPlans = 1 ∧
        passed.display.stats.gpuPixels = Word.max64 := by
  intro wide inverted frame
  have room : frame.layerCount < Word.max64 := by decide
  exact ⟨room, _, passChecked_eq_ok (ofConfig {}) (some PlaneCap.test)
    (some ⟨Word.max64, Word.max64⟩) (.new ⟨0⟩) room { planes := 1 }, by decide, by decide,
    by decide⟩

end Pass

end Planner

end Scanout
