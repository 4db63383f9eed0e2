/-
Module: Scanout.Proofs.Run.StillFrames
Purpose: Frames shown on a display one after the other: each is looked at by the display and then
  planned.  The frames that are counted as flattened are those that stand still.
Imports: Scanout.Proofs.Run.Counters
Main exports: Round, Round.playOn, Display.play, Round.Still, Round.CountsStill,
  Display.flattening_play, Display.exists_run_play, Planner.pass_of_still, Round.countsStill,
  Display.flattened_exactly_still
-/
import Scanout.Proofs.Run.Counters

namespace Scanout

/-! ### Rounds -/

/-- One frame shown on a display, with what plans it.  Every round may have another tester, with a
state of another type. -/
structure Round where
  request : PassRequest
  {σ : Type}
  tester : Option (CommitTester σ)
  state : σ

namespace Round

def layers (round : Round) : List Layer := round.request.snapshot.layers

/-- What is planned after the display has looked at the frame: the frame with the display's verdict
on it. -/
def prepared (round : Round) (display : Display) : PassRequest :=
  { round.request with snapshot := (display.prepare round.request.snapshot).2 }

/-- Let the display look at the frame, and plan it. -/
def playOn (round : Round) (display : Display) : Pass round.σ :=
  (round.prepared display).passOn (display.prepare round.request.snapshot).1 round.tester
    round.state

/-- The frame has at most one layer, or the same signature as the frame before it. -/
def Still (round : Round) (previous : Option Round) : Prop :=
  round.layers.length ≤ 1 ∨
    ∃ before, previous = some before ∧ stackSignature before.layers = stackSignature round.layers

instance (round : Round) : (previous : Option Round) → Decidable (round.Still previous)
  | none => decidable_of_iff (round.layers.length ≤ 1) (by simp [Still])
  | some before =>
      decidable_of_iff
        (round.layers.length ≤ 1 ∨ stackSignature before.layers = stackSignature round.layers)
        (by simp [Still])

/-- What a round on a display does to its counters if the frame is still, and what it does
otherwise.  A frame that is counted as flattened goes to the client target as a whole, whatever
tester there is. -/
structure CountsStill (round : Round) (display : Display) (still : Prop) : Prop where
  refused : (∃ layer ∈ round.layers, layer.hint = .displayDecoration) →
    (round.playOn display).display.stats = display.stats
  flattened : (∀ layer ∈ round.layers, layer.hint ≠ .displayDecoration) → still →
    (round.playOn display).display.stats.flattened = display.stats.flattened + 1
  planned : (∀ layer ∈ round.layers, layer.hint ≠ .displayDecoration) → ¬ still →
    (round.playOn display).display.stats.flattened = display.stats.flattened
  merged : display.stats.flattened < (round.playOn display).display.stats.flattened →
    ∀ layer ∈ (round.playOn display).snapshot.layers,
      layer.decision = some .client ∧ layer.alternatePath = false
  unasked : display.stats.flattened < (round.playOn display).display.stats.flattened →
    (round.playOn display).tester = round.state ∧
      ∀ other, { round with tester := other }.playOn display = round.playOn display
  undisputed : display.stats.flattened < (round.playOn display).display.stats.flattened →
    (round.playOn display).display.stats.fallbacks = display.stats.fallbacks ∧
      (round.playOn display).display.stats.rejectedPlans = display.stats.rejectedPlans
  inputs : (round.playOn display).snapshot.layers.map Layer.forgetDecision =
    round.layers.map Layer.forgetDecision

end Round

/-- The display after some rounds. -/
def Display.play (display : Display) (rounds : List Round) : Display :=
  rounds.foldl (fun display round => (round.playOn display).display) display

/-! ### What a display remembers -/

/-- Decisions of earlier passes are no part of a signature. -/
theorem stackSignature_forgetDecision (layers : List Layer) :
    stackSignature (layers.map Layer.forgetDecision) = stackSignature layers := by
  rw [stackSignature, stackSignature, stackBytes, stackBytes, List.length_map, List.flatMap_map]
  rfl

/-- Planning leaves the still-frame detector alone. -/
theorem PassRequest.flattening_passOn {σ : Type} (request : PassRequest) (display : Display)
    (tester : Option (CommitTester σ)) (state : σ) :
    (request.passOn display tester state).display.flattening = display.flattening := by
  rcases request.passOn_cases display tester state with
    ⟨_, shown, _⟩ | ⟨verdict, _, _, shown, _⟩
  · rw [shown]
    rfl
  · rw [shown]
    rfl

/-- After a round the display remembers its frame, whatever became of it. -/
theorem Round.flattening_playOn (round : Round) {display : Display}
    (enabled : display.flattening.enabled = true) :
    (round.playOn display).display.flattening =
      { enabled := true, last := some (stackSignature round.layers) } := by
  rw [playOn, PassRequest.flattening_passOn]
  simp [Display.prepare, StillFrameDetector.observe, enabled, layers]

namespace Display

/-- After some rounds the display remembers the last frame.  The induction is on the rounds, so what
is remembered at the start is generalised. -/
theorem flattening_play {display : Display} (enabled : display.flattening.enabled = true)
    (rounds : List Round) :
    (display.play rounds).flattening =
      { enabled := true
        last := (rounds.getLast?.map fun round => stackSignature round.layers).or
          display.flattening.last } := by
  induction rounds generalizing display with
  | nil => simp [play, ← enabled]
  | cons round rounds inductionHypothesis =>
      have shown := round.flattening_playOn enabled
      have rest := @inductionHypothesis (round.playOn display).display (by rw [shown])
      rw [shown] at rest
      rw [show display.play (round :: rounds) = (round.playOn display).display.play rounds from rfl,
        rest, List.getLast?_cons]
      cases rounds.getLast? <;> rfl

/-- The display allows a frame to be flattened exactly if it is still. -/
theorem flattenable_prepared_iff (id : DisplayId) (earlier : List Round) (round : Round) :
    (round.prepared ((new id).play earlier)).snapshot.flattenable = true ↔
      round.Still earlier.getLast? := by
  have remembered := @flattening_play (new id) rfl earlier
  rw [Round.prepared, prepare, StillFrameDetector.observe, remembered]
  cases previous : earlier.getLast? with
  | none => simp [Round.Still, Round.layers, new, StillFrameDetector.new]
  | some before => simp [Round.Still, Round.layers, or_comm]

/-- Rounds are a run: the display looks at a frame before each pass. -/
theorem exists_run_play (display : Display) (rounds : List Round) :
    ∃ requests events, Run display requests events (display.play rounds) ∧
      requests.length = rounds.length := by
  induction rounds generalizing display with
  | nil => exact ⟨[], [], Run.refl, rfl⟩
  | cons round rounds inductionHypothesis =>
      obtain ⟨requests, events, rest, sameLength⟩ :=
        inductionHypothesis (round.playOn display).display
      have first : Run display [round.prepared display] _ (round.playOn display).display :=
        (Run.refl.prepare round.request.snapshot).pass (round.prepared display) round.tester
          round.state
      refine ⟨_, _, first.trans rest, ?_⟩
      rw [List.length_append, sameLength, List.length_singleton, List.length_cons, Nat.add_comm]

/-- No more frames are counted as flattened than were shown. -/
theorem flattened_play_le (id : DisplayId) (rounds : List Round) :
    ((new id).play rounds).stats.flattened ≤ rounds.length := by
  obtain ⟨requests, events, run, sameLength⟩ := exists_run_play (new id) rounds
  rw [run.stats_eq_saturate, ← sameLength]
  exact Nat.le_trans (Nat.min_le_left _ _) run.countsAtMost.flattened

end Display

/-! ### One round -/

namespace Planner

variable {σ : Type} {planner : Planner} {snapshot : Snapshot}

/-- A pass over a still frame stamps the whole stack and asks nobody. -/
theorem pass_of_still (display : Display) (supported : snapshot.unsupported = false)
    (generic : planner.strategy = .generic) (still : snapshot.flattenable = true)
    (tester : Option (CommitTester σ)) (video : Option DeviceRange) (state : σ) :
    let client := ClientRange.whole snapshot.layerCount
    let outcome := conclusion display.id snapshot true client
    planner.pass tester video display snapshot state =
      { result := outcome.result
        display :=
          { display.beginPass with stats := countPass .flattened none outcome display.stats }
        snapshot := snapshot.stamp client
        tester := state
        events :=
          inFrame display.passes (reports display.id snapshot .flattened none client) } := by
  have selected : planner.select snapshot video = .flattened := by
    rw [select, generic]
    simp only [still, if_true]
  have whole : (Selection.flattened.client snapshot.layerCount).isWhole snapshot.layerCount =
      true := by
    simp [Selection.client, ClientRange.isWhole]
  have unasked : consult tester snapshot (Selection.flattened.client snapshot.layerCount) state =
      (none, state) := by
    cases tester with
    | none => rfl
    | some test => rw [consult, if_pos whole]
  exact pass_of_supported display supported selected unasked

/-- A pass counts a flattened frame exactly if it selects by flattening. -/
theorem flattened_pass (display : Display) (supported : snapshot.unsupported = false)
    (tester : Option (CommitTester σ)) (video : Option DeviceRange) (state : σ) :
    (planner.pass tester video display snapshot state).display.stats.flattened =
      if (planner.select snapshot video).isFlattened then Word.satAdd display.stats.flattened 1
      else display.stats.flattened := by
  rcases consulted : consult tester snapshot
    ((planner.select snapshot video).client snapshot.layerCount) state with ⟨verdict, after⟩
  rw [pass_of_supported display supported rfl consulted]
  simp only [countPass_eq]

theorem not_isFlattened_of_moving (moving : snapshot.flattenable = false)
    (video : Option DeviceRange) : ¬ (planner.select snapshot video).isFlattened = true := by
  rcases planner.select_cases snapshot video with
    ⟨_, selected⟩ | ⟨_, still, _⟩ | ⟨_, _, selected⟩
  · rw [selected]
    exact Bool.noConfusion
  · rw [moving] at still
    cases still
  · rw [selected]
    exact Bool.noConfusion

/-- Planning writes decisions and nothing else into a frame. -/
theorem forgetDecision_pass (display : Display) (snapshot : Snapshot)
    (tester : Option (CommitTester σ)) (video : Option DeviceRange) (state : σ) :
    (planner.pass tester video display snapshot state).snapshot.layers.map Layer.forgetDecision =
      snapshot.layers.map Layer.forgetDecision := by
  cases supported : snapshot.unsupported with
  | true => rw [pass_of_unsupported display supported]
  | false =>
      rw [(pass_supported display supported rfl).1]
      exact map_stampLayers Layer.forgetDecision (fun _ _ => rfl) _ snapshot.layers

end Planner

namespace Round

variable (round : Round) {display : Display}

theorem supported_prepared_iff :
    (round.prepared display).snapshot.unsupported = false ↔
      ∀ layer ∈ round.layers, layer.hint ≠ .displayDecoration :=
  Snapshot.supported_iff

theorem inputs_playOn : (round.playOn display).snapshot.layers.map Layer.forgetDecision =
    round.layers.map Layer.forgetDecision :=
  Planner.forgetDecision_pass _ _ _ _ _

variable {round}

/-- A refused frame counts nothing. -/
theorem countsStill_of_unsupported {still : Prop}
    (unsupported : (round.prepared display).snapshot.unsupported = true) :
    round.CountsStill display still := by
  have decorated : ¬ ∀ layer ∈ round.layers, layer.hint ≠ .displayDecoration := by
    rw [← @supported_prepared_iff round display, unsupported]
    exact Bool.noConfusion
  have kept : (round.playOn display).display.stats = display.stats := by
    rw [playOn, PassRequest.passOn, Planner.pass_of_unsupported _ unsupported]
    rfl
  refine ⟨fun _ => kept, fun plain => absurd plain decorated,
    fun plain => absurd plain decorated, ?_, ?_, ?_, round.inputs_playOn⟩
  all_goals
    rw [kept]
    intro increased
    exact absurd increased (Nat.lt_irrefl _)

/-- A frame that moves is planned, and not counted as flattened. -/
theorem countsStill_of_moving {still : Prop}
    (supported : (round.prepared display).snapshot.unsupported = false)
    (moving : (round.prepared display).snapshot.flattenable = false) (notStill : ¬ still) :
    round.CountsStill display still := by
  have plain := round.supported_prepared_iff.mp supported
  have kept : (round.playOn display).display.stats.flattened = display.stats.flattened := by
    rw [playOn, PassRequest.passOn, Planner.flattened_pass _ supported, if_neg]
    · rfl
    · exact Planner.not_isFlattened_of_moving moving _
  refine ⟨?_, fun _ holds => absurd holds notStill, fun _ _ => kept, ?_, ?_, ?_,
    round.inputs_playOn⟩
  · rintro ⟨layer, member, decoration⟩
    exact absurd decoration (plain layer member)
  all_goals
    rw [kept]
    intro increased
    exact absurd increased (Nat.lt_irrefl _)

/-- A frame that stands still is flattened, and counted as such while the counter has room. -/
theorem countsStill_of_still {still : Prop}
    (generic : round.request.planner.strategy = .generic)
    (supported : (round.prepared display).snapshot.unsupported = false)
    (flattenable : (round.prepared display).snapshot.flattenable = true) (holds : still)
    (room : display.stats.flattened < Word.max64) : round.CountsStill display still := by
  have plain := round.supported_prepared_iff.mp supported
  have passed (tester : Option (CommitTester round.σ)) :=
    Planner.pass_of_still (display.prepare round.request.snapshot).1 supported generic flattenable
      tester round.request.video round.state
  have played : round.playOn display = _ := passed round.tester
  refine ⟨?_, fun _ _ => ?_, fun _ notStill => absurd holds notStill, fun _ => ?_,
    fun _ => ⟨?_, ?_⟩, fun _ => ?_, round.inputs_playOn⟩
  · rintro ⟨layer, member, decoration⟩
    exact absurd decoration (plain layer member)
  · rw [played]
    simp only [Planner.countPass_eq]
    exact Nat.min_eq_left room
  · rw [played]
    intro layer member
    obtain ⟨z, present⟩ := List.getElem?_of_mem member
    obtain ⟨before, inStack, rfl⟩ := getElem?_stampLayers_eq_some present
    have inside : (ClientRange.whole (round.prepared display).snapshot.layerCount).contains z =
        true :=
      ClientRange.whole_contains_iff.mpr (List.getElem?_eq_some_iff.mp inStack).1
    rw [inside]
    exact ⟨rfl, rfl⟩
  · rw [played]
  · intro other
    rw [played]
    exact passed other
  · rw [played]
    simp only [Planner.countPass_eq]
    exact ⟨rfl, rfl⟩

/-! ### Stacks shown unchanged -/

/-- Stacks with the same inputs have the same hints. -/
theorem plain_of_inputs {stack : List Layer}
    (unchanged : round.layers.map Layer.forgetDecision = stack.map Layer.forgetDecision)
    (plain : ∀ layer ∈ stack, layer.hint ≠ .displayDecoration) :
    ∀ layer ∈ round.layers, layer.hint ≠ .displayDecoration := by
  intro layer member
  have sameInputs : layer.forgetDecision ∈ stack.map Layer.forgetDecision := by
    rw [← unchanged]
    exact List.mem_map_of_mem member
  obtain ⟨other, inStack, same⟩ := List.mem_map.mp sameInputs
  rw [show layer.hint = other.hint from (congrArg Layer.hint same).symm]
  exact plain other inStack

/-- A frame with the inputs of the frame before it is still. -/
theorem still_of_inputs {before : Round}
    (unchanged : before.layers.map Layer.forgetDecision = round.layers.map Layer.forgetDecision) :
    round.Still (some before) := by
  refine Or.inr ⟨before, rfl, ?_⟩
  rw [← stackSignature_forgetDecision before.layers, unchanged, stackSignature_forgetDecision]

end Round

/-! ### All rounds -/

/-- A round after any rounds on a new display counts its frame as flattened exactly if the frame is
still. -/
theorem Round.countsStill (id : DisplayId) {earlier : List Round} {round : Round}
    (generic : round.request.planner.strategy = .generic)
    (room : earlier.length < Word.max64) :
    round.CountsStill ((Display.new id).play earlier) (round.Still earlier.getLast?) := by
  have judged := Display.flattenable_prepared_iff id earlier round
  cases supported : (round.prepared ((Display.new id).play earlier)).snapshot.unsupported with
  | true => exact countsStill_of_unsupported supported
  | false =>
      cases verdict : (round.prepared ((Display.new id).play earlier)).snapshot.flattenable with
      | true =>
          exact countsStill_of_still generic supported verdict (judged.mp verdict)
            (Nat.lt_of_le_of_lt (Display.flattened_play_le id earlier) room)
      | false =>
          refine countsStill_of_moving supported verdict ?_
          rw [← judged, verdict]
          exact Bool.noConfusion

/-- Frames shown one after the other on a new display, each planned by a planner that need not send
everything to the client target, are counted as flattened exactly if they are still: every frame is
compared with the one right before it, also if that one was refused.  While the inputs of a stack
stay as they are, each frame after the first is flattened, whatever decisions it carries. -/
theorem Display.flattened_exactly_still (id : DisplayId) {rounds : List Round}
    (generic : ∀ round ∈ rounds, round.request.planner.strategy = .generic)
    (bounded : rounds.length < UInt64.size) :
    (∀ earlier round later, rounds = earlier ++ round :: later →
        round.CountsStill ((new id).play earlier) (round.Still earlier.getLast?)) ∧
      ∀ stack : List Layer, (∀ layer ∈ stack, layer.hint ≠ .displayDecoration) →
        (∀ round ∈ rounds,
          round.layers.map Layer.forgetDecision = stack.map Layer.forgetDecision) →
        ∀ earlier round later, rounds = earlier ++ round :: later → earlier ≠ [] →
          (round.playOn ((new id).play earlier)).display.stats.flattened =
            ((new id).play earlier).stats.flattened + 1 := by
  have counts (earlier : List Round) (round : Round) (later : List Round)
      (shown : rounds = earlier ++ round :: later) :
      round.CountsStill ((new id).play earlier) (round.Still earlier.getLast?) := by
    refine round.countsStill id (generic round ?_) ?_
    · rw [shown]
      exact List.mem_append_right _ List.mem_cons_self
    · rw [shown, List.length_append, List.length_cons] at bounded
      exact Nat.lt_sub_of_add_lt (by omega)
  refine ⟨counts, ?_⟩
  intro stack plain unchanged earlier round later shown notFirst
  obtain ⟨before, last⟩ := Option.ne_none_iff_exists'.mp (mt List.getLast?_eq_none_iff.mp notFirst)
  have member : round ∈ rounds := by
    rw [shown]
    exact List.mem_append_right _ List.mem_cons_self
  have memberBefore : before ∈ rounds := by
    rw [shown]
    exact List.mem_append_left _ (List.mem_of_getLast? last)
  refine (counts earlier round later shown).flattened ?_ ?_
  · exact Round.plain_of_inputs (unchanged round member) plain
  · rw [last]
    exact Round.still_of_inputs
      ((unchanged before memberBefore).trans (unchanged round member).symm)

/-- A stack that is shown again, with the decisions that it got, while a tester that rejects
everything waits; then refused for a decoration, and shown once more without it.  Only the second
round is flattened: the last one follows the refused frame. -/
theorem Display.flattened_exactly_still_around_refused :
    let plain : Layer := { frame := ⟨0, 0, 4, 4⟩ }
    let decorated : Layer := { plain with hint := .displayDecoration }
    let round (layers : List Layer) : Round :=
      { request := ⟨.ofConfig {}, none, .ofLayers layers 2⟩
        tester := some FixedVerdict.test
        state := { accepts := false } }
    let first := round [plain, plain]
    let again := round [plain.stamp true, plain.stamp false]
    let refused := round [decorated, plain]
    let shown (rounds : List Round) := (new ⟨7⟩).play rounds
    (again.playOn (shown [first])).display.stats.flattened = (shown [first]).stats.flattened + 1 ∧
      (refused.playOn (shown [first, again])).display.stats = (shown [first, again]).stats ∧
      (first.playOn (shown [first, again, refused])).display.stats.flattened =
        (shown [first, again, refused]).stats.flattened := by
  intro plain decorated round first again refused shown
  have generic : ∀ round ∈ [first, again, refused, first],
      round.request.planner.strategy = .generic := by
    simp [first, again, refused, round, Planner.ofConfig]
  have counts := (flattened_exactly_still ⟨7⟩ generic (by decide)).1
  have second := (counts [first] again _ rfl).flattened (by decide) (Round.still_of_inputs rfl)
  have third := (counts [first, again] refused _ rfl).refused ⟨decorated, List.mem_cons_self, rfl⟩
  have fourth :=
    (counts [first, again, refused] first _ rfl).planned (by decide) (by decide +kernel)
  clear_value first again refused
  exact ⟨second, third, fourth⟩

end Scanout
