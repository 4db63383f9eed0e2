/-
Module: Scanout.Proofs.Run
Purpose: Runs: planning passes on one display, one after the other, and what they report together.
Imports: Scanout.Proofs.Pass.Equations
Main exports: PassRequest, PassRequest.passOn, Run, forall_paired_concat,
  PassRequest.passOn_cases, Run.trans, Run.id_eq, Run.passes_eq
-/
import Scanout.Proofs.Pass.Equations

namespace Scanout

/-- What a pass is asked to plan.  The tester is not part of it: every pass may have another one. -/
structure PassRequest where
  planner : Planner
  video : Option DeviceRange
  snapshot : Snapshot

/-- Run the requested pass on a display. -/
def PassRequest.passOn {σ : Type} (request : PassRequest) (display : Display)
    (tester : Option (CommitTester σ)) (state : σ) : Pass σ :=
  request.planner.pass tester request.video display request.snapshot state

/-- A display reached from `start` by passes over any frames, each with or without a tester, between
which the display may look at the next frame.  The requests and all that was reported are kept, in
order. -/
inductive Run (start : Display) : List PassRequest → List TraceEvent → Display → Prop where
  | refl : Run start [] [] start
  | prepare {requests : List PassRequest} {events : List TraceEvent} {display : Display}
      (before : Run start requests events display) (snapshot : Snapshot) :
      Run start requests events (display.prepare snapshot).1
  | pass {requests : List PassRequest} {events : List TraceEvent} {display : Display} {σ : Type}
      (before : Run start requests events display) (request : PassRequest)
      (tester : Option (CommitTester σ)) (state : σ) :
      Run start (requests ++ [request])
        (events ++ (request.passOn display tester state).events)
        (request.passOn display tester state).display

/-- A list that grows together with another keeps its items in place, and the new ones stand at the
end. -/
theorem forall_paired_concat {α β : Type} {holds : Nat → α → β → Prop} {firsts : List α}
    {seconds : List β} (sameLength : seconds.length = firsts.length)
    (paired : ∀ i first second, firsts[i]? = some first → seconds[i]? = some second →
      holds i first second)
    {newFirst : α} {newSecond : β} (last : holds firsts.length newFirst newSecond) :
    ∀ i first second, (firsts ++ [newFirst])[i]? = some first →
      (seconds ++ [newSecond])[i]? = some second → holds i first second := by
  intro i first second firstPlaced secondPlaced
  rcases getElem?_concat_cases firstPlaced with firstOld | ⟨rfl, rfl⟩
  · rcases getElem?_concat_cases secondPlaced with secondOld | ⟨atEnd, _⟩
    · exact paired i first second firstOld secondOld
    · have inside := (List.getElem?_eq_some_iff.mp firstOld).1
      omega
  · rcases getElem?_concat_cases secondPlaced with secondOld | ⟨_, rfl⟩
    · have inside := (List.getElem?_eq_some_iff.mp secondOld).1
      omega
    · exact last

namespace PassRequest

variable {σ : Type} (request : PassRequest) (display : Display) (tester : Option (CommitTester σ))
  (state : σ)

/-- All that a pass can do to its display, and what it then reports. -/
theorem passOn_cases :
    (request.snapshot.unsupported = true ∧
        (request.passOn display tester state).display = display.beginPass ∧
        (request.passOn display tester state).events =
          Planner.inFrame display.passes (Planner.opening display.id request.snapshot ++
            [.summary (Planner.refusal display.id request.snapshot)])) ∨
      ∃ verdict : Option Bool,
        let selection := request.planner.select request.snapshot request.video
        let selected := selection.client request.snapshot.layerCount
        let client := Planner.settledRange request.snapshot.layerCount selected verdict
        let outcome :=
          Planner.conclusion display.id request.snapshot selection.isFlattened client
        request.snapshot.unsupported = false ∧
          (verdict ≠ none → ¬ selected.isWhole request.snapshot.layerCount = true) ∧
          (request.passOn display tester state).display =
            { display.beginPass with
              stats := Planner.countPass selection verdict outcome display.stats } ∧
          (request.passOn display tester state).events =
            Planner.inFrame display.passes
              (Planner.reports display.id request.snapshot selection verdict client) := by
  rw [passOn]
  cases supported : request.snapshot.unsupported with
  | true =>
      rw [Planner.pass_of_unsupported display supported]
      exact Or.inl ⟨rfl, rfl, rfl⟩
  | false =>
      rcases consulted : Planner.consult tester request.snapshot
        ((request.planner.select request.snapshot request.video).client
          request.snapshot.layerCount) state with ⟨verdict, after⟩
      rw [Planner.pass_of_supported display supported rfl consulted]
      refine Or.inr ⟨verdict, rfl, ?_, rfl, rfl⟩
      intro answered
      obtain ⟨accepted, rfl⟩ := Option.ne_none_iff_exists'.mp answered
      exact Planner.not_isWhole_of_consult consulted

theorem id_passOn : (request.passOn display tester state).display.id = display.id := by
  rcases request.passOn_cases display tester state with
    ⟨_, shown, _⟩ | ⟨verdict, _, _, shown, _⟩
  · rw [shown]
    rfl
  · rw [shown]
    rfl

/-- Every pass is counted, also one over an unsupported stack. -/
theorem passes_passOn :
    (request.passOn display tester state).display.passes = Word.satAdd display.passes 1 := by
  rcases request.passOn_cases display tester state with
    ⟨_, shown, _⟩ | ⟨verdict, _, _, shown, _⟩
  · rw [shown]
    rfl
  · rw [shown]
    rfl

end PassRequest

namespace Run

variable {start display : Display} {requests : List PassRequest} {events : List TraceEvent}

/-- Runs compose. -/
theorem trans {last : Display} {others : List PassRequest} {reported : List TraceEvent}
    (one : Run start requests events display) (two : Run display others reported last) :
    Run start (requests ++ others) (events ++ reported) last := by
  induction two with
  | refl =>
      rw [List.append_nil, List.append_nil]
      exact one
  | prepare _ snapshot inductionHypothesis => exact inductionHypothesis.prepare snapshot
  | pass _ request tester state inductionHypothesis =>
      rw [← List.append_assoc, ← List.append_assoc]
      exact inductionHypothesis.pass request tester state

theorem id_eq (run : Run start requests events display) : display.id = start.id := by
  induction run with
  | refl => rfl
  | prepare _ _ inductionHypothesis => exact inductionHypothesis
  | pass _ request tester state inductionHypothesis =>
      rw [PassRequest.id_passOn]
      exact inductionHypothesis

/-- The pass counter of a new display is the number of passes, until it is full. -/
theorem passes_eq {id : DisplayId} (run : Run (.new id) requests events display) :
    display.passes = min requests.length Word.max64 := by
  induction run with
  | refl => rfl
  | prepare _ _ inductionHypothesis => exact inductionHypothesis
  | pass _ request tester state inductionHypothesis =>
      rw [PassRequest.passes_passOn, inductionHypothesis, List.length_append, List.length_singleton,
        Word.satAdd]
      omega

end Run

end Scanout
