/-
Module: Scanout.Proofs.Range.Spanning
Purpose: The scans that read ranges off layer flags find the least range of all marked layers, and
  the run of all video layers.
Imports: Scanout.Range.Spanning, Scanout.Proofs.Range.Containment
Main exports: getElem?_concat_cases, Spans, spans_spanningRange, Spans.covered_of_forall,
  DeviceRange.exists_split_of_ofVideo, DeviceRange.countP_isVideo_of_ofVideo,
  DeviceRange.holds_iff_of_ofVideo
-/
import Scanout.Range.Spanning
import Scanout.Proofs.Range.Containment

namespace Scanout

/-- An item of a longer list is one of the list before its last item, or that last item. -/
theorem getElem?_concat_cases {α : Type} {items : List α} {last item : α} {i : Nat}
    (present : (items ++ [last])[i]? = some item) :
    items[i]? = some item ∨ i = items.length ∧ item = last := by
  rcases Nat.lt_trichotomy i items.length with below | same | above
  · rw [List.getElem?_append_left below] at present
    exact Or.inl present
  · subst same
    rw [List.getElem?_concat_length] at present
    exact Or.inr ⟨rfl, (Option.some.inj present).symm⟩
  · rw [List.getElem?_eq_none (by rw [List.length_append, List.length_singleton]; omega)] at present
    cases present

/-- `range` reaches from the lowest marked layer of a stack to the highest one, and is the empty
range if no layer is marked. -/
structure Spans (marked : Layer → Bool) (layers : List Layer) (range : ClientRange) : Prop where
  within : range.stop ≤ layers.length
  canonical : range.size = 0 → range = ClientRange.empty
  holds : ∀ z layer, layers[z]? = some layer → marked layer = true → range.contains z = true
  bottom : range.size ≠ 0 → ∃ layer, layers[range.start]? = some layer ∧ marked layer = true
  top : range.size ≠ 0 → ∃ layer, layers[range.stop - 1]? = some layer ∧ marked layer = true

namespace Spans

variable {marked : Layer → Bool}

theorem nil : Spans marked [] ClientRange.empty where
  within := Nat.le_refl 0
  canonical := fun _ => rfl
  holds := by simp
  bottom := fun occupied => absurd rfl occupied
  top := fun occupied => absurd rfl occupied

private theorem getElem?_concat_of_some {layers : List Layer} {layer : Layer} {z : Nat}
    (last : Layer) (present : layers[z]? = some layer) :
    (layers ++ [last])[z]? = some layer := by
  rw [List.getElem?_append_left (List.getElem?_eq_some_iff.mp present).1]
  exact present

/-- An unmarked layer on top leaves the range as it is. -/
theorem concat_unmarked {layers : List Layer} {range : ClientRange}
    (spans : Spans marked layers range) {last : Layer} (unmarked : ¬ marked last = true) :
    Spans marked (layers ++ [last]) range where
  within := by
    rw [List.length_append]
    exact Nat.le_trans spans.within (Nat.le_add_right _ _)
  canonical := spans.canonical
  holds := by
    intro z layer present isMarked
    rcases getElem?_concat_cases present with old | ⟨_, rfl⟩
    · exact spans.holds z layer old isMarked
    · exact absurd isMarked unmarked
  bottom := by
    intro occupied
    obtain ⟨layer, present, isMarked⟩ := spans.bottom occupied
    exact ⟨layer, getElem?_concat_of_some last present, isMarked⟩
  top := by
    intro occupied
    obtain ⟨layer, present, isMarked⟩ := spans.top occupied
    exact ⟨layer, getElem?_concat_of_some last present, isMarked⟩

/-- The first marked layer begins a range of its own. -/
theorem concat_first {layers : List Layer} {range : ClientRange}
    (spans : Spans marked layers range) (vacant : range.size = 0) {last : Layer}
    (isMarked : marked last = true) :
    Spans marked (layers ++ [last]) ⟨layers.length, 1⟩ where
  within := Nat.le_of_eq
    (by rw [List.length_append, List.length_singleton, ClientRange.stop_mk])
  canonical := fun impossible => absurd impossible Nat.one_ne_zero
  holds := by
    intro z layer present layerMarked
    rcases getElem?_concat_cases present with old | ⟨rfl, _⟩
    · have inside := ClientRange.contains_iff.mp (spans.holds z layer old layerMarked)
      omega
    · exact ClientRange.contains_iff.mpr ⟨Nat.le_refl _, Nat.lt_succ_self _⟩
  bottom := fun _ => ⟨last, List.getElem?_concat_length, isMarked⟩
  top := fun _ => ⟨last, List.getElem?_concat_length, isMarked⟩

/-- A later marked layer extends the range up to itself. -/
theorem concat_next {layers : List Layer} {range : ClientRange}
    (spans : Spans marked layers range) (occupied : range.size ≠ 0) {last : Layer}
    (isMarked : marked last = true) :
    Spans marked (layers ++ [last]) ⟨range.start, layers.length + 1 - range.start⟩ := by
  have within := spans.within
  rw [ClientRange.stop_eq] at within
  have stopEq : range.start + (layers.length + 1 - range.start) = layers.length + 1 := by omega
  refine ⟨?_, ?_, ?_, ?_, ?_⟩
  · exact Nat.le_of_eq
      (by rw [List.length_append, List.length_singleton, ClientRange.stop_mk, stopEq])
  · intro impossible
    have : layers.length + 1 - range.start = 0 := impossible
    omega
  · intro z layer present layerMarked
    rw [ClientRange.mk_contains_iff, stopEq]
    rcases getElem?_concat_cases present with old | ⟨rfl, _⟩
    · have inside := ClientRange.contains_iff.mp (spans.holds z layer old layerMarked)
      omega
    · omega
  · intro _
    obtain ⟨layer, present, layerMarked⟩ := spans.bottom occupied
    exact ⟨layer, getElem?_concat_of_some last present, layerMarked⟩
  · intro _
    rw [ClientRange.stop_mk, stopEq, Nat.add_sub_cancel]
    exact ⟨last, List.getElem?_concat_length, isMarked⟩

/-- A range that holds every marked layer of the stack covers the spanning one. -/
theorem covered_of_forall {layers : List Layer} {range other : ClientRange}
    (spans : Spans marked layers range)
    (holdsAll : ∀ z layer, layers[z]? = some layer → marked layer = true →
      other.contains z = true) :
    other.covers range = true := by
  rw [ClientRange.covers_iff]
  by_cases vacant : range.size = 0
  · exact Or.inl vacant
  · obtain ⟨low, lowPresent, lowMarked⟩ := spans.bottom vacant
    obtain ⟨high, highPresent, highMarked⟩ := spans.top vacant
    have bottom := ClientRange.contains_iff.mp (holdsAll _ low lowPresent lowMarked)
    have top := ClientRange.contains_iff.mp (holdsAll _ high highPresent highMarked)
    rw [ClientRange.stop_eq] at top
    rw [ClientRange.stop_eq, ClientRange.stop_eq]
    exact Or.inr ⟨bottom.1, by omega⟩

end Spans

/-- What the scan has found below layer `seen.length` spans the layers seen; going on over the
other layers keeps that.  The induction is on the layers still to come. -/
theorem spans_extendByMarked (marked : Layer → Bool) (layers : List Layer) :
    ∀ (seen : List Layer) (found : ClientRange), Spans marked seen found →
      Spans marked (seen ++ layers) (extendByMarked marked found seen.length layers) := by
  induction layers with
  | nil =>
      intro seen found spans
      rw [List.append_nil]
      exact spans
  | cons layer layers inductionHypothesis =>
      intro seen found spans
      have extended : Spans marked (seen ++ [layer])
          (if marked layer then
            if found.isEmpty then ClientRange.ofSpan seen.length 1
            else ClientRange.ofBounds found.start (seen.length + 1)
          else found) := by
        by_cases isMarked : marked layer = true
        · rw [if_pos isMarked]
          by_cases vacant : found.isEmpty = true
          · rw [if_pos vacant]
            exact spans.concat_first (ClientRange.isEmpty_iff.mp vacant) isMarked
          · rw [if_neg vacant]
            have occupied := ClientRange.not_isEmpty_iff.mp vacant
            have within := spans.within
            rw [ClientRange.stop_eq] at within
            rw [ClientRange.ofBounds_of_lt (by omega)]
            exact spans.concat_next occupied isMarked
        · rw [if_neg isMarked]
          exact spans.concat_unmarked isMarked
      have rest := inductionHypothesis (seen ++ [layer]) _ extended
      rw [List.append_assoc, List.singleton_append, List.length_append, List.length_singleton]
        at rest
      exact rest

/-- The scan finds the least range of all marked layers. -/
theorem spans_spanningRange (marked : Layer → Bool) (layers : List Layer) :
    Spans marked layers (spanningRange marked layers) :=
  spans_extendByMarked marked layers [] ClientRange.empty Spans.nil

namespace DeviceRange

private theorem drop_length_takeWhile (holds : Layer → Bool) (layers : List Layer) :
    layers.drop (layers.takeWhile holds).length = layers.dropWhile holds := by
  calc layers.drop (layers.takeWhile holds).length
      = (layers.takeWhile holds ++ layers.dropWhile holds).drop
          (layers.takeWhile holds).length := by rw [List.takeWhile_append_dropWhile]
    _ = layers.dropWhile holds := List.drop_left

/-- A stack with a video run consists of the layers below the run, the run, and the layers above
it. -/
theorem exists_split_of_ofVideo {layers : List Layer} {device : DeviceRange}
    (found : ofVideo layers = some device) :
    ∃ below run above, layers = below ++ (run ++ above) ∧
      run ≠ [] ∧ device = ⟨below.length, run.length⟩ ∧
      (∀ layer ∈ below, layer.isVideo = false) ∧
      (∀ layer ∈ run, layer.isVideo = true) ∧
      ∀ layer ∈ above, layer.isVideo = false := by
  have lower := List.all_eq_true.mp
    (List.all_takeWhile (p := fun layer : Layer => !layer.isVideo) (l := layers))
  have split := List.takeWhile_append_dropWhile (p := fun layer : Layer => !layer.isVideo)
    (l := layers)
  simp only [ofVideo, drop_length_takeWhile] at found
  generalize layers.takeWhile (fun layer => !layer.isVideo) = below at lower split
  generalize layers.dropWhile (fun layer => !layer.isVideo) = fromFirst at found split
  have middle := List.all_eq_true.mp (List.all_takeWhile (p := Layer.isVideo) (l := fromFirst))
  have upper := List.takeWhile_append_dropWhile (p := Layer.isVideo) (l := fromFirst)
  generalize fromFirst.takeWhile (fun layer => layer.isVideo) = run at found middle upper
  generalize fromFirst.dropWhile (fun layer => layer.isVideo) = above at found upper
  subst upper
  subst split
  split at found
  · cases found
  · next accepted =>
      simp only [Bool.or_eq_true, List.isEmpty_iff, List.any_eq_true, not_or, not_exists,
        not_and, Bool.not_eq_true] at accepted
      refine ⟨below, run, above, rfl, accepted.1, ?_, ?_, middle, accepted.2⟩
      · have sizes : (below ++ (run ++ above)).length - (run ++ above).length = below.length := by
          rw [List.length_append, Nat.add_sub_cancel]
        rw [sizes] at found
        exact (Option.some.inj found).symm
      · intro layer member
        simpa using lower layer member

/-- The video run of a stack lies within it. -/
theorem stop_le_of_ofVideo {layers : List Layer} {device : DeviceRange}
    (found : ofVideo layers = some device) : device.stop ≤ layers.length := by
  obtain ⟨below, run, above, rfl, _, rfl, _, _, _⟩ := exists_split_of_ofVideo found
  rw [stop_eq, List.length_append, List.length_append]
  exact Nat.add_le_add_left (Nat.le_add_right _ _) _

theorem size_ne_zero_of_ofVideo {layers : List Layer} {device : DeviceRange}
    (found : ofVideo layers = some device) : device.size ≠ 0 := by
  obtain ⟨below, run, above, rfl, occupied, rfl, _, _, _⟩ := exists_split_of_ofVideo found
  exact fun none => occupied (List.eq_nil_of_length_eq_zero none)

theorem countP_isVideo_of_ofVideo {layers : List Layer} {device : DeviceRange}
    (found : ofVideo layers = some device) : layers.countP Layer.isVideo = device.size := by
  obtain ⟨below, run, above, rfl, _, rfl, lower, middle, upper⟩ := exists_split_of_ofVideo found
  have noneBelow : below.countP Layer.isVideo = 0 :=
    List.countP_eq_zero.mpr fun layer member => ne_true_of_eq_false (lower layer member)
  have noneAbove : above.countP Layer.isVideo = 0 :=
    List.countP_eq_zero.mpr fun layer member => ne_true_of_eq_false (upper layer member)
  rw [List.countP_append, List.countP_append, noneBelow, noneAbove,
    List.countP_eq_length.mpr middle, Nat.zero_add, Nat.add_zero]

/-- The video run has exactly the video layers. -/
theorem holds_iff_of_ofVideo {layers : List Layer} {device : DeviceRange}
    (found : ofVideo layers = some device) {z : Nat} {layer : Layer}
    (present : layers[z]? = some layer) : device.Holds z ↔ layer.isVideo = true := by
  obtain ⟨below, run, above, rfl, _, rfl, lower, middle, upper⟩ := exists_split_of_ofVideo found
  rw [mk_holds_iff]
  by_cases inBelow : z < below.length
  · rw [List.getElem?_append_left inBelow] at present
    rw [lower layer (List.mem_of_getElem? present)]
    exact iff_of_false (by omega) (by decide)
  · rw [List.getElem?_append_right (Nat.le_of_not_lt inBelow)] at present
    by_cases inRun : z - below.length < run.length
    · rw [List.getElem?_append_left inRun] at present
      rw [middle layer (List.mem_of_getElem? present)]
      exact iff_of_true (by omega) rfl
    · rw [List.getElem?_append_right (Nat.le_of_not_lt inRun)] at present
      rw [upper layer (List.mem_of_getElem? present)]
      exact iff_of_false (by omega) (by decide)

end DeviceRange

end Scanout
