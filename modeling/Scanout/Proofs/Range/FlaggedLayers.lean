/-
Module: Scanout.Proofs.Range.FlaggedLayers
Purpose: The ranges that are read off layer flags, told by the positions of the flagged layers: the
  least range around them, and the run that they form if no other layer lies between them.
Imports: Scanout.Proofs.Range.Spanning
Main exports: MarkedAt, Consecutive, LeastAround, LeastAround.unique, LeastAround.consecutive_iff,
  leastAround_spanningRange, DeviceRange.ofVideo_eq_some_iff, DeviceRange.exists_ofVideo_iff,
  DeviceRange.eq_spanningRange_of_ofVideo
-/
import Scanout.Proofs.Range.Spanning

namespace Scanout

/-- Layer `z` of the stack is marked. -/
def MarkedAt (marked : Layer → Bool) (layers : List Layer) (z : Nat) : Prop :=
  ∃ layer, layers[z]? = some layer ∧ marked layer = true

/-- Positions without a gap: what lies between two of them is one of them. -/
def Consecutive (holds : Nat → Prop) : Prop :=
  ∀ low z high, holds low → holds high → low ≤ z → z ≤ high → holds z

/-- The range has all of some positions, begins and ends with one of them, and lies within every
other range that has them all.  Without any position it is the empty range. -/
structure LeastAround (holds : Nat → Prop) (range : ClientRange) : Prop where
  contains : ∀ z, holds z → range.contains z = true
  bottom : range.size ≠ 0 → holds range.start
  top : range.size ≠ 0 → holds (range.stop - 1)
  covered : ∀ other : ClientRange, (∀ z, holds z → other.contains z = true) →
    other.covers range = true
  empty_iff : range = ClientRange.empty ↔ ∀ z, ¬ holds z

section Positions

variable {marked : Layer → Bool} {layers : List Layer} {z : Nat}

theorem MarkedAt.lt_length (isMarked : MarkedAt marked layers z) : z < layers.length := by
  obtain ⟨_, present, _⟩ := isMarked
  exact (List.getElem?_eq_some_iff.mp present).1

theorem markedAt_iff_of_getElem? {layer : Layer} (present : layers[z]? = some layer) :
    MarkedAt marked layers z ↔ marked layer = true := by
  simp [MarkedAt, present]

/-- A layer of the stack that is not marked carries the opposite mark. -/
theorem not_markedAt_iff (inStack : z < layers.length) :
    ¬ MarkedAt marked layers z ↔ MarkedAt (!marked ·) layers z := by
  have present := List.getElem?_eq_getElem inStack
  rw [markedAt_iff_of_getElem? present, markedAt_iff_of_getElem? present, Bool.not_eq_true,
    Bool.not_eq_true']

end Positions

/-! ### Least ranges -/

namespace LeastAround

variable {holds : Nat → Prop} {range other : ClientRange}

theorem size_eq_zero_iff (least : LeastAround holds range) :
    range.size = 0 ↔ ∀ z, ¬ holds z := by
  rw [← least.empty_iff]
  constructor
  · intro vacant
    refine least.empty_iff.mpr fun z held => ?_
    have inside := ClientRange.contains_iff.mp (least.contains z held)
    omega
  · rintro rfl
    rfl

/-- Two least ranges around the same positions lie within each other. -/
theorem unique (least : LeastAround holds range) (also : LeastAround holds other) :
    range = other := by
  by_cases vacant : range.size = 0
  · have nowhere := least.size_eq_zero_iff.mp vacant
    rw [least.empty_iff.mpr nowhere, also.empty_iff.mpr nowhere]
  · have outer := ClientRange.covers_iff.mp (least.covered other also.contains)
    have inner := ClientRange.covers_iff.mp (also.covered range least.contains)
    have occupied : other.size ≠ 0 := by
      rwa [ne_eq, also.size_eq_zero_iff, ← least.size_eq_zero_iff]
    have below := outer.resolve_left vacant
    have above := inner.resolve_left occupied
    simp only [ClientRange.stop_eq] at below above
    rw [ClientRange.mk.injEq]
    omega

/-- The positions have no gap exactly if they are all that their least range has. -/
theorem consecutive_iff (least : LeastAround holds range) :
    Consecutive holds ↔ ∀ z, range.contains z = true → holds z := by
  constructor
  · intro consecutive z inside
    have occupied := ClientRange.size_ne_zero_of_contains inside
    rw [ClientRange.contains_iff] at inside
    apply consecutive _ z _ (least.bottom occupied) (least.top occupied) inside.1
    rw [ClientRange.stop_eq]
    omega
  · intro filled low z high holdsLow holdsHigh above below
    have bottom := ClientRange.contains_iff.mp (least.contains low holdsLow)
    have top := ClientRange.contains_iff.mp (least.contains high holdsHigh)
    exact filled z (ClientRange.contains_iff.mpr (by omega))

/-- A range that has nothing but some positions is the least one around them. -/
theorem of_contains_iff (occupied : range.size ≠ 0)
    (exactly : ∀ z, range.contains z = true ↔ holds z) : LeastAround holds range where
  contains := fun z => (exactly z).mpr
  bottom := fun _ => (exactly _).mp (ClientRange.contains_start occupied)
  top := fun _ => (exactly _).mp (ClientRange.contains_last occupied)
  covered := by
    intro other holdsAll
    exact ClientRange.covers_iff_forall.mpr fun z inside => holdsAll z ((exactly z).mp inside)
  empty_iff := by
    constructor
    · rintro rfl
      exact absurd rfl occupied
    · intro nowhere
      exact absurd ((exactly _).mp (ClientRange.contains_start occupied)) (nowhere range.start)

end LeastAround

/-- A range that spans the marked layers is the least one around their positions. -/
theorem Spans.leastAround {marked : Layer → Bool} {layers : List Layer} {range : ClientRange}
    (spans : Spans marked layers range) : LeastAround (MarkedAt marked layers) range where
  contains := by
    rintro z ⟨layer, present, isMarked⟩
    exact spans.holds z layer present isMarked
  bottom := spans.bottom
  top := spans.top
  covered := by
    intro other holdsAll
    exact spans.covered_of_forall fun z layer present isMarked =>
      holdsAll z ⟨layer, present, isMarked⟩
  empty_iff := by
    constructor
    · rintro rfl z ⟨layer, present, isMarked⟩
      have inside := ClientRange.contains_iff.mp (spans.holds z layer present isMarked)
      exact absurd inside (Nat.not_lt_of_le inside.1 ·.2)
    · intro nowhere
      by_cases vacant : range.size = 0
      · exact spans.canonical vacant
      · exact absurd (spans.bottom vacant) (nowhere range.start)

theorem leastAround_spanningRange (marked : Layer → Bool) (layers : List Layer) :
    LeastAround (MarkedAt marked layers) (spanningRange marked layers) :=
  (spans_spanningRange marked layers).leastAround

/-! ### The video run -/

namespace DeviceRange

variable {layers : List Layer} {device : DeviceRange}

/-- Video layers with no other ones between them are found as a run, whatever lies below and above
them. -/
theorem ofVideo_append {below run above : List Layer} (occupied : run ≠ [])
    (lower : ∀ layer ∈ below, layer.isVideo = false)
    (middle : ∀ layer ∈ run, layer.isVideo = true)
    (upper : ∀ layer ∈ above, layer.isVideo = false) :
    ofVideo (below ++ (run ++ above)) = some ⟨below.length, run.length⟩ := by
  have fromFirst : (below ++ (run ++ above)).dropWhile (!·.isVideo) = run ++ above := by
    rw [List.dropWhile_append_of_pos fun layer member => by rw [lower layer member]; rfl]
    obtain ⟨first, rest, rfl⟩ := List.exists_cons_of_ne_nil occupied
    exact List.dropWhile_cons_of_neg (by simp [middle first List.mem_cons_self])
  have kept : (run ++ above).takeWhile (·.isVideo) = run := by
    rw [List.takeWhile_append_of_pos middle]
    cases above with
    | nil => exact List.append_nil run
    | cons next rest =>
        rw [List.takeWhile_cons_of_neg (ne_true_of_eq_false (upper next List.mem_cons_self)),
          List.append_nil]
  have noneAbove : above.any (·.isVideo) = false := by
    simpa using upper
  simp [ofVideo, fromFirst, kept, noneAbove, occupied]

theorem holds_iff_markedAt_of_ofVideo (found : ofVideo layers = some device) {z : Nat} :
    device.Holds z ↔ MarkedAt Layer.isVideo layers z := by
  constructor
  · intro held
    have present := List.getElem?_eq_getElem (Nat.lt_of_lt_of_le held.2 (stop_le_of_ofVideo found))
    exact ⟨_, present, (holds_iff_of_ofVideo found present).mp held⟩
  · rintro ⟨layer, present, isVideo⟩
    exact (holds_iff_of_ofVideo found present).mpr isVideo

/-- Cut at both ends of a run that has nothing but the video layers, a stack falls into the layers
below the run, the run, and the layers above it. -/
theorem exists_split_of_holds_iff (reserved : device.size ≠ 0)
    (exactly : ∀ z, device.Holds z ↔ MarkedAt Layer.isVideo layers z) :
    ∃ below run above, layers = below ++ (run ++ above) ∧
      run ≠ [] ∧ device = ⟨below.length, run.length⟩ ∧
      (∀ layer ∈ below, layer.isVideo = false) ∧
      (∀ layer ∈ run, layer.isVideo = true) ∧
      ∀ layer ∈ above, layer.isVideo = false := by
  have isVideo_iff {z : Nat} {layer : Layer} (present : layers[z]? = some layer) :
      layer.isVideo = true ↔ device.start ≤ z ∧ z < device.stop := by
    calc layer.isVideo = true
        ↔ MarkedAt Layer.isVideo layers z := (markedAt_iff_of_getElem? present).symm
      _ ↔ device.Holds z := (exactly z).symm
  have stop := device.stop_eq
  have within : device.stop ≤ layers.length := by
    have top := ((exactly (device.stop - 1)).mp ⟨by omega, by omega⟩).lt_length
    omega
  have belowLength : (layers.take device.start).length = device.start :=
    List.length_take_of_le (by omega)
  have runLength : ((layers.drop device.start).take device.size).length = device.size :=
    List.length_take_of_le (by rw [List.length_drop]; omega)
  refine ⟨layers.take device.start, (layers.drop device.start).take device.size,
    layers.drop device.stop, ?split, ?occupied, ?ends, ?lower, ?middle, ?upper⟩
  case split => rw [stop, ← List.drop_drop, List.take_append_drop, List.take_append_drop]
  case occupied => rwa [← List.length_pos_iff, runLength, Nat.pos_iff_ne_zero]
  case ends => rw [belowLength, runLength]
  -- Every layer of the three parts is judged by its position in the stack.
  case lower =>
    intro layer member
    obtain ⟨z, inStack, rfl⟩ := List.mem_take_iff_getElem.mp member
    rw [← Bool.not_eq_true, isVideo_iff (List.getElem?_eq_getElem _)]
    omega
  case middle =>
    intro layer member
    obtain ⟨z, inRun, rfl⟩ := List.mem_take_iff_getElem.mp member
    rw [List.length_drop] at inRun
    rw [List.getElem_drop, isVideo_iff (List.getElem?_eq_getElem _)]
    omega
  case upper =>
    intro layer member
    obtain ⟨z, inStack, rfl⟩ := List.mem_drop_iff_getElem.mp member
    rw [← Bool.not_eq_true, isVideo_iff (List.getElem?_eq_getElem _)]
    omega

/-- A run that has nothing but the video layers is found. -/
theorem ofVideo_of_holds_iff (reserved : device.size ≠ 0)
    (exactly : ∀ z, device.Holds z ↔ MarkedAt Layer.isVideo layers z) :
    ofVideo layers = some device := by
  obtain ⟨below, run, above, rfl, occupied, rfl, lower, middle, upper⟩ :=
    exists_split_of_holds_iff reserved exactly
  exact ofVideo_append occupied lower middle upper

/-- A run is found exactly if it has some layers and they are the video layers. -/
theorem ofVideo_eq_some_iff :
    ofVideo layers = some device ↔
      device.size ≠ 0 ∧ ∀ z, device.Holds z ↔ MarkedAt Layer.isVideo layers z := by
  constructor
  · intro found
    exact ⟨size_ne_zero_of_ofVideo found, fun z => holds_iff_markedAt_of_ofVideo found⟩
  · rintro ⟨reserved, exactly⟩
    exact ofVideo_of_holds_iff reserved exactly

/-- The run that is found is the least range around the video layers. -/
theorem eq_spanningRange_of_ofVideo (found : ofVideo layers = some device) :
    ClientRange.mk device.start device.size = spanningRange Layer.isVideo layers := by
  obtain ⟨reserved, exactly⟩ := ofVideo_eq_some_iff.mp found
  have least : LeastAround (MarkedAt Layer.isVideo layers) ⟨device.start, device.size⟩ :=
    .of_contains_iff reserved fun z => ClientRange.mk_contains_iff.trans (exactly z)
  exact least.unique (leastAround_spanningRange Layer.isVideo layers)

/-- There is a run exactly if there are video layers, and no other ones between them. -/
theorem exists_ofVideo_iff :
    (∃ device, ofVideo layers = some device) ↔
      (∃ z, MarkedAt Layer.isVideo layers z) ∧ Consecutive (MarkedAt Layer.isVideo layers) := by
  have least := leastAround_spanningRange Layer.isVideo layers
  rw [least.consecutive_iff]
  constructor
  · rintro ⟨device, found⟩
    obtain ⟨reserved, exactly⟩ := ofVideo_eq_some_iff.mp found
    rw [← eq_spanningRange_of_ofVideo found]
    refine ⟨⟨device.start, (exactly _).mp ⟨Nat.le_refl _, ?_⟩⟩, ?_⟩
    · rw [stop_eq]
      omega
    · intro z inside
      exact (exactly z).mp (ClientRange.mk_contains_iff.mp inside)
  · rintro ⟨⟨z, isVideo⟩, filled⟩
    have reserved := ClientRange.size_ne_zero_of_contains (least.contains z isVideo)
    -- The range around the video layers has no others, so it is the run.
    generalize spanningRange Layer.isVideo layers = range at least filled reserved
    refine ⟨⟨range.start, range.size⟩, ofVideo_of_holds_iff reserved fun z => ?_⟩
    rw [mk_holds_iff, ← ClientRange.contains_iff]
    exact ⟨filled z, least.contains z⟩

/-- Video layers do not form a run exactly if the range around them has another layer. -/
theorem ofVideo_refuses_iff :
    (∃ z, MarkedAt Layer.isVideo layers z) ∧ ofVideo layers = none ↔
      ∃ z, (spanningRange Layer.isVideo layers).contains z = true ∧
        MarkedAt (!·.isVideo) layers z := by
  have spans := spans_spanningRange Layer.isVideo layers
  have refused : ofVideo layers = none ↔
      ¬ ((∃ z, MarkedAt Layer.isVideo layers z) ∧ Consecutive (MarkedAt Layer.isVideo layers)) := by
    rw [← exists_ofVideo_iff, not_exists, Option.eq_none_iff_forall_ne_some]
  rw [refused, spans.leastAround.consecutive_iff]
  constructor
  · rintro ⟨someVideo, broken⟩
    obtain ⟨z, inside, other⟩ : ∃ z, (spanningRange Layer.isVideo layers).contains z = true ∧
        ¬ MarkedAt Layer.isVideo layers z := by
      simpa [someVideo] using broken
    have inStack : z < layers.length :=
      Nat.lt_of_lt_of_le (ClientRange.contains_iff.mp inside).2 spans.within
    exact ⟨z, inside, (not_markedAt_iff inStack).mp other⟩
  · rintro ⟨z, inside, other⟩
    have occupied := ClientRange.size_ne_zero_of_contains inside
    refine ⟨⟨_, spans.bottom occupied⟩, fun run => ?_⟩
    exact (not_markedAt_iff other.lt_length).mpr other (run.2 z inside)

end DeviceRange

/-- The ranges that are read off a stack are exact.  A video run is found exactly if there are video
layers and they lie side by side; it has the video layers and no others, and is the spanning range
of the video mark.  Video layers are refused a run exactly if that range has a layer without video.
Whatever else marks the layers, the spanning range is the least one around the marked layers. -/
theorem flagged_ranges_exact (layers : List Layer) :
    let video := MarkedAt Layer.isVideo layers
    let videoSpan := spanningRange Layer.isVideo layers
    ((∃ device, DeviceRange.ofVideo layers = some device) ↔
        (∃ z, video z) ∧ Consecutive video) ∧
      (∀ device, DeviceRange.ofVideo layers = some device →
        (∀ z, device.start ≤ z ∧ z < device.start + device.size ↔ video z) ∧
          ClientRange.mk device.start device.size = videoSpan) ∧
      ((∃ z, video z) ∧ DeviceRange.ofVideo layers = none ↔
        ∃ z, videoSpan.contains z = true ∧ MarkedAt (!·.isVideo) layers z) ∧
      ∀ marked : Layer → Bool,
        LeastAround (MarkedAt marked layers) (spanningRange marked layers) := by
  intro video videoSpan
  refine ⟨DeviceRange.exists_ofVideo_iff, ?run, DeviceRange.ofVideo_refuses_iff,
    fun marked => leastAround_spanningRange marked layers⟩
  case run =>
    intro device found
    exact ⟨fun z => DeviceRange.holds_iff_markedAt_of_ofVideo found,
      DeviceRange.eq_spanningRange_of_ofVideo found⟩

/-- A run of two video layers, and two video layers with another one between them. -/
example :
    let plain : Layer := { frame := ⟨0, 0, 10, 10⟩ }
    let video : Layer := { plain with isVideo := true }
    DeviceRange.ofVideo [plain, video, video, plain] = some ⟨1, 2⟩ ∧
      DeviceRange.ofVideo [plain, video, plain, video, plain] = none ∧
      spanningRange Layer.isVideo [plain, video, plain, video, plain] = ⟨1, 3⟩ := by
  decide

end Scanout
