/-
Module: Scanout.Proofs.TargetBounds
Purpose: The bounds of a client target are the least rectangle around the merged frames that cover a
  pixel, and depend on nothing else.
Imports: Scanout.Proofs.PlanPartition
Main exports: Rect.Encloses, Rect.encloses_hull_iff, TightAround, TightAround.encloses_iff,
  TightAround.unique, tightAround_boundsOf, MergedFrame, Plan.bounds_of_target
-/
import Scanout.Proofs.PlanPartition

namespace Scanout

/-! ### Greatest of two coordinates -/

instance lawfulOrderSupInt32 : Std.LawfulOrderSup Int32 where
  max_le_iff a b c := by
    show (if a ≤ b then b else a) ≤ c ↔ a ≤ c ∧ b ≤ c
    split
    · next ordered => exact ⟨fun below => ⟨Int32.le_trans ordered below, below⟩, And.right⟩
    · next reversed =>
        have ordered : b ≤ a := (Int32.le_total a b).resolve_left reversed
        exact ⟨fun below => ⟨below, Int32.le_trans ordered below⟩, And.left⟩

instance maxEqOrInt32 : Std.MaxEqOr Int32 where
  max_eq_or a b := by
    show (if a ≤ b then b else a) = a ∨ (if a ≤ b then b else a) = b
    split
    · exact Or.inr rfl
    · exact Or.inl rfl

namespace Rect

/-- No edge of the inner rectangle lies outside the outer one. -/
structure Encloses (outer inner : Rect) : Prop where
  left : outer.left ≤ inner.left
  top : outer.top ≤ inner.top
  right : inner.right ≤ outer.right
  bottom : inner.bottom ≤ outer.bottom

section Edges

variable {a b outer inner : Rect}

theorem Encloses.refl (r : Rect) : r.Encloses r :=
  ⟨Int32.le_refl _, Int32.le_refl _, Int32.le_refl _, Int32.le_refl _⟩

theorem Encloses.trans {middle : Rect} (first : outer.Encloses middle)
    (second : middle.Encloses inner) : outer.Encloses inner where
  left := Int32.le_trans first.left second.left
  top := Int32.le_trans first.top second.top
  right := Int32.le_trans second.right first.right
  bottom := Int32.le_trans second.bottom first.bottom

theorem Encloses.antisymm (first : a.Encloses b) (second : b.Encloses a) : a = b := by
  rw [Rect.mk.injEq]
  exact ⟨Int32.le_antisymm first.left second.left, Int32.le_antisymm first.top second.top,
    Int32.le_antisymm second.right first.right, Int32.le_antisymm second.bottom first.bottom⟩

/-- What encloses a rectangle that covers a pixel covers it too. -/
theorem Encloses.area_pos (encloses : outer.Encloses inner) (covers : 0 < inner.area) :
    0 < outer.area := by
  rw [area_pos_iff] at covers ⊢
  constructor
  · exact Int32.lt_of_le_of_lt encloses.left (Int32.lt_of_lt_of_le covers.1 encloses.right)
  · exact Int32.lt_of_le_of_lt encloses.top (Int32.lt_of_lt_of_le covers.2 encloses.bottom)

/-- The hull of two rectangles is the least one around both. -/
theorem encloses_hull_iff : outer.Encloses (hull a b) ↔ outer.Encloses a ∧ outer.Encloses b := by
  constructor
  · intro around
    have left := Std.le_min_iff.mp around.left
    have top := Std.le_min_iff.mp around.top
    have right := Std.max_le_iff.mp around.right
    have bottom := Std.max_le_iff.mp around.bottom
    exact ⟨⟨left.1, top.1, right.1, bottom.1⟩, ⟨left.2, top.2, right.2, bottom.2⟩⟩
  · rintro ⟨one, two⟩
    exact ⟨Std.le_min_iff.mpr ⟨one.left, two.left⟩, Std.le_min_iff.mpr ⟨one.top, two.top⟩,
      Std.max_le_iff.mpr ⟨one.right, two.right⟩, Std.max_le_iff.mpr ⟨one.bottom, two.bottom⟩⟩

end Edges

end Rect

/-! ### Rectangles that touch what they enclose -/

/-- The rectangle encloses all of the frames, and each of its edges is that of one of them. -/
structure TightAround (frames : Rect → Prop) (bounds : Rect) : Prop where
  encloses : ∀ frame, frames frame → bounds.Encloses frame
  left : ∃ frame, frames frame ∧ frame.left = bounds.left
  top : ∃ frame, frames frame ∧ frame.top = bounds.top
  right : ∃ frame, frames frame ∧ frame.right = bounds.right
  bottom : ∃ frame, frames frame ∧ frame.bottom = bounds.bottom

namespace TightAround

variable {frames : Rect → Prop} {bounds other : Rect}

/-- Nothing smaller is around the frames. -/
theorem encloses_iff (tight : TightAround frames bounds) {outer : Rect} :
    outer.Encloses bounds ↔ ∀ frame, frames frame → outer.Encloses frame := by
  constructor
  · intro around frame present
    exact around.trans (tight.encloses frame present)
  · intro around
    obtain ⟨leftmost, leftPresent, left⟩ := tight.left
    obtain ⟨topmost, topPresent, top⟩ := tight.top
    obtain ⟨rightmost, rightPresent, right⟩ := tight.right
    obtain ⟨lowest, bottomPresent, bottom⟩ := tight.bottom
    exact ⟨left ▸ (around leftmost leftPresent).left, top ▸ (around topmost topPresent).top,
      right ▸ (around rightmost rightPresent).right,
      bottom ▸ (around lowest bottomPresent).bottom⟩

theorem unique (tight : TightAround frames bounds) (also : TightAround frames other) :
    bounds = other := by
  have around : bounds.Encloses other := also.encloses_iff.mpr tight.encloses
  have inside : other.Encloses bounds := tight.encloses_iff.mpr also.encloses
  exact around.antisymm inside

/-- A rectangle around one that covers a pixel covers that pixel. -/
theorem area_pos (tight : TightAround frames bounds)
    (covering : ∀ frame, frames frame → 0 < frame.area) : 0 < bounds.area := by
  obtain ⟨frame, present, _⟩ := tight.left
  exact (tight.encloses frame present).area_pos (covering frame present)

/-- An edge found among some frames, two of which were replaced by their hull, is that of one of the
frames if the hull takes it from one of the two. -/
theorem exists_edge_of_hull {edge : Rect → Int32} {a b : Rect} {rest : List Rect} {value : Int32}
    (taken : edge (.hull a b) = edge a ∨ edge (.hull a b) = edge b)
    (found : ∃ frame, frame ∈ Rect.hull a b :: rest ∧ edge frame = value) :
    ∃ frame, frame ∈ a :: b :: rest ∧ edge frame = value := by
  obtain ⟨frame, present, same⟩ := found
  rcases List.mem_cons.mp present with rfl | inRest
  · rcases taken with first | second
    · exact ⟨a, List.mem_cons_self, first ▸ same⟩
    · exact ⟨b, List.mem_cons_of_mem a List.mem_cons_self, second ▸ same⟩
  · exact ⟨frame, List.mem_cons_of_mem a (List.mem_cons_of_mem b inRest), same⟩

/-- Two frames may be replaced by their hull. -/
theorem of_hull {a b : Rect} {rest : List Rect}
    (tight : TightAround (· ∈ Rect.hull a b :: rest) bounds) :
    TightAround (· ∈ a :: b :: rest) bounds where
  encloses := by
    have both := Rect.encloses_hull_iff.mp (tight.encloses _ List.mem_cons_self)
    intro frame present
    rcases List.mem_cons.mp present with rfl | inTail
    · exact both.1
    · rcases List.mem_cons.mp inTail with rfl | inRest
      · exact both.2
      · exact tight.encloses frame (List.mem_cons_of_mem _ inRest)
  left := exists_edge_of_hull Std.min_eq_or tight.left
  top := exists_edge_of_hull Std.min_eq_or tight.top
  right := exists_edge_of_hull Std.max_eq_or tight.right
  bottom := exists_edge_of_hull Std.max_eq_or tight.bottom

end TightAround

/-- Growing the first frame around the others one by one leads to the tight rectangle. -/
theorem tightAround_foldl_hull (first : Rect) (others : List Rect) :
    TightAround (· ∈ first :: others) (others.foldl Rect.hull first) := by
  induction others generalizing first with
  | nil =>
      have only : first ∈ [first] := List.mem_cons_self
      refine ⟨?_, ⟨first, only, rfl⟩, ⟨first, only, rfl⟩, ⟨first, only, rfl⟩, ⟨first, only, rfl⟩⟩
      intro frame present
      rw [List.mem_singleton.mp present]
      exact .refl first
  | cons second others inductionHypothesis =>
      exact (inductionHypothesis (Rect.hull first second)).of_hull

theorem boundsOf_of_no_area {frames : List Rect} (bare : ∀ frame ∈ frames, ¬ 0 < frame.area) :
    boundsOf frames = Rect.zero := by
  have nothing : frames.filter (0 < ·.area) = [] :=
    List.filter_eq_nil_iff.mpr fun frame present => by simpa using bare frame present
  rw [boundsOf, nothing]

/-- The frames that cover a pixel, if there are any, are enclosed tightly. -/
theorem tightAround_boundsOf {frames : List Rect} (covering : ∃ frame ∈ frames, 0 < frame.area) :
    TightAround (fun frame => frame ∈ frames ∧ 0 < frame.area) (boundsOf frames) := by
  have members : ∀ frame, frame ∈ frames.filter (0 < ·.area) ↔ frame ∈ frames ∧ 0 < frame.area := by
    simp
  simp only [← members] at covering ⊢
  rw [boundsOf]
  cases kept : frames.filter (0 < ·.area) with
  | nil =>
      obtain ⟨frame, present⟩ := covering
      rw [kept] at present
      cases present
  | cons first others => exact tightAround_foldl_hull first others

/-! ### The merged layers of a stamped stack -/

/-- The frame covers a pixel, and a client layer of the stack has it. -/
def MergedFrame (layers : List Layer) (frame : Rect) : Prop :=
  (∃ (z : Nat) (layer : Layer),
      layers[z]? = some layer ∧ layer.decision = some .client ∧ layer.frame = frame) ∧
    0 < frame.area

namespace Plan

section Target

variable {range : ClientRange} {layers : List Layer}

/-- The layers cut out of the stack for the target are its client layers. -/
theorem mem_cutOut_iff (decides : range.Decides layers) {frame : Rect} :
    frame ∈ ((layers.drop range.start).take range.size).map Layer.frame ↔
      ∃ (z : Nat) (layer : Layer),
        layers[z]? = some layer ∧ layer.decision = some .client ∧ layer.frame = frame := by
  have isMerged : ∀ {z : Nat} {layer : Layer}, layers[z]? = some layer →
      (layer.decision = some .client ↔ range.start ≤ z ∧ z < range.start + range.size) := by
    intro z layer present
    rw [← carries_iff_of_getElem? present, ← ClientRange.contains_iff]
    exact carries_client_iff_of_decides decides (List.getElem?_eq_some_iff.mp present).1
  rw [List.mem_map]
  simp only [List.mem_iff_getElem?, List.getElem?_take, List.getElem?_drop]
  constructor
  · rintro ⟨layer, ⟨i, found⟩, rfl⟩
    split at found
    · next inside => exact ⟨_, layer, found, (isMerged found).mpr (by omega), rfl⟩
    · cases found
  · rintro ⟨z, layer, present, client, rfl⟩
    have bounds := (isMerged present).mp client
    refine ⟨layer, ⟨z - range.start, ?_⟩, rfl⟩
    rw [if_pos (by omega), Nat.add_sub_cancel' bounds.1]
    exact present

variable {plan : Plan} {snapshot : Snapshot} {bounds : Rect}

/-- A target in a renewed plan stands for the client layers of the stack, and its bounds are those
of their frames. -/
theorem bounds_of_target (target : .clientTarget range bounds ∈ (plan.renew snapshot).2.items) :
    (∀ z, range.contains z = true ↔ Carries snapshot.layers (some .client) z) ∧
      ((∀ frame, ¬ MergedFrame snapshot.layers frame) → bounds = Rect.zero) ∧
      ((∃ frame, MergedFrame snapshot.layers frame) →
        TightAround (MergedFrame snapshot.layers) bounds) := by
  rw [renew] at target
  rcases stampedClientRange_outcome snapshot.layers with
    ⟨client, read, decides, within⟩ | ⟨fault, failed, _⟩
  · rw [read] at target
    rcases (mem_itemsAround_iff within).mp target with ⟨_, _, _, _, same⟩ | ⟨occupied, same⟩
    · cases same
    · cases same
      have merged : MergedFrame snapshot.layers = fun frame =>
          frame ∈ ((snapshot.layers.drop range.start).take range.size).map Layer.frame ∧
            0 < frame.area := by
        funext frame
        rw [mem_cutOut_iff decides]
        rfl
      rw [merged]
      refine ⟨fun z => contains_iff_carries_client within decides, ?bare, tightAround_boundsOf⟩
      case bare =>
        intro bare
        exact boundsOf_of_no_area fun frame present covers => bare frame ⟨present, covers⟩
  · rw [failed] at target
    cases target

end Target

/-- The bounds of a client target are zero if no merged layer covers a pixel.  Otherwise they are
the least rectangle around the frames of those that do, whose edges they touch, and cover a pixel
themselves.  Whatever else is in the stack, and in which order the merged layers are, does not
matter: stacks in which the same frames are merged have the same bounds. -/
theorem target_bounds_least (plan : Plan) (snapshot : Snapshot) {range : ClientRange}
    {bounds : Rect} (target : .clientTarget range bounds ∈ (plan.renew snapshot).2.items) :
    let merged := MergedFrame snapshot.layers
    (∀ z, range.contains z = true ↔ Carries snapshot.layers (some .client) z) ∧
      ((∀ frame, ¬ merged frame) → bounds = Rect.zero) ∧
      ((∃ frame, merged frame) →
        TightAround merged bounds ∧
          (∀ outer : Rect, (∀ frame, merged frame → outer.Encloses frame) →
            outer.Encloses bounds) ∧
          0 < bounds.area) ∧
      ∀ (otherPlan : Plan) (otherSnapshot : Snapshot) (otherRange : ClientRange)
          (otherBounds : Rect),
        .clientTarget otherRange otherBounds ∈ (otherPlan.renew otherSnapshot).2.items →
        (∀ frame, MergedFrame otherSnapshot.layers frame ↔ merged frame) →
        otherBounds = bounds := by
  intro merged
  obtain ⟨shown, bare, tight⟩ := bounds_of_target target
  refine ⟨shown, bare, ?least, ?same⟩
  case least =>
    intro covering
    exact ⟨tight covering, fun outer => (tight covering).encloses_iff.mpr,
      (tight covering).area_pos fun frame present => present.2⟩
  case same =>
    intro otherPlan otherSnapshot otherRange otherBounds otherTarget sameFrames
    obtain ⟨_, otherBare, otherTight⟩ := bounds_of_target otherTarget
    rw [show MergedFrame otherSnapshot.layers = merged from funext fun frame =>
      propext (sameFrames frame)] at otherBare otherTight
    by_cases covering : ∃ frame, merged frame
    · exact (otherTight covering).unique (tight covering)
    · rw [bare (not_exists.mp covering), otherBare (not_exists.mp covering)]

/-- Two frames that reach past zero are merged with a malformed one and one without height, between
device layers that reach further out. -/
theorem target_bounds_least_on_malformed_frames :
    let plan : Plan := .new ⟨0⟩
    let outside : Layer := { frame := ⟨-900, -900, 900, 900⟩, decision := some .device }
    let merged (frame : Rect) : Layer := { frame, decision := some .client }
    let stack := Snapshot.ofLayers
      [outside, merged ⟨-5, 3, 7, 9⟩, merged ⟨50, 0, 10, 10⟩, merged ⟨-60, 30, 60, 30⟩,
        merged ⟨-2, -8, 0, 4⟩, outside] 3
    .clientTarget ⟨1, 4⟩ ⟨-5, -8, 7, 9⟩ ∈ (plan.renew stack).2.items ∧
      TightAround (MergedFrame stack.layers) ⟨-5, -8, 7, 9⟩ ∧
      ∀ outer : Rect, (∀ frame, MergedFrame stack.layers frame → outer.Encloses frame) →
        outer.Encloses ⟨-5, -8, 7, 9⟩ := by
  intro plan outside merged stack
  have target : .clientTarget ⟨1, 4⟩ ⟨-5, -8, 7, 9⟩ ∈ (plan.renew stack).2.items := by decide
  have covering : MergedFrame stack.layers ⟨-5, 3, 7, 9⟩ :=
    ⟨⟨1, merged ⟨-5, 3, 7, 9⟩, rfl, rfl, rfl⟩, by decide⟩
  obtain ⟨tight, least, _⟩ := (target_bounds_least plan stack target).2.2.1 ⟨_, covering⟩
  exact ⟨target, tight, least⟩

end Plan

end Scanout
