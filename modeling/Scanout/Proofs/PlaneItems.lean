/-
Module: Scanout.Proofs.PlaneItems
Purpose: Which items a plan has, and which client range is read off it.
Imports: Scanout.Proofs.PlaneCounts
Main exports: Plan.mem_itemsAround_iff, Plan.findSome?_itemsAround,
  Plan.exists_clientRange_of_stamp
-/
import Scanout.Proofs.PlaneCounts

namespace Scanout

/-- The part of a range below a position past its end is the range itself. -/
theorem ClientRange.below_of_stop_le {range : ClientRange} {z : Nat} (occupied : range.size ≠ 0)
    (inside : range.stop ≤ z) : range.below z = range := by
  have ordered : range.start < range.stop := by
    rw [stop_eq]
    omega
  rw [below, Nat.min_eq_left inside, ofBounds_of_lt ordered, stop_eq, Nat.add_sub_cancel_left]

namespace Plan

variable {client : ClientRange} {layers : List Layer}

/-- The item that stands for the layers of a client range. -/
def targetOf (client : ClientRange) (layers : List Layer) : PlaneItem :=
  .clientTarget client
    (boundsOf (((layers.drop client.start).take client.size).map Layer.frame))

/-- A plan around a range has one item for each layer outside, and the target if the range has any
layer. -/
theorem mem_itemsAround_iff (inside : client.stop ≤ layers.length) {item : PlaneItem} :
    item ∈ itemsAround client layers ↔
      (∃ z layer, layers[z]? = some layer ∧ client.contains z = false ∧
          item = .layer z layer.frame layer.isVideo) ∨
        (client.size ≠ 0 ∧ item = targetOf client layers) := by
  simp only [itemsAround, List.mem_filterMap, Prod.exists, List.mem_zipIdx_iff_getElem?]
  constructor
  · rintro ⟨layer, z, present, made⟩
    by_cases held : client.contains z = true
    · have bounds := ClientRange.contains_iff.mp held
      rw [if_pos held] at made
      split at made
      · exact Or.inr ⟨by omega, (Option.some.inj made).symm⟩
      · cases made
    · rw [if_neg held] at made
      exact Or.inl ⟨z, layer, present, eq_false_of_ne_true held, (Option.some.inj made).symm⟩
  · rintro (⟨z, layer, present, outside, rfl⟩ | ⟨occupied, rfl⟩)
    · refine ⟨layer, z, present, ?_⟩
      rw [if_neg (ne_true_of_eq_false outside)]
    · rw [ClientRange.stop_eq] at inside
      have lowest : client.start < layers.length := by omega
      refine ⟨layers[client.start], client.start, List.getElem?_eq_getElem lowest, ?_⟩
      rw [if_pos (ClientRange.contains_start occupied), if_pos rfl]
      rfl

/-- The range of an item that is a client target. -/
def targetRange : PlaneItem → Option ClientRange
  | .clientTarget range _ => some range
  | .layer .. => none

theorem clientRange_eq (plan : Plan) : plan.clientRange = plan.items.findSome? targetRange := rfl

/-- Every target among the items around a range has that range. -/
theorem findSome?_itemsAround (inside : client.stop ≤ layers.length) :
    (itemsAround client layers).findSome? targetRange =
      if client.isEmpty then none else some client := by
  by_cases vacant : client.size = 0
  · rw [if_pos (ClientRange.isEmpty_iff.mpr vacant), List.findSome?_eq_none_iff]
    intro item member
    rcases (mem_itemsAround_iff inside).mp member with ⟨z, layer, _, _, rfl⟩ | ⟨occupied, _⟩
    · rfl
    · exact absurd vacant occupied
  · rw [if_neg (ClientRange.not_isEmpty_iff.mpr vacant)]
    have target : targetOf client layers ∈ itemsAround client layers :=
      (mem_itemsAround_iff inside).mpr (Or.inr ⟨vacant, rfl⟩)
    obtain ⟨range, first⟩ : ∃ range, (itemsAround client layers).findSome? targetRange =
        some range := by
      rw [← Option.isSome_iff_exists, List.findSome?_isSome_iff]
      exact ⟨_, target, rfl⟩
    obtain ⟨item, member, reads⟩ := List.exists_of_findSome?_eq_some first
    rcases (mem_itemsAround_iff inside).mp member with ⟨z, layer, _, _, rfl⟩ | ⟨_, rfl⟩
    · cases reads
    · exact first.trans reads.symm

/-- A stamped frame has a plan, and the range it was stamped with is read off that plan. -/
theorem exists_clientRange_of_stamp {snapshot : Snapshot} {range : ClientRange}
    (inside : range.stop ≤ snapshot.layerCount) (id : DisplayId) :
    ∃ plan, Plan.ofSnapshot id (snapshot.stamp range) = .ok plan ∧
      plan.clientRange = if range.isEmpty then none else some range := by
  have count := Snapshot.layerCount_stamp snapshot range
  rw [Snapshot.layerCount] at count
  refine ⟨_, ofSnapshot_eq_of_decides (snapshot.decides_stamp range) id, ?_⟩
  rw [clientRange_eq, findSome?_itemsAround (ClientRange.stop_below_le _ _), count]
  by_cases vacant : range.size = 0
  · have nothing : (range.below snapshot.layerCount).size = 0 := by
      rw [ClientRange.size_below, ClientRange.stop_eq]
      omega
    rw [if_pos (ClientRange.isEmpty_iff.mpr nothing), if_pos (ClientRange.isEmpty_iff.mpr vacant)]
  · rw [ClientRange.below_of_stop_le vacant inside]

end Plan

end Scanout
