/-
Module: Scanout.Proofs.PlaneCounts
Purpose: The tester, the plan and the checker count the same planes for a decided stack.
Imports: Scanout.CommitTest, Scanout.Proofs.Stamping
Main exports: planesInUse_eq, planesInUse_of_decides, planesAround_of_decides, planes_itemsAround,
  Plan.ofSnapshot_eq_of_decides, Plan.ofSnapshot_of_decides, Plan.exists_fits_of_stamp
-/
import Scanout.CommitTest
import Scanout.Proofs.Stamping

namespace Scanout

/-- One plane for each layer and a second one for each video layer. -/
theorem sum_planeCost (layers : List Layer) :
    (layers.map Layer.planeCost).foldr (· + ·) 0 = layers.length + layers.countP Layer.isVideo := by
  induction layers with
  | nil => rfl
  | cons layer layers inductionHypothesis =>
      rw [List.map_cons, List.foldr_cons, inductionHypothesis, List.length_cons, List.countP_cons,
        Layer.planeCost]
      cases layer.isVideo
      · simp only [Bool.false_eq_true, if_false]
        omega
      · simp only [if_true]
        omega

/-! ### The checker and the tester -/

/-- The checker counts the layers outside the client target, the video layers among them once more,
and the target. -/
theorem planesInUse_eq (layers : List Layer) :
    planesInUse layers =
      layers.countP (fun layer => !layer.isClient) +
        layers.countP (fun layer => layer.isVideo && !layer.isClient) +
        (if layers.any Layer.isClient then 1 else 0) := by
  rw [planesInUse, sum_planeCost, ← List.countP_eq_length_filter, List.countP_filter]

section Decided

variable {range : ClientRange} {layers : List Layer}

theorem any_isClient_of_decides (decides : range.Decides layers)
    (within : range.stop ≤ layers.length) :
    layers.any Layer.isClient = !range.isEmpty := by
  rw [Bool.eq_iff_iff, List.any_eq_true, Bool.not_eq_true', ← Bool.not_eq_true,
    ClientRange.isEmpty_iff]
  constructor
  · rintro ⟨layer, member, client⟩
    obtain ⟨z, present⟩ := List.getElem?_of_mem member
    have inside := ClientRange.contains_iff.mp ((decides.isClient_iff present).mp client)
    omega
  · intro occupied
    rw [ClientRange.stop_eq] at within
    have inStack : range.start < layers.length := by omega
    refine ⟨layers[range.start], List.getElem_mem inStack, ?_⟩
    rw [decides.isClient_iff (List.getElem?_eq_getElem inStack), ClientRange.contains_iff]
    omega

theorem countP_isClient_of_decides (decides : range.Decides layers)
    (within : range.stop ≤ layers.length) : layers.countP Layer.isClient = range.size := by
  have counted := countP_isClient_of_decidesFrom 0 decides.decidesFrom
  rw [ClientRange.below_zero, Nat.zero_add, ClientRange.size_below, Nat.min_eq_left within,
    ClientRange.stop_eq, Nat.add_sub_cancel_left] at counted
  exact (Nat.zero_add _).symm.trans counted

/-- In a decided stack the layers outside the client target are those outside the range. -/
theorem planesInUse_of_decides (decides : range.Decides layers)
    (within : range.stop ≤ layers.length) :
    planesInUse layers =
      (layers.length - range.size) +
        layers.countP (fun layer => layer.isVideo && !layer.isClient) +
        (if range.size = 0 then 0 else 1) := by
  have device : layers.countP (fun layer => !layer.isClient) = layers.length - range.size := by
    have client := countP_isClient_of_decides decides within
    have sides := List.length_eq_countP_add_countP Layer.isClient (l := layers)
    simp only [Bool.not_eq_true, Bool.decide_eq_false] at sides
    omega
  have target : (if (!range.isEmpty) = true then 1 else 0) = if range.size = 0 then 0 else 1 := by
    rw [ClientRange.isEmpty]
    cases range.size <;> rfl
  rw [planesInUse_eq, any_isClient_of_decides decides within, device, target]

/-- Asked about the range that decides a stack, the tester counts as the checker does. -/
theorem planesAround_of_decides (decides : range.Decides layers)
    (within : range.stop ≤ layers.length) :
    planesAround layers range = planesInUse layers := by
  have agree : layers.zipIdx.filter (fun entry => !range.contains entry.2) =
      layers.zipIdx.filter (fun entry => !entry.1.isClient) := by
    refine List.filter_congr ?_
    intro entry member
    have present := List.mem_zipIdx_iff_getElem?.mp member
    rw [Bool.eq_iff_iff.mpr (decides.isClient_iff present)]
  have forget : (layers.zipIdx.filter (fun entry => !entry.1.isClient)).map
      (fun entry => entry.1.planeCost) =
      (layers.filter (fun layer => !layer.isClient)).map Layer.planeCost := by
    calc (layers.zipIdx.filter (fun entry => !entry.1.isClient)).map
          (fun entry => entry.1.planeCost)
        = ((layers.zipIdx.map Prod.fst).filter (fun layer => !layer.isClient)).map
            Layer.planeCost := by
          rw [List.filter_map, List.map_map]
          rfl
      _ = (layers.filter (fun layer => !layer.isClient)).map Layer.planeCost := by
          rw [List.zipIdx_map_fst]
  have target : (if range.isEmpty = true then 0 else 1) =
      if (!range.isEmpty) = true then 1 else 0 := by
    cases range.isEmpty <;> rfl
  rw [planesAround, planesInUse, any_isClient_of_decides decides within, ← target, ← forget,
    ← agree]

end Decided

/-! ### The plan -/

/-- Items from position `z` on take the planes of the layers outside, and one for the target if
its lowest layer is among them. -/
private theorem planes_itemsFrom (client : ClientRange) {target : PlaneItem}
    (single : target.planes = 1) (layers : List Layer) :
    ∀ z, (((layers.zipIdx z).filterMap fun (layer, z) =>
          if client.contains z then if z = client.start then some target else none
          else some (PlaneItem.layer z layer.frame layer.isVideo)).map PlaneItem.planes).foldr
            (· + ·) 0 =
      (((layers.zipIdx z).filter fun (_, z) => !client.contains z).map
          fun (layer, _) => layer.planeCost).foldr (· + ·) 0 +
        (if client.size ≠ 0 ∧ z ≤ client.start ∧ client.start < z + layers.length then 1
          else 0) := by
  induction layers with
  | nil =>
      intro z
      rw [if_neg (fun found => absurd found.2.2 (Nat.not_lt_of_le found.2.1))]
      rfl
  | cons layer layers inductionHypothesis =>
      intro z
      have rest := inductionHypothesis (z + 1)
      by_cases inside : client.contains z = true
      · have bounds := ClientRange.contains_iff.mp inside
        by_cases lowest : z = client.start
        · subst lowest
          rw [if_neg (by omega)] at rest
          rw [if_pos (by rw [List.length_cons]; omega)]
          simp only [List.zipIdx_cons, List.filterMap_cons, List.filter_cons, inside, if_true,
            List.map_cons, List.foldr_cons, single, rest]
          rw [Nat.add_zero, Nat.add_comm]
          rfl
        · rw [if_neg (by omega)] at rest
          rw [if_neg (by omega)]
          simp only [List.zipIdx_cons, List.filterMap_cons, List.filter_cons, inside, if_neg lowest,
            if_true, rest]
          rfl
      · have bounds := mt ClientRange.contains_iff.mpr inside
        have target : (client.size ≠ 0 ∧ z + 1 ≤ client.start ∧
            client.start < z + 1 + layers.length) ↔
            client.size ≠ 0 ∧ z ≤ client.start ∧ client.start < z + (layer :: layers).length := by
          rw [List.length_cons]
          omega
        simp only [target] at rest
        rw [Bool.not_eq_true] at inside
        simp only [List.zipIdx_cons, List.filterMap_cons, List.filter_cons, inside,
          Bool.false_eq_true, if_false, Bool.not_false, if_true, List.map_cons, List.foldr_cons,
          rest]
        rw [Nat.add_assoc]
        rfl

/-- The items around a range take as many planes as the tester counts. -/
theorem planes_itemsAround {client : ClientRange} {layers : List Layer}
    (within : client.stop ≤ layers.length) :
    ((Plan.itemsAround client layers).map PlaneItem.planes).foldr (· + ·) 0 =
      planesAround layers client := by
  rw [ClientRange.stop_eq] at within
  let merged := ((layers.drop client.start).take client.size).map Layer.frame
  have single : (PlaneItem.clientTarget client (boundsOf merged)).planes = 1 := rfl
  have total := planes_itemsFrom client single layers 0
  have target : (client.size ≠ 0 ∧ 0 ≤ client.start ∧ client.start < 0 + layers.length) ↔
      ¬ client.isEmpty = true := by
    rw [ClientRange.isEmpty_iff]
    omega
  simp only [target, ite_not] at total
  exact total

/-- A decided stack stands for the plan around the part of the range within it. -/
theorem Plan.ofSnapshot_eq_of_decides {range : ClientRange} {snapshot : Snapshot}
    (decides : range.Decides snapshot.layers) (id : DisplayId) :
    Plan.ofSnapshot id snapshot =
      .ok
        { display := id
          items := Plan.itemsAround (range.below snapshot.layers.length) snapshot.layers } := by
  rw [Plan.ofSnapshot, Plan.renew, stampedClientRange_of_decides decides]
  rfl

/-- That plan takes the planes that the checker counts. -/
theorem Plan.ofSnapshot_of_decides {range : ClientRange} {snapshot : Snapshot}
    (decides : range.Decides snapshot.layers) (id : DisplayId) :
    ∃ plan, Plan.ofSnapshot id snapshot = .ok plan ∧
      plan.planeCount = planesInUse snapshot.layers := by
  have within := ClientRange.stop_below_le range snapshot.layers.length
  refine ⟨_, Plan.ofSnapshot_eq_of_decides decides id, ?_⟩
  rw [Plan.planeCount, planes_itemsAround within, planesAround_of_decides decides.below within]

/-- A stamped frame whose layers fit some planes has a plan that fits them. -/
theorem Plan.exists_fits_of_stamp {snapshot : Snapshot} {range : ClientRange} {planes : Nat}
    (fits : planesInUse (snapshot.stamp range).layers ≤ planes) (id : DisplayId) :
    ∃ plan, Plan.ofSnapshot id (snapshot.stamp range) = .ok plan ∧ plan.fits planes = true := by
  obtain ⟨plan, made, counted⟩ := Plan.ofSnapshot_of_decides (snapshot.decides_stamp range) id
  refine ⟨plan, made, ?_⟩
  rw [Plan.fits, counted]
  exact decide_eq_true fits

end Scanout
