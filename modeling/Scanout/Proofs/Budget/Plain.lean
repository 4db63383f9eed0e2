/-
Module: Scanout.Proofs.Budget.Plain
Purpose: The range grown for a plane budget is a least one that fits, and under a monotone cost no
  range that fits is cheaper.
Imports: Scanout.Budget.Plain, Scanout.Proofs.Cost, Scanout.Proofs.Range.Containment
Main exports: FitsPlanes, mem_candidateStarts_iff, fitToPlanes_cases, fitToPlanes_fits,
  size_fitToPlanes_le, cost_fitToPlanes_le
-/
import Scanout.Budget.Plain
import Scanout.Proofs.Cost
import Scanout.Proofs.Range.Containment

namespace Scanout

/-- `range` lies in the stack, takes in every layer of `client`, and leaves no more layers outside
than there are planes for them. -/
structure FitsPlanes (layerCount usablePlanes : Nat) (client range : ClientRange) : Prop where
  within : range.stop ≤ layerCount
  covers : range.covers client = true
  fits : layerCount - range.size ≤ devicePlanes layerCount usablePlanes

/-! ### The cheapest start -/

/-- The scan ends on one of the starts it looks at. -/
theorem cheapestStart_mem (cost : Nat → Nat) (best : Nat) (starts : List Nat) :
    cheapestStart cost best starts ∈ best :: starts := by
  induction starts generalizing best with
  | nil => exact List.mem_singleton.mpr rfl
  | cons start starts inductionHypothesis =>
      rw [cheapestStart]
      rcases List.mem_cons.mp (inductionHypothesis (if cost start < cost best then start else best))
        with chosen | later
      · rw [chosen]
        split
        · exact List.mem_cons_of_mem best List.mem_cons_self
        · exact List.mem_cons_self
      · exact List.mem_cons_of_mem best (List.mem_cons_of_mem start later)

/-- No start the scan looks at is cheaper than the one it ends on. -/
theorem cost_cheapestStart_le (cost : Nat → Nat) (best : Nat) (starts : List Nat) :
    ∀ start ∈ best :: starts, cost (cheapestStart cost best starts) ≤ cost start := by
  induction starts generalizing best with
  | nil =>
      intro start member
      exact Nat.le_of_eq (by rw [List.mem_singleton.mp member, cheapestStart])
  | cons next starts inductionHypothesis =>
      intro start member
      rw [cheapestStart]
      -- The start carried on costs no more than either of the two compared.
      have carried := inductionHypothesis (if cost next < cost best then next else best) _
        List.mem_cons_self
      have cheaper : cost (if cost next < cost best then next else best) ≤ cost best ∧
          cost (if cost next < cost best then next else best) ≤ cost next := by
        split <;> omega
      rcases List.mem_cons.mp member with rfl | member
      · exact Nat.le_trans carried cheaper.1
      · rcases List.mem_cons.mp member with rfl | later
        · exact Nat.le_trans carried cheaper.2
        · exact inductionHypothesis _ start (List.mem_cons_of_mem _ later)

/-! ### The candidates -/

/-- The candidates are exactly the windows of the grown size that lie in the stack and cover the
old range. -/
theorem mem_candidateStarts_iff {layerCount excess start : Nat} {client : ClientRange}
    (inside : client.stop ≤ layerCount) (room : client.size + excess ≤ layerCount) :
    start ∈ candidateStarts layerCount excess client ↔
      start + (client.size + excess) ≤ layerCount ∧
        (ClientRange.mk start (client.size + excess)).covers client = true := by
  rw [ClientRange.mk_covers_iff]
  by_cases vacant : client.isEmpty = true
  · have noSize := ClientRange.isEmpty_iff.mp vacant
    rw [candidateStarts, if_pos vacant, List.mem_range'_1, noSize]
    omega
  · have occupied := ClientRange.not_isEmpty_iff.mp vacant
    rw [candidateStarts, if_neg vacant, List.mem_range'_1]
    rw [ClientRange.stop_eq] at inside ⊢
    omega

/-- There is a candidate: as far below the old range as the stack allows. -/
theorem candidateStarts_ne_nil {layerCount excess : Nat} {client : ClientRange}
    (inside : client.stop ≤ layerCount) (room : client.size + excess ≤ layerCount) :
    candidateStarts layerCount excess client ≠ [] := by
  have lowest : client.start - excess ∈ candidateStarts layerCount excess client := by
    rw [mem_candidateStarts_iff inside room, ClientRange.mk_covers_iff]
    rw [ClientRange.stop_eq] at inside ⊢
    omega
  exact List.ne_nil_of_mem lowest

/-! ### The grown range -/

section Growth

variable {layerCount : Nat} {client : ClientRange} (usablePlanes : Nat)

/-- Growing returns the old range where it fits, and a cheapest candidate where it does not. -/
theorem fitToPlanes_cases (cost : WindowCost) (inside : client.stop ≤ layerCount) :
    (excessLayers layerCount usablePlanes client = 0 ∧
        fitToPlanes layerCount usablePlanes client cost = client) ∨
      (excessLayers layerCount usablePlanes client ≠ 0 ∧
        ∃ start ∈ candidateStarts layerCount (excessLayers layerCount usablePlanes client) client,
          fitToPlanes layerCount usablePlanes client cost =
              ⟨start, client.size + excessLayers layerCount usablePlanes client⟩ ∧
            ∀ other ∈
                candidateStarts layerCount (excessLayers layerCount usablePlanes client) client,
              cost start (client.size + excessLayers layerCount usablePlanes client) ≤
                cost other (client.size + excessLayers layerCount usablePlanes client)) := by
  by_cases enough : excessLayers layerCount usablePlanes client = 0
  · refine Or.inl ⟨enough, ?_⟩
    rw [fitToPlanes, if_pos enough]
  · refine Or.inr ⟨enough, ?_⟩
    have room : client.size + excessLayers layerCount usablePlanes client ≤ layerCount := by
      rw [excessLayers] at enough ⊢
      omega
    generalize sizeEq : excessLayers layerCount usablePlanes client = excess at enough room ⊢
    cases listed : candidateStarts layerCount excess client with
    | nil => exact absurd listed (candidateStarts_ne_nil inside room)
    | cons first others =>
        let costOf := fun start => cost start (client.size + excess)
        refine ⟨cheapestStart costOf first others, cheapestStart_mem costOf first others, ?_,
          cost_cheapestStart_le costOf first others⟩
        rw [fitToPlanes, sizeEq, if_neg enough, listed]
        exact ClientRange.ofSpan_of_pos _ (by omega)

/-- What fits already stays as it is. -/
theorem fitToPlanes_of_fits (cost : WindowCost)
    (fits : layerCount - client.size ≤ devicePlanes layerCount usablePlanes) :
    fitToPlanes layerCount usablePlanes client cost = client := by
  have enough : excessLayers layerCount usablePlanes client = 0 := Nat.sub_eq_zero_of_le fits
  rw [fitToPlanes, if_pos enough]

/-- The grown range fits. -/
theorem fitToPlanes_fits (cost : WindowCost) (inside : client.stop ≤ layerCount) :
    FitsPlanes layerCount usablePlanes client
      (fitToPlanes layerCount usablePlanes client cost) := by
  rcases fitToPlanes_cases usablePlanes cost inside with
    ⟨enough, unchanged⟩ | ⟨short, start, candidate, grown, _⟩
  · rw [unchanged]
    exact ⟨inside, ClientRange.covers_refl client, Nat.sub_eq_zero_iff_le.mp enough⟩
  · have room : client.size + excessLayers layerCount usablePlanes client ≤ layerCount := by
      rw [excessLayers] at short ⊢
      omega
    have window := (mem_candidateStarts_iff inside room).mp candidate
    rw [grown]
    refine ⟨window.1, window.2, ?_⟩
    show layerCount - (client.size + excessLayers layerCount usablePlanes client) ≤ _
    rw [excessLayers]
    omega

/-- No range that fits is smaller than the grown one. -/
theorem size_fitToPlanes_le (cost : WindowCost) (inside : client.stop ≤ layerCount)
    {other : ClientRange} (fitting : FitsPlanes layerCount usablePlanes client other) :
    (fitToPlanes layerCount usablePlanes client cost).size ≤ other.size := by
  have covered := ClientRange.size_le_of_covers fitting.covers
  rcases fitToPlanes_cases usablePlanes cost inside with
    ⟨_, unchanged⟩ | ⟨short, start, _, grown, _⟩
  · rw [unchanged]
    exact covered
  · have fits := fitting.fits
    rw [grown]
    show client.size + excessLayers layerCount usablePlanes client ≤ other.size
    rw [excessLayers] at short ⊢
    omega

/-- Under a monotone cost no range that fits is cheaper than the grown one, whatever its size: it
has a candidate inside it. -/
theorem cost_fitToPlanes_le {cost : WindowCost} (monotone : cost.Monotone)
    (inside : client.stop ≤ layerCount) {other : ClientRange}
    (fitting : FitsPlanes layerCount usablePlanes client other) :
    cost (fitToPlanes layerCount usablePlanes client cost).start
        (fitToPlanes layerCount usablePlanes client cost).size ≤
      cost other.start other.size := by
  have small := size_fitToPlanes_le usablePlanes cost inside fitting
  rcases fitToPlanes_cases usablePlanes cost inside with
    ⟨_, unchanged⟩ | ⟨short, start, _, grown, cheapest⟩
  · rw [unchanged]
    rcases ClientRange.covers_iff.mp fitting.covers with vacant | ⟨below, above⟩
    · rw [vacant, monotone.vacant]
      exact Nat.zero_le _
    · exact monotone.inside below above
  · rw [grown] at small ⊢
    have room : client.size + excessLayers layerCount usablePlanes client ≤ layerCount := by
      rw [excessLayers] at short ⊢
      omega
    obtain ⟨window, inOther, coversClient⟩ :=
      ClientRange.exists_window_between fitting.covers (Nat.le_add_right _ _) small
    have positive : client.size + excessLayers layerCount usablePlanes client ≠ 0 := by omega
    rcases ClientRange.covers_iff.mp inOther with none | ⟨below, above⟩
    · exact absurd none positive
    · have inStack := Nat.le_trans above fitting.within
      calc cost start (client.size + excessLayers layerCount usablePlanes client)
          ≤ cost window (client.size + excessLayers layerCount usablePlanes client) :=
            cheapest window ((mem_candidateStarts_iff inside room).mpr ⟨inStack, coversClient⟩)
        _ ≤ cost other.start other.size := monotone.inside below above

end Growth

end Scanout
