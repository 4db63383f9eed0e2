/-
Module: Scanout.Proofs.Decisions
Purpose: Stacks described by the decisions that their layers carry, in any pattern: in which the
  client layers lie side by side, and at which layer another stack stops being a plan.
Imports: Scanout.Proofs.Stamping
Main exports: Carries, Contiguous, SplitsClients, FaultAt, LowestFault, carries_iff_of_getElem?,
  faultAt_append_iff, contiguous_iff_not_splits, mem_splitPositions_iff_splits,
  carries_client_iff_of_decides, contiguous_of_decides, not_faultAt_of_contiguous
-/
import Scanout.Proofs.Stamping

namespace Scanout

/-- Layer `z` of the stack carries a decision; `none` stands for a layer that is undecided. -/
def Carries (layers : List Layer) (decision : Option Decision) (z : Nat) : Prop :=
  ∃ layer, layers[z]? = some layer ∧ layer.decision = decision

instance (layers : List Layer) (decision : Option Decision) :
    DecidablePred (Carries layers decision) := fun z =>
  decidable_of_iff (layers[z]?.map Layer.decision = some decision) Option.map_eq_some_iff

/-- The client layers lie side by side: every layer between two of them is one. -/
def Contiguous (layers : List Layer) : Prop :=
  ∀ low z high, Carries layers (some .client) low → Carries layers (some .client) high →
    low ≤ z → z ≤ high → Carries layers (some .client) z

/-- Layer `z` is on a plane, with client layers both below and above it. -/
def SplitsClients (layers : List Layer) (z : Nat) : Prop :=
  Carries layers (some .device) z ∧ (∃ low < z, Carries layers (some .client) low) ∧
    ∃ high < layers.length, z < high ∧ Carries layers (some .client) high

instance (layers : List Layer) : DecidablePred (SplitsClients layers) := fun _ =>
  inferInstanceAs (Decidable (_ ∧ _ ∧ _))

/-- What makes a stack no plan at layer `z`: the layer is undecided, or it is a client layer with
another one somewhere below it, but not right below. -/
inductive FaultAt (layers : List Layer) (z : Nat) : PlanFault → Prop where
  | undecided (bare : Carries layers none z) : FaultAt layers z (.unplanned z)
  | detached {low : Nat} (client : Carries layers (some .client) z)
      (clientBelow : Carries layers (some .client) low) (below : low < z)
      (gap : ¬ Carries layers (some .client) (z - 1)) : FaultAt layers z (.splitClientRange z)

/-- A fault below which there is none. -/
def LowestFault (layers : List Layer) (fault : PlanFault) : Prop :=
  ∃ z, FaultAt layers z fault ∧ ∀ lower < z, ∀ other, ¬ FaultAt layers lower other

section Stack

variable {layers : List Layer} {decision : Option Decision} {z : Nat}

theorem Carries.lt_length (carries : Carries layers decision z) : z < layers.length := by
  obtain ⟨_, present, _⟩ := carries
  exact (List.getElem?_eq_some_iff.mp present).1

/-- A layer that is there carries the decision that is read off it. -/
theorem carries_iff_of_getElem? {layer : Layer} (present : layers[z]? = some layer) :
    Carries layers decision z ↔ layer.decision = decision := by
  simp [Carries, present]

/-- Layers above do not matter for what a layer carries. -/
theorem carries_append_iff {above : List Layer} (inStack : z < layers.length) :
    Carries (layers ++ above) decision z ↔ Carries layers decision z := by
  rw [Carries, Carries, List.getElem?_append_left inStack]

theorem carries_concat_length_iff {last : Layer} :
    Carries (layers ++ [last]) decision layers.length ↔ last.decision = decision :=
  carries_iff_of_getElem? List.getElem?_concat_length

/-- They do not matter for its fault either. -/
theorem faultAt_append_iff {above : List Layer} {fault : PlanFault} (inStack : z < layers.length) :
    FaultAt (layers ++ above) z fault ↔ FaultAt layers z fault := by
  have before : z - 1 < layers.length := Nat.lt_of_le_of_lt (Nat.sub_le z 1) inStack
  constructor
  · rintro (bare | ⟨client, clientBelow, below, gap⟩)
    · exact .undecided ((carries_append_iff inStack).mp bare)
    · refine .detached ((carries_append_iff inStack).mp client) ?_ below ?_
      · exact (carries_append_iff (Nat.lt_trans below inStack)).mp clientBelow
      · exact mt (carries_append_iff before).mpr gap
  · rintro (bare | ⟨client, clientBelow, below, gap⟩)
    · exact .undecided ((carries_append_iff inStack).mpr bare)
    · refine .detached ((carries_append_iff inStack).mpr client) ?_ below ?_
      · exact (carries_append_iff (Nat.lt_trans below inStack)).mpr clientBelow
      · exact mt (carries_append_iff before).mp gap

/-! ### Gaps between client layers -/

section Decided

variable (decided : ∀ z, ¬ Carries layers none z)

include decided

/-- A layer that is not client is on a plane. -/
theorem not_isClient_iff {layer : Layer} (present : layers[z]? = some layer) :
    (!layer.isClient) = true ↔ layer.decision = some .device := by
  have bare := decided z
  rw [carries_iff_of_getElem? present] at bare
  rw [Layer.isClient]
  cases decision : layer.decision with
  | none => exact absurd decision bare
  | some decision' => cases decision' <;> decide

/-- The client layers lie side by side exactly if no layer splits them. -/
theorem contiguous_iff_not_splits : Contiguous layers ↔ ∀ z, ¬ SplitsClients layers z := by
  constructor
  · rintro contiguous z ⟨⟨layer, present, device⟩, ⟨low, above, clientLow⟩, high, _, below,
      clientHigh⟩
    have client := contiguous low z high clientLow clientHigh (Nat.le_of_lt above)
      (Nat.le_of_lt below)
    rw [carries_iff_of_getElem? present, device] at client
    cases client
  · intro unbroken low z high clientLow clientHigh above below
    have highInStack := clientHigh.lt_length
    have present := List.getElem?_eq_getElem (Nat.lt_of_le_of_lt below highInStack)
    by_cases client : Carries layers (some .client) z
    · exact client
    · have apartLow : low ≠ z := by
        rintro rfl
        exact client clientLow
      have apartHigh : z ≠ high := by
        rintro rfl
        exact client clientHigh
      rw [carries_iff_of_getElem? present] at client
      have device := (not_isClient_iff decided present).mp (by simpa [Layer.isClient] using client)
      exact absurd ⟨⟨_, present, device⟩, ⟨low, Nat.lt_of_le_of_ne above apartLow, clientLow⟩,
        high, highInStack, Nat.lt_of_le_of_ne below apartHigh, clientHigh⟩ (unbroken z)

/-- The checker looks for the layers that split the client layers. -/
theorem mem_splitPositions_iff_splits : z ∈ splitPositions layers ↔ SplitsClients layers z := by
  have isClient_iff (z : Nat) :
      z ∈ positions Layer.isClient layers ↔ Carries layers (some .client) z := by
    simp only [mem_positions_iff, Carries, Layer.isClient, beq_iff_eq]
  rw [mem_splitPositions_iff, mem_positions_iff]
  constructor
  · rintro ⟨⟨layer, present, device⟩, low, lowIn, high, highIn, above, below⟩
    have clientHigh := (isClient_iff high).mp highIn
    exact ⟨⟨layer, present, (not_isClient_iff decided present).mp device⟩,
      ⟨low, above, (isClient_iff low).mp lowIn⟩, high, clientHigh.lt_length, below, clientHigh⟩
  · rintro ⟨⟨layer, present, device⟩, ⟨low, above, clientLow⟩, high, _, below, clientHigh⟩
    exact ⟨⟨layer, present, (not_isClient_iff decided present).mpr device⟩, low,
      (isClient_iff low).mpr clientLow, high, (isClient_iff high).mpr clientHigh, above, below⟩

end Decided

/-! ### Stacks that a range decides -/

variable {range : ClientRange}

theorem not_carries_none_of_decides (decides : range.Decides layers) : ¬ Carries layers none z := by
  rintro ⟨layer, present, bare⟩
  rw [decides z layer present] at bare
  cases bare

/-- The client layers are those of the range. -/
theorem carries_client_iff_of_decides (decides : range.Decides layers)
    (inStack : z < layers.length) :
    Carries layers (some .client) z ↔ range.contains z = true := by
  have present := List.getElem?_eq_getElem inStack
  rw [carries_iff_of_getElem? present, ← decides.isClient_iff present, Layer.isClient, beq_iff_eq]

theorem contiguous_of_decides (decides : range.Decides layers) : Contiguous layers := by
  intro low z high clientLow clientHigh above below
  have inStack := Nat.lt_of_le_of_lt below clientHigh.lt_length
  have bottom := (carries_client_iff_of_decides decides clientLow.lt_length).mp clientLow
  have top := (carries_client_iff_of_decides decides clientHigh.lt_length).mp clientHigh
  rw [carries_client_iff_of_decides decides inStack]
  rw [ClientRange.contains_iff] at bottom top ⊢
  omega

/-- Nothing is wrong with a layer of a contiguous stack in which all layers are decided. -/
theorem not_faultAt_of_contiguous (decided : ∀ z, ¬ Carries layers none z)
    (contiguous : Contiguous layers) (fault : PlanFault) : ¬ FaultAt layers z fault := by
  rintro (bare | ⟨client, clientBelow, below, gap⟩)
  · exact decided z bare
  · exact gap (contiguous _ _ _ clientBelow client (Nat.le_sub_one_of_lt below) (Nat.sub_le z 1))

end Stack

end Scanout
