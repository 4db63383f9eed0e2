/-
Module: Scanout.Proofs.Stamping
Purpose: A stack stamped with a client range is decided by it, and the range can be read back.
Imports: Scanout.Plan, Scanout.Audit, Scanout.Proofs.Range.Containment
Main exports: ClientRange.Decides, ClientRange.below, decides_stampLayers, map_stampLayers,
  stampedClientRange_of_decides, countP_isClient_of_decidesFrom, mem_splitPositions_iff,
  splitPositions_of_decides, violations_of_decides
-/
import Scanout.Plan
import Scanout.Audit
import Scanout.Proofs.Range.Containment

namespace Scanout

namespace ClientRange

/-- What a client range decides about layer `z`. -/
def decisionAt (range : ClientRange) (z : Nat) : Decision :=
  if range.contains z then .client else .device

/-- Every layer of the stack has the decision that the range stands for. -/
def Decides (range : ClientRange) (layers : List Layer) : Prop :=
  ∀ z layer, layers[z]? = some layer → layer.decision = some (range.decisionAt z)

/-- The same, for layers the lowest of which has position `z`. -/
def DecidesFrom (range : ClientRange) : (z : Nat) → List Layer → Prop
  | _, [] => True
  | z, layer :: layers =>
      layer.decision = some (range.decisionAt z) ∧ range.DecidesFrom (z + 1) layers

private theorem decidesFrom_of_forall {range : ClientRange} {layers : List Layer} :
    ∀ z, (∀ i layer, layers[i]? = some layer → layer.decision = some (range.decisionAt (z + i))) →
      range.DecidesFrom z layers := by
  induction layers with
  | nil => exact fun _ _ => trivial
  | cons lowest layers inductionHypothesis =>
      intro z decided
      refine ⟨decided 0 lowest rfl, inductionHypothesis (z + 1) ?_⟩
      intro i layer present
      rw [Nat.add_right_comm, Nat.add_assoc]
      exact decided (i + 1) layer present

theorem Decides.decidesFrom {range : ClientRange} {layers : List Layer}
    (decides : range.Decides layers) : range.DecidesFrom 0 layers := by
  refine decidesFrom_of_forall 0 ?_
  intro z layer present
  rw [Nat.zero_add]
  exact decides z layer present

theorem Decides.isClient_iff {range : ClientRange} {layers : List Layer}
    (decides : range.Decides layers) {z : Nat} {layer : Layer} (present : layers[z]? = some layer) :
    layer.isClient = true ↔ range.contains z = true := by
  rw [Layer.isClient, decides z layer present, decisionAt]
  cases range.contains z <;> decide

/-! ### The part of a range below a position -/

/-- The layers of the range below position `z`. -/
def below (range : ClientRange) (z : Nat) : ClientRange :=
  ofBounds range.start (min range.stop z)

@[simp] theorem below_zero (range : ClientRange) : range.below 0 = empty := by
  rw [below, Nat.min_zero, ofBounds_of_le (Nat.zero_le _)]

theorem size_below (range : ClientRange) (z : Nat) :
    (range.below z).size = min range.stop z - range.start :=
  size_ofBounds _ _

theorem below_contains_iff {range : ClientRange} {z position : Nat} :
    (range.below z).contains position = true ↔
      range.contains position = true ∧ position < z := by
  rw [below, ofBounds, contains_ofSpan_iff, contains_iff, stop_eq]
  omega

theorem below_succ_of_contains {range : ClientRange} {z : Nat}
    (inside : range.contains z = true) :
    range.below (z + 1) = ⟨range.start, z + 1 - range.start⟩ := by
  rw [contains_iff] at inside
  rw [below, stop_eq, Nat.min_eq_right (by omega), ofBounds_of_lt (by omega)]

theorem below_succ_of_not_contains {range : ClientRange} {z : Nat}
    (outside : ¬ range.contains z = true) : range.below (z + 1) = range.below z := by
  rw [contains_iff] at outside
  rw [below, below, ofBounds, ofBounds, stop_eq]
  by_cases lower : z < range.start
  · rw [Nat.sub_eq_zero_of_le (by omega), Nat.sub_eq_zero_of_le (by omega)]
  · rw [Nat.min_eq_left (by omega), Nat.min_eq_left (by omega)]

theorem stop_below_le (range : ClientRange) (z : Nat) : (range.below z).stop ≤ z := by
  by_cases occupied : range.start < min range.stop z
  · rw [below, ofBounds_of_lt occupied, stop_mk]
    omega
  · rw [below, ofBounds_of_le (Nat.le_of_not_lt occupied)]
    exact Nat.zero_le z

/-- A range decides what its part within the stack decides. -/
theorem Decides.below {range : ClientRange} {layers : List Layer}
    (decides : range.Decides layers) : (range.below layers.length).Decides layers := by
  intro z layer present
  have inStack := (List.getElem?_eq_some_iff.mp present).1
  have same : (range.below layers.length).contains z = range.contains z := by
    rw [Bool.eq_iff_iff, below_contains_iff]
    exact and_iff_left inStack
  rw [decides z layer present, decisionAt, decisionAt, same]

end ClientRange

/-! ### Stamping and reading back -/

theorem length_stampLayers (client : ClientRange) (layers : List Layer) :
    (stampLayers client layers).length = layers.length := by
  rw [stampLayers, List.length_mapIdx]

theorem getElem?_stampLayers (client : ClientRange) (layers : List Layer) (z : Nat) :
    (stampLayers client layers)[z]? =
      layers[z]?.map fun layer => layer.stamp (client.contains z) := by
  rw [stampLayers, List.getElem?_mapIdx]

/-- A stamped layer comes from the layer at its position. -/
theorem getElem?_stampLayers_eq_some {client : ClientRange} {layers : List Layer} {z : Nat}
    {layer : Layer} (present : (stampLayers client layers)[z]? = some layer) :
    ∃ before, layers[z]? = some before ∧ layer = before.stamp (client.contains z) := by
  rw [getElem?_stampLayers, Option.map_eq_some_iff] at present
  obtain ⟨before, presentBefore, stamped⟩ := present
  exact ⟨before, presentBefore, stamped.symm⟩

theorem decides_stampLayers (client : ClientRange) (layers : List Layer) :
    client.Decides (stampLayers client layers) := by
  intro z layer present
  obtain ⟨before, _, rfl⟩ := getElem?_stampLayers_eq_some present
  rfl

/-- Stamping keeps what does not depend on decisions. -/
theorem map_stampLayers {α : Type} (read : Layer → α)
    (kept : ∀ layer client, read (layer.stamp client) = read layer) (client : ClientRange)
    (layers : List Layer) : (stampLayers client layers).map read = layers.map read := by
  apply List.ext_getElem?
  intro z
  rw [List.getElem?_map, List.getElem?_map, getElem?_stampLayers, Option.map_map]
  congr 1
  funext layer
  exact kept layer (client.contains z)

/-- Stamping keeps the number of video layers. -/
theorem countP_isVideo_stampLayers (client : ClientRange) (layers : List Layer) :
    (stampLayers client layers).countP Layer.isVideo = layers.countP Layer.isVideo := by
  have flags := map_stampLayers Layer.isVideo (fun _ _ => rfl) client layers
  calc (stampLayers client layers).countP Layer.isVideo
      = ((stampLayers client layers).map Layer.isVideo).countP id := by
        rw [List.countP_map, Function.id_comp]
    _ = (layers.map Layer.isVideo).countP id := by rw [flags]
    _ = layers.countP Layer.isVideo := by rw [List.countP_map, Function.id_comp]

theorem Snapshot.decides_stamp (snapshot : Snapshot) (client : ClientRange) :
    client.Decides (snapshot.stamp client).layers :=
  decides_stampLayers client snapshot.layers

/-- The scan carries the part of the range below the layers still to come. -/
theorem scanClientRange_of_decidesFrom {range : ClientRange} {layers : List Layer} :
    ∀ z, range.DecidesFrom z layers →
      scanClientRange (range.below z) z layers = .ok (range.below (z + layers.length)) := by
  induction layers with
  | nil =>
      intro z _
      rfl
  | cons layer layers inductionHypothesis =>
      intro z ⟨decided, decides⟩
      have rest := inductionHypothesis (z + 1) decides
      rw [List.length_cons, Nat.add_comm layers.length 1, ← Nat.add_assoc, ← rest]
      by_cases inside : range.contains z = true
      · rw [ClientRange.decisionAt, if_pos inside] at decided
        rw [scanClientRange, decided, ClientRange.below_succ_of_contains inside]
        have bounds := ClientRange.contains_iff.mp inside
        have size := ClientRange.size_below range z
        rw [ClientRange.stop_eq] at size
        by_cases lowest : range.start = z
        · have vacant : (range.below z).isEmpty = true :=
            ClientRange.isEmpty_iff.mpr (by omega)
          simp only [if_pos vacant, lowest, Nat.add_sub_cancel_left]
          rfl
        · obtain ⟨previous, rfl⟩ : ∃ previous, z = previous + 1 := ⟨z - 1, by omega⟩
          have continued : range.contains previous = true :=
            ClientRange.contains_iff.mpr (by omega)
          have occupied : ¬ (range.below (previous + 1)).isEmpty = true := by
            rw [ClientRange.isEmpty_iff]
            omega
          simp only [if_neg occupied]
          have adjacent : previous + 1 =
              (ClientRange.mk range.start (previous + 1 - range.start)).stop := by
            rw [ClientRange.stop_mk]
            omega
          rw [ClientRange.below_succ_of_contains continued, if_pos adjacent,
            ClientRange.ofSpan_of_pos _ (Nat.succ_pos _)]
          congr 2
          show previous + 1 - range.start + 1 = _
          omega
      · rw [ClientRange.decisionAt, if_neg inside] at decided
        rw [scanClientRange, decided, ClientRange.below_succ_of_not_contains inside]

/-- The client range of a decided stack is the part of the range within it. -/
theorem stampedClientRange_of_decides {range : ClientRange} {layers : List Layer}
    (decides : range.Decides layers) :
    stampedClientRange layers = .ok (range.below layers.length) := by
  have scanned := scanClientRange_of_decidesFrom 0 decides.decidesFrom
  rw [ClientRange.below_zero, Nat.zero_add] at scanned
  exact scanned

/-- As many layers are client as positions of the range lie in the stack. -/
theorem countP_isClient_of_decidesFrom {range : ClientRange} {layers : List Layer} :
    ∀ z, range.DecidesFrom z layers →
      (range.below z).size + layers.countP Layer.isClient =
        (range.below (z + layers.length)).size := by
  induction layers with
  | nil =>
      intro z _
      rfl
  | cons layer layers inductionHypothesis =>
      intro z ⟨decided, decides⟩
      have rest := inductionHypothesis (z + 1) decides
      rw [List.length_cons, Nat.add_comm layers.length 1, ← Nat.add_assoc, ← rest,
        List.countP_cons, Layer.isClient, decided, ClientRange.decisionAt]
      by_cases inside : range.contains z = true
      · have bounds := ClientRange.contains_iff.mp inside
        rw [if_pos inside, ClientRange.size_below, ClientRange.size_below, ClientRange.stop_eq]
        simp only [beq_self_eq_true, if_true]
        omega
      · rw [if_neg inside, ClientRange.below_succ_of_not_contains inside]
        rfl

/-! ### The checker's positions -/

theorem mem_positions_iff {holds : Layer → Bool} {layers : List Layer} {z : Nat} :
    z ∈ positions holds layers ↔ ∃ layer, layers[z]? = some layer ∧ holds layer = true := by
  simp [positions, List.mem_zipIdx_iff_getElem?]

theorem positions_isNone_of_decides {range : ClientRange} {layers : List Layer}
    (decides : range.Decides layers) : positions (·.decision.isNone) layers = [] := by
  rw [List.eq_nil_iff_forall_not_mem]
  intro z member
  obtain ⟨layer, present, undecided⟩ := mem_positions_iff.mp member
  rw [decides z layer present] at undecided
  cases undecided

/-- Positions are listed from the bottom up. -/
theorem pairwise_positions (holds : Layer → Bool) (layers : List Layer) :
    (positions holds layers).Pairwise (· < ·) := by
  have part : (positions holds layers).Sublist (layers.zipIdx.map Prod.snd) :=
    List.filter_sublist.map _
  rw [List.zipIdx_map_snd] at part
  exact List.Pairwise.sublist part List.pairwise_lt_range'

/-- The checker names the device layers that have client layers both below and above them. -/
theorem mem_splitPositions_iff {layers : List Layer} {z : Nat} :
    z ∈ splitPositions layers ↔
      z ∈ positions (!·.isClient) layers ∧
        ∃ low ∈ positions Layer.isClient layers, ∃ high ∈ positions Layer.isClient layers,
          low < z ∧ z < high := by
  have sorted := pairwise_positions Layer.isClient layers
  have different : z ∈ positions (!·.isClient) layers → z ∉ positions Layer.isClient layers := by
    simp only [mem_positions_iff]
    rintro ⟨layer, present, device⟩ ⟨other, same, client⟩
    rw [present] at same
    cases same
    rw [client] at device
    cases device
  rw [splitPositions]
  generalize positions Layer.isClient layers = client at sorted different ⊢
  rcases first : client.head? with _ | lowest
  · rw [List.head?_eq_none_iff] at first
    simp [first]
  rcases last : client.getLast? with _ | highest
  · rw [List.getLast?_eq_none_iff] at last
    simp [last] at first
  have lowMember := List.mem_of_head? first
  have highMember := List.mem_of_getLast? last
  have above (low : Nat) (member : low ∈ client) : lowest ≤ low := by
    obtain ⟨others, rfl⟩ := List.head?_eq_some_iff.mp first
    rcases List.mem_cons.mp member with rfl | later
    · exact Nat.le_refl low
    · exact Nat.le_of_lt ((List.pairwise_cons.mp sorted).1 low later)
  have below (high : Nat) (member : high ∈ client) : high ≤ highest := by
    obtain ⟨others, rfl⟩ := List.getLast?_eq_some_iff.mp last
    rcases List.mem_append.mp member with earlier | same
    · exact Nat.le_of_lt ((List.pairwise_append.mp sorted).2.2 high earlier highest (by simp))
    · exact Nat.le_of_eq (List.mem_singleton.mp same)
  simp only [List.mem_filter, Bool.and_eq_true, decide_eq_true_eq]
  refine and_congr_right fun device => ⟨?_, ?_⟩
  · rintro ⟨upper, lower⟩
    have apart : lowest ≠ z := fun same => different device (same ▸ lowMember)
    exact ⟨lowest, lowMember, highest, highMember, by omega, lower⟩
  · rintro ⟨low, lowIn, high, highIn, upper, lower⟩
    exact ⟨Nat.le_trans (above low lowIn) (Nat.le_of_lt upper),
      Nat.lt_of_lt_of_le lower (below high highIn)⟩

/-- No device layer lies between client layers of a decided stack. -/
theorem splitPositions_of_decides {range : ClientRange} {layers : List Layer}
    (decides : range.Decides layers) : splitPositions layers = [] := by
  rw [List.eq_nil_iff_forall_not_mem]
  intro z member
  simp only [mem_splitPositions_iff, mem_positions_iff] at member
  obtain ⟨⟨layer, present, device⟩, low, ⟨lower, lowPresent, lowClient⟩, high,
    ⟨upper, highPresent, highClient⟩, above, below⟩ := member
  have bottom := ClientRange.contains_iff.mp ((decides.isClient_iff lowPresent).mp lowClient)
  have top := ClientRange.contains_iff.mp ((decides.isClient_iff highPresent).mp highClient)
  have inside : range.contains z = true := ClientRange.contains_iff.mpr (by omega)
  rw [(decides.isClient_iff present).mpr inside] at device
  cases device

/-- A decided stack whose marked layers are client breaks no promise but possibly the budget. -/
theorem violations_of_decides {range : ClientRange} {snapshot : Snapshot} {classifier : Classifier}
    (decides : range.Decides snapshot.layers)
    (holds : ∀ z layer, snapshot.layers[z]? = some layer → classifier snapshot layer = true →
      range.contains z = true) :
    violations snapshot classifier =
      if snapshot.usablePlanes < planesInUse snapshot.layers then
        [.overBudget (planesInUse snapshot.layers) snapshot.usablePlanes]
      else [] := by
  have decided := positions_isNone_of_decides decides
  have unmarked : positions (fun layer => !layer.isClient && classifier snapshot layer)
      snapshot.layers = [] := by
    rw [List.eq_nil_iff_forall_not_mem]
    intro z member
    obtain ⟨layer, present, marked⟩ := mem_positions_iff.mp member
    rw [Bool.and_eq_true] at marked
    rw [(decides.isClient_iff present).mpr (holds z layer present marked.2)] at marked
    cases marked.1
  simp only [violations, decided, unmarked, splitPositions_of_decides decides, List.isEmpty_nil,
    if_true, List.map_nil, List.nil_append]

end Scanout
