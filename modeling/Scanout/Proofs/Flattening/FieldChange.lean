/-
Module: Scanout.Proofs.Flattening.FieldChange
Purpose: A change of one field of one layer changes the signature of the stack, so a frame that
  differs from the one before in no more than that is not taken for a still one.
Imports: Scanout.Flattening.StillFrames, Scanout.Proofs.Flattening.Absorption
Main exports: InputField, InputField.Agree, InputField.bytes, InputField.agree_of_absorbAll_eq,
  OneFieldChanged, OneFieldChanged.exists_stackBytes, OneFieldChanged.always_noticed
-/
import Scanout.Flattening.StillFrames
import Scanout.Proofs.Flattening.Absorption

namespace Scanout

/-! ### Words in a signature -/

/-- A word of some bytes is written as its low bytes, and then the number above them. -/
theorem Bytes.ofNat_add (low high n : Nat) :
    ofNat (low + high) n = ofNat low n ++ ofNat high (n / 256 ^ low) := by
  induction low generalizing n with
  | zero => rw [Nat.zero_add, Nat.pow_zero, Nat.div_one, ofNat, List.nil_append]
  | succ low inductionHypothesis =>
      rw [Nat.add_right_comm, ofNat, ofNat, inductionHypothesis, List.cons_append,
        Nat.div_div_eq_div_mul, Nat.pow_succ']

theorem Bytes.ofNat_inj {width n other : Nat} (fits : n < 256 ^ width)
    (otherFits : other < 256 ^ width) (same : ofNat width n = ofNat width other) : n = other := by
  have written := read_ofNat_append width fits []
  rw [same, read_ofNat_append width otherFits []] at written
  exact (Prod.mk.inj (Option.some.inj written)).1.symm

/-- A word with at most four bytes that are not zero is determined by the state it leads to. -/
theorem Signature.eq_of_absorbAll_ofNat_eq {state : UInt64} {zeros n other : Nat}
    (fits : n < 256 ^ 4) (otherFits : other < 256 ^ 4)
    (same : absorbAll state (Bytes.ofNat (4 + zeros) n) =
      absorbAll state (Bytes.ofNat (4 + zeros) other)) : n = other := by
  rw [Bytes.ofNat_add, Bytes.ofNat_add, Nat.div_eq_of_lt fits, Nat.div_eq_of_lt otherFits,
    absorbAll_append, absorbAll_append, absorbAll_left_inj] at same
  apply Bytes.ofNat_inj fits otherFits
  apply eq_of_absorbAll_eq _ _ same
  · exact Nat.le_of_eq (Bytes.length_ofNat 4 n)
  · rw [Bytes.length_ofNat, Bytes.length_ofNat]

theorem Signature.eq_of_absorbAll_edgeBytes_eq {state : UInt64} {edge other : Int32}
    (same : absorbAll state (edgeBytes edge) = absorbAll state (edgeBytes other)) :
    edge = other := by
  have sameNumber := @eq_of_absorbAll_ofNat_eq state 0 edge.toUInt32.toNat other.toUInt32.toNat
    edge.toUInt32.toNat_lt other.toUInt32.toNat_lt same
  have sameWord := congrArg UInt32.toInt32 (UInt32.toNat_inj.mp sameNumber)
  rwa [Int32.toInt32_toUInt32, Int32.toInt32_toUInt32] at sameWord

theorem Signature.eq_of_absorbAll_ofFlag_eq {state : UInt64} {flag other : Bool}
    (same : absorbAll state [Bytes.ofFlag flag] = absorbAll state [Bytes.ofFlag other]) :
    flag = other := by
  have sameByte : [Bytes.ofFlag flag] = [Bytes.ofFlag other] := by
    apply eq_of_absorbAll_eq _ _ same
    · exact Nat.le_add_left 1 3
    · rw [List.length_singleton, List.length_singleton]
  revert sameByte
  cases flag <;> cases other <;> decide

/-! ### Fields -/

/-- The fields of a layer that planning reads. -/
inductive InputField where
  | hint
  | left
  | top
  | right
  | bottom
  | needsScaling
  | isVideo
  | planeUsable
deriving DecidableEq, Repr

namespace InputField

/-- All fields, in the order in which they go into a signature. -/
def all : List InputField := [hint, left, top, right, bottom, needsScaling, isVideo, planeUsable]

theorem mem_all (field : InputField) : field ∈ all := by cases field <;> decide

theorem nodup_all : all.Nodup := by decide

/-- The layers have the same in the field. -/
def Agree : InputField → (layer other : Layer) → Prop
  | hint, layer, other => layer.hint = other.hint
  | left, layer, other => layer.frame.left = other.frame.left
  | top, layer, other => layer.frame.top = other.frame.top
  | right, layer, other => layer.frame.right = other.frame.right
  | bottom, layer, other => layer.frame.bottom = other.frame.bottom
  | needsScaling, layer, other => layer.needsScaling = other.needsScaling
  | isVideo, layer, other => layer.isVideo = other.isVideo
  | planeUsable, layer, other => layer.planeUsable = other.planeUsable

instance (field : InputField) (layer other : Layer) : Decidable (field.Agree layer other) := by
  cases field <;> exact inferInstanceAs (Decidable (_ = _))

/-- What a field adds to a signature. -/
def bytes : InputField → Layer → List UInt8
  | hint, layer => Bytes.ofNat 8 layer.hint.index
  | left, layer => edgeBytes layer.frame.left
  | top, layer => edgeBytes layer.frame.top
  | right, layer => edgeBytes layer.frame.right
  | bottom, layer => edgeBytes layer.frame.bottom
  | needsScaling, layer => [Bytes.ofFlag layer.needsScaling]
  | isVideo, layer => [Bytes.ofFlag layer.isVideo]
  | planeUsable, layer => [Bytes.ofFlag layer.planeUsable]

theorem bytes_eq_of_agree {field : InputField} {layer other : Layer}
    (agree : field.Agree layer other) : field.bytes layer = field.bytes other := by
  cases field <;> simp only [Agree] at agree <;> simp only [bytes, agree]

/-- From a common state a field leads to a common state only where the layers agree in it. -/
theorem agree_of_absorbAll_eq {field : InputField} {state : UInt64} {layer other : Layer}
    (same : Signature.absorbAll state (field.bytes layer) =
      Signature.absorbAll state (field.bytes other)) : field.Agree layer other := by
  cases field with
  | hint =>
      have small (kind : Kind) : kind.index < 256 ^ 4 := by cases kind <;> decide
      have sameIndex := @Signature.eq_of_absorbAll_ofNat_eq state 4 _ _ (small layer.hint)
        (small other.hint) same
      exact Kind.index_injective sameIndex
  | left => exact Signature.eq_of_absorbAll_edgeBytes_eq same
  | top => exact Signature.eq_of_absorbAll_edgeBytes_eq same
  | right => exact Signature.eq_of_absorbAll_edgeBytes_eq same
  | bottom => exact Signature.eq_of_absorbAll_edgeBytes_eq same
  | needsScaling => exact Signature.eq_of_absorbAll_ofFlag_eq same
  | isVideo => exact Signature.eq_of_absorbAll_ofFlag_eq same
  | planeUsable => exact Signature.eq_of_absorbAll_ofFlag_eq same

end InputField

/-- The bytes of a layer are those of its fields. -/
theorem Layer.inputBytes_eq (layer : Layer) :
    layer.inputBytes = InputField.all.flatMap fun field => field.bytes layer := by
  simp [inputBytes, InputField.all, InputField.bytes]

theorem Layer.inputBytes_eq_of_agree {layer other : Layer}
    (agree : ∀ field : InputField, field.Agree layer other) :
    layer.inputBytes = other.inputBytes := by
  have sameBytes : (fun field : InputField => field.bytes layer) = fun field => field.bytes other :=
    funext fun field => InputField.bytes_eq_of_agree (agree field)
  rw [inputBytes_eq, inputBytes_eq, sameBytes]

/-- Layers that agree in all fields but one have the same bytes before that field and after it. -/
theorem Layer.exists_inputBytes {layer other : Layer} {field : InputField}
    (agree : ∀ next : InputField, next ≠ field → next.Agree layer other) :
    ∃ lower upper, layer.inputBytes = lower ++ field.bytes layer ++ upper ∧
      other.inputBytes = lower ++ field.bytes other ++ upper := by
  obtain ⟨before, after, split⟩ := List.append_of_mem field.mem_all
  have distinct := InputField.nodup_all
  rw [split, List.nodup_append, List.nodup_cons] at distinct
  obtain ⟨_, ⟨notAfter, _⟩, notBefore⟩ := distinct
  have sameBytes (fields : List InputField) (absent : field ∉ fields) :
      (fields.flatMap fun next => next.bytes layer) =
        fields.flatMap fun next => next.bytes other := by
    rw [List.flatMap_def, List.flatMap_def]
    apply congrArg List.flatten
    apply List.map_congr_left
    intro next member
    apply InputField.bytes_eq_of_agree
    apply agree
    rintro rfl
    exact absent member
  have absentBefore : field ∉ before := fun member =>
    notBefore field member field List.mem_cons_self rfl
  refine ⟨before.flatMap fun next => next.bytes layer, after.flatMap fun next => next.bytes layer,
    ?_, ?_⟩
  · rw [inputBytes_eq, split, List.flatMap_append, List.flatMap_cons, List.append_assoc]
  · rw [inputBytes_eq, split, List.flatMap_append, List.flatMap_cons, sameBytes before absentBefore,
      sameBytes after notAfter, List.append_assoc]

/-! ### Stacks -/

/-- The stacks differ in one field of layer `z` and in nothing else that planning reads; decisions of
earlier passes may be any. -/
structure OneFieldChanged (field : InputField) (z : Nat) (before after : List Layer) : Prop where
  sameLength : before.length = after.length
  changed : ∃ old new, before[z]? = some old ∧ after[z]? = some new ∧ ¬ field.Agree old new
  elsewhere : ∀ (i : Nat) (old new : Layer), before[i]? = some old → after[i]? = some new →
    ∀ next : InputField, i ≠ z ∨ next ≠ field → next.Agree old new

/-- Layers that agree one by one have the same bytes. -/
theorem flatMap_inputBytes_eq {layers others : List Layer}
    (sameLength : layers.length = others.length)
    (agree : ∀ (i : Nat) (layer other : Layer), layers[i]? = some layer →
      others[i]? = some other → ∀ field : InputField, field.Agree layer other) :
    layers.flatMap Layer.inputBytes = others.flatMap Layer.inputBytes := by
  rw [List.flatMap_def, List.flatMap_def]
  apply congrArg List.flatten
  apply List.ext_getElem
  · rw [List.length_map, List.length_map, sameLength]
  · intro i inside otherInside
    rw [List.length_map] at inside otherInside
    rw [List.getElem_map, List.getElem_map]
    exact Layer.inputBytes_eq_of_agree
      (agree i _ _ (List.getElem?_eq_getElem inside) (List.getElem?_eq_getElem otherInside))

/-- The bytes of the layers below one, of that layer, and of those above it. -/
theorem flatMap_inputBytes_split {layers : List Layer} {z : Nat} (inside : z < layers.length) :
    layers.flatMap Layer.inputBytes = (layers.take z).flatMap Layer.inputBytes ++
      (layers[z].inputBytes ++ (layers.drop (z + 1)).flatMap Layer.inputBytes) := by
  rw [← List.flatMap_cons, ← List.drop_eq_getElem_cons inside, ← List.flatMap_append,
    List.take_append_drop]

namespace OneFieldChanged

variable {field : InputField} {z : Nat} {before after : List Layer}

theorem bytes_below (change : OneFieldChanged field z before after) :
    (before.take z).flatMap Layer.inputBytes = (after.take z).flatMap Layer.inputBytes := by
  apply flatMap_inputBytes_eq
  · rw [List.length_take, List.length_take, change.sameLength]
  · intro i layer other inBefore inAfter
    have low : i < z := by
      obtain ⟨inside, _⟩ := List.getElem?_eq_some_iff.mp inBefore
      exact Nat.lt_of_lt_of_le inside (List.length_take_le z before)
    rw [List.getElem?_take_of_lt low] at inBefore inAfter
    exact fun next => change.elsewhere i _ _ inBefore inAfter next (Or.inl (Nat.ne_of_lt low))

theorem bytes_above (change : OneFieldChanged field z before after) :
    (before.drop (z + 1)).flatMap Layer.inputBytes =
      (after.drop (z + 1)).flatMap Layer.inputBytes := by
  apply flatMap_inputBytes_eq
  · rw [List.length_drop, List.length_drop, change.sameLength]
  · intro i layer other inBefore inAfter
    rw [List.getElem?_drop] at inBefore inAfter
    have high : z + 1 + i ≠ z := by omega
    exact fun next => change.elsewhere _ _ _ inBefore inAfter next (Or.inl high)

/-- The bytes of the two stacks are the same up to the changed field and after it. -/
theorem exists_stackBytes (change : OneFieldChanged field z before after) :
    ∃ lower upper old new, ¬ field.Agree old new ∧
      stackBytes before = lower ++ field.bytes old ++ upper ∧
      stackBytes after = lower ++ field.bytes new ++ upper := by
  obtain ⟨old, new, atOld, atNew, differ⟩ := change.changed
  obtain ⟨lower, upper, oldBytes, newBytes⟩ := Layer.exists_inputBytes fun next other =>
    change.elsewhere z old new atOld atNew next (Or.inr other)
  obtain ⟨oldInside, rfl⟩ := List.getElem?_eq_some_iff.mp atOld
  obtain ⟨newInside, rfl⟩ := List.getElem?_eq_some_iff.mp atNew
  refine ⟨Bytes.ofNat 8 before.length ++ (before.take z).flatMap Layer.inputBytes ++ lower,
    upper ++ (before.drop (z + 1)).flatMap Layer.inputBytes, _, _, differ, ?_, ?_⟩
  · rw [stackBytes, flatMap_inputBytes_split oldInside, oldBytes]
    simp only [List.append_assoc]
  · rw [stackBytes, flatMap_inputBytes_split newInside, newBytes, change.bytes_below,
      change.bytes_above, change.sameLength]
    simp only [List.append_assoc]

theorem stackSignature_ne (change : OneFieldChanged field z before after) :
    stackSignature before ≠ stackSignature after := by
  intro same
  obtain ⟨lower, upper, old, new, differ, beforeEq, afterEq⟩ := change.exists_stackBytes
  simp only [stackSignature, Signature.ofBytes, beforeEq, afterEq, Signature.absorbAll_append,
    Signature.absorbAll_left_inj] at same
  exact differ (InputField.agree_of_absorbAll_eq same)

/-- A change of one field of one layer is always noticed: the signature changes, and a detector that
has just seen the stack of two or more layers does not take the changed one for a still frame. -/
theorem always_noticed (change : OneFieldChanged field z before after) :
    stackSignature before ≠ stackSignature after ∧
      ∀ detector : StillFrameDetector, detector.enabled = true → 2 ≤ before.length →
        ((detector.observe before).2.observe after).1 = false := by
  have differ := change.stackSignature_ne
  refine ⟨differ, ?_⟩
  intro detector enabled several
  have severalAfter : ¬ after.length ≤ 1 := by
    rw [← change.sameLength]
    exact Nat.not_le_of_lt several
  simp [StillFrameDetector.observe, enabled, differ, severalAfter]

/-- The right edge of the upper one of two layers moves from -1 to 0, which changes all four of its
bytes; the lower layer got a decision in between. -/
theorem always_noticed_on_moved_edge :
    let lower : Layer := { frame := ⟨0, 0, 10, 10⟩ }
    let upper : Layer := { frame := ⟨-5, 0, -1, 10⟩ }
    let before := [lower, upper]
    let after := [lower.stamp true, { upper with frame := ⟨-5, 0, 0, 10⟩ }]
    OneFieldChanged .right 1 before after ∧ stackSignature before ≠ stackSignature after ∧
      ((StillFrameDetector.new.observe before).2.observe after).1 = false := by
  intro lower upper before after
  have change : OneFieldChanged .right 1 before after := by
    refine ⟨rfl, ⟨_, _, rfl, rfl, by decide⟩, ?_⟩
    intro i old new atOld atNew next outside
    match i with
    | 0 =>
        cases atOld
        cases atNew
        cases next <;> rfl
    | 1 =>
        cases atOld
        cases atNew
        cases next <;> first | rfl | exact absurd outside (by decide)
  obtain ⟨differ, unsettled⟩ := always_noticed change
  exact ⟨change, differ, unsettled .new rfl (Nat.le_refl 2)⟩

end OneFieldChanged

end Scanout
