/-
Module: Scanout.Proofs.Budget.Relaxation
Purpose: More planes, or fewer layers that need the GPU, never make the grown range larger or
  dearer.
Imports: Scanout.Proofs.Budget.Plain
Main exports: devicePlanes_mono, FitsPlanes.relax, cost_fitToPlanes_relaxed_le,
  size_fitToPlanes_relaxed_le
-/
import Scanout.Proofs.Budget.Plain

namespace Scanout

/-- Further planes never leave fewer of them for layers, although the one held back for the client
target comes and goes: it is freed only where there are as many planes as layers. -/
theorem devicePlanes_mono (layerCount : Nat) {fewer more : Nat} (planes : fewer ≤ more) :
    devicePlanes layerCount fewer ≤ devicePlanes layerCount more := by
  rw [devicePlanes, devicePlanes]
  split <;> split <;> omega

/-! ### Ranges that fit the tighter budget fit the looser one -/

section Relaxed

variable {layerCount fewer more : Nat} {tight loose : ClientRange}

/-- What fits fewer planes around a range fits more planes around a part of the range. -/
theorem FitsPlanes.relax {range : ClientRange} (fitting : FitsPlanes layerCount fewer tight range)
    (planes : fewer ≤ more) (part : tight.covers loose = true) :
    FitsPlanes layerCount more loose range where
  within := fitting.within
  covers := ClientRange.covers_trans fitting.covers part
  fits := Nat.le_trans fitting.fits (devicePlanes_mono layerCount planes)

variable (planes : fewer ≤ more) (part : tight.covers loose = true)
  (tightInside : tight.stop ≤ layerCount) (looseInside : loose.stop ≤ layerCount)

include planes part tightInside looseInside

/-- The range grown under the tighter budget is one of those that the looser budget chooses from, so
under a monotone cost the choice is no dearer. -/
theorem cost_fitToPlanes_relaxed_le {cost : WindowCost} (monotone : cost.Monotone) :
    cost (fitToPlanes layerCount more loose cost).start
        (fitToPlanes layerCount more loose cost).size ≤
      cost (fitToPlanes layerCount fewer tight cost).start
        (fitToPlanes layerCount fewer tight cost).size := by
  have strict := fitToPlanes_fits fewer cost tightInside
  exact cost_fitToPlanes_le more monotone looseInside (strict.relax planes part)

theorem size_fitToPlanes_relaxed_le (cost : WindowCost) :
    (fitToPlanes layerCount more loose cost).size ≤
      (fitToPlanes layerCount fewer tight cost).size := by
  have strict := fitToPlanes_fits fewer cost tightInside
  exact size_fitToPlanes_le more cost looseInside (strict.relax planes part)

end Relaxed

/-! ### The pixels of a stack -/

/-- On any stack, whatever its pixel sums come to, a range grown for more planes around fewer layers
costs no more pixels and has no more layers. -/
theorem fitToPlanes_relaxed_le (layers : List Layer) {fewer more : Nat} {tight loose : ClientRange}
    (planes : fewer ≤ more) (part : tight.covers loose = true)
    (tightInside : tight.stop ≤ layers.length) (looseInside : loose.stop ≤ layers.length) :
    let cost := (CostTable.ofLayers layers).window
    let relaxed := fitToPlanes layers.length more loose cost
    let strict := fitToPlanes layers.length fewer tight cost
    cost relaxed.start relaxed.size ≤ cost strict.start strict.size ∧
      relaxed.size ≤ strict.size := by
  intro cost relaxed strict
  constructor
  · exact cost_fitToPlanes_relaxed_le planes part tightInside looseInside
      (CostTable.window_monotone layers)
  · exact size_fitToPlanes_relaxed_le planes part tightInside looseInside cost

/-- Five layers, the middle three with so many pixels that the sums are cut off above the second of
them.  Three planes around layers 1 and 2 merge layers 1 to 3, four planes around layer 2 merge
layers 2 and 3, and with five planes, none of which is held back, layer 2 is enough. -/
theorem fitToPlanes_relaxed_le_past_full_sums :
    let wide : Layer :=
      { frame := ⟨Int32.minValue, Int32.minValue, Int32.maxValue, Int32.maxValue⟩ }
    let layers : List Layer :=
      [{ frame := ⟨0, 0, 10, 1⟩ }, wide, wide, wide, { frame := ⟨0, 0, 20, 1⟩ }]
    let cost := (CostTable.ofLayers layers).window
    let three := fitToPlanes layers.length 3 ⟨1, 2⟩ cost
    let four := fitToPlanes layers.length 4 ⟨2, 1⟩ cost
    let five := fitToPlanes layers.length 5 ⟨2, 1⟩ cost
    Word.max64 < stackPixels (layers.take 3) ∧
      (three = ⟨1, 3⟩ ∧ four = ⟨2, 2⟩ ∧ five = ⟨2, 1⟩) ∧
      cost four.start four.size ≤ cost three.start three.size ∧
      cost five.start five.size ≤ cost four.start four.size := by
  intro wide layers cost three four five
  have tighter := @fitToPlanes_relaxed_le layers 3 4 ⟨1, 2⟩ ⟨2, 1⟩ (by decide) (by decide)
    (by decide) (by decide)
  have looser := @fitToPlanes_relaxed_le layers 4 5 ⟨2, 1⟩ ⟨2, 1⟩ (by decide) (by decide)
    (by decide) (by decide)
  exact ⟨by decide, by decide, tighter.1, looser.1⟩

end Scanout
