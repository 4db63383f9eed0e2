/-
Module: Scanout.Word
Purpose: Bounds of the unsigned words that counters and records use, and arithmetic that stays
  inside them.
Main exports: Word.max64, Word.max32, Word.satAdd, Word.clamp32, Word.toFloat
-/

namespace Scanout.Word

/-!
Counters and pixel sums are natural numbers that never pass the largest 64-bit word.  Addition
stops at that bound instead of wrapping, so a full counter stays full and never moves backwards.
-/

/-- Largest unsigned 64-bit word. -/
def max64 : Nat := UInt64.size - 1

/-- Largest unsigned 32-bit word. -/
def max32 : Nat := UInt32.size - 1

/-- Addition that stops at the largest 64-bit word. -/
def satAdd (a b : Nat) : Nat := min (a + b) max64

/-- The nearest 32-bit word, for fields too narrow for the value they report. -/
def clamp32 (n : Nat) : Nat := min n max32

/-- The nearest float to a 64-bit word, ties to even. -/
def toFloat (n : Nat) : Float := n.toUInt64.toFloat

/-- Adding nothing leaves a word as it is. -/
theorem satAdd_zero {a : Nat} (bound : a ≤ max64) : satAdd a 0 = a := Nat.min_eq_left bound

theorem satAdd_le_max64 (a b : Nat) : satAdd a b ≤ max64 := Nat.min_le_right _ _

theorem satAdd_le_add (a b : Nat) : satAdd a b ≤ a + b := Nat.min_le_left _ _

theorem le_satAdd_of_le_max64 {a : Nat} (b : Nat) (bound : a ≤ max64) : a ≤ satAdd a b :=
  Nat.le_min.mpr ⟨Nat.le_add_right a b, bound⟩

theorem clamp32_le_max32 (n : Nat) : clamp32 n ≤ max32 := Nat.min_le_right _ _

end Scanout.Word
