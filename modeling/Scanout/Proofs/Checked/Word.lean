/-
Module: Scanout.Proofs.Checked.Word
Purpose: Arithmetic on machine words that stops with a fault where the exact result is no word, and
  the operations on ranges carried out with it.
Imports: Scanout.Proofs.Range.Containment
Main exports: WordFault, Checked, Checked.sub, Checked.add, Checked.mul, Checked.subSigned,
  Checked.entry, Checked.require, ClientRange.stopChecked, ClientRange.ofBoundsChecked,
  ClientRange.containsChecked, ClientRange.coversChecked, DeviceRange.overlapsChecked
-/
import Scanout.Proofs.Range.Containment

namespace Scanout

/-!
The definitions of this library count in natural numbers, where a difference stops at zero and a sum
has no bound.  Below, the steps of a pass are carried out on 64-bit words instead: every difference,
sum, product and table look-up is checked, and so is every condition that a step relies on.
Operations that are meant to stop at a bound, such as `Word.satAdd`, cannot fail and stay as they
are.
-/

/-- How a step of a computation on machine words can fail. -/
inductive WordFault where
  /-- A difference is negative. -/
  | underflow
  /-- A result is past the largest word. -/
  | overflow
  /-- A table has no such entry. -/
  | outOfBounds
  /-- A condition that the step relies on does not hold. -/
  | assertion
deriving DecidableEq, Repr, Inhabited

/-- A computation on machine words: its value, or the first fault in it. -/
abbrev Checked := Except WordFault

namespace Checked

/-- Difference of two words. -/
def sub (a b : Nat) : Checked Nat := if b ≤ a then .ok (a - b) else .error .underflow

/-- Sum of two words. -/
def add (a b : Nat) : Checked Nat := if a + b ≤ Word.max64 then .ok (a + b) else .error .overflow

/-- Product of two words. -/
def mul (a b : Nat) : Checked Nat := if a * b ≤ Word.max64 then .ok (a * b) else .error .overflow

/-- Difference of two signed 64-bit words. -/
def subSigned (a b : Int) : Checked Int :=
  if Int64.minValue.toInt ≤ a - b ∧ a - b ≤ Int64.maxValue.toInt then .ok (a - b)
  else .error .overflow

/-- Entry of a table. -/
def entry (table : Array Nat) (i : Nat) : Checked Nat :=
  match table[i]? with
  | some value => .ok value
  | none => .error .outOfBounds

/-- Go on only if a condition holds. -/
def require (condition : Bool) : Checked Unit :=
  if condition then .ok () else .error .assertion

@[simp] theorem ok_bind {α β : Type} (value : α) (next : α → Checked β) :
    (Except.ok value >>= next : Checked β) = next value := rfl

@[simp] theorem pure_eq_ok {α : Type} (value : α) : (pure value : Checked α) = .ok value := rfl

theorem sub_of_le {a b : Nat} (ordered : b ≤ a) : sub a b = .ok (a - b) := if_pos ordered

theorem add_of_le {a b : Nat} (bounded : a + b ≤ Word.max64) : add a b = .ok (a + b) :=
  if_pos bounded

theorem mul_of_le {a b : Nat} (bounded : a * b ≤ Word.max64) : mul a b = .ok (a * b) :=
  if_pos bounded

theorem require_of_true {condition : Bool} (holds : condition = true) :
    require condition = .ok () := if_pos holds

theorem entry_of_getElem? {table : Array Nat} {i value : Nat} (present : table[i]? = some value) :
    entry table i = .ok value := by
  rw [entry, present]

end Checked

/-! ### Ranges -/

namespace ClientRange

def stopChecked (range : ClientRange) : Checked Nat := Checked.add range.start range.size

/-- The bounds have to be in order. -/
def ofBoundsChecked (start stop : Nat) : Checked ClientRange := do
  Checked.require (start ≤ stop)
  return ofSpan start (stop - start)

def containsChecked (range : ClientRange) (z : Nat) : Checked Bool :=
  if range.start ≤ z then return z < (← range.stopChecked) else return false

def coversChecked (range other : ClientRange) : Checked Bool :=
  if other.isEmpty then return true
  else if range.start ≤ other.start then
    return (← other.stopChecked) ≤ (← range.stopChecked)
  else return false

section Words

variable {range other : ClientRange}

theorem stopChecked_eq (inside : range.stop ≤ Word.max64) :
    range.stopChecked = .ok range.stop := Checked.add_of_le inside

theorem ofBoundsChecked_eq {start stop : Nat} (ordered : start ≤ stop) :
    ofBoundsChecked start stop = .ok (ofBounds start stop) := by
  simp only [ofBoundsChecked, Checked.require_of_true (decide_eq_true ordered), Checked.ok_bind]
  rfl

theorem containsChecked_eq (inside : range.stop ≤ Word.max64) (z : Nat) :
    range.containsChecked z = .ok (range.contains z) := by
  rw [containsChecked, contains]
  split
  · next above => simp [stopChecked_eq inside, above]
  · next below => simp [below]

theorem coversChecked_eq (inside : range.stop ≤ Word.max64)
    (otherInside : other.stop ≤ Word.max64) :
    range.coversChecked other = .ok (range.covers other) := by
  rw [coversChecked, covers]
  split
  · next vacant => simp [vacant]
  · next occupied =>
      split
      · next above => simp [stopChecked_eq inside, stopChecked_eq otherInside, occupied, above]
      · next below => simp [occupied, below]

end Words

end ClientRange

namespace DeviceRange

/-- The end of the run is the word that reports it. -/
def overlapsChecked (device : DeviceRange) (client : ClientRange) : Checked Bool :=
  if device.isEmpty || client.isEmpty then return false
  else return device.start < (← client.stopChecked) && client.start < device.stopWord

/-- A run that ends within a stack is reported exactly. -/
theorem stopWord_eq {device : DeviceRange} {layerCount : Nat} (small : layerCount < Word.max64)
    (inside : device.stopWord ≤ layerCount) : device.stopWord = device.stop := by
  rw [stopWord, Word.satAdd] at inside ⊢
  rw [stop_eq]
  omega

end DeviceRange

end Scanout
