/-
Module: Scanout.Text.Blank
Purpose: The Unicode white-space characters, and trimming them from both ends of a text.
Main exports: Text.isBlank, Text.trimBlank
-/

namespace Scanout.Text

/-- Code points of the characters with the Unicode property `White_Space`, as closed intervals. -/
def blankIntervals : List (Nat × Nat) :=
  [(0x9, 0xD), (0x20, 0x20), (0x85, 0x85), (0xA0, 0xA0), (0x1680, 0x1680), (0x2000, 0x200A),
    (0x2028, 0x2029), (0x202F, 0x202F), (0x205F, 0x205F), (0x3000, 0x3000)]

/-- Whether a character has the Unicode property `White_Space`. -/
def isBlank (c : Char) : Bool :=
  blankIntervals.any fun interval => interval.1 ≤ c.toNat && c.toNat ≤ interval.2

/-- The characters left after dropping the blank ones on both ends. -/
def trimBlankChars (cs : List Char) : List Char :=
  ((cs.dropWhile isBlank).reverse.dropWhile isBlank).reverse

/-- A text without the blank characters on both ends. -/
def trimBlank (text : String) : String := String.ofList (trimBlankChars text.toList)

/-- Every character that ASCII counts as white space is blank. -/
theorem isBlank_of_isWhitespace {c : Char} (white : c.isWhitespace = true) :
    isBlank c = true := by
  simp only [Char.isWhitespace, Bool.or_eq_true, decide_eq_true_eq] at white
  rcases white with ((rfl | rfl) | rfl) | rfl <;> decide

end Scanout.Text
