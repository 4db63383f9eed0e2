/-
Module: Scanout.Decimal.Binary
Purpose: Exact values of binary floats, and rounding of quotients.
Main exports: Binary, Binary.ofFloat, roundHalfEven
-/

namespace Scanout.Decimal

/-- What the 64 bits of a float stand for. -/
inductive Binary where
  | nan
  | infinite (negative : Bool)
  /-- The value `significand * 2 ^ exponent`, with its sign; zero keeps its sign too. -/
  | finite (negative : Bool) (significand : Nat) (exponent : Int)
deriving DecidableEq, Repr, Inhabited

namespace Binary

/-!
Of the 64 bits the top one is the sign, the next 11 are the biased exponent and the other 52 the
fraction.  Exponent field 0 has no hidden bit, field 2047 stands for infinities and NaN.
-/

/-- Decode a 64-bit word as a binary float. -/
def ofBits (bits : Nat) : Binary :=
  let negative := bits / Nat.pow 2 63 % 2 == 1
  let field := bits / Nat.pow 2 52 % Nat.pow 2 11
  let fraction := bits % Nat.pow 2 52
  if field = 2047 then
    if fraction = 0 then .infinite negative else .nan
  else if field = 0 then .finite negative fraction (-1074)
  else .finite negative (Nat.pow 2 52 + fraction) (Int.ofNat field - 1075)

/-- Decode a float. -/
def ofFloat (x : Float) : Binary := ofBits x.toBits.toNat

end Binary

/-- The integer nearest to `numerator / denominator`, a tie to the even one. -/
def roundHalfEven (numerator denominator : Nat) : Nat :=
  let quotient := numerator / denominator
  let twice := 2 * (numerator % denominator)
  if denominator < twice ∨ (twice = denominator ∧ quotient % 2 = 1) then quotient + 1
  else quotient

/-- Rounding an exact quotient gives that quotient. -/
theorem roundHalfEven_mul (n : Nat) {denominator : Nat} (positive : 0 < denominator) :
    roundHalfEven (n * denominator) denominator = n := by
  have quotient : n * denominator / denominator = n := Nat.mul_div_cancel n positive
  have remainder : n * denominator % denominator = 0 := Nat.mul_mod_left n denominator
  simp only [roundHalfEven, quotient, remainder]
  split
  · rename_i up
    rcases up with below | ⟨tie, _⟩ <;> omega
  · rfl

end Scanout.Decimal
