/-
Module: Scanout.Decimal.Fixed
Purpose: Decimal text of a float with a fixed number of places.
Imports: Scanout.Decimal.Binary
Main exports: Decimal.fixed
-/
import Scanout.Decimal.Binary

namespace Scanout.Decimal

/-!
The exact binary value is scaled by a power of ten, rounded once to an integer with ties to even,
and split at the point.  No exponent is ever written.
-/

/-- The integer nearest to `significand * 2 ^ exponent * 10 ^ places`. -/
def scaledInteger (places significand : Nat) (exponent : Int) : Nat :=
  if 0 ≤ exponent then significand * Nat.pow 10 places * Nat.pow 2 exponent.toNat
  else roundHalfEven (significand * Nat.pow 10 places) (Nat.pow 2 (-exponent).toNat)

/-- The digits of `n`, with zeros in front up to `width` digits. -/
def padded (width n : Nat) : String :=
  let digits := toString n
  String.ofList (List.replicate (width - digits.length) '0') ++ digits

/-- Write a count of tenths, hundredths and so on with a point before its last `places` digits. -/
def withPoint (places scaled : Nat) : String :=
  let whole := toString (scaled / Nat.pow 10 places)
  if places = 0 then whole else whole ++ "." ++ padded places (scaled % Nat.pow 10 places)

/-- A float with `places` digits after the point. -/
def fixed (places : Nat) (x : Float) : String :=
  match Binary.ofFloat x with
  | .nan => "NaN"
  | .infinite negative => if negative then "-inf" else "inf"
  | .finite negative significand exponent =>
      (if negative then "-" else "") ++ withPoint places (scaledInteger places significand exponent)

end Scanout.Decimal
