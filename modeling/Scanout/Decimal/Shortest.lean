/-
Module: Scanout.Decimal.Shortest
Purpose: The fewest decimal digits that read back as a given float, and their layout.
Imports: Scanout.Decimal.Binary
Main exports: Decimal.Digits, Decimal.shortestDigits, Decimal.Layout, Decimal.Layout.text
-/
import Scanout.Decimal.Binary

namespace Scanout.Decimal

/-- The decimal value `digits * 10 ^ exponent`. -/
structure Digits where
  digits : Nat
  exponent : Int
deriving DecidableEq, Repr, Inhabited

/-!
All reals that read as one positive float form an interval around it, half a gap wide on each
side; below a power of two the gap is half as wide.  An end belongs to the interval exactly when
the significand is even, because reading sends ties there.  Value and ends are kept over one
common denominator.
-/

/-- A positive float as a fraction, between the ends of the interval of reals that read as it. -/
structure Neighbourhood where
  lower : Nat
  value : Nat
  upper : Nat
  denominator : Nat
  closed : Bool
deriving DecidableEq, Repr, Inhabited

namespace Neighbourhood

/-- The neighbourhood of `significand * 2 ^ exponent`. -/
def ofBinary (significand : Nat) (exponent : Int) : Neighbourhood :=
  let quarters := exponent - 2
  let scale := Nat.pow 2 quarters.toNat
  let narrowBelow := significand = Nat.pow 2 52 ∧ -1074 < exponent
  { lower := (4 * significand - (if narrowBelow then 1 else 2)) * scale
    value := 4 * significand * scale
    upper := (4 * significand + 2) * scale
    denominator := Nat.pow 2 (-quarters).toNat
    closed := significand % 2 == 0 }

/-- Whether the fraction `numerator / denominator` reads as the float. -/
def admits (hood : Neighbourhood) (numerator : Nat) : Bool :=
  if hood.closed then hood.lower ≤ numerator && numerator ≤ hood.upper
  else hood.lower < numerator && numerator < hood.upper

/-- The same neighbourhood measured in units of `10 ^ exponent`. -/
def inUnits (hood : Neighbourhood) (exponent : Int) : Neighbourhood :=
  let up := Nat.pow 10 (-exponent).toNat
  { lower := hood.lower * up
    value := hood.value * up
    upper := hood.upper * up
    denominator := hood.denominator * Nat.pow 10 exponent.toNat
    closed := hood.closed }

/-- The multiple of the unit nearest to the value among its two neighbours that read as it; of two
equally near the even one. -/
def nearestUnit? (hood : Neighbourhood) : Option Nat :=
  let low := hood.value / hood.denominator
  let nearest := roundHalfEven hood.value hood.denominator
  let other := if nearest = low then low + 1 else low
  if hood.admits (nearest * hood.denominator) then some nearest
  else if hood.admits (other * hood.denominator) then some other
  else none

/-- The largest exponent whose power of ten does not pass the value. -/
def magnitude (hood : Neighbourhood) : Int :=
  let estimate :=
    (Int.ofNat hood.value.log2 - Int.ofNat hood.denominator.log2) * 30103 / 100000
  let reaches (exponent : Int) : Bool :=
    hood.denominator * Nat.pow 10 exponent.toNat ≤ hood.value * Nat.pow 10 (-exponent).toNat
  if reaches (estimate + 1) then estimate + 1
  else if reaches estimate then estimate
  else estimate - 1

/-- Try ever finer grids, at most `grids` of them, from the unit `10 ^ exponent` on. -/
def firstHit (hood : Neighbourhood) : (grids : Nat) → (exponent : Int) → Digits
  | 0, exponent => ⟨roundHalfEven (hood.inUnits exponent).value (hood.inUnits exponent).denominator,
      exponent⟩
  | grids + 1, exponent =>
      match (hood.inUnits exponent).nearestUnit? with
      | some digits => ⟨digits, exponent⟩
      | none => firstHit hood grids (exponent - 1)

end Neighbourhood

/-- The fewest digits that read back as the positive float `significand * 2 ^ exponent`, and of
those the nearest to it.  Seventeen digits are always enough. -/
def shortestDigits (significand : Nat) (exponent : Int) : Digits :=
  let hood := Neighbourhood.ofBinary significand exponent
  hood.firstHit 17 hood.magnitude

/-- Where a decimal text changes from positional notation to an exponent. -/
structure Layout where
  /-- Smallest power of ten of a leading digit written positionally. -/
  leastPositional : Int
  /-- Largest power of ten of a leading digit written positionally. -/
  mostPositional : Int
deriving DecidableEq, Repr, Inhabited

namespace Layout

/-- Drop the zeros at the end of a digit list. -/
def stripZeros (digits : List Char) : List Char :=
  (digits.reverse.dropWhile (· == '0')).reverse

/-- Digits with the point after the one that counts `10 ^ 0`, at least one on each side. -/
def positional (digits : List Char) (leading : Int) : List Char :=
  if leading < 0 then
    '0' :: '.' :: List.replicate (-leading - 1).toNat '0' ++ digits
  else
    let whole := leading.toNat + 1
    let fraction := digits.drop whole
    digits.take whole ++ List.replicate (whole - digits.length) '0' ++ '.' ::
      (if fraction.isEmpty then ['0'] else fraction)

/-- Digits with the point after the first one and a signed exponent; no point after a lone digit. -/
def scientific (digits : List Char) (leading : Int) : List Char :=
  let sign := if leading < 0 then '-' else '+'
  let mantissa :=
    match digits with
    | first :: rest@(_ :: _) => first :: '.' :: rest
    | short => short
  mantissa ++ 'e' :: sign :: (toString leading.natAbs).toList

/-- The text of a decimal value. -/
def digitsText (layout : Layout) (decimal : Digits) : String :=
  let digits := (toString decimal.digits).toList
  let leading := decimal.exponent + Int.ofNat digits.length - 1
  let significant := stripZeros digits
  String.ofList <|
    if layout.leastPositional ≤ leading ∧ leading ≤ layout.mostPositional then
      positional significant leading
    else scientific significant leading

/-- The shortest text that reads back as a float; none for infinities and NaN. -/
def text? (layout : Layout) (x : Float) : Option String :=
  match Binary.ofFloat x with
  | .nan | .infinite _ => none
  | .finite negative significand exponent =>
      let sign := if negative then "-" else ""
      some <|
        if significand = 0 then sign ++ "0.0"
        else sign ++ layout.digitsText (shortestDigits significand exponent)

end Layout

end Scanout.Decimal
