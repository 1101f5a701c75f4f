/-!
# Binary floating-point numbers

The 64-bit binary format of the floating-point standard, as exact data: a decimal is
rounded to the nearest number of the format, a tie to the even mantissa, and a number is
shown by the fewest digits that round back to it. All arithmetic is on natural numbers.
-/

namespace AssessmentRequest

/-- A number of the 64-bit binary format. -/
inductive Binary64 where
  /-- No number. -/
  | nan
  /-- An infinity. -/
  | infinity (negative : Bool)
  /-- The number `mantissa * 2 ^ exponent` under its sign. -/
  | finite (negative : Bool) (mantissa : Nat) (exponent : Int)
  deriving Repr, DecidableEq

namespace Binary64

/-- The exponent of the least positive number. -/
def leastExponent : Int := -1074

/-- The exponent of the greatest finite number. -/
def greatestExponent : Int := 971

/-- Mantissas are below this power of two. -/
def mantissaLimit : Nat := Nat.pow 2 53

/-- `value * base ^ exponent` as a numerator and a denominator. -/
def scale (base : Nat) (exponent : Int) (value : Nat) : Nat × Nat :=
  if exponent < 0 then (value, base.pow exponent.natAbs)
  else (value * base.pow exponent.natAbs, 1)

/-- The quotient rounded to the nearest integer, a tie to the even one. -/
def roundHalfEven (numerator denominator : Nat) : Nat :=
  let quotient := numerator / denominator
  let rest := numerator % denominator
  if 2 * rest < denominator then quotient
  else if denominator < 2 * rest then quotient + 1
  else if quotient % 2 = 0 then quotient
  else quotient + 1

/-- The number nearest to a positive fraction. -/
def ofFraction (negative : Bool) (numerator denominator : Nat) : Binary64 :=
  let size : Int := (numerator.log2 : Int) - denominator.log2
  let guess := max (size - 53) leastExponent
  let quotientAt (exponent : Int) : Nat × Nat :=
    if exponent < 0 then (numerator * Nat.pow 2 exponent.natAbs, denominator)
    else (numerator, denominator * Nat.pow 2 exponent.natAbs)
  let exponent :=
    if mantissaLimit ≤ (quotientAt guess).1 / (quotientAt guess).2 then guess + 1 else guess
  let mantissa := roundHalfEven (quotientAt exponent).1 (quotientAt exponent).2
  let rounded : Nat × Int :=
    if mantissa = mantissaLimit then (mantissaLimit / 2, exponent + 1) else (mantissa, exponent)
  if greatestExponent < rounded.2 then infinity negative else finite negative rounded.1 rounded.2

/-- Decimals of this magnitude or more are above every finite number. -/
def magnitudeCeiling : Int := 310

/-- Decimals of this magnitude or less round to zero. -/
def magnitudeFloor : Int := -325

/-- The number nearest to `digits * 10 ^ exponent`. -/
def ofDecimal (negative : Bool) (digits : Nat) (exponent : Int) : Binary64 :=
  let magnitude := ((Nat.toDigits 10 digits).length : Int) + exponent
  if digits = 0 then finite negative 0 leastExponent
  else if magnitudeCeiling ≤ magnitude then infinity negative
  else if magnitude ≤ magnitudeFloor then finite negative 0 leastExponent
  else
    let fraction := scale 10 exponent digits
    ofFraction negative fraction.1 fraction.2

/-- The multiple of `10 ^ place` nearest to a positive number, as a multiplier, among those
that round to the number; a tie goes to the greater one. -/
def onGrid? (mantissa : Nat) (exponent place : Int) : Option Nat :=
  let least := if mantissa = mantissaLimit / 2 ∧ leastExponent < exponent then 1 else 2
  let binary := scale 2 (exponent - 2) 1
  let decimal := scale 10 place 1
  let unit := binary.1 * decimal.2
  let denominator := binary.2 * decimal.1
  let value := 4 * mantissa * unit
  let low := (4 * mantissa - least) * unit
  let high := (4 * mantissa + 2) * unit
  let even := mantissa % 2 = 0
  let below := value / denominator
  let above := below + 1
  let belowFits := low < below * denominator ∨ (even ∧ low = below * denominator)
  let aboveFits := above * denominator < high ∨ (even ∧ above * denominator = high)
  if belowFits ∧ (¬aboveFits ∨ value - below * denominator < above * denominator - value) then
    some below
  else if aboveFits then some above
  else none

/-- The places of the decimal grids on which numbers are looked for, coarsest first. -/
def places : List Int := (List.range 640).map fun (step : Nat) => 310 - (step : Int)

/-- The fewest digits that round to a positive number, and the place of the last one. -/
def shortest (mantissa : Nat) (exponent : Int) : Nat × Int :=
  (places.findSome? fun place =>
    (onGrid? mantissa exponent place).map fun multiplier => (multiplier, place)).getD (0, 0)

/-- `digits * 10 ^ place` written positionally, with at least one digit on either side of
the point. -/
def positional (digits : Nat) (place : Int) : List Char :=
  let shown := Nat.toDigits 10 digits
  if 0 ≤ place then shown ++ List.replicate place.natAbs '0' ++ ['.', '0']
  else
    let padded := List.replicate (place.natAbs + 1 - shown.length) '0' ++ shown
    let whole := padded.length - place.natAbs
    padded.take whole ++ '.' :: padded.drop whole

/-- The text of a number: positional whatever its size, and always with a point. -/
def text : Binary64 → String
  | nan => "NaN"
  | infinity negative => if negative then "-inf" else "inf"
  | finite negative mantissa exponent =>
    let sign := if negative then "-" else ""
    if mantissa = 0 then sign ++ "0.0"
    else
      let found := shortest mantissa exponent
      sign ++ String.ofList (positional found.1 found.2)

end Binary64

end AssessmentRequest
