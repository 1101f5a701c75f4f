import AssessmentRequest.Toml.Text
import AssessmentRequest.Toml.Value

/-!
# Reading TOML: numbers

Underscores may stand between digits. A decimal integer has no leading zeros; the other
bases have a base letter, may have leading zeros, and have no sign. A float is a decimal
integer with a fraction, an exponent or both. Integers have 64 bits, and a float may not be
too large for the binary format.
-/

namespace AssessmentRequest.Toml

/-- Takes the rest of a sequence of digits of which one has been taken. An underscore has to
be followed by a digit. -/
def moreDigits (isDigit : Char → Bool) : Reader (List Char)
  | '_' :: digit :: rest =>
    if isDigit digit then
      (moreDigits isDigit rest).map fun (digits, rest) => (digit :: digits, rest)
    else none
  | digit :: rest =>
    if isDigit digit then
      (moreDigits isDigit rest).map fun (digits, rest) => (digit :: digits, rest)
    else if digit = '_' then none
    else some ([], digit :: rest)
  | [] => some ([], [])

/-- Takes digits, at least one. -/
def someDigits (isDigit : Char → Bool) : Reader (List Char)
  | digit :: rest =>
    if isDigit digit then
      (moreDigits isDigit rest).map fun (digits, rest) => (digit :: digits, rest)
    else none
  | [] => none

/-- Takes a sign, if there is one; `true` for a minus. -/
def sign : List Char → Bool × List Char
  | '-' :: rest => (true, rest)
  | '+' :: rest => (false, rest)
  | text => (false, text)

/-- Takes the digits of a decimal integer: a zero, or digits that begin with no zero. -/
def wholeDigits : Reader (List Char)
  | '0' :: rest => some (['0'], rest)
  | text => someDigits Char.isDigit text

/-- The value of digits of a base. -/
def digitsValue (base : Nat) (digits : List Char) : Nat :=
  digits.foldl (fun value digit => base * value + (Numeral.hexDigit? digit).getD 0) 0

/-- The integer, if 64 bits hold it. -/
def bounded (value : Int) : Option Int :=
  if -(Numeral.halfRange 64 : Int) ≤ value ∧ value < Numeral.halfRange 64 then some value
  else none

/-- Takes the digits behind a base letter. -/
def based (base : Nat) (isDigit : Char → Bool) (text : List Char) :
    Option (Int × List Char) := do
  let (digits, rest) ← someDigits isDigit text
  let value ← bounded (digitsValue base digits)
  some (value, rest)

/-- Takes an integer. -/
def integer : Reader Int
  | '0' :: 'x' :: rest => based 16 (fun char => (Numeral.hexDigit? char).isSome) rest
  | '0' :: 'o' :: rest => based 8 (fun char => '0' ≤ char && char ≤ '7') rest
  | '0' :: 'b' :: rest => based 2 (fun char => char = '0' || char = '1') rest
  | text => do
    let (negative, rest) := sign text
    let (digits, rest) ← wholeDigits rest
    let magnitude : Int := digitsValue 10 digits
    let value ← bounded (if negative then -magnitude else magnitude)
    some (value, rest)

/-- Takes a fraction, if there is one. -/
def fraction : Reader (List Char)
  | '.' :: rest => someDigits Char.isDigit rest
  | text => some ([], text)

/-- Takes an exponent, if there is one. -/
def exponent : Reader (Option Int)
  | char :: rest =>
    if char = 'e' ∨ char = 'E' then do
      let (negative, rest) := sign rest
      let (digits, rest) ← someDigits Char.isDigit rest
      let magnitude : Int := digitsValue 10 digits
      some (some (if negative then -magnitude else magnitude), rest)
    else some (none, char :: rest)
  | [] => some (none, [])

/-- Takes an infinity or the value that is no number; `negative` tells the sign before it. -/
def specialFloat (negative : Bool) : Reader Binary64
  | 'i' :: 'n' :: 'f' :: rest => some (.infinity negative, rest)
  | 'n' :: 'a' :: 'n' :: rest => some (.nan, rest)
  | _ => none

/-- Takes a float written with digits: a fraction, an exponent or both have to be there. -/
def digitFloat (negative : Bool) (text : List Char) : Option (Binary64 × List Char) := do
  let (whole, rest) ← wholeDigits text
  let (places, rest) ← fraction rest
  let (power, rest) ← exponent rest
  if places.isEmpty ∧ power.isNone then none
  else
    let value := Binary64.ofDecimal negative (digitsValue 10 (whole ++ places))
      (power.getD 0 - places.length)
    if value = .infinity false then none else some (value, rest)

/-- Takes a float. -/
def float : Reader Binary64 := fun text =>
  let (negative, rest) := sign text
  digitFloat negative rest <|> specialFloat negative rest

end AssessmentRequest.Toml
