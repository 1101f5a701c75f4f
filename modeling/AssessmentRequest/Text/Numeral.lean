/-!
# Numerals

The value of hexadecimal digits, and reading of decimal integers of bounded size. The
digits are taken from the left, and the first fault met is the one reported: a character
that is no digit, or the digit that carries the value past the bound. One sign may precede
the digits, `-` only where negative numbers exist.
-/

namespace AssessmentRequest.Numeral

/-- Why a text is not a numeral of the wanted size. -/
inductive Fault where
  /-- There is nothing to read. -/
  | empty
  /-- A character is no digit, or a sign stands alone. -/
  | invalidDigit
  /-- The value is above the greatest one. -/
  | tooLarge
  /-- The value is below the least one. -/
  | tooSmall
  deriving Repr, DecidableEq

/-- The wording of a fault. -/
def Fault.message : Fault → String
  | .empty => "cannot parse integer from empty string"
  | .invalidDigit => "invalid digit found in string"
  | .tooLarge => "number too large to fit in target type"
  | .tooSmall => "number too small to fit in target type"

/-- Extends `value` by the digits, never past `limit`; `beyond` is reported there. -/
def readDigits (limit : Nat) (beyond : Fault) (value : Nat) : List Char → Except Fault Nat
  | [] => .ok value
  | char :: rest =>
    if char.isDigit then
      let next := 10 * value + (char.toNat - '0'.toNat)
      if next ≤ limit then readDigits limit beyond next rest else .error beyond
    else .error .invalidDigit

/-- Reads a natural number up to `limit`, with an optional `+`. -/
def readNat (limit : Nat) : List Char → Except Fault Nat
  | [] => .error .empty
  | ['+'] => .error .invalidDigit
  | '+' :: digits => readDigits limit .tooLarge 0 digits
  | digits => readDigits limit .tooLarge 0 digits

/-- How many of the integers of so many bits are negative. -/
def halfRange (bits : Nat) : Nat := Nat.pow 2 (bits - 1)

/-- Reads an integer of `bits` bits in two's complement, with an optional sign. -/
def readInt (bits : Nat) : List Char → Except Fault Int
  | [] => .error .empty
  | ['+'] => .error .invalidDigit
  | ['-'] => .error .invalidDigit
  | '+' :: digits => (readDigits (halfRange bits - 1) .tooLarge 0 digits).map Int.ofNat
  | '-' :: digits =>
    (readDigits (halfRange bits) .tooSmall 0 digits).map fun value => -(value : Int)
  | digits => (readDigits (halfRange bits - 1) .tooLarge 0 digits).map Int.ofNat

/-- The value of a hexadecimal digit. -/
def hexDigit? (char : Char) : Option Nat :=
  if char.isDigit then some (char.toNat - '0'.toNat)
  else if 'a' ≤ char ∧ char ≤ 'f' then some (char.toNat - 'a'.toNat + 10)
  else if 'A' ≤ char ∧ char ≤ 'F' then some (char.toNat - 'A'.toNat + 10)
  else none

end AssessmentRequest.Numeral
