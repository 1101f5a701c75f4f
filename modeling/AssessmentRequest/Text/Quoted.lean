import AssessmentRequest.Text.Printable
import AssessmentRequest.Text.Utf8

/-!
# Quoted texts

A text is shown between double quotes, on one line and without ambiguity: a double
quote and a backslash are preceded by a backslash, the four common controls have a
letter each, and every other hidden character is written by its code point. Bytes that
are no text are quoted too, each byte that belongs to no character by its value.
-/

namespace AssessmentRequest.Quoted

/-- A character written by its code point, in lower-case hexadecimal without leading zeros. -/
def codePoint (char : Char) : List Char :=
  '\\' :: 'u' :: '\x7b' :: Nat.toDigits 16 char.toNat ++ ['\x7d']

/-- The written form of one character between the quotes. -/
def escape (char : Char) : List Char :=
  if char = '\x00' then ['\\', '0']
  else if char = '\t' then ['\\', 't']
  else if char = '\n' then ['\\', 'n']
  else if char = '\r' then ['\\', 'r']
  else if char = '"' then ['\\', '"']
  else if char = '\\' then ['\\', '\\']
  else if Printable.isPrintable char then [char]
  else codePoint char

/-- The quoted form of a sequence of characters. -/
def quoteChars (chars : List Char) : List Char := '"' :: chars.flatMap escape ++ ['"']

/-- The quoted form of a text. -/
def quote (text : String) : String := String.ofList (quoteChars text.toList)

/-- A byte written by its value, in upper-case hexadecimal. -/
def escapeByte (byte : UInt8) : List Char :=
  '\\' :: 'x' :: (Nat.toDigits 16 byte.toNat).map Char.toUpper

/-- The written form of a part of any bytes. -/
def escapePart : Utf8.Part → List Char
  | .char value => escape value
  | .malformed bytes => bytes.flatMap escapeByte

/-- The quoted form of any bytes. -/
def quoteBytes (bytes : Bytes) : String :=
  String.ofList ('"' :: (Utf8.parts bytes).flatMap escapePart ++ ['"'])

end AssessmentRequest.Quoted
