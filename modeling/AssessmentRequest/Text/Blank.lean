/-!
# White space

The characters with the Unicode property White_Space, and texts without them at their ends.
-/

namespace AssessmentRequest.Blank

/-- Inclusive ranges of white space, in ascending order. -/
def ranges : List (Nat × Nat) :=
  [(0x9, 0xD), (0x20, 0x20), (0x85, 0x85), (0xA0, 0xA0), (0x1680, 0x1680), (0x2000, 0x200A),
    (0x2028, 0x2029), (0x202F, 0x202F), (0x205F, 0x205F), (0x3000, 0x3000)]

/-- The character is white space. -/
def isBlank (char : Char) : Bool :=
  ranges.any fun range => range.1 ≤ char.toNat && char.toNat ≤ range.2

/-- A text without white space in front. -/
def trimLeft (text : List Char) : List Char := text.dropWhile isBlank

/-- A text without white space at its ends. -/
def trim (text : List Char) : List Char := (trimLeft (trimLeft text).reverse).reverse

end AssessmentRequest.Blank
