import AssessmentRequest.Text.Blank

/-!
# The form of value patterns

What the readers of a pattern share: the flags in force, the white space that they leave
out, and how deep the parts of a pattern are nested.
-/

namespace AssessmentRequest.Journal.Pattern

/-- The flags that bear on the form of a pattern. -/
structure Mode where
  /-- White space and comments are left out. -/
  verbose : Bool := false
  /-- Characters are those of Unicode; else they are bytes, which have to stay UTF-8. -/
  unicode : Bool := true
  /-- Letters are alike in both cases. -/
  caseless : Bool := false
  deriving Repr, DecidableEq

/-- Both cases of any letter of Unicode would be alike. There is no table of them here, so a
pattern cannot name a character then. -/
def Mode.isCaselessUnicode (mode : Mode) : Bool := mode.caseless && mode.unicode

/-- The text behind white space and comments. -/
def skipVerbose (inComment : Bool) : List Char → List Char
  | [] => []
  | char :: rest =>
    if inComment then skipVerbose (char ≠ '\n') rest
    else if Blank.isBlank char then skipVerbose false rest
    else if char = '#' then skipVerbose true rest
    else char :: rest

/-- The text behind whatever the mode leaves out. -/
def skip (mode : Mode) (text : List Char) : List Char :=
  if mode.verbose then skipVerbose false text else text

/-- A look past white space, and past the mark of one comment but not past its words. -/
def peek (mode : Mode) (text : List Char) : Option Char :=
  if mode.verbose then
    match Blank.trimLeft text with
    | '#' :: comment => (Blank.trimLeft comment).head?
    | rest => rest.head?
  else text.head?

/-- A character outside ASCII. -/
def isBeyondAscii (char : Char) : Bool := 0x80 ≤ char.toNat

/-- Parts that stand in a row, by how deep they are nested. -/
structure Row where
  /-- The number of the parts. -/
  count : Nat := 0
  /-- The depth of the deepest of them. -/
  deepest : Nat := 0
  deriving Repr, DecidableEq

namespace Row

/-- A row with a part of some depth behind it. -/
def push (row : Row) (depth : Nat) : Row := ⟨row.count + 1, max row.deepest depth⟩

/-- How deep a row is nested. It is a level of its own if it has two parts or more. -/
def depth (row : Row) : Nat := if row.count ≤ 1 then row.deepest else row.deepest + 1

end Row

/-- Parts are nested at most this deep. -/
def depthLimit : Nat := 250

end AssessmentRequest.Journal.Pattern
