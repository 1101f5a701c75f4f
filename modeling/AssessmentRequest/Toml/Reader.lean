/-!
# Reading TOML: characters and blanks

A reader takes a value from the front of a text and leaves the rest, or refuses. Blanks
are spaces and tabs; a comment runs to the end of its line; a line ends with a line feed,
before which one carriage return may stand.
-/

namespace AssessmentRequest.Toml

/-- Takes a value from the front of a text. -/
abbrev Reader (α : Type) := List Char → Option (α × List Char)

/-- A space or a tab. -/
def isBlank (char : Char) : Bool := char = ' ' || char = '\t'

/-- A character outside ASCII. -/
def isBeyondAscii (char : Char) : Bool := 0x80 ≤ char.toNat

/-- A character that may stand in a comment. -/
def isCommentChar (char : Char) : Bool :=
  char = '\t' || (0x20 ≤ char.toNat && char.toNat ≤ 0x7E) || isBeyondAscii char

/-- The text after any blanks in front. -/
def skipBlanks (text : List Char) : List Char := text.dropWhile isBlank

/-- The text after the line end in front. -/
def newline? : List Char → Option (List Char)
  | '\n' :: rest => some rest
  | '\r' :: '\n' :: rest => some rest
  | _ => none

/-- The text after the comment in front, if there is one. -/
def skipComment : List Char → List Char
  | '#' :: rest => rest.dropWhile isCommentChar
  | text => text

/-- The text after blanks, a comment and the end of the line or of the text. -/
def endOfLine? (text : List Char) : Option (List Char) :=
  match skipComment (skipBlanks text) with
  | [] => some []
  | rest => newline? rest

theorem length_dropWhile_le {α : Type} (keep : α → Bool) (items : List α) :
    (items.dropWhile keep).length ≤ items.length :=
  (List.dropWhile_suffix keep).length_le

/-- The text after any blanks, line ends and comments in front. -/
def skipFiller : List Char → List Char
  | [] => []
  | '\n' :: rest => skipFiller rest
  | '\r' :: '\n' :: rest => skipFiller rest
  | '#' :: rest => skipFiller (rest.dropWhile isCommentChar)
  | char :: rest => if isBlank char then skipFiller rest else char :: rest
termination_by text => text.length
decreasing_by
  · exact Nat.lt_succ_self _
  · exact Nat.lt_succ_of_lt (Nat.lt_succ_self _)
  · exact Nat.lt_succ_of_le (length_dropWhile_le ..)
  · exact Nat.lt_succ_self _

/-- The text after the given characters. -/
def expect? : List Char → List Char → Option (List Char)
  | [], text => some text
  | wanted :: more, char :: rest => if char = wanted then expect? more rest else none
  | _ :: _, [] => none

end AssessmentRequest.Toml
