import AssessmentRequest.Text.Numeral
import AssessmentRequest.Toml.Reader

/-!
# Reading TOML: strings and keys

A basic string stands in double quotes and knows escapes, a literal string stands in single
quotes and knows none. Either may be opened by three quotes, and then runs over lines: a
line end directly after the opening is left out, and every other one is read as a line feed.
A key is bare or a one-line string, and a path is keys with dots between them.
-/

namespace AssessmentRequest.Toml

/-- A character that stands for itself in a basic string. -/
def isBasicChar (char : Char) : Bool :=
  char ≠ '"' && char ≠ '\\' && isCommentChar char

/-- A character that stands for itself in a literal string. -/
def isLiteralChar (char : Char) : Bool := char ≠ '\'' && isCommentChar char

/-- Takes a code point of exactly `digits` hexadecimal digits, `value` standing before them. -/
def codePoint (digits : Nat) (value : Nat) (text : List Char) : Option (Char × List Char) :=
  match digits, text with
  | 0, rest => if h : value.isValidChar then some (Char.ofNatAux value h, rest) else none
  | more + 1, char :: rest => do codePoint more (16 * value + (← Numeral.hexDigit? char)) rest
  | _ + 1, [] => none

/-- Takes what follows the backslash of an escape. -/
def escaped : Reader Char
  | 'b' :: rest => some ('\x08', rest)
  | 't' :: rest => some ('\t', rest)
  | 'n' :: rest => some ('\n', rest)
  | 'f' :: rest => some ('\x0c', rest)
  | 'r' :: rest => some ('\r', rest)
  | '"' :: rest => some ('"', rest)
  | '\\' :: rest => some ('\\', rest)
  | 'u' :: rest => codePoint 4 0 rest
  | 'U' :: rest => codePoint 8 0 rest
  | _ => none

/-- Takes a piece of a basic string on one line. -/
def basicPiece : Reader (List Char)
  | '\\' :: rest => (escaped rest).map fun (char, rest) => ([char], rest)
  | char :: rest => if isBasicChar char then some ([char], rest) else none
  | [] => none

/-- Takes a piece of a literal string on one line. -/
def literalPiece : Reader (List Char)
  | char :: rest => if isLiteralChar char then some ([char], rest) else none
  | [] => none

/-- The text after the blanks and line ends in front. -/
def skipBlankLines : List Char → List Char
  | '\n' :: rest => skipBlankLines rest
  | '\r' :: '\n' :: rest => skipBlankLines rest
  | char :: rest => if isBlank char then skipBlankLines rest else char :: rest
  | [] => []

/-- The text after a backslash that ends a line, the line end and the blank space after it. -/
def continuedLine? : List Char → Option (List Char)
  | '\\' :: rest => (newline? (skipBlanks rest)).map skipBlankLines
  | _ => none

/-- Takes a piece of a string that runs over lines. -/
def linesPiece (piece : Reader (List Char)) : Reader (List Char) := fun text =>
  match newline? text with
  | some rest => some (['\n'], rest)
  | none => piece text

/-- Takes a piece of a basic string that runs over lines. -/
def basicLinesPiece : Reader (List Char) := fun text =>
  match continuedLine? text with
  | some rest => some ([], rest)
  | none => linesPiece basicPiece text

/-- Takes the pieces of a string up to its closing quote. Every piece takes a character, so
fuel above the length of the text never runs out. -/
def upToQuote (quote : Char) (piece : Reader (List Char)) : Nat → Reader (List Char)
  | 0, _ => none
  | fuel + 1, text =>
    match text with
    | [] => none
    | char :: rest =>
      if char = quote then some ([], rest)
      else do
        let (chars, rest) ← piece text
        let (more, rest) ← upToQuote quote piece fuel rest
        some (chars ++ more, rest)

/-- Takes the pieces of a string up to the three quotes that close it. One or two quotes in a
row belong to the string, also directly before the closing ones. -/
def upToQuotes (quote : Char) (piece : Reader (List Char)) : Nat → Reader (List Char)
  | 0, _ => none
  | fuel + 1, text =>
    let quotes := (text.takeWhile (· = quote)).length
    if quotes = 0 then do
      let (chars, rest) ← piece text
      let (more, rest) ← upToQuotes quote piece fuel rest
      some (chars ++ more, rest)
    else if quotes < 3 then do
      let (more, rest) ← upToQuotes quote piece fuel (text.drop quotes)
      some (List.replicate quotes quote ++ more, rest)
    else if quotes ≤ 5 then some (List.replicate (quotes - 3) quote, text.drop quotes)
    else none

/-- The text after a line end directly behind the opening of a string. -/
def skipNewline (text : List Char) : List Char := (newline? text).getD text

/-- Takes a string that runs over lines, behind its opening quotes. -/
def linesString (quote : Char) (piece : Reader (List Char)) (text : List Char) :
    Option (String × List Char) :=
  (upToQuotes quote piece (text.length + 1) (skipNewline text)).map fun (chars, rest) =>
    (String.ofList chars, rest)

/-- Takes a string on one line, behind its opening quote. -/
def lineString (quote : Char) (piece : Reader (List Char)) (text : List Char) :
    Option (String × List Char) :=
  (upToQuote quote piece (text.length + 1) text).map fun (chars, rest) =>
    (String.ofList chars, rest)

/-- Takes a string of any of the four forms. -/
def string : Reader String
  | '"' :: '"' :: '"' :: rest => linesString '"' basicLinesPiece rest
  | '"' :: rest => lineString '"' basicPiece rest
  | '\'' :: '\'' :: '\'' :: rest => linesString '\'' (linesPiece literalPiece) rest
  | '\'' :: rest => lineString '\'' literalPiece rest
  | _ => none

/-- A character of a bare key. -/
def isBareChar (char : Char) : Bool := char.isAlphanum || char = '_' || char = '-'

/-- Takes one key. -/
def key : Reader String
  | '"' :: rest => lineString '"' basicPiece rest
  | '\'' :: rest => lineString '\'' literalPiece rest
  | text =>
    let bare := text.takeWhile isBareChar
    if bare.isEmpty then none else some (String.ofList bare, text.dropWhile isBareChar)

/-- Takes keys with dots between them, up to a given number. -/
def keys : Nat → Reader (List String)
  | 0, _ => none
  | limit + 1, text => do
    let (first, rest) ← key (skipBlanks text)
    match skipBlanks rest with
    | '.' :: rest => do
      let (more, rest) ← keys limit rest
      some (first :: more, rest)
    | rest => some ([first], rest)

/-- Arrays and tables nest at most this deep, and paths have at most this many keys. -/
def depthLimit : Nat := 79

/-- A place in a table: the keys that lead there, and the last key. -/
structure Path where
  /-- Keys of the tables on the way. -/
  parents : List String
  /-- The key in the last of those tables. -/
  last : String
  deriving Repr, DecidableEq

/-- Takes a path. -/
def path : Reader Path := fun text =>
  match keys depthLimit text with
  | some (names, rest) => names.getLast?.map fun last => (⟨names.dropLast, last⟩, rest)
  | none => none

end AssessmentRequest.Toml
