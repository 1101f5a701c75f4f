import AssessmentRequest.Toml.Moment
import AssessmentRequest.Toml.Number
import AssessmentRequest.Toml.Table

/-!
# Reading TOML: values and documents

A document is a sequence of lines, each with an assignment, a header, a comment or nothing.
`parse` reads a whole document and gives its table, or nothing where the text is no TOML
document; one byte order mark in front is skipped.
-/

namespace AssessmentRequest.Toml

/-- Takes a value that holds no other value. -/
def scalar : Reader Value := fun text =>
  match text with
  | [] => none
  | char :: _ =>
    if char = '"' ∨ char = '\'' then (string text).map fun (text, rest) => (.string text, rest)
    else if char = 't' then (expect? "true".toList text).map fun rest => (.boolean true, rest)
    else if char = 'f' then (expect? "false".toList text).map fun rest => (.boolean false, rest)
    else
      (moment text).map (fun (literal, rest) => (.moment literal, rest))
        <|> (float text).map (fun (value, rest) => (.float value, rest))
        <|> (integer text).map (fun (value, rest) => (.integer value, rest))

/-- Takes the elements of an array, behind its opening bracket or a comma. Every element takes
a character, so fuel above the length of the text never runs out. -/
def elements (element : Reader Value) : Nat → Reader (List Value)
  | 0, _ => none
  | fuel + 1, text =>
    match skipFiller text with
    | ']' :: rest => some ([], rest)
    | text => do
      let (value, rest) ← element text
      match skipFiller rest with
      | ']' :: rest => some ([value], rest)
      | ',' :: rest => do
        let (values, rest) ← elements element fuel rest
        some (value :: values, rest)
      | _ => none

/-- Takes a path, an equals sign and a value. -/
def assignment (element : Reader Value) : Reader (Path × Value) := fun text => do
  let (path, rest) ← path text
  let rest ← expect? ['='] rest
  let (value, rest) ← element (skipBlanks rest)
  some ((path, value), rest)

/-- Takes the assignments of an inline table, at least one, on one line. -/
def fields (element : Reader Value) : Nat → Reader (List (Path × Value))
  | 0, _ => none
  | fuel + 1, text => do
    let (first, rest) ← assignment element text
    match skipBlanks rest with
    | '}' :: rest => some ([first], rest)
    | ',' :: rest => do
      let (more, rest) ← fields element fuel rest
      some (first :: more, rest)
    | _ => none

/-- Takes an inline table, behind its opening brace. -/
def inlineTable (element : Reader Value) : Reader Value := fun text =>
  match skipBlanks text with
  | '}' :: rest => some (.table [], rest)
  | text => do
    let (assignments, rest) ← fields element (text.length + 1) text
    let entries ← assignAll [] assignments
    some (.table (finishEntries entries), rest)

/-- Takes a value in which arrays and inline tables nest at most `depth` deep. -/
def value : Nat → Reader Value
  | 0, text => scalar text
  | depth + 1, text =>
    match text with
    | '[' :: rest =>
      (elements (value depth) (rest.length + 1) rest).map fun (items, rest) => (.array items, rest)
    | '\x7b' :: rest => inlineTable (value depth) rest
    | text => scalar text

/-- A line of a document that is not empty. -/
inductive Line where
  /-- Gives a value to a path. -/
  | assignment (path : Path) (value : Value)
  /-- Opens a table, or an element of an array of tables. -/
  | header (element : Bool) (path : Path)

/-- Takes a header. -/
def header : Reader Line
  | '[' :: '[' :: text => do
    let (path, rest) ← path text
    let rest ← expect? [']', ']'] rest
    some (.header true path, rest)
  | '[' :: text => do
    let (path, rest) ← path text
    let rest ← expect? [']'] rest
    some (.header false path, rest)
  | _ => none

/-- Takes a header or an assignment. -/
def line : Reader Line := fun text =>
  match text with
  | '[' :: _ => header text
  | _ => (assignment (value depthLimit) text).map fun ((path, value), rest) =>
    (.assignment path value, rest)

/-- Reads all lines of a document. Every line but the last takes a character, so fuel above
the length of the text never runs out. -/
def lines : Nat → List Char → Option (List Line)
  | 0, _ => none
  | fuel + 1, text =>
    match skipFiller text with
    | [] => some []
    | text => do
      let (first, rest) ← line text
      let rest ← endOfLine? rest
      let more ← lines fuel rest
      some (first :: more)

/-- The assignments before the first header, and the headers with theirs. -/
def blocks : List Line → List (Path × Value) × List Block
  | [] => ([], [])
  | .assignment path value :: rest =>
    let grouped := blocks rest
    ((path, value) :: grouped.1, grouped.2)
  | .header element path :: rest =>
    let grouped := blocks rest
    ([], ⟨element, path, grouped.1⟩ :: grouped.2)

/-- The text without a byte order mark in front. -/
def skipByteOrderMark : List Char → List Char
  | '\uFEFF' :: rest => rest
  | text => text

/-- The table that a document denotes. -/
def parse (document : String) : Option Entries := do
  let text := skipByteOrderMark document.toList
  let lines ← lines (text.length + 1) text
  let grouped := blocks lines
  assemble grouped.1 grouped.2

end AssessmentRequest.Toml
