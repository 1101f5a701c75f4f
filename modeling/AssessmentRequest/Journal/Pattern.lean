import AssessmentRequest.Journal.Pattern.Bracket
import AssessmentRequest.Text.Alphanumeric

/-!
# Value patterns

A condition on a field may ask for a value: a number or a regular expression. The values of
fields decide about nothing here, so all that counts is whether a text is such a pattern.
It holds no comma, no equals sign and no closing brace, since each of them ends it, and so
a brace that opens is never closed.
-/

namespace AssessmentRequest.Journal.Pattern

/-- Why a text is no usable pattern. -/
inductive Fault where
  /-- It is no regular expression. -/
  | malformed
  /-- It asks for word boundaries among all letters. -/
  | wordBoundary
  deriving Repr, DecidableEq

/-- The wording of a fault. -/
def Fault.message : Fault → String
  | malformed => "error building NFA"
  | wordBoundary =>
    "unsupported regex feature for DFAs: cannot build DFAs for regexes with Unicode word "
      ++ "boundaries; switch to ASCII word boundaries, or heuristically enable Unicode word "
      ++ "boundaries or use a different regex engine"

/-- What has been read between two parentheses, or between the ends of a pattern. -/
structure Group where
  /-- The parts since the last bar. -/
  parts : Row := {}
  /-- How deep the branches before the last bar are nested, if there is one. -/
  branches : Option Nat := none
  /-- How deep the last part is nested, if it can be repeated. -/
  last : Option Nat := none
  deriving Repr, DecidableEq

namespace Group

/-- How deep the content is nested. -/
def depth (group : Group) : Nat :=
  match group.branches with
  | none => group.parts.depth
  | some branches => max branches group.parts.depth + 1

/-- The group has another part of some depth, which can be repeated. -/
def push (group : Group) (depth : Nat) : Group :=
  { group with parts := group.parts.push depth, last := some depth }

/-- The group has another part, which only sets flags. -/
def pushFlags (group : Group) : Group :=
  { group with parts := group.parts.push 0, last := none }

/-- The group has another branch. -/
def branch (group : Group) : Group :=
  { branches := some (max (group.branches.getD 0) group.parts.depth) }

/-- The last part is repeated, if it can be. -/
def repeated? (group : Group) : Option Group :=
  group.last.map fun depth =>
    { group with
      parts := { group.parts with deepest := max group.parts.deepest (depth + 1) }
      last := some (depth + 1) }

end Group

/-- How far a pattern has been read. -/
structure Reading where
  /-- The flags in force. -/
  mode : Mode := {}
  /-- The innermost open group. -/
  group : Group := {}
  /-- The groups around it with the flags to return to, the innermost first. -/
  outer : List (Mode × Group) := []
  /-- The names of groups so far. -/
  names : List (List Char) := []
  /-- A boundary of words among all letters has been met. -/
  boundary : Bool := false
  deriving Repr, DecidableEq

namespace Reading

/-- Opens a group under some flags. -/
def enter (reading : Reading) (mode : Mode) : Reading :=
  { reading with mode, group := {}, outer := (reading.mode, reading.group) :: reading.outer }

/-- Closes a group. -/
def leave? (reading : Reading) : Option Reading :=
  match reading.outer with
  | [] => none
  | (mode, group) :: outer =>
    some { reading with mode, group := group.push (reading.group.depth + 1), outer }

/-- Goes on in the same group. -/
def within (reading : Reading) (group : Group) : Reading := { reading with group }

/-- A part of some depth has been read. -/
def push (reading : Reading) (depth : Nat) : Reading := reading.within (reading.group.push depth)

end Reading

/-- Whether a character may stand in the name of a group. -/
def isNameChar (first : Bool) (char : Char) : Bool :=
  char = '_'
    || if first then Alphanumeric.isAlphabetic char
      else Alphanumeric.isAlphanumeric char || char = '.' || char = '[' || char = ']'

/-- Takes the name of a group and the bracket behind it. -/
def groupName (text : List Char) : Option (List Char × List Char) :=
  let name := text.takeWhile (· ≠ '>')
  match name, text.dropWhile (· ≠ '>') with
  | first :: more, _ :: rest =>
    if isNameChar true first && more.all (isNameChar false) then some (name, rest) else none
  | _, _ => none

/-- Takes flags up to a colon or a closing parenthesis, which is told. -/
def flags (mode : Mode) (seen : List Char) : List Char → Option (Mode × Char × List Char)
  | [] => none
  | char :: rest =>
    if char = ':' ∨ char = ')' then
      if seen.head? = some '-' ∨ (char = ')' ∧ seen.isEmpty) then none
      else some (mode, char, rest)
    else if seen.contains char then none
    else
      let on := !seen.contains '-'
      match char with
      | '-' | 'm' | 's' | 'U' | 'R' => flags mode (char :: seen) rest
      | 'i' => flags { mode with caseless := on } (char :: seen) rest
      | 'u' => flags { mode with unicode := on } (char :: seen) rest
      | 'x' => flags { mode with verbose := on } (char :: seen) rest
      | _ => none

/-- Takes the front of a group from behind its parenthesis, or flags in parentheses. -/
def openGroup (reading : Reading) (text : List Char) : Option (Reading × List Char) :=
  let named (inner : List Char) : Option (Reading × List Char) := do
    let (name, rest) ← groupName inner
    if reading.names.contains name then none
    else some ({ reading.enter reading.mode with names := name :: reading.names }, rest)
  match skip reading.mode text with
  | '?' :: '<' :: '!' :: _ => none
  | '?' :: 'P' :: '<' :: inner => named inner
  | '?' :: '<' :: inner => named inner
  | '?' :: inner => do
    let (mode, last, rest) ← flags reading.mode [] inner
    if last = ':' then some (reading.enter mode, rest)
    else some ({ reading.within reading.group.pushFlags with mode }, rest)
  | inner => some (reading.enter reading.mode, inner)

/-- The text behind the mark of a lazy repetition. -/
def skipLazy : List Char → List Char
  | '?' :: rest => rest
  | text => text

/-- Reads a pattern to its end. Each step takes a character. -/
def scan (reading : Reading) : Nat → List Char → Option Reading
  | 0, _ => none
  | fuel + 1, text =>
    match skip reading.mode text with
    | [] => if reading.outer.isEmpty then some reading else none
    | '(' :: rest =>
      match openGroup reading rest with
      | some (reading, rest) => scan reading fuel rest
      | none => none
    | ')' :: rest =>
      match reading.leave? with
      | some reading => scan reading fuel rest
      | none => none
    | '|' :: rest => scan (reading.within reading.group.branch) fuel rest
    | '?' :: rest | '*' :: rest | '+' :: rest =>
      match reading.group.repeated? with
      | some group => scan (reading.within group) fuel (skipLazy rest)
      | none => none
    | '{' :: _ => none
    | '[' :: rest =>
      match bracketed reading.mode rest with
      | some (depth, rest) => scan (reading.push depth) fuel rest
      | none => none
    | '\\' :: rest =>
      match escape reading.mode rest with
      | some (.literal _, rest) =>
        if reading.mode.isCaselessUnicode then none else scan (reading.push 0) fuel rest
      | some (.set, rest) => scan (reading.push 0) fuel rest
      | some (.place boundary, rest) =>
        scan { reading.push 0 with boundary := reading.boundary || boundary } fuel rest
      | none => none
    | '.' :: rest => if reading.mode.unicode then scan (reading.push 0) fuel rest else none
    | '^' :: rest | '$' :: rest => scan (reading.push 0) fuel rest
    | _ :: rest =>
      if reading.mode.isCaselessUnicode then none else scan (reading.push 0) fuel rest

/-- A number behind a plus sign, which would not be a regular expression. -/
def isSignedNumber : List Char → Bool
  | '+' :: text =>
    let whole := text.takeWhile Char.isDigit
    let behind := text.drop whole.length
    let fraction := if behind.head? = some '.' then (behind.drop 1).takeWhile Char.isDigit else []
    let behind := if behind.head? = some '.' then behind.drop (fraction.length + 1) else behind
    let special := ["inf", "infinity", "nan"].contains (String.ofList (text.map Char.toLower))
    let exponentFits :=
      match behind with
      | [] => true
      | char :: rest =>
        let digits := if rest.head? = some '+' ∨ rest.head? = some '-' then rest.drop 1 else rest
        (char = 'e' || char = 'E') && !digits.isEmpty && digits.all Char.isDigit
    special || (!(whole ++ fraction).isEmpty && exponentFits)
  | _ => false

/-- The fault of a text as a pattern, if it has one. -/
def fault? (text : List Char) : Option Fault :=
  if isSignedNumber text then none
  else
    match scan {} (text.length + 1) text with
    | none => some .malformed
    | some reading =>
      if depthLimit < reading.group.depth then some .malformed
      else if reading.boundary then some .wordBoundary
      else none

end AssessmentRequest.Journal.Pattern
