import AssessmentRequest.Journal.Pattern.Escape

/-!
# Sets of characters in brackets

A set holds characters, ranges of them, named sets and sets in brackets, with operators
between rows of these. What it holds does not matter here, only that it has the right form
and how deep it is nested.
-/

namespace AssessmentRequest.Journal.Pattern

/-- The names of sets of ASCII characters. -/
def asciiSets : List String :=
  ["alnum", "alpha", "ascii", "blank", "cntrl", "digit", "graph", "lower", "print", "punct",
    "space", "upper", "word", "xdigit"]

/-- Takes a named set of ASCII characters from behind its bracket: whether it is the
complement that is meant, and the rest. -/
def asciiSet? : List Char → Option (Bool × List Char)
  | ':' :: inner =>
    let negated := inner.head? = some '^'
    let named := if negated then inner.drop 1 else inner
    let name := String.ofList (named.takeWhile (· ≠ ':'))
    match named.dropWhile (· ≠ ':') with
    | ':' :: ']' :: rest => if asciiSets.contains name then some (negated, rest) else none
    | _ => none
  | _ => none

/-- A named set can be used: its letters need not be known in both cases, and its complement
does not reach beyond ASCII among bytes. -/
def allowsAsciiSet (mode : Mode) (negated : Bool) : Bool :=
  !mode.isCaselessUnicode && (mode.unicode || !negated)

/-- A set can hold a character. -/
def allowsMember (mode : Mode) (char : Char) : Bool :=
  !mode.isCaselessUnicode && (mode.unicode || !isBeyondAscii char)

/-- Takes a member of a set: a character, or a set of them. -/
def member (mode : Mode) : List Char → Option (Option Char × List Char)
  | [] => none
  | '\\' :: rest =>
    match escape mode rest with
    | some (.literal char, rest) => if allowsMember mode char then some (some char, rest) else none
    | some (.set, rest) => some (none, rest)
    | _ => none
  | char :: rest => if allowsMember mode char then some (some char, rest) else none

/-- Takes a member of a set or a range between two characters. A dash before the end of the
set or before another dash makes no range. -/
def range (mode : Mode) (text : List Char) : Option (List Char) := do
  let (first, rest) ← member mode text
  match skip mode rest with
  | [] => none
  | '-' :: behind =>
    if peek mode behind = some ']' ∨ peek mode behind = some '-' then some ('-' :: behind)
    else
      let (last, rest) ← member mode (skip mode behind)
      match first, last with
      | some low, some high => if low ≤ high then some rest else none
      | _, _ => none
  | rest => some rest

/-- A set that is being read. -/
structure OpenSet where
  /-- The members since the last operator. -/
  members : Row := {}
  /-- How deep the operands before the last operator are nested, if there is one. -/
  operands : Option Nat := none
  deriving Repr, DecidableEq

namespace OpenSet

/-- How deep the content is nested. -/
def depth (set : OpenSet) : Nat :=
  match set.operands with
  | none => set.members.depth
  | some operands => max operands set.members.depth + 1

/-- What has been read is an operand. -/
def operate (set : OpenSet) : OpenSet := { operands := some set.depth }

/-- The set has another member of some depth. -/
def push (set : OpenSet) (depth : Nat) : OpenSet := { set with members := set.members.push depth }

end OpenSet

/-- Counts the dashes in front, and takes them with what the mode leaves out. -/
def takeDashes (mode : Mode) (inComment : Bool) (count : Nat) : List Char → Nat × List Char
  | [] => (count, [])
  | char :: rest =>
    if inComment then takeDashes mode (char ≠ '\n') count rest
    else if char = '-' then takeDashes mode false (count + 1) rest
    else if mode.verbose ∧ Blank.isBlank char then takeDashes mode false count rest
    else if mode.verbose ∧ char = '#' then takeDashes mode true count rest
    else (count, char :: rest)

/-- Takes the front of a set from behind its bracket: a caret, and dashes or a closing
bracket that are members. The complement of a set of bytes would not stay UTF-8. -/
def openSet (mode : Mode) (text : List Char) : Option (OpenSet × List Char) :=
  let inner := skip mode text
  let negated := inner.head? = some '^'
  let (dashes, rest) := takeDashes mode false 0 (if negated then inner.drop 1 else inner)
  let bracket := dashes = 0 ∧ rest.head? = some ']'
  let count := if bracket then 1 else dashes
  if negated ∧ !mode.unicode then none
  else if 0 < count ∧ mode.isCaselessUnicode then none
  else some ({ members := { count } }, if bracket then rest.drop 1 else rest)

/-- Takes the rest of a set and of those around it, the innermost first: how deep the
outermost is nested, and the text behind it. Each step takes a character. -/
def sets (mode : Mode) (set : OpenSet) (outer : List OpenSet) :
    Nat → List Char → Option (Nat × List Char)
  | 0, _ => none
  | fuel + 1, text =>
    match skip mode text with
    | [] => none
    | ']' :: rest =>
      match outer with
      | [] => some (set.depth + 1, rest)
      | next :: outer => sets mode (next.push (set.depth + 1)) outer fuel rest
    | '[' :: rest =>
      match asciiSet? rest with
      | some (negated, rest) =>
        if allowsAsciiSet mode negated then sets mode (set.push 0) outer fuel rest else none
      | none =>
        match openSet mode rest with
        | some (inner, rest) => sets mode inner (set :: outer) fuel rest
        | none => none
    | '&' :: '&' :: rest | '-' :: '-' :: rest | '~' :: '~' :: rest =>
      sets mode set.operate outer fuel rest
    | text =>
      match range mode text with
      | some rest => sets mode (set.push 0) outer fuel rest
      | none => none

/-- Takes a set in brackets from behind its first bracket. -/
def bracketed (mode : Mode) (text : List Char) : Option (Nat × List Char) := do
  let (set, rest) ← openSet mode text
  sets mode set [] (text.length + 1) rest

end AssessmentRequest.Journal.Pattern
