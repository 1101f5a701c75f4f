import AssessmentRequest.Journal.Pattern.Basic
import AssessmentRequest.Text.Numeral

/-!
# Escapes in patterns

What a backslash and the characters behind it stand for. The sets of digits, of white space
and of word characters are those of ASCII. Where all characters of Unicode count there is no
table for them, nor one for the named properties, and so there are no such sets.
-/

namespace AssessmentRequest.Journal.Pattern

/-- What an escape stands for. -/
inductive Escape where
  /-- One character. -/
  | literal (char : Char)
  /-- A set of characters. -/
  | set
  /-- A place in the text; whether it is a boundary of words among all letters. -/
  | place (boundary : Bool)
  deriving Repr, DecidableEq

/-- Takes hexadecimal digits, and gives the character with that code point. -/
def hexChar (mode : Mode) (value : Nat) : Nat → List Char → Option (Char × List Char)
  | 0, text => if h : value.isValidChar then some (Char.ofNatAux value h, text) else none
  | more + 1, text =>
    match skip mode text with
    | [] => none
    | char :: rest =>
      match Numeral.hexDigit? char with
      | some digit => hexChar mode (16 * value + digit) more rest
      | none => none

/-- Takes what stands behind a backslash. A set without characters of ASCII only would not
stay UTF-8. -/
def escape (mode : Mode) : List Char → Option (Escape × List Char)
  | [] => none
  | char :: rest =>
    match char with
    | 'd' | 's' | 'w' => if mode.unicode then none else some (.set, rest)
    | 'x' => do
      let (found, rest) ← hexChar mode 0 2 rest
      if !mode.unicode && isBeyondAscii found then none else some (.literal found, rest)
    | 'u' => (hexChar mode 0 4 rest).map fun (found, rest) => (.literal found, rest)
    | 'U' => (hexChar mode 0 8 rest).map fun (found, rest) => (.literal found, rest)
    | 'a' => some (.literal '\x07', rest)
    | 'f' => some (.literal '\x0c', rest)
    | 't' => some (.literal '\t', rest)
    | 'n' => some (.literal '\n', rest)
    | 'r' => some (.literal '\r', rest)
    | 'v' => some (.literal '\x0b', rest)
    | 'A' | 'z' => some (.place false, rest)
    | 'b' | 'B' | '<' | '>' => some (.place mode.unicode, rest)
    | _ =>
      if isBeyondAscii char || char.isAlphanum then none else some (.literal char, rest)

end AssessmentRequest.Journal.Pattern
