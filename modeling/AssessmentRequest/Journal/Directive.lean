import AssessmentRequest.Journal.Event
import AssessmentRequest.Journal.Pattern

/-!
# Log directives

A directive is a level, a target, or a target, a span in brackets with a condition on a
field in braces, and a level behind an equals sign, any part but one of which may be left
out. White space around a directive is passed over in finding its parts, but the parts are
cut from the whole text at the positions found, so that it changes what they hold.
-/

namespace AssessmentRequest.Journal

/-- Why a text is no directive. -/
inductive DirectiveFault where
  /-- Its parts do not fit together. -/
  | malformed
  /-- The word for the level is none. -/
  | level
  /-- The value of a field is no pattern. -/
  | pattern (fault : Pattern.Fault)
  deriving Repr, DecidableEq

/-- The wording of a fault. -/
def DirectiveFault.message : DirectiveFault → String
  | malformed => "invalid filter directive"
  | level =>
    "error parsing level filter: expected one of \"off\", \"error\", \"warn\", \"info\", "
      ++ "\"debug\", \"trace\", or a number 0-5"
  | pattern fault => "invalid field filter: " ++ fault.message

/-- A condition on a field. -/
structure FieldCondition where
  /-- The name of the field. -/
  name : String
  /-- A value is asked for too. -/
  hasValue : Bool
  deriving Repr, DecidableEq

/-- One part of a filter. -/
structure Directive where
  /-- How the sources begin that it concerns. -/
  target : Option String := none
  /-- The name of the spans that it concerns. -/
  span : Option String := none
  /-- The field that it asks for. -/
  field : Option FieldCondition := none
  /-- How verbose the log is to be. -/
  verbosity : Nat
  deriving Repr, DecidableEq

/-- The greatest verbosity. -/
def fullVerbosity : Nat := 5

/-- The verbosity that a word stands for. -/
def verbosity? (word : String) : Option Nat :=
  match Numeral.readNat (UInt64.size - 1) word.toList with
  | .ok number => if number ≤ fullVerbosity then some number else none
  | .error _ =>
    let lower := word.toList.map Char.toLower
    if lower = "off".toList then some 0
    else if lower = "error".toList ∨ lower = [] then some Level.error.rank
    else if lower = "warn".toList then some Level.warn.rank
    else if lower = "info".toList then some Level.info.rank
    else if lower = "debug".toList then some Level.debug.rank
    else if lower = "trace".toList then some Level.trace.rank
    else none

namespace Directive

/-- Where in a directive its text has come to; the numbers are positions where a part begins. -/
inductive Stage where
  /-- Before the first character. -/
  | start
  /-- In a level or a target. -/
  | word (start : Nat)
  /-- In the name of a span. -/
  | span (start : Nat)
  /-- In a condition on a field. -/
  | field (start : Nat)
  /-- Behind a condition on a field. -/
  | fieldEnd
  /-- Behind a span. -/
  | spanEnd
  /-- In the level behind an equals sign. -/
  | level (start : Nat)
  deriving Repr, DecidableEq

/-- A directive of which a part has been read. -/
structure Draft where
  /-- What has been read. -/
  directive : Directive := { verbosity := fullVerbosity }
  /-- Where the text has come to. -/
  stage : Stage := .start
  /-- The position of the next character. -/
  position : Nat := 0
  deriving Repr, DecidableEq

/-- The part of a text between two positions. -/
def cut (text : Bytes) (start stop : Nat) : Except DirectiveFault String :=
  match Utf8.decode? ((text.drop start).take (stop - start)) with
  | some part => .ok part
  | none => .error .malformed

/-- The part of a text behind a position. -/
def cutRest (text : Bytes) (start : Nat) : Except DirectiveFault String :=
  cut text start text.length

/-- A character that a directive may begin with, apart from a bracket. -/
def canBegin (char : Char) : Bool :=
  char = '-' || char = ':' || char = '_' || Alphanumeric.isAlphanumeric char

/-- The condition on a field that a text states. Behind a second equals sign nothing counts. -/
def readField (text : String) : Except DirectiveFault FieldCondition :=
  match text.toList.splitOn '=' with
  | name :: value :: _ =>
    match Pattern.fault? value with
    | some fault => .error (.pattern fault)
    | none => .ok ⟨String.ofList name, true⟩
  | _ => .ok ⟨text, false⟩

/-- The verbosity behind an equals sign; nothing written is the greatest. -/
def readLevel (word : String) : Except DirectiveFault Nat :=
  if word.isEmpty then .ok fullVerbosity
  else
    match verbosity? word with
    | some verbosity => .ok verbosity
    | none => .error .level

namespace Draft

/-- Goes on to another stage. -/
def goTo (draft : Draft) (stage : Stage) : Except DirectiveFault Draft :=
  .ok { draft with stage }

/-- Takes a character of the whole text `text`, all but the position behind it. -/
def accept (text : Bytes) (draft : Draft) (char : Char) : Except DirectiveFault Draft :=
  let here := draft.position
  match draft.stage with
  | .start =>
    if char = '[' then draft.goTo (.span (here + 1))
    else if canBegin char then draft.goTo (.word here)
    else .error .malformed
  | .word start => do
    if char = '=' then
      let target ← cut text start here
      { draft with directive.target := some target }.goTo (.level (here + 1))
    else if char = '[' then
      let target ← cut text start here
      { draft with directive.target := some target }.goTo (.span (here + 1))
    else .ok draft
  | .span start => do
    if char = ']' then
      let name ← cut text start here
      { draft with directive.span := some name }.goTo .spanEnd
    else if char = '\x7b' then
      let name ← cut text start here
      let span := if name.isEmpty then none else some name
      { draft with directive.span := span }.goTo (.field (here + 1))
    else .ok draft
  | .field start => do
    if char = '\x7d' then
      let part ← cut text start here
      if part.isEmpty then .error .malformed
      else
        let field ← readField part
        { draft with directive.field := some field }.goTo .fieldEnd
    else .ok draft
  | .fieldEnd => if char = ']' then draft.goTo .spanEnd else .error .malformed
  | .spanEnd => if char = '=' then draft.goTo (.level (here + 1)) else .error .malformed
  | .level _ => .ok draft

/-- Takes the next character. -/
def step (text : Bytes) (draft : Draft) (char : Char) : Except DirectiveFault Draft := do
  let next ← draft.accept text char
  return { next with position := draft.position + char.utf8Size }

/-- The directive at the end of the text. -/
def finish (text : Bytes) (draft : Draft) : Except DirectiveFault Directive :=
  match draft.stage with
  | .word start => do
    let word ← cutRest text start
    match verbosity? word with
    | some verbosity => .ok { draft.directive with target := none, verbosity }
    | none => .ok { draft.directive with target := some word }
  | .level start => do
    let verbosity ← readLevel (← cutRest text start)
    .ok { draft.directive with verbosity }
  | .spanEnd => .ok draft.directive
  | _ => .error .malformed

end Draft

/-- Reads a directive, which holds no comma. -/
def parse (text : String) : Except DirectiveFault Directive := do
  let bytes := Utf8.encode text
  let draft ← (Blank.trim text.toList).foldlM (Draft.step bytes) {}
  draft.finish bytes

end Directive

end AssessmentRequest.Journal
