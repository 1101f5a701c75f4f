import AssessmentRequest.Journal.Directive

/-!
# Log filters

A filter is a list of directives with commas between them. Spans do not occur here, so a
directive bears on events only if it asks for no span and for no value: it is a rule for the
events whose source begins with its target and which have its field. The most specific rule
decides: that with the longest target, then one with a field, of two fields the one later in
order, and of two alike the later rule. A filter without a directive lets only errors
through.
-/

namespace AssessmentRequest.Journal

/-- What a directive says about events. -/
structure Rule where
  /-- How the sources begin that it concerns. -/
  target : Option String
  /-- A field that the events have. -/
  field : Option String
  /-- How verbose the log is to be. -/
  verbosity : Nat
  deriving Repr, DecidableEq

/-- The rule of a directive that bears on events. -/
def Directive.rule? (directive : Directive) : Option Rule :=
  if directive.span.isSome || directive.field.any FieldCondition.hasValue then none
  else some ⟨directive.target, directive.field.map FieldCondition.name, directive.verbosity⟩

namespace Rule

/-- The rule bears on an event. -/
def concerns (rule : Rule) (event : Event) : Bool :=
  rule.target.all (fun target => target.toList.isPrefixOf event.source.target.toList)
    && rule.field.all event.fields.contains

/-- How much of a source a rule fixes; no target is less than an empty one. -/
def reach (rule : Rule) : Nat := rule.target.elim 0 (·.length + 1)

/-- Of two rules for one event, a later one decides against an earlier one. -/
def yieldsTo (earlier later : Rule) : Bool :=
  earlier.reach < later.reach
    || (earlier.reach = later.reach &&
      match earlier.field, later.field with
      | none, _ => true
      | some _, none => false
      | some first, some second => first ≤ second)

end Rule

/-- A log filter. -/
abbrev Filter := List Directive

namespace Filter

/-- The pieces of a filter between its commas, without the empty ones. -/
def pieces (text : String) : List String :=
  ((text.toList.splitOn ',').filter fun piece => !piece.isEmpty).map String.ofList

/-- Reads a filter, leaving out the pieces that are no directives. -/
def ofText (text : String) : Filter :=
  (pieces text).filterMap fun piece => (Directive.parse piece).toOption

/-- Reads a filter, if every piece of it is a directive. -/
def ofText? (text : String) : Option Filter :=
  (pieces text).mapM fun piece => (Directive.parse piece).toOption

/-- What is said about a piece that is left out. -/
def notice? (piece : String) : Option String :=
  match Directive.parse piece with
  | .ok _ => none
  | .error fault => some ("ignoring `" ++ piece ++ "`: " ++ fault.message)

/-- What is said about the pieces that are left out. -/
def notices (text : String) : List String := (pieces text).filterMap notice?

/-- The rule that decides, out of the one found so far and a later one. -/
def prefer (found : Option Rule) (later : Rule) : Option Rule :=
  match found with
  | none => some later
  | some earlier => if earlier.yieldsTo later then some later else some earlier

/-- The rule of a filter that decides about an event. -/
def deciding? (filter : Filter) (event : Event) : Option Rule :=
  ((filter.filterMap Directive.rule?).filter (·.concerns event)).foldl prefer none

/-- The verbosity of a filter for an event. -/
def verbosity (filter : Filter) (event : Event) : Nat :=
  if filter.isEmpty then Level.error.rank
  else (filter.deciding? event).elim 0 Rule.verbosity

/-- The filter lets an event through. -/
def allows (filter : Filter) (event : Event) : Bool :=
  event.level.rank ≤ filter.verbosity event

end Filter

end AssessmentRequest.Journal
