import AssessmentRequest.Text.Utf8

/-!
# Log events

An event has a level, the part of the program that it comes from, a message and named
values. Its text holds the values as they are.
-/

namespace AssessmentRequest.Journal

/-- How important an event is. -/
inductive Level where
  | error
  | warn
  | info
  | debug
  | trace
  deriving Repr, DecidableEq

namespace Level

/-- The word for a level. -/
def tag : Level → String
  | error => "ERROR"
  | warn => "WARN"
  | info => "INFO"
  | debug => "DEBUG"
  | trace => "TRACE"

/-- How verbose a filter has to be to let a level through, from one to five. -/
def rank : Level → Nat
  | error => 1
  | warn => 2
  | info => 3
  | debug => 4
  | trace => 5

end Level

/-- The part of the program that an event comes from. -/
inductive Source where
  /-- The run as a whole. -/
  | run
  /-- The delivery to the controller. -/
  | sender
  deriving Repr, DecidableEq

/-- The name of a part of the program in filters. -/
def Source.target : Source → String
  | run => "send_assessment_test"
  | sender => "send_assessment_test::sender"

/-- Something that happened. -/
structure Event where
  /-- How important it is. -/
  level : Level
  /-- Where it comes from. -/
  source : Source
  /-- What happened. -/
  message : String
  /-- Named values, in order. -/
  values : List (String × String)
  deriving Repr, DecidableEq

/-- The names of the fields of an event; its message is one of them. -/
def Event.fields (event : Event) : List String := "message" :: event.values.map Prod.fst

/-- The text of an event. -/
def Event.text (event : Event) : String :=
  event.level.tag ++ " " ++ event.message
    ++ String.join (event.values.map fun (name, value) => " " ++ name ++ "=" ++ value)

end AssessmentRequest.Journal
