import AssessmentRequest.Record
import AssessmentRequest.Text.Quoted

/-!
# Requests

A request asks for one kind of assessment of a list of documents. It can be sent when it
holds a record and no field of any record would break the line format; otherwise the first
fault in the order of records and fields is reported.
-/

namespace AssessmentRequest

/-- What the controller is asked to do with each document. -/
inductive Kind where
  /-- Score the quality of the metadata. -/
  | quality
  /-- Build a graph of the scores. -/
  | graph
  deriving Repr, DecidableEq, Inhabited

namespace Kind

/-- The kind of a request that names none. -/
def default : Kind := quality

/-- The word for a kind on the wire and in settings. -/
def tag : Kind → String
  | quality => "quality"
  | graph => "graph"

/-- The text with ASCII capitals made small. -/
def lowerAscii (text : String) : List Char := text.toList.map Char.toLower

/-- The kind that a word names, whatever the case of its ASCII letters. -/
def ofTag? (text : String) : Option Kind :=
  if lowerAscii text = quality.tag.toList then some quality
  else if lowerAscii text = graph.tag.toList then some graph
  else none

end Kind

/-- A request to assess some documents. -/
structure Request where
  /-- Kind of assessment. -/
  kind : Kind
  /-- The documents, in the order in which they are sent. -/
  records : List Record
  deriving Repr, DecidableEq

/-- Why a request cannot be sent. -/
inductive RequestError where
  /-- It holds no record. -/
  | empty
  /-- A field holds a comma or a line break. -/
  | invalidField (field : Field) (value : String)
  deriving Repr, DecidableEq

/-- The wording of a request error. -/
def RequestError.message : RequestError → String
  | .empty => "Request has no test records"
  | .invalidField field value =>
    "Field '" ++ field.name ++ "' cannot contain ',' or line breaks: " ++ Quoted.quote value

namespace Record

/-- The fault of a record, if it has one. -/
def fault? (record : Record) : Option RequestError :=
  record.badField?.map fun field => .invalidField field (record.get field)

end Record

namespace Request

/-- Number of documents. -/
def count (request : Request) : Nat := request.records.length

/-- The first fault of a request, if it has one. -/
def fault? (request : Request) : Option RequestError :=
  if request.records.isEmpty then some .empty else request.records.findSome? Record.fault?

/-- Succeeds for the requests that can be sent. -/
def validate (request : Request) : Except RequestError Unit :=
  match request.fault? with
  | none => .ok ()
  | some fault => .error fault

end Request

end AssessmentRequest
