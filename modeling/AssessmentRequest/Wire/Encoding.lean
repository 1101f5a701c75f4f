import AssessmentRequest.Request
import AssessmentRequest.Wire.Line

/-!
# The written form of a request

A request is written as a line with its kind, a line with the number of records, a line for
each record and the line `Done`. Every line ends with a line feed.
-/

namespace AssessmentRequest

namespace Wire

/-- The line that ends a request. -/
def done : String := "Done"

end Wire

namespace Request

/-- The lines of a request, without terminators. -/
def lines (request : Request) : List String :=
  [request.kind.tag, request.count.repr] ++ request.records.map Record.line ++ [Wire.done]

/-- The bytes of a request, whether or not it can be sent. -/
def wire (request : Request) : Bytes :=
  request.lines.flatMap fun line => Wire.terminate (Utf8.encode line)

/-- The bytes of a request that can be sent. -/
def encode (request : Request) : Except RequestError Bytes :=
  match request.fault? with
  | none => .ok request.wire
  | some fault => .error fault

end Request

end AssessmentRequest
