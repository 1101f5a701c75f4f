import AssessmentRequest.Text.Numeral
import AssessmentRequest.Wire.Encoding

/-!
# Reading a request from received bytes

Lines are taken one by one. What the next line has to be follows from the lines before it;
the first line that is not so is the error, and the line after the announced number of
records completes the request. As long as neither has been met, more bytes are needed.

Main statement: `decode_complete_bounds` (a complete request is made of at least one byte
and of no more than were received).
-/

namespace AssessmentRequest.Wire

/-- What is wrong with a line, and the text of that line. -/
inductive LineError where
  /-- The line is not UTF-8. -/
  | invalidUtf8
  /-- The first line names no kind. -/
  | unknownKind (line : String)
  /-- The second line is not a positive number that fits 64 bits. -/
  | invalidCount (line : String)
  /-- A record line has not the right number of fields. -/
  | invalidRecord (line : String)
  /-- The line after the records is not the end line. -/
  | missingDone (line : String)
  deriving Repr, DecidableEq

/-- The wording of a line error. -/
def LineError.message : LineError → String
  | .invalidUtf8 => "Invalid UTF-8 in request"
  | .unknownKind line => "Unknown request kind: " ++ line
  | .invalidCount line => "Invalid test count: " ++ line
  | .invalidRecord line => "Expected 5 fields in record: " ++ line
  | .missingDone line => "Expected '" ++ done ++ "', got: " ++ line

/-- The text of the line in error, where it is a text. -/
def LineError.line? : LineError → Option String
  | .invalidUtf8 => none
  | .unknownKind line | .invalidCount line | .invalidRecord line | .missingDone line => some line

/-- The greatest number of records that a request can announce. -/
def countLimit : Nat := UInt64.size - 1

/-- The number that a count line announces. -/
def readCount? (line : String) : Option Nat :=
  match Numeral.readNat countLimit line.toList with
  | .ok 0 => none
  | .ok count => some count
  | .error _ => none

/-- What the lines read so far leave to be read. -/
inductive Awaiting where
  /-- Nothing has been read. -/
  | kind
  /-- The kind has been read. -/
  | count (kind : Kind)
  /-- Some records have been read, `missing` are still to come. -/
  | body (kind : Kind) (missing : Nat) (records : List Record)
  deriving Repr, DecidableEq

/-- What one more line leads to. -/
inductive Step where
  /-- More lines are needed. -/
  | next (awaiting : Awaiting)
  /-- The line completes a request. -/
  | finished (request : Request)
  deriving Repr, DecidableEq

namespace Awaiting

/-- Takes the text of the next line. -/
def acceptText (awaiting : Awaiting) (line : String) : Except LineError Step :=
  match awaiting with
  | .kind =>
    match Kind.ofTag? line with
    | some named => .ok (.next (.count named))
    | none => .error (.unknownKind line)
  | .count named =>
    match readCount? line with
    | some announced => .ok (.next (.body named announced []))
    | none => .error (.invalidCount line)
  | .body named (missing + 1) records =>
    match Record.ofLine? line with
    | some record => .ok (.next (.body named missing (records ++ [record])))
    | none => .error (.invalidRecord line)
  | .body named 0 records =>
    if line = done then .ok (.finished ⟨named, records⟩) else .error (.missingDone line)

/-- Takes the next raw line. -/
def accept (awaiting : Awaiting) (raw : Bytes) : Except LineError Step :=
  match Utf8.decode? (dropReturn raw) with
  | some line => awaiting.acceptText line
  | none => .error .invalidUtf8

end Awaiting

/-- What received bytes amount to. -/
inductive Verdict where
  /-- They begin with a request, made of the first `consumed` bytes. -/
  | complete (request : Request) (consumed : Nat)
  /-- They may still become a request. -/
  | incomplete
  /-- A line is wrong. -/
  | error (error : LineError)
  deriving Repr, DecidableEq

/-- Reads raw lines, `consumed` bytes of which the earlier lines took. -/
def readLines (awaiting : Awaiting) (consumed : Nat) : List Bytes → Verdict
  | [] => .incomplete
  | raw :: rest =>
    match awaiting.accept raw with
    | .error error => .error error
    | .ok (.next awaiting) => readLines awaiting (consumed + raw.length + 1) rest
    | .ok (.finished request) => .complete request (consumed + raw.length + 1)

/-- Reads the request at the front of received bytes. -/
def decode (bytes : Bytes) : Verdict := readLines .kind 0 (split bytes).1

theorem readLines_complete_bounds {lines : List Bytes} {awaiting : Awaiting} {start : Nat}
    {request : Request} {consumed : Nat}
    (h : readLines awaiting start lines = .complete request consumed) :
    start < consumed ∧ consumed ≤ start + (lines.flatMap terminate).length := by
  induction lines generalizing awaiting start with
  | nil => simp [readLines] at h
  | cons raw rest ih =>
    simp only [readLines] at h
    simp only [List.flatMap_cons, List.length_append, length_terminate]
    split at h
    · contradiction
    · have bounds := ih h
      omega
    · cases h
      omega

/-- A complete request is made of at least one byte and of no more than were received. -/
theorem decode_complete_bounds {bytes : Bytes} {request : Request} {consumed : Nat}
    (h : decode bytes = .complete request consumed) :
    0 < consumed ∧ consumed ≤ bytes.length := by
  have bounds := readLines_complete_bounds h
  have whole := congrArg List.length (flatMap_split bytes)
  rw [List.length_append] at whole
  omega

end AssessmentRequest.Wire
