import AssessmentRequest.Wire.Decoding

/-!
# Reading a buffer by offsets

A line is read from the offset at which it starts, and the next line starts just past its line
feed. A reading walks from line to line until one of them has a verdict or no line is left. Each
step moves the offset on inside the buffer, and this alone makes a walk end: the number of records
that is announced comes with the bytes and is no bound on anything.

Main statement: `bounds_of_advance` (a step moves the offset on and keeps it inside).
-/

namespace AssessmentRequest.Wire

/-- The text of a raw line, with the offset at which the next line starts. -/
def readText (raw : Bytes) (next : Nat) : Except LineError (String × Nat) :=
  match Utf8.decode? (dropReturn raw) with
  | some line => .ok (line, next)
  | none => .error .invalidUtf8

/-- Reads the line that starts at an offset: its text, and the offset just past its line feed. -/
def nextLine? (buffer : Bytes) (start : Nat) : Option (Except LineError (String × Nat)) :=
  if buffer.length < start then none
  else
    ((buffer.drop start).idxOf? lineFeed).map fun length =>
      readText ((buffer.drop start).take length) (start + length + 1)

/-- The line that is read lies behind its start and inside the buffer. -/
theorem bounds_of_nextLine? {buffer : Bytes} {start next : Nat} {line : String}
    (h : nextLine? buffer start = some (.ok (line, next))) :
    start < next ∧ next ≤ buffer.length := by
  unfold nextLine? at h
  split at h
  · contradiction
  · obtain ⟨length, found, read⟩ := Option.map_eq_some_iff.mp h
    obtain ⟨inside, -⟩ := List.idxOf?_eq_some_iff.mp found
    rw [List.length_drop] at inside
    unfold readText at read
    split at read
    · cases read
      omega
    · contradiction

/-- The records that have been read. -/
def Awaiting.records : Awaiting → List Record
  | .kind | .count _ => []
  | .body _ _ records => records

/-- Where a reading stands in a buffer. -/
structure Cursor where
  /-- The offset at which the next line starts. -/
  offset : Nat
  /-- What the lines before it leave to be read. -/
  awaiting : Awaiting
  deriving Repr, DecidableEq

/-- A reading of a buffer from one line to the next. -/
structure Walk where
  /-- Where a line was looked for, in turn. -/
  cursors : List Cursor
  /-- What came of it at the last of them. -/
  verdict : Verdict
  deriving Repr, DecidableEq

namespace Cursor

/-- A reading starts with the first byte. -/
def start : Cursor := ⟨0, .kind⟩

/-- Reads one line and moves behind it. A verdict ends the reading. -/
def advance (buffer : Bytes) (cursor : Cursor) : Except Verdict Cursor :=
  match nextLine? buffer cursor.offset with
  | none => .error .incomplete
  | some (.error error) => .error (.error error)
  | some (.ok (line, next)) =>
    match cursor.awaiting.acceptText line with
    | .error error => .error (.error error)
    | .ok (.next awaiting) => .ok ⟨next, awaiting⟩
    | .ok (.finished request) => .error (.complete request next)

/-- The cursor moves on exactly if a line is read there that only asks for another one. -/
theorem advance_eq_ok_iff {buffer : Bytes} {cursor next : Cursor} :
    cursor.advance buffer = .ok next ↔
      ∃ line, nextLine? buffer cursor.offset = some (.ok (line, next.offset)) ∧
        cursor.awaiting.acceptText line = .ok (.next next.awaiting) := by
  constructor
  · intro h
    unfold advance at h
    split at h
    · contradiction
    · contradiction
    · next line offset read =>
      split at h
      · contradiction
      · next accepted =>
        cases h
        exact ⟨line, read, accepted⟩
      · contradiction
  · intro h
    obtain ⟨line, read, accepted⟩ := h
    simp only [advance, read, accepted]

/-- A step moves the offset on and keeps it inside the buffer. -/
theorem bounds_of_advance {buffer : Bytes} {cursor next : Cursor}
    (h : cursor.advance buffer = .ok next) :
    cursor.offset < next.offset ∧ next.offset ≤ buffer.length := by
  obtain ⟨line, read, -⟩ := advance_eq_ok_iff.mp h
  exact bounds_of_nextLine? read

/-- Reads line after line until there is a verdict. -/
def walk (buffer : Bytes) (cursor : Cursor) : Walk :=
  match _ : cursor.advance buffer with
  | .ok next =>
    let rest := next.walk buffer
    { rest with cursors := cursor :: rest.cursors }
  | .error verdict => ⟨[cursor], verdict⟩
termination_by buffer.length - cursor.offset
decreasing_by
  have bounds := bounds_of_advance ‹_›
  omega

end Cursor

end AssessmentRequest.Wire
