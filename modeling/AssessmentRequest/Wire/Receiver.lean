import AssessmentRequest.Wire.Decoding

/-!
# Receiving a stream of requests

A receiver keeps the bytes that have arrived and not been used. After each arrival it takes
complete requests off the front until the rest is incomplete or wrong.
-/

namespace AssessmentRequest.Wire

/-- What a receiver has after taking every complete request off its buffer. -/
structure Drained where
  /-- The requests taken off, each with the number of bytes it was made of. -/
  delivered : List (Request × Nat)
  /-- What the bytes left amount to; never complete. -/
  verdict : Verdict
  /-- The bytes left. -/
  buffered : Bytes
  deriving Repr, DecidableEq

/-- Takes complete requests off the front of the buffer. -/
def drain (buffer : Bytes) : Drained :=
  match _ : decode buffer with
  | .complete request consumed =>
    let rest := drain (buffer.drop consumed)
    { rest with delivered := (request, consumed) :: rest.delivered }
  | verdict => ⟨[], verdict, buffer⟩
termination_by buffer.length
decreasing_by
  have bounds := decode_complete_bounds ‹_›
  rw [List.length_drop]
  omega

/-- Appends an arriving chunk to the bytes left over and takes off what is complete. -/
def receive (buffer chunk : Bytes) : Drained := drain (buffer ++ chunk)

/-- Takes chunks in turn; the deliveries of all of them in order, and the last state. -/
def receiveAll (buffer : Bytes) : List Bytes → Drained
  | [] => drain buffer
  | chunk :: chunks =>
    let first := receive buffer chunk
    let rest := receiveAll first.buffered chunks
    { rest with delivered := first.delivered ++ rest.delivered }

end AssessmentRequest.Wire
