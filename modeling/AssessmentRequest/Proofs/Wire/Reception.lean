import AssessmentRequest.Wire.Receiver
import AssessmentRequest.Proofs.Wire.WrittenForm

/-!
# Reception in chunks

A receiver takes complete requests off the front of its buffer whenever bytes arrive. What it
takes off, what it keeps and what it waits for depend on the bytes that have arrived only, and
not on the chunks in which they came.

Main statements: `exhausts_drain`, `drain_append`, `receiveAll_eq_drain` and
`receiveAll_eq_receive_flatten`.
-/

namespace AssessmentRequest.Wire

/-- The requests are taken off the front of the buffer one after the other, each with the number
of its bytes, and the rest is left. -/
inductive Delivers : Bytes → List (Request × Nat) → Bytes → Prop where
  /-- Nothing is taken off. -/
  | nil (buffer : Bytes) : Delivers buffer [] buffer
  /-- The buffer begins with a request, and the others are taken off what comes after it. -/
  | cons {buffer rest : Bytes} {request : Request} {consumed : Nat}
    {others : List (Request × Nat)} :
    decode buffer = .complete request consumed → Delivers (buffer.drop consumed) others rest →
      Delivers buffer ((request, consumed) :: others) rest

/-- Each delivery takes a byte at least, so there are no more deliveries than bytes. -/
theorem Delivers.length_add_length_le {buffer rest : Bytes} {delivered : List (Request × Nat)}
    (h : Delivers buffer delivered rest) :
    delivered.length + rest.length ≤ buffer.length := by
  induction h with
  | nil buffer => simp
  | cons hd hrest ih =>
    have hb := decode_complete_bounds hd
    rw [List.length_drop] at ih
    rw [List.length_cons]
    omega

/-- Everything that can be delivered has been delivered. -/
structure Exhausts (buffer : Bytes) (drained : Drained) : Prop where
  /-- The deliveries come off the front of the buffer and leave the bytes kept. -/
  delivers : Delivers buffer drained.delivered drained.buffered
  /-- The verdict is that on the bytes kept. -/
  verdict : decode drained.buffered = drained.verdict
  /-- The bytes kept begin with no request. -/
  notComplete : ∀ request consumed, drained.verdict ≠ .complete request consumed

/-- A complete request is delivered in front of what comes after it. -/
theorem drain_of_complete {buffer : Bytes} {request : Request} {consumed : Nat}
    (h : decode buffer = .complete request consumed) :
    drain buffer =
      { drain (buffer.drop consumed) with
        delivered := (request, consumed) :: (drain (buffer.drop consumed)).delivered } := by
  rw [drain]
  split
  · next found =>
    obtain ⟨rfl, rfl⟩ := Verdict.complete.inj (found.symm.trans h)
    rfl
  · next other =>
    exact absurd h (other request consumed)

/-- Without a complete request the whole buffer is kept. -/
theorem drain_of_not_complete {buffer : Bytes}
    (h : ∀ request consumed, decode buffer ≠ .complete request consumed) :
    drain buffer = ⟨[], decode buffer, buffer⟩ := by
  rw [drain]
  split
  · next request consumed found => exact absurd found (h request consumed)
  · rfl

/-- The buffer begins with a complete request, or it does not. -/
theorem complete_or_not (buffer : Bytes) :
    (∃ request consumed, decode buffer = .complete request consumed) ∨
      ∀ request consumed, decode buffer ≠ .complete request consumed := by
  cases decode buffer with
  | complete request consumed => exact .inl ⟨request, consumed, rfl⟩
  | incomplete => exact .inr fun _ _ => Verdict.noConfusion
  | error error => exact .inr fun _ _ => Verdict.noConfusion

/-- Taking requests off comes to an end, at bytes that begin with no request. -/
theorem exhausts_drain (buffer : Bytes) : Exhausts buffer (drain buffer) := by
  rcases complete_or_not buffer with ⟨request, consumed, h⟩ | h
  · have hb := decode_complete_bounds h
    have ih := exhausts_drain (buffer.drop consumed)
    rw [drain_of_complete h]
    exact ⟨.cons h ih.delivers, ih.verdict, ih.notComplete⟩
  · rw [drain_of_not_complete h]
    exact ⟨.nil buffer, rfl, h⟩
termination_by buffer.length
decreasing_by
  rw [List.length_drop]
  omega

/-- Bytes that arrive later are taken as if they had come right behind the bytes kept: what has
been delivered stays, and no verdict on it is needed again. -/
theorem drain_append (buffer more : Bytes) :
    drain (buffer ++ more) =
      { drain ((drain buffer).buffered ++ more) with
        delivered :=
          (drain buffer).delivered ++ (drain ((drain buffer).buffered ++ more)).delivered } := by
  rcases complete_or_not buffer with ⟨request, consumed, h⟩ | h
  · have hb := decode_complete_bounds h
    obtain ⟨offset, hs, -⟩ := settled_of_decode Verdict.noConfusion h
    have ih := drain_append (buffer.drop consumed) more
    rw [drain_of_complete (hs.lasting more), List.drop_append_of_le_length hb.2, ih,
      drain_of_complete h]
    rfl
  · rw [drain_of_not_complete h, List.nil_append]
termination_by buffer.length
decreasing_by
  rw [List.length_drop]
  omega

/-- Chunks are received as their bytes in one. -/
theorem receiveAll_eq_drain (buffer : Bytes) (chunks : List Bytes) :
    receiveAll buffer chunks = drain (buffer ++ chunks.flatten) := by
  induction chunks generalizing buffer with
  | nil => rw [receiveAll, List.flatten_nil, List.append_nil]
  | cons chunk chunks ih =>
    rw [receiveAll, List.flatten_cons, ← List.append_assoc, drain_append, ← ih]
    rfl

/-- Requests one behind the other are delivered one after the other. -/
theorem drain_flatten_append {requests : List Request} {wires : List Bytes}
    (h : List.Forall₂ (fun request wire => request.encode = .ok wire) requests wires)
    (hle : ∀ request ∈ requests, request.count ≤ countLimit) {part : Bytes}
    (hp : decode part = .incomplete) :
    drain (wires.flatten ++ part) =
      ⟨requests.zip (wires.map List.length), .incomplete, part⟩ := by
  induction h with
  | nil =>
    have hn : ∀ request consumed, decode part ≠ .complete request consumed := by
      rw [hp]
      exact fun _ _ => Verdict.noConfusion
    rw [List.flatten_nil, List.nil_append, drain_of_not_complete hn, hp]
    rfl
  | cons hw hrest ih =>
    obtain ⟨hfirst, hothers⟩ := List.forall_mem_cons.mp hle
    obtain ⟨hf, rfl⟩ := Request.encode_eq_ok_iff.mp hw
    have hd := decode_wire_append (Request.representable_of_fault? hf) hfirst
    rw [List.flatten_cons, List.append_assoc, drain_of_complete (hd _), List.drop_left,
      ih hothers]
    rfl

/-- Reception does not depend on the chunks in which bytes arrive. Taking requests off a buffer
always ends, after as many deliveries as there are bytes at most, with bytes that begin with no
request. For bytes of any kind, in any chunks, the deliveries, the bytes kept and the last verdict
are those of the bytes in one chunk. Of requests that can be sent and a part of one more, exactly
the requests are delivered, and the part is kept until the rest of it arrives. -/
theorem receiveAll_eq_receive_flatten :
    (∀ buffer, Exhausts buffer (drain buffer) ∧
        ∀ delivered rest, Delivers buffer delivered rest → delivered.length ≤ buffer.length) ∧
      (∀ chunks, receiveAll [] chunks = receive [] chunks.flatten) ∧
      ∀ requests wires last wire part chunks,
        List.Forall₂ (fun request wire => Request.encode request = .ok wire) requests wires →
        Request.encode last = .ok wire →
        (∀ request ∈ last :: requests, request.count ≤ countLimit) →
        part <+: wire → part ≠ wire → chunks.flatten = wires.flatten ++ part →
        receiveAll [] chunks = ⟨requests.zip (wires.map List.length), .incomplete, part⟩ := by
  refine ⟨fun buffer => ⟨exhausts_drain buffer, fun delivered rest h => ?_⟩, fun chunks => ?_, ?_⟩
  · exact Nat.le_trans (Nat.le_add_right _ _) h.length_add_length_le
  · rw [receiveAll_eq_drain, receive]
  · intro requests wires last wire part chunks hw hlast hle hp hne hc
    obtain ⟨hlimit, hothers⟩ := List.forall_mem_cons.mp hle
    obtain ⟨hf, rfl⟩ := Request.encode_eq_ok_iff.mp hlast
    have hd := decode_of_prefix_wire (Request.representable_of_fault? hf) hlimit hp hne
    rw [receiveAll_eq_drain, List.nil_append, hc, drain_flatten_append hw hothers hd]

/-- Two requests and the beginning of a third. -/
def pipelined : Bytes :=
  Utf8.encode "graph\n1\ni,m,s,u,n\nDone\nquality\n1\né,m,s,u,n\nDone\ngraph\n2\n"

/-- The bytes of a character may be cut apart, and nothing may arrive in between. -/
theorem receiveAll_eq_receive_flatten_pipelined :
    receiveAll [] [pipelined.take 34, [], pipelined.drop 34] =
      ⟨[(⟨.graph, [⟨"i", "m", "s", "u", "n"⟩]⟩, 23), (⟨.quality, [⟨"é", "m", "s", "u", "n"⟩]⟩, 26)],
        .incomplete, Utf8.encode "graph\n2\n"⟩ := by
  have hfirst : Request.encode ⟨.graph, [⟨"i", "m", "s", "u", "n"⟩]⟩ =
      .ok (Utf8.encode "graph\n1\ni,m,s,u,n\nDone\n") := by decide +kernel
  have hsecond : Request.encode ⟨.quality, [⟨"é", "m", "s", "u", "n"⟩]⟩ =
      .ok (Utf8.encode "quality\n1\né,m,s,u,n\nDone\n") := by decide +kernel
  have hlast : Request.encode ⟨.graph, [⟨"", "", "", "", ""⟩, ⟨"", "", "", "", ""⟩]⟩ =
      .ok (Utf8.encode "graph\n2\n,,,,\n,,,,\nDone\n") := by decide +kernel
  have h := receiveAll_eq_receive_flatten.2.2 _ _ _ _ (Utf8.encode "graph\n2\n")
    [pipelined.take 34, [], pipelined.drop 34] (.cons hfirst (.cons hsecond .nil)) hlast
    (by decide) (by decide +kernel) (by decide +kernel) (by decide +kernel)
  rw [h]
  decide +kernel

end AssessmentRequest.Wire
