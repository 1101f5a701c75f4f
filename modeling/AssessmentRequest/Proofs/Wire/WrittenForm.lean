import AssessmentRequest.Proofs.Request.Validity
import AssessmentRequest.Proofs.Wire.Grammar
import AssessmentRequest.Proofs.Wire.Stability

/-!
# The written form of a request

The lines of a request are read back as this request when no field holds a comma or a line feed
and no record line ends with a carriage return, which would be taken for a part of its
terminator. The requests that can be sent are among these. A part of the written form is never
taken for a request of its own.

Main statements: `decode_wire_append`, `decode_wire` and `decode_of_prefix_wire`.
-/

namespace AssessmentRequest

namespace Record

/-- A record line ends with a carriage return exactly if its last field does. -/
theorem getLast?_line_eq_return_iff (record : Record) :
    record.line.toList.getLast? = some '\r' ↔ record.nodeId.toList.getLast? = some '\r' := by
  rw [toList_line, values_eq]
  simp only [List.map_cons, List.map_nil, List.intercalate_cons_cons, List.intercalate_singleton,
    List.getLast?_append, List.getLast?_singleton]
  cases record.nodeId.toList.getLast? <;> simp

end Record

namespace Request

/-- The lines of the request carry it: they can be cut where they were joined. -/
structure Representable (request : Request) : Prop where
  /-- There is a record. -/
  nonempty : request.records ≠ []
  /-- A comma would end a field. -/
  comma : ∀ record ∈ request.records, record.Lacks ','
  /-- A line feed would end a line. -/
  lineFeed : ∀ record ∈ request.records, record.Lacks '\n'
  /-- A carriage return at the end of a line would be taken off. -/
  lastReturn : ∀ record ∈ request.records, record.nodeId.toList.getLast? ≠ some '\r'

/-- What can be sent can be read back. -/
theorem representable_of_fault? {request : Request} (h : request.fault? = none) :
    request.Representable := by
  obtain ⟨hne, hclean⟩ := fault?_eq_none_iff.mp h
  refine ⟨hne, fun record hr => (hclean record hr).comma,
    fun record hr => (hclean record hr).lineFeed, fun record hr hl => ?_⟩
  exact (hclean record hr).carriageReturn .nodeId (List.mem_of_getLast? hl)

/-- The lines of a request with a record and without commas are a spelling of it. -/
theorem Representable.spelled {request : Request} (h : request.Representable)
    (hle : request.count ≤ Wire.countLimit) : Wire.Spelled request request.lines := by
  have hletters : SameLetters request.kind.tag request.kind.tag :=
    List.forall₂_same.mpr fun _ _ => rfl
  have hpos : 0 < request.count := List.length_pos_of_ne_nil h.nonempty
  exact .intro hletters (Numeral.denotes_repr _) hpos hle h.comma

/-- The lines of a request hold no line feed and end with no carriage return, so each of them is
carried by its own bytes. -/
theorem Representable.forall_lines {request : Request} (h : request.Representable) :
    ∀ line ∈ request.lines, '\n' ∉ line.toList ∧ line.toList.getLast? ≠ some '\r' := by
  have hkind : '\n' ∉ request.kind.tag.toList ∧ request.kind.tag.toList.getLast? ≠ some '\r' := by
    cases request.kind <;> decide
  have hcount : '\n' ∉ request.count.repr.toList ∧
      request.count.repr.toList.getLast? ≠ some '\r' := by
    have hd := Numeral.denotes_repr request.count
    exact ⟨hd.not_mem_control (by decide),
      fun hl => hd.not_mem_control (by decide) (List.mem_of_getLast? hl)⟩
  have hrecords : ∀ record ∈ request.records,
      '\n' ∉ record.line.toList ∧ record.line.toList.getLast? ≠ some '\r' := by
    intro record hr
    constructor
    · exact (Record.not_mem_line_iff (by decide)).mpr (h.lineFeed record hr)
    · rw [ne_eq, Record.getLast?_line_eq_return_iff]
      exact h.lastReturn record hr
  have hdone : '\n' ∉ Wire.done.toList ∧ Wire.done.toList.getLast? ≠ some '\r' := by decide
  simp only [lines, List.forall_mem_append, List.forall_mem_cons, List.forall_mem_map]
  exact ⟨⟨⟨hkind, hcount, by simp⟩, hrecords⟩, hdone, by simp⟩

end Request

namespace Wire

/-- A text that does not end with a carriage return is carried by its own bytes. -/
theorem carries_encode_of_getLast? {text : String} (h : text.toList.getLast? ≠ some '\r') :
    Carries (Utf8.encode text) text := by
  right
  refine ⟨rfl, fun hl => h ?_⟩
  exact (Utf8.getLast?_encode_eq_iff '\r' (by decide) text).mp hl

/-- The bytes of a request are the bytes of its lines with line feeds. -/
theorem wire_eq_flatMap (request : Request) :
    request.wire = (request.lines.map Utf8.encode).flatMap terminate := by
  rw [List.flatMap_map]
  rfl

/-- The written form of a representable request is read as this request, whatever bytes come
after it. -/
theorem decode_wire_append {request : Request} (h : request.Representable)
    (hle : request.count ≤ countLimit) (rest : Bytes) :
    decode (request.wire ++ rest) = .complete request request.wire.length := by
  have hlines := h.forall_lines
  rw [wire_eq_flatMap]
  refine decode_eq_complete_iff.mpr ⟨_, request.lines, rest, rfl, ?_, ?_, h.spelled hle, rfl⟩
  · intro raw hr
    obtain ⟨line, hl, rfl⟩ := List.mem_map.mp hr
    rw [lineFeed_mem_encode_iff]
    exact (hlines line hl).1
  · rw [List.forall₂_map_left_iff, List.forall₂_same]
    exact fun line hl => carries_encode_of_getLast? (hlines line hl).2

/-- The written form of a representable request is read to its end. -/
theorem decode_wire {request : Request} (h : request.Representable)
    (hle : request.count ≤ countLimit) :
    decode request.wire = .complete request request.wire.length := by
  have hd := decode_wire_append h hle []
  rwa [List.append_nil] at hd

/-- As long as a byte of the written form is missing, more bytes are needed. -/
theorem decode_of_prefix_wire {request : Request} (h : request.Representable)
    (hle : request.count ≤ countLimit) {part : Bytes} (hp : part <+: request.wire)
    (hne : part ≠ request.wire) : decode part = .incomplete := by
  obtain ⟨offset, hs, hoffset⟩ :=
    settled_of_decode Verdict.noConfusion (decode_wire h hle)
  obtain rfl : offset = request.wire.length := hoffset request _ rfl
  have hlt : part.length < request.wire.length :=
    Nat.lt_of_le_of_ne hp.length_le fun he => hne (hp.eq_of_length he)
  have hu := hs.undecided part.length hlt
  rwa [← List.prefix_iff_eq_take.mp hp] at hu

end Wire

end AssessmentRequest
