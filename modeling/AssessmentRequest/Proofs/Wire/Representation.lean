import AssessmentRequest.Proofs.Wire.RoundTrip

/-!
# What the lines of a request can carry

The lines of any request can be written, also of one that cannot be sent. They are read back as
this request exactly if it is representable: whatever the fields hold, no shift or split of the
lines makes up for a comma, a line feed or a carriage return at the end of a record line.

Main statements: `representable_of_decode_wire` and `decode_wire_eq_complete_iff`.
-/

namespace AssessmentRequest.Wire

/-- The count line of a request that has been read is within the limit. -/
theorem count_le_of_decode {bytes : Bytes} {request : Request} {consumed : Nat}
    (h : decode bytes = .complete request consumed) : request.count ≤ countLimit := by
  obtain ⟨raws, texts, rest, -, -, -, hs, -⟩ := decode_eq_complete_iff.mp h
  cases hs with
  | intro hletters hnumeral hpos hle hlacks => exact hle

/-- Where a request has a spelling, its own lines are one. -/
theorem Spelled.lines {request : Request} {texts : List String} (h : Spelled request texts) :
    Spelled request request.lines := by
  cases h with
  | intro hletters hnumeral hpos hle hlacks =>
    have hown : SameLetters request.kind.tag request.kind.tag :=
      List.forall₂_same.mpr fun _ _ => rfl
    exact .intro hown (Numeral.denotes_repr _) hpos hle hlacks

/-- The record lines stand between the two lines in front and the end line. -/
theorem carries_of_forall₂_lines {request : Request} {kindLine countLine : String}
    (h : List.Forall₂ Carries (request.lines.map Utf8.encode)
      ([kindLine, countLine] ++ request.records.map Record.line ++ [done])) :
    ∀ record ∈ request.records, Carries (Utf8.encode record.line) record.line := by
  obtain ⟨before, raw, hbefore, hcarries, -⟩ := Matching.forall₂_concat h
  rw [Request.lines, List.map_append, List.map_singleton] at hbefore
  obtain ⟨rfl, -⟩ := List.append_inj' hbefore rfl
  rw [List.map_append, List.map_cons, List.map_singleton] at hcarries
  cases hcarries with
  | cons hkind hothers =>
    cases hothers with
    | cons hcount hrecords =>
      have hlines : List.Forall₂ Carries ((request.records.map Record.line).map Utf8.encode)
          (request.records.map Record.line) := hrecords
      rwa [List.map_map, List.forall₂_map_left_iff, List.forall₂_map_right_iff,
        List.forall₂_same] at hlines

/-- A text that is carried by its own bytes does not end with a carriage return. -/
theorem getLast?_ne_return_of_carries {text : String} (h : Carries (Utf8.encode text) text) :
    text.toList.getLast? ≠ some '\r' := by
  rcases h with hlonger | ⟨-, hlast⟩
  · have hlength := congrArg List.length hlonger
    rw [List.length_append, List.length_singleton] at hlength
    omega
  · intro hreturn
    exact hlast ((Utf8.getLast?_encode_eq_iff '\r' (by decide) text).mpr hreturn)

/-- A request whose written form is read as the request is representable. -/
theorem representable_of_decode_wire {request : Request}
    (h : decode request.wire = .complete request request.wire.length) :
    request.Representable := by
  obtain ⟨hne, hlacks⟩ := records_of_decode h
  obtain ⟨raws, texts, rest, hbytes, hl, hc, hs, hsize⟩ := decode_eq_complete_iff.mp h
  have hrest : rest = [] := by
    have hlength := congrArg List.length hbytes
    rw [List.length_append] at hlength
    exact List.eq_nil_of_length_eq_zero (by omega)
  -- no line is cut or joined: the raw lines read are the lines written
  have hraws : raws = request.lines.map Utf8.encode := by
    have hown : ∀ raw ∈ request.lines.map Utf8.encode, lineFeed ∉ raw := by
      intro raw hr
      obtain ⟨line, hline, rfl⟩ := List.mem_map.mp hr
      rw [lineFeed_mem_encode_iff]
      exact (hs.lines.forall_not_mem_iff (by decide)).mpr (fun record hr => (hlacks record hr).2)
        line hline
    have hsplit := split_terminated hown
    rw [← wire_eq_flatMap, hbytes, hrest, List.append_nil, split_terminated hl] at hsplit
    exact congrArg Prod.fst hsplit
  cases hs with
  | intro hletters hnumeral hpos hle hcommas =>
    rw [hraws] at hc
    constructor
    case nonempty => exact hne
    case comma => exact hcommas
    case lineFeed => exact fun record hr => (hlacks record hr).2
    case lastReturn =>
      intro record hr
      rw [ne_eq, ← Record.getLast?_line_eq_return_iff]
      exact getLast?_ne_return_of_carries (carries_of_forall₂_lines hc record hr)

/-- The lines of any request, each with a line feed, are read back as this request exactly if it
holds a record, no field holds a comma or a line feed, and no record line ends with a carriage
return. The bound is that of every list held in memory, whose length fits 64 bits. A field with a
comma or a line feed is never read, from whatever bytes, and what cannot be read back is not
sent. -/
theorem decode_wire_eq_complete_iff (request : Request) :
    (decode request.wire = .complete request request.wire.length ↔
        request.Representable ∧ request.count ≤ countLimit) ∧
      (∀ bytes consumed, decode bytes = .complete request consumed →
        ∀ record ∈ request.records, record.Lacks ',' ∧ record.Lacks '\n') ∧
      (¬ request.Representable → ∃ error, request.validate = .error error) := by
  refine ⟨⟨fun h => ⟨representable_of_decode_wire h, count_le_of_decode h⟩,
    fun h => decode_wire h.1 h.2⟩, fun bytes consumed h => ?_, fun h => ?_⟩
  · exact (records_of_decode h).2
  · cases hv : request.validate with
    | error error => exact ⟨error, rfl⟩
    | ok =>
      have hf := Request.validate_eq_ok_iff.mp hv
      exact absurd (Request.representable_of_fault? hf) h

/-- A request with carriage returns in its record, and one more at the end of it if asked for. -/
def innerReturns (atEnd : Bool) : Request :=
  ⟨.graph, [⟨"\ri", "m\r", "\r", "s", if atEnd then "n\r" else "\rn"⟩]⟩

/-- Carriage returns inside a record line and at the end of its inner fields are read back, though
not sent. One at the end of the line is taken off, and a comma in a field cannot be read. -/
theorem decode_wire_eq_complete_iff_innerReturns :
    decode (innerReturns false).wire = .complete (innerReturns false) 26 ∧
      (∀ record ∈ (innerReturns false).records, record.Lacks ',' ∧ record.Lacks '\n') ∧
      ¬ (innerReturns true).Representable ∧
      decode (innerReturns true).wire ≠ .complete (innerReturns true) 26 ∧
      ∃ error, (innerReturns true).validate = .error error := by
  obtain ⟨-, hlacks, -⟩ := decode_wire_eq_complete_iff (innerReturns false)
  obtain ⟨hreadEnd, -, hreject⟩ := decode_wire_eq_complete_iff (innerReturns true)
  have hd : decode (innerReturns false).wire = .complete (innerReturns false) 26 := by
    decide +kernel
  have hr : ¬ (innerReturns true).Representable := fun h =>
    h.lastReturn _ (List.mem_singleton.mpr rfl) (by decide)
  refine ⟨hd, hlacks _ _ hd, hr, fun h => ?_, hreject hr⟩
  have hlength : (innerReturns true).wire.length = 26 := by decide +kernel
  rw [hlength] at hreadEnd
  exact hr (hreadEnd.mp h).1

end AssessmentRequest.Wire
