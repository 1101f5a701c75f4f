import AssessmentRequest.Proofs.Wire.WrittenForm

/-!
# Writing and reading

A request that can be sent is read back from its bytes, whatever stands behind them. The other
way round, a request that has been read can be sent exactly if every carriage return among its
bytes stands before a line feed: the reader takes one off the end of each line and keeps the
others, in any field, while none may be sent.

Main statements: `decode_encode_append` and `decoded_valid_iff`.
-/

namespace AssessmentRequest.Wire

/-- Only the fields of the records can bring control characters into a spelling. -/
theorem Spelled.forall_not_mem_iff {request : Request} {texts : List String}
    (hs : Spelled request texts) {char : Char} (h : char.toNat < 32) :
    (∀ text ∈ texts, char ∉ text.toList) ↔ ∀ record ∈ request.records, record.Lacks char := by
  have hne : char ≠ ',' := by
    intro he
    rw [he] at h
    contradiction
  cases hs with
  | intro hletters hnumeral hpos hle hlacks =>
    have hend : char ∉ done.toList := by
      intro hm
      have hletter : ∀ letter ∈ done.toList, 32 ≤ letter.toNat := by simp [done]
      have hc := hletter char hm
      omega
    simp only [List.forall_mem_append, List.forall_mem_cons, List.forall_mem_map,
      Record.not_mem_line_iff hne, hletters.not_mem_control h, hnumeral.not_mem_control h, hend]
    simp

/-- The lines of a request that can be sent are a spelling of it. -/
theorem spelled_lines {request : Request} (hv : request.fault? = none)
    (hle : request.count ≤ countLimit) : Spelled request request.lines :=
  (Request.representable_of_fault? hv).spelled hle

/-- A request that can be sent is written as bytes that are read as this request and no more,
whatever bytes come after them. The bound is that of every list held in memory, whose length
fits 64 bits. -/
theorem decode_encode_append {request : Request} (hv : request.validate = .ok ())
    (hle : request.count ≤ countLimit) :
    ∃ wire, request.encode = .ok wire ∧
      ∀ rest, decode (wire ++ rest) = .complete request wire.length := by
  have hf := Request.validate_eq_ok_iff.mp hv
  have hs := spelled_lines hf hle
  obtain ⟨-, hclean⟩ := Request.fault?_eq_none_iff.mp hf
  have hreturn := (hs.forall_not_mem_iff (by decide : '\r'.toNat < 32)).mpr
    fun record hr => (hclean record hr).carriageReturn
  have hfeed := (hs.forall_not_mem_iff (by decide : '\n'.toNat < 32)).mpr
    fun record hr => (hclean record hr).lineFeed
  refine ⟨request.wire, Request.encode_eq_ok_iff.mpr ⟨hf, rfl⟩, fun rest => ?_⟩
  rw [wire_eq_flatMap]
  refine decode_eq_complete_iff.mpr ⟨_, request.lines, rest, rfl, ?_, ?_, hs, rfl⟩
  · intro raw hr
    obtain ⟨text, ht, rfl⟩ := List.mem_map.mp hr
    rw [lineFeed_mem_encode_iff]
    exact hfeed text ht
  · rw [List.forall₂_map_left_iff, List.forall₂_same]
    exact fun text ht => carries_encode (hreturn text ht)

/-- A request for two documents, with characters beyond ASCII, a tab and empty fields. -/
def twoDocuments : Request :=
  ⟨.graph, [⟨"doi:é/1", "", "s", "\t", "節"⟩, ⟨"", "m", "", "", ""⟩]⟩

/-- The request for two documents is read back in front of any bytes. -/
theorem decode_encode_append_twoDocuments :
    twoDocuments.validate = .ok () ∧ twoDocuments.count ≤ countLimit ∧
      ∃ wire, twoDocuments.encode = .ok wire ∧
        ∀ rest, decode (wire ++ rest) = .complete twoDocuments wire.length := by
  have hv : twoDocuments.validate = .ok () := by decide +kernel
  have hle : twoDocuments.count ≤ countLimit := by decide
  exact ⟨hv, hle, decode_encode_append hv hle⟩

/-- In lines without line feeds, the texts carried hold none either. -/
theorem lineFeed_not_mem_of_carries {raws : List Bytes} {texts : List String}
    (hc : List.Forall₂ Carries raws texts) (hl : ∀ raw ∈ raws, lineFeed ∉ raw) :
    ∀ text ∈ texts, '\n' ∉ text.toList := by
  induction hc with
  | nil => simp
  | cons hraw hrest ih =>
    obtain ⟨hfirst, hothers⟩ := List.forall_mem_cons.mp hl
    exact List.forall_mem_cons.mpr ⟨hraw.lineFeed_not_mem hfirst, ih hothers⟩

/-- The carriage returns left in the lines are those of the texts carried. -/
theorem forall_carriageReturn_iff {raws : List Bytes} {texts : List String}
    (hc : List.Forall₂ Carries raws texts) :
    (∀ raw ∈ raws, carriageReturn ∉ dropReturn raw) ↔ ∀ text ∈ texts, '\r' ∉ text.toList := by
  induction hc with
  | nil => simp
  | cons hraw hrest ih =>
    rw [List.forall_mem_cons, List.forall_mem_cons, ih, carries_iff.mp hraw,
      carriageReturn_mem_encode_iff]

/-- A request that has been read holds a record, and no comma or line feed in any field. -/
theorem records_of_decode {bytes : Bytes} {request : Request} {consumed : Nat}
    (h : decode bytes = .complete request consumed) :
    request.records ≠ [] ∧ ∀ record ∈ request.records, record.Lacks ',' ∧ record.Lacks '\n' := by
  obtain ⟨raws, texts, rest, -, hl, hc, hs, -⟩ := decode_eq_complete_iff.mp h
  have hfeed := (hs.forall_not_mem_iff (by decide : '\n'.toNat < 32)).mp
    (lineFeed_not_mem_of_carries hc hl)
  cases hs with
  | intro hletters hnumeral hpos hle hlacks =>
    refine ⟨List.ne_nil_of_length_pos hpos, fun record hr => ?_⟩
    exact ⟨hlacks record hr, hfeed record hr⟩

/-- A request that has been read has no fault exactly if every carriage return among its bytes
stands directly before a line feed. -/
theorem fault?_eq_none_iff_of_decode {bytes : Bytes} {request : Request} {consumed : Nat}
    (h : decode bytes = .complete request consumed) :
    request.fault? = none ↔ ReturnsPaired (bytes.take consumed) := by
  obtain ⟨hne, hlacks⟩ := records_of_decode h
  obtain ⟨raws, texts, rest, rfl, hl, hc, hs, rfl⟩ := decode_eq_complete_iff.mp h
  rw [List.take_left, returnsPaired_flatMap_iff hl, forall_carriageReturn_iff hc,
    hs.forall_not_mem_iff (by decide), Request.fault?_eq_none_iff]
  constructor
  · intro hv record hr
    exact (hv.2 record hr).carriageReturn
  · intro hreturn
    refine ⟨hne, fun record hr => ?_⟩
    exact ⟨(hlacks record hr).1, hreturn record hr, (hlacks record hr).2⟩

/-- A request that has been read can be sent exactly if every carriage return among its bytes
stands directly before a line feed. -/
theorem decoded_valid_iff {bytes : Bytes} {request : Request} {consumed : Nat}
    (h : decode bytes = .complete request consumed) :
    (request.validate = .ok () ↔ ReturnsPaired (bytes.take consumed)) ∧
      ((∃ wire, request.encode = .ok wire) ↔ ReturnsPaired (bytes.take consumed)) := by
  have hf := fault?_eq_none_iff_of_decode h
  constructor
  · rw [Request.validate_eq_ok_iff, hf]
  · simp only [Request.encode_eq_ok_iff, hf, exists_and_left, exists_eq, and_true]

/-- Lines with both terminators, a signed count and a kind in capitals make a request that can
be sent. -/
theorem decoded_valid_mixed_terminators :
    decode (Utf8.encode "GRAPH\r\n+01\ni,m,s,u,n\r\nDone\n") =
        .complete ⟨.graph, [⟨"i", "m", "s", "u", "n"⟩]⟩ 27 ∧
      ReturnsPaired ((Utf8.encode "GRAPH\r\n+01\ni,m,s,u,n\r\nDone\n").take 27) ∧
      ∃ wire, Request.encode ⟨.graph, [⟨"i", "m", "s", "u", "n"⟩]⟩ = .ok wire := by
  have h : decode (Utf8.encode "GRAPH\r\n+01\ni,m,s,u,n\r\nDone\n") =
      .complete ⟨.graph, [⟨"i", "m", "s", "u", "n"⟩]⟩ 27 := by decide +kernel
  obtain ⟨hvalid, hencode⟩ := decoded_valid_iff h
  have hpaired := hvalid.mp (by decide)
  exact ⟨h, hpaired, hencode.mpr hpaired⟩

/-- A carriage return inside a field is read and cannot be sent. -/
theorem decoded_stray_return_not_valid :
    decode (Utf8.encode "quality\n1\ni\rd,m,s,u,n\nDone\n") =
        .complete ⟨.quality, [⟨"i\rd", "m", "s", "u", "n"⟩]⟩ 27 ∧
      Request.validate ⟨.quality, [⟨"i\rd", "m", "s", "u", "n"⟩]⟩ =
        .error (.invalidField .identifier "i\rd") ∧
      Request.encode ⟨.quality, [⟨"i\rd", "m", "s", "u", "n"⟩]⟩ =
        .error (.invalidField .identifier "i\rd") := by
  refine ⟨?_, ?_, ?_⟩ <;> decide +kernel

end AssessmentRequest.Wire
