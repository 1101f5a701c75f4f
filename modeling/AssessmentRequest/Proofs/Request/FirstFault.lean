import AssessmentRequest.Proofs.Position
import AssessmentRequest.Proofs.Record.Document

/-!
# The first fault of a request

Records are looked at in order, and in each record the fields in the order of its line. The fault
of a request with records is at the first field, in this order, that cannot be sent. Faults further
on are not looked for, so a request that is continued keeps the fault that it has.

Main statements: `Record.badField?_eq_some_iff`, `fault?_eq_invalidField_iff`, `fault?_append` and
`validate_reports_firstFault`.
-/

namespace AssessmentRequest

open Position

namespace Record

/-- A record is clean exactly if each of its fields can be sent. -/
theorem clean_iff_sendable {record : Record} :
    record.Clean ↔ ∀ field, Sendable (record.get field) := by
  constructor
  · intro h field
    exact ⟨h.comma field, h.carriageReturn field, h.lineFeed field⟩
  · intro h
    exact ⟨fun field => (h field).comma, fun field => (h field).carriageReturn,
      fun field => (h field).lineFeed⟩

/-- The field reported is the first one, in the order of the line, that cannot be sent. -/
theorem badField?_eq_some_iff {record : Record} {field : Field} :
    record.badField? = some field ↔
      ∃ place, Field.all[place]? = some field ∧ ¬ Sendable (record.get field) ∧
        ∀ earlier ∈ Field.all.take place, Sendable (record.get earlier) := by
  have hbad (other : Field) : (record.get other).toList.any isBreaking = true ↔
      ¬ Sendable (record.get other) := by
    rw [← any_isBreaking_eq_false_iff, Bool.not_eq_false]
  simp only [badField?, find?_eq_some_iff_take, hbad, any_isBreaking_eq_false_iff]

/-- The fault of a record is its first field that cannot be sent, with its text. -/
theorem fault?_eq_invalidField_iff {record : Record} {field : Field} {value : String} :
    record.fault? = some (.invalidField field value) ↔
      record.badField? = some field ∧ value = record.get field := by
  rw [fault?, Option.map_eq_some_iff]
  constructor
  · intro h
    obtain ⟨other, hbad, he⟩ := h
    obtain ⟨rfl, rfl⟩ := RequestError.invalidField.inj he
    exact ⟨hbad, rfl⟩
  · rintro ⟨hbad, rfl⟩
    exact ⟨field, hbad, rfl⟩

end Record

namespace Request

/-- The field at `place`, in the order of a line, of the record at `position` is the first field of
the request that cannot be sent. -/
structure FirstFault (request : Request) (position place : Nat) (record : Record)
    (field : Field) : Prop where
  /-- The record is there. -/
  atPosition : request.records[position]? = some record
  /-- The field is there. -/
  atPlace : Field.all[place]? = some field
  /-- Its text cannot be sent. -/
  unsendable : ¬ Sendable (record.get field)
  /-- All fields of all records before it can. -/
  recordsBefore : ∀ earlier ∈ request.records.take position, ∀ other, Sendable (earlier.get other)
  /-- The fields before it in its record can. -/
  fieldsBefore : ∀ other ∈ Field.all.take place, Sendable (record.get other)

variable {request : Request}

/-- A request is reported as empty exactly if it is. -/
theorem fault?_eq_empty_iff : request.fault? = some .empty ↔ request.records = [] := by
  constructor
  · intro h
    rcases fault?_cases h with ⟨hnil, -⟩ | ⟨record, -, field, he, -⟩
    · exact hnil
    · contradiction
  · intro hnil
    rw [fault?, hnil]
    rfl

/-- The field that is reported of a request is the first one that cannot be sent. -/
theorem fault?_eq_invalidField_iff {field : Field} {value : String} :
    request.fault? = some (.invalidField field value) ↔
      ∃ position place record, request.FirstFault position place record field ∧
        value = record.get field := by
  have hsearch : request.fault? = some (.invalidField field value) ↔
      request.records.findSome? Record.fault? = some (.invalidField field value) := by
    rw [fault?]
    cases request.records with
    | nil => simp
    | cons first others => rw [if_neg (by simp)]
  rw [hsearch, findSome?_eq_some_iff_take]
  simp only [Record.fault?_eq_invalidField_iff, Record.badField?_eq_some_iff,
    Record.fault?_eq_none_iff, Record.clean_iff_sendable]
  constructor
  · rintro ⟨position, record, hrecord, ⟨⟨place, hfield, hbad, hfields⟩, rfl⟩, hrecords⟩
    exact ⟨position, place, record, ⟨hrecord, hfield, hbad, hrecords, hfields⟩, rfl⟩
  · rintro ⟨position, place, record, h, rfl⟩
    exact ⟨position, record, h.atPosition,
      ⟨⟨place, h.atPlace, h.unsendable, h.fieldsBefore⟩, rfl⟩, h.recordsBefore⟩

/-- A request can be sent exactly if it holds a record and no field of any record keeps it from
being sent. -/
theorem fault?_eq_none_iff_sendable :
    request.fault? = none ↔
      request.records ≠ [] ∧
        ∀ record ∈ request.records, ∀ field, Sendable (record.get field) := by
  simp only [fault?_eq_none_iff, Record.clean_iff_sendable]

/-- The fault of records that are continued by others is their own, or else that of the others. -/
theorem fault?_append {kind : Kind} {records others : List Record} (hr : records ≠ [])
    (ho : others ≠ []) :
    fault? ⟨kind, records ++ others⟩ = (fault? ⟨kind, records⟩).or (fault? ⟨kind, others⟩) := by
  have hra : records ++ others ≠ [] := List.append_ne_nil_of_left_ne_nil hr others
  simp only [fault?, List.isEmpty_iff, hr, ho, hra, if_false, List.findSome?_append]

/-- Validation fails with the fault of a request. -/
theorem validate_eq_error_iff {error : RequestError} :
    request.validate = .error error ↔ request.fault? = some error := by
  unfold validate
  split
  · next h => simp only [h, reduceCtorEq]
  · next h => simp only [h, Except.error.injEq, Option.some.injEq]

/-- Validation and encoding report the same fault, the first one. A request without records is
reported as empty; of any other request the first record that cannot be sent is reported, by its
first field that cannot be sent, and if there is none, both succeed. Records that are continued by
others are reported for their own fault, if they have one, and for that of the others otherwise. -/
theorem validate_reports_firstFault :
    (∀ request : Request,
      (∀ error, request.validate = .error error ↔ request.encode = .error error) ∧
      (request.validate = .error .empty ↔ request.records = []) ∧
      (∀ field value, request.validate = .error (.invalidField field value) ↔
        ∃ position place record, request.FirstFault position place record field ∧
          value = record.get field) ∧
      (request.validate = .ok () ↔
        request.records ≠ [] ∧
          ∀ record ∈ request.records, ∀ field, Sendable (record.get field)) ∧
      ((∃ wire, request.encode = .ok wire) ↔ request.validate = .ok ())) ∧
    ∀ kind records others, records ≠ [] → others ≠ [] →
      (∀ error, validate ⟨kind, records⟩ = .error error →
        validate ⟨kind, records ++ others⟩ = .error error) ∧
      (validate ⟨kind, records⟩ = .ok () →
        validate ⟨kind, records ++ others⟩ = validate ⟨kind, others⟩) := by
  refine ⟨fun request => ⟨?_, ?_, ?_, ?_, ?_⟩, fun kind records others hr ho => ⟨?_, ?_⟩⟩
  · intro error
    rw [validate_eq_error_iff, encode_eq_error_iff]
  · rw [validate_eq_error_iff, fault?_eq_empty_iff]
  · intro field value
    rw [validate_eq_error_iff, fault?_eq_invalidField_iff]
  · rw [validate_eq_ok_iff, fault?_eq_none_iff_sendable]
  · simp only [validate_eq_ok_iff, encode_eq_ok_iff, exists_and_left, exists_eq, and_true]
  · intro error he
    rw [validate_eq_error_iff] at he ⊢
    rw [fault?_append hr ho, he, Option.some_or]
  · intro hok
    rw [validate_eq_ok_iff] at hok
    rw [validate, validate, fault?_append hr ho, hok, Option.none_or]

/-- A record that can be sent. -/
def sendableRecord : Record := ⟨"i", "d/i.xml", "d/i.sm", "s", "n"⟩

/-- A record with three fields that cannot be sent. -/
def faultyRecord : Record := ⟨"i", "d\r/i.xml", "d/i.sm", "s,t", "n\n"⟩

/-- Behind a record that can be sent the first of the three fields is reported, and in front of it
just as well. -/
theorem validate_reports_firstFault_threeFaults :
    validate ⟨.graph, [sendableRecord] ++ [faultyRecord]⟩ =
        .error (.invalidField .metadataFile "d\r/i.xml") ∧
      validate ⟨.graph, [faultyRecord] ++ [sendableRecord]⟩ =
        .error (.invalidField .metadataFile "d\r/i.xml") := by
  obtain ⟨hone, hmany⟩ := validate_reports_firstFault
  obtain ⟨-, -, -, hsendable, -⟩ := hone ⟨.graph, [sendableRecord]⟩
  obtain ⟨-, -, hfaulty, -, -⟩ := hone ⟨.graph, [faultyRecord]⟩
  have hfirst : FirstFault ⟨.graph, [faultyRecord]⟩ 0 1 faultyRecord .metadataFile :=
    ⟨rfl, rfl, by decide, fun _ hm => absurd hm List.not_mem_nil, by decide⟩
  have hclean : ∀ field, Sendable (sendableRecord.get field) := by
    rw [Field.forall_iff]
    decide
  have hfault := (hfaulty .metadataFile "d\r/i.xml").mpr ⟨0, 1, faultyRecord, hfirst, rfl⟩
  have hok := hsendable.mpr ⟨by decide, List.forall_mem_singleton.mpr hclean⟩
  constructor
  · rw [(hmany .graph [sendableRecord] [faultyRecord] (by decide) (by decide)).2 hok, hfault]
  · exact (hmany .graph [faultyRecord] [sendableRecord] (by decide) (by decide)).1 _ hfault

end Request

end AssessmentRequest
