import AssessmentRequest.Wire.Encoding
import AssessmentRequest.Proofs.Record.Line

/-!
# Requests that can be sent

A request has no fault exactly if it holds a record and every record is clean, and these are
the requests that are written, as their lines with line feeds.

Main statements: `fault?_eq_none_iff`, `encode_eq_ok_iff` and `encode_eq_error_iff`.
-/

namespace AssessmentRequest

/-- A record has no fault exactly if it is clean. -/
theorem Record.fault?_eq_none_iff {record : Record} : record.fault? = none ↔ record.Clean := by
  rw [fault?, Option.map_eq_none_iff, badField?_eq_none_iff]

namespace Request

/-- There are a line for each record and three more. -/
theorem length_lines (request : Request) : request.lines.length = request.count + 3 := by
  simp only [lines, count, List.length_append, List.length_cons, List.length_nil, List.length_map]
  omega

/-- A request has no fault exactly if it holds a record and all its records are clean. -/
theorem fault?_eq_none_iff {request : Request} :
    request.fault? = none ↔
      request.records ≠ [] ∧ ∀ record ∈ request.records, record.Clean := by
  unfold fault?
  cases hr : request.records with
  | nil => simp
  | cons first others =>
    rw [if_neg (by simp), List.findSome?_eq_none_iff]
    simp only [Record.fault?_eq_none_iff, ne_eq, reduceCtorEq, not_false_eq_true, true_and]

/-- A fault is that there is no record, or a field of a record with a breaking character. -/
theorem fault?_cases {request : Request} {error : RequestError} (h : request.fault? = some error) :
    request.records = [] ∧ error = .empty ∨
      ∃ record ∈ request.records, ∃ field, error = .invalidField field (record.get field) ∧
        ∃ char ∈ (record.get field).toList, Record.isBreaking char := by
  unfold fault? at h
  split at h
  · next hnil =>
    obtain rfl := Option.some.inj h
    exact .inl ⟨List.isEmpty_iff.mp hnil, rfl⟩
  · obtain ⟨record, hr, hfault⟩ := List.exists_of_findSome?_eq_some h
    obtain ⟨field, hbad, rfl⟩ := Option.map_eq_some_iff.mp hfault
    have hany := List.find?_some hbad
    exact .inr ⟨record, hr, field, rfl, List.any_eq_true.mp hany⟩

/-- Validation succeeds exactly for the requests without a fault. -/
theorem validate_eq_ok_iff {request : Request} :
    request.validate = .ok () ↔ request.fault? = none := by
  unfold validate
  split
  · next h => simp only [h]
  · next h => simp only [h, reduceCtorEq]

/-- Exactly the requests without a fault are written, each as its lines. -/
theorem encode_eq_ok_iff {request : Request} {bytes : Bytes} :
    request.encode = .ok bytes ↔ request.fault? = none ∧ bytes = request.wire := by
  unfold encode
  split
  · next h => simp only [h, Except.ok.injEq, true_and, eq_comm]
  · next h => simp only [h, reduceCtorEq, false_and]

/-- The error of a request that is not written is its fault. -/
theorem encode_eq_error_iff {request : Request} {error : RequestError} :
    request.encode = .error error ↔ request.fault? = some error := by
  unfold encode
  split
  · next h => simp only [h, reduceCtorEq]
  · next h => simp only [h, Except.error.injEq, Option.some.injEq]

end Request

end AssessmentRequest
