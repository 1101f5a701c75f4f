import AssessmentRequest.Record

/-!
# Record lines

A record line is cut at its commas, so a record is read back from its line when no field holds
a comma, and every line that is read is the line of the record read.

Main statements: `ofLine?_eq_some_iff`, `exists_ofLine?_iff`, `not_mem_line_iff`,
`badField?_eq_none_iff` and `ofLine?_inverse_line`.
-/

namespace AssessmentRequest

namespace Field

/-- The list of all fields leaves none out. -/
theorem mem_all (field : Field) : field ∈ all := by
  cases field <;> decide

/-- What holds of every field holds of the five, and of no more. -/
theorem forall_iff {p : Field → Prop} :
    (∀ field, p field) ↔
      p .identifier ∧ p .metadataFile ∧ p .scriptFile ∧ p .suiteId ∧ p .nodeId := by
  constructor
  · intro h
    exact ⟨h _, h _, h _, h _, h _⟩
  · intro h field
    obtain ⟨hi, hm, hs, hu, hn⟩ := h
    cases field <;> assumption

end Field

/-- No piece that a split leaves holds the element at which the list is split. -/
theorem not_mem_of_mem_splitOn {separator : Char} {text piece : List Char}
    (h : piece ∈ text.splitOn separator) : separator ∉ piece := by
  induction text generalizing piece with
  | nil =>
    rw [List.splitOn_nil, List.mem_singleton] at h
    rw [h]
    exact List.not_mem_nil
  | cons char rest ih =>
    rw [List.splitOn_cons_eq_if_modifyHead] at h
    split at h
    · rcases List.mem_cons.mp h with rfl | hr
      · exact List.not_mem_nil
      · exact ih hr
    · next hc =>
      have hne : separator ≠ char := fun he => hc (by rw [he, BEq.rfl])
      cases hs : rest.splitOn separator with
      | nil => exact absurd hs (List.splitOn_ne_nil _ _)
      | cons first others =>
        rw [hs, List.modifyHead_cons] at h
        rw [hs] at ih
        rcases List.mem_cons.mp h with rfl | ho
        · have hf := ih (List.mem_cons_self ..)
          simp only [List.mem_cons, hne, hf, or_self, not_false_eq_true]
        · exact ih (List.mem_cons_of_mem _ ho)

/-- A split leaves one piece more than there are separators. -/
theorem length_splitOn (separator : Char) (text : List Char) :
    (text.splitOn separator).length = text.count separator + 1 := by
  induction text with
  | nil => rfl
  | cons char rest ih =>
    rw [List.splitOn_cons_eq_if_modifyHead, List.count_cons]
    split
    · rw [List.length_cons, ih]
    · rw [List.length_modifyHead, ih, Nat.add_zero]

namespace Record

/-- The character occurs in no field. -/
def Lacks (record : Record) (char : Char) : Prop :=
  ∀ field, char ∉ (record.get field).toList

/-- The characters of a record line: the fields with commas between them. -/
theorem toList_line (record : Record) :
    record.line.toList = [','].intercalate (record.values.map String.toList) := by
  rw [line, String.toList_intercalate]
  rfl

/-- A field list of five parts, as the reader sees it. -/
theorem values_eq (record : Record) :
    record.values = [record.identifier, record.metadataFile, record.scriptFile, record.suiteId,
      record.nodeId] := rfl

/-- Splitting the line of a record without commas gives its fields back. -/
theorem splitOn_line {record : Record} (h : record.Lacks ',') :
    record.line.toList.splitOn ',' = record.values.map String.toList := by
  rw [toList_line]
  apply List.splitOn_intercalate
  · intro piece hp
    simp only [values, List.map_map, List.mem_map] at hp
    obtain ⟨field, -, rfl⟩ := hp
    exact h field
  · simp [values_eq]

/-- A line is read as a record exactly if it is the line of that record and the fields hold
no comma. -/
theorem ofLine?_eq_some_iff {text : String} {record : Record} :
    ofLine? text = some record ↔ text = record.line ∧ record.Lacks ',' := by
  constructor
  · intro h
    unfold ofLine? at h
    split at h
    · next identifier metadataFile scriptFile suiteId nodeId hs =>
      have hpieces := fun piece => @not_mem_of_mem_splitOn ',' text.toList piece
      have hjoin := @List.intercalate_splitOn _ text.toList _ _ ','
      rw [hs] at hpieces hjoin
      cases h
      constructor
      · apply String.toList_inj.mp
        rw [toList_line, values_eq]
        simpa only [List.map_cons, List.map_nil, String.toList_ofList] using hjoin.symm
      · rw [Lacks, Field.forall_iff]
        simp only [get, String.toList_ofList]
        refine ⟨hpieces _ ?_, hpieces _ ?_, hpieces _ ?_, hpieces _ ?_, hpieces _ ?_⟩ <;> simp
    · contradiction
  · intro hline
    obtain ⟨rfl, h⟩ := hline
    simp only [ofLine?, splitOn_line h, values_eq, List.map_cons, List.map_nil,
      String.ofList_toList]

/-- A line is that of a record exactly if it holds four commas. -/
theorem exists_ofLine?_iff {text : String} :
    (∃ record, ofLine? text = some record) ↔ text.toList.count ',' = 4 := by
  have hpieces := length_splitOn ',' text.toList
  unfold ofLine?
  split
  · next hs =>
    rw [hs] at hpieces
    simp only [List.length_cons, List.length_nil] at hpieces
    simp only [Option.some.injEq, exists_eq', true_iff]
    omega
  · next hother =>
    simp only [reduceCtorEq, exists_false, false_iff]
    intro hcount
    rw [hcount] at hpieces
    match hs : text.toList.splitOn ',', hpieces with
    | [identifier, metadataFile, scriptFile, suiteId, nodeId], _ =>
      exact hother identifier metadataFile scriptFile suiteId nodeId hs

/-- A character other than the comma is in a record line only if it is in a field. -/
theorem not_mem_line_iff {record : Record} {char : Char} (h : char ≠ ',') :
    char ∉ record.line.toList ↔ record.Lacks char := by
  rw [toList_line, values_eq, Lacks, Field.forall_iff]
  simp only [List.map_cons, List.map_nil, List.intercalate_cons_cons,
    List.intercalate_singleton, List.mem_append, List.mem_singleton, h, or_false, not_or, get]

/-- No field would end a field or a line early. -/
structure Clean (record : Record) : Prop where
  /-- A comma would end a field. -/
  comma : record.Lacks ','
  /-- A carriage return could be taken for part of a terminator. -/
  carriageReturn : record.Lacks '\r'
  /-- A line feed would end the line. -/
  lineFeed : record.Lacks '\n'

/-- No field is reported exactly if the record is clean. -/
theorem badField?_eq_none_iff {record : Record} : record.badField? = none ↔ record.Clean := by
  simp only [badField?, List.find?_eq_none, List.any_eq_true, isBreaking, Bool.or_eq_true,
    decide_eq_true_eq, not_exists, not_and, not_or, Field.mem_all, forall_const]
  constructor
  · intro h
    constructor
    · exact fun field hm => (h field _ hm).1.1 rfl
    · exact fun field hm => (h field _ hm).1.2 rfl
    · exact fun field hm => (h field _ hm).2 rfl
  · intro hclean field char hm
    obtain ⟨hc, hr, hn⟩ := hclean
    refine ⟨⟨?_, ?_⟩, ?_⟩
    · rintro rfl
      exact hc field hm
    · rintro rfl
      exact hr field hm
    · rintro rfl
      exact hn field hm

/-- The commas of a record line are those of its fields and the four between them. -/
theorem count_comma_line (record : Record) :
    record.line.toList.count ',' = (record.values.flatMap String.toList).count ',' + 4 := by
  rw [toList_line, values_eq]
  simp only [List.map_cons, List.map_nil, List.intercalate_cons_cons, List.intercalate_singleton,
    List.flatMap_cons, List.flatMap_nil, List.append_nil, List.count_append,
    List.count_singleton_self]
  omega

/-- Exactly the fields without commas leave a line with no more than four. -/
theorem count_comma_line_eq_four_iff {record : Record} :
    record.line.toList.count ',' = 4 ↔ record.Lacks ',' := by
  have hcount := record.count_comma_line
  have hfields : (record.values.flatMap String.toList).count ',' = 0 ↔ record.Lacks ',' := by
    simp only [List.count_eq_zero, List.mem_flatMap, not_exists, not_and, values,
      List.forall_mem_map, Field.mem_all, forall_const, Lacks]
  rw [← hfields]
  omega

/-- Record lines and records are inverse to each other. A line is read exactly if it holds four
commas, and what is read has this line and no comma in a field. A record is read back from its line
exactly if no field holds a comma, and otherwise nothing is read from the line. -/
theorem ofLine?_inverse_line :
    (∀ text, (∃ record, ofLine? text = some record) ↔ text.toList.count ',' = 4) ∧
      (∀ text record, ofLine? text = some record → record.line = text ∧ record.Lacks ',') ∧
      ∀ record : Record, (ofLine? record.line = some record ↔ record.Lacks ',') ∧
        (¬ record.Lacks ',' → ofLine? record.line = none) := by
  refine ⟨fun text => exists_ofLine?_iff, fun text record h => ?_, fun record => ⟨?_, fun h => ?_⟩⟩
  · obtain ⟨hline, hlacks⟩ := ofLine?_eq_some_iff.mp h
    exact ⟨hline.symm, hlacks⟩
  · rw [ofLine?_eq_some_iff]
    exact and_iff_right rfl
  · -- a comma in a field is a fifth one of the line
    have hnone : ¬ ∃ read, ofLine? record.line = some read := by
      rwa [exists_ofLine?_iff, count_comma_line_eq_four_iff]
    exact Option.eq_none_iff_forall_ne_some.mpr (not_exists.mp hnone)

/-- Empty fields at both ends are read from a line of commas, and nothing is read from the line of
a record with a comma in its last field. -/
theorem ofLine?_inverse_line_emptyFields :
    ofLine? ",m,\r,," = some ⟨"", "m", "\r", "", ""⟩ ∧
      (⟨"", "m", "\r", "", ""⟩ : Record).line = ",m,\r,," ∧
      ¬ (⟨"i", "", "", "", ","⟩ : Record).Lacks ',' ∧
      ofLine? (⟨"i", "", "", "", ","⟩ : Record).line = none := by
  obtain ⟨-, hline, hrecord⟩ := ofLine?_inverse_line
  have hread : ofLine? ",m,\r,," = some ⟨"", "m", "\r", "", ""⟩ := by decide +kernel
  have hcomma : ¬ (⟨"i", "", "", "", ","⟩ : Record).Lacks ',' := fun h => h .nodeId (by decide)
  exact ⟨hread, (hline _ _ hread).1, hcomma, (hrecord _).2 hcomma⟩

end Record

end AssessmentRequest
