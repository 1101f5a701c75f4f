import Mathlib.Logic.Basic
import Mathlib.Tactic.Tauto
import AssessmentRequest.Proofs.Request.Validity

/-!
# Records of documents

The two paths of a record are made from a directory and an identifier by taking off slashes and
putting underscores in the place of unsafe characters. Neither brings in or takes away a character
that cannot be sent, so the record of a document can be sent exactly if the four texts that it is
made of can, and the fault of one that cannot be sent is found among these texts.

Main statements: `sendable_path_iff`, `Record.fault?_ofDocument` and
`Record.fault?_ofDocument_eq_none_iff`.
-/

namespace AssessmentRequest

/-- The text can be sent as a field: no character of it would end a field or a line early. -/
structure Sendable (text : String) : Prop where
  /-- A comma would end the field. -/
  comma : ',' ∉ text.toList
  /-- A carriage return could be taken for part of a terminator. -/
  carriageReturn : '\r' ∉ text.toList
  /-- A line feed would end the line. -/
  lineFeed : '\n' ∉ text.toList

/-- A text can be sent exactly if it holds no breaking character. -/
theorem sendable_iff {text : String} :
    Sendable text ↔ ∀ char, Record.isBreaking char = true → char ∉ text.toList := by
  constructor
  · intro h char hb
    simp only [Record.isBreaking, Bool.or_eq_true, decide_eq_true_eq] at hb
    rcases hb with (rfl | rfl) | rfl
    · exact h.comma
    · exact h.carriageReturn
    · exact h.lineFeed
  · intro h
    exact ⟨h ',' rfl, h '\r' rfl, h '\n' rfl⟩

/-- No character of a text is reported exactly if the text can be sent. -/
theorem any_isBreaking_eq_false_iff {text : String} :
    text.toList.any Record.isBreaking = false ↔ Sendable text := by
  rw [sendable_iff, List.any_eq_false]
  constructor
  · exact fun h char hb hm => h char hm hb
  · exact fun h char hm hb => h char hb hm

instance (text : String) : Decidable (Sendable text) :=
  decidable_of_iff _ any_isBreaking_eq_false_iff

/-- Only slashes are taken off the end of a path. -/
theorem mem_trimSlashes_iff {path : String} {char : Char} (h : char ≠ '/') :
    char ∈ (trimSlashes path).toList ↔ char ∈ path.toList := by
  have hslash : char ∉ path.toList.reverse.takeWhile (· = '/') := by
    intro hm
    have hall := List.all_eq_true.mp (List.all_takeWhile (p := fun c => decide (c = '/'))) char hm
    exact h (of_decide_eq_true hall)
  have hsplit : char ∈ path.toList.reverse ↔
      char ∈ path.toList.reverse.takeWhile (· = '/') ++ path.toList.reverse.dropWhile (· = '/') := by
    rw [List.takeWhile_append_dropWhile]
  have hreversed : char ∈ path.toList.reverse ↔ char ∈ path.toList := List.mem_reverse
  rw [trimSlashes, String.toList_ofList, List.mem_reverse, ← hreversed, hsplit, List.mem_append]
  simp only [hslash, false_or]

/-- A character that is safe and no underscore is in a file name where it is in the identifier. -/
theorem mem_sanitize_iff {identifier : String} {char : Char} (hs : isUnsafeInFileName char = false)
    (hu : char ≠ '_') : char ∈ (sanitize identifier).toList ↔ char ∈ identifier.toList := by
  rw [sanitize, String.toList_ofList, List.mem_map]
  constructor
  · intro h
    obtain ⟨source, hm, he⟩ := h
    split at he
    · exact absurd he.symm hu
    · rwa [← he]
  · intro hm
    exact ⟨char, hm, by rw [hs]; rfl⟩

/-- A path made of a directory, a slash, the file name of an identifier and an ending can be sent
exactly if the directory and the identifier can. -/
theorem sendable_path_iff {testDir identifier ending : String} (he : Sendable ending) :
    Sendable (trimSlashes testDir ++ "/" ++ sanitize identifier ++ ending) ↔
      Sendable testDir ∧ Sendable identifier := by
  have hpath : ∀ char, Record.isBreaking char = true →
      (char ∉ (trimSlashes testDir ++ "/" ++ sanitize identifier ++ ending).toList ↔
        char ∉ testDir.toList ∧ char ∉ identifier.toList) := by
    intro char hb
    have hend : char ∉ ending.toList := sendable_iff.mp he char hb
    simp only [Record.isBreaking, Bool.or_eq_true, decide_eq_true_eq] at hb
    have hslash : char ≠ '/' := by rcases hb with (rfl | rfl) | rfl <;> decide
    have hsafe : isUnsafeInFileName char = false := by rcases hb with (rfl | rfl) | rfl <;> decide
    have hunder : char ≠ '_' := by rcases hb with (rfl | rfl) | rfl <;> decide
    have hsep : char ∉ "/".toList := by simpa using hslash
    simp only [String.toList_append, List.mem_append, mem_trimSlashes_iff hslash,
      mem_sanitize_iff hsafe hunder, hsep, hend, or_false, not_or]
  rw [sendable_iff, sendable_iff, sendable_iff, forall₂_congr hpath, forall₂_and]

namespace Record

@[simp] theorem ofDocument_identifier (identifier testDir suiteId nodeId : String) :
    (ofDocument identifier testDir suiteId nodeId).identifier = identifier := rfl

@[simp] theorem ofDocument_suiteId (identifier testDir suiteId nodeId : String) :
    (ofDocument identifier testDir suiteId nodeId).suiteId = suiteId := rfl

@[simp] theorem ofDocument_nodeId (identifier testDir suiteId nodeId : String) :
    (ofDocument identifier testDir suiteId nodeId).nodeId = nodeId := rfl

/-- The first field that cannot be sent is the first of the five whose text cannot. -/
theorem badField?_eq (record : Record) :
    record.badField? =
      if ¬ Sendable record.identifier then some .identifier
      else if ¬ Sendable record.metadataFile then some .metadataFile
      else if ¬ Sendable record.scriptFile then some .scriptFile
      else if ¬ Sendable record.suiteId then some .suiteId
      else if ¬ Sendable record.nodeId then some .nodeId
      else none := by
  have hfind : ∀ (p : Field → Bool) (field : Field) (others : List Field),
      (field :: others).find? p = if p field = true then some field else others.find? p := by
    intro p field others
    rw [List.find?_cons]
    cases p field <;> rfl
  simp only [badField?, Field.all, hfind, List.find?_nil, get, ← any_isBreaking_eq_false_iff,
    Bool.not_eq_false]

/-- The fault of the record of a document is found in the identifier, the directory, the suite and
the node, in this order. A fault of the directory shows in the first of the two paths, so the
second one is never reported. -/
theorem fault?_ofDocument (identifier testDir suiteId nodeId : String) :
    (ofDocument identifier testDir suiteId nodeId).fault? =
      if ¬ Sendable identifier then some (.invalidField .identifier identifier)
      else if ¬ Sendable testDir then
        some (.invalidField .metadataFile
          (ofDocument identifier testDir suiteId nodeId).metadataFile)
      else if ¬ Sendable suiteId then some (.invalidField .suiteId suiteId)
      else if ¬ Sendable nodeId then some (.invalidField .nodeId nodeId)
      else none := by
  have hm : Sendable (ofDocument identifier testDir suiteId nodeId).metadataFile ↔
      Sendable testDir ∧ Sendable identifier := sendable_path_iff (by decide)
  have hs : Sendable (ofDocument identifier testDir suiteId nodeId).scriptFile ↔
      Sendable testDir ∧ Sendable identifier := sendable_path_iff (by decide)
  rw [fault?, badField?_eq]
  simp only [hm, hs, ofDocument_identifier, ofDocument_suiteId, ofDocument_nodeId]
  by_cases hi : Sendable identifier
  · by_cases hd : Sendable testDir
    · by_cases hu : Sendable suiteId
      · by_cases hn : Sendable nodeId <;> simp [hi, hd, hu, hn, get]
      · simp [hi, hd, hu, get]
    · simp [hi, hd, get]
  · simp [hi, get]

/-- The record of a document can be sent exactly if the four texts that it is made of can. -/
theorem fault?_ofDocument_eq_none_iff {identifier testDir suiteId nodeId : String} :
    (ofDocument identifier testDir suiteId nodeId).fault? = none ↔
      Sendable identifier ∧ Sendable testDir ∧ Sendable suiteId ∧ Sendable nodeId := by
  rw [fault?_ofDocument]
  simp only [ite_eq_iff, reduceCtorEq]
  tauto

end Record

end AssessmentRequest
