import AssessmentRequest.Configuration
import AssessmentRequest.Proofs.Record.Document
import AssessmentRequest.Proofs.Wire.WrittenForm

/-!
# The request of a configuration

Whether the request of a configuration can be sent, and what is reported if it cannot, is told
from the identifiers and the three settings that all records share. A fault of a shared setting is
in every record, so it shows in the first one, behind a fault of the first identifier only.

Main statements: `request_fault?_eq_none_iff`, `request_fault?_eq_some_iff` and
`encode_request_exact`.
-/

namespace AssessmentRequest.Configuration

/-- The settings that every record takes over can be sent. -/
structure SharedSendable (configuration : Configuration) : Prop where
  /-- The directory is in both paths. -/
  testDir : Sendable configuration.testDir
  /-- The suite is a field. -/
  suiteId : Sendable configuration.suiteId
  /-- The node is a field. -/
  nodeId : Sendable configuration.nodeId

/-- What is reported about the request of a configuration. -/
inductive Faulty (configuration : Configuration) : RequestError → Prop where
  /-- There are no identifiers. -/
  | empty : configuration.identifiers = [] → Faulty configuration .empty
  /-- Where the shared settings can be sent, the first identifier that cannot. -/
  | identifier {before after : List String} {identifier : String} :
    configuration.SharedSendable → configuration.identifiers = before ++ identifier :: after →
      (∀ earlier ∈ before, Sendable earlier) → ¬ Sendable identifier →
      Faulty configuration (.invalidField .identifier identifier)
  /-- Where some shared setting cannot be sent, the first identifier is looked at before them. -/
  | firstIdentifier {first : String} {others : List String} :
    ¬ configuration.SharedSendable → configuration.identifiers = first :: others →
      ¬ Sendable first → Faulty configuration (.invalidField .identifier first)
  /-- The directory is reported by the first path made from it. -/
  | testDir {first : String} {others : List String} :
    configuration.identifiers = first :: others → Sendable first →
      ¬ Sendable configuration.testDir →
      Faulty configuration (.invalidField .metadataFile
        (trimSlashes configuration.testDir ++ "/" ++ sanitize first ++ ".xml"))
  /-- The suite comes after the directory. -/
  | suiteId {first : String} {others : List String} :
    configuration.identifiers = first :: others → Sendable first →
      Sendable configuration.testDir → ¬ Sendable configuration.suiteId →
      Faulty configuration (.invalidField .suiteId configuration.suiteId)
  /-- The node comes last. -/
  | nodeId {first : String} {others : List String} :
    configuration.identifiers = first :: others → Sendable first →
      Sendable configuration.testDir → Sendable configuration.suiteId →
      ¬ Sendable configuration.nodeId →
      Faulty configuration (.invalidField .nodeId configuration.nodeId)

/-- The record of one of the documents of a configuration. -/
def document (configuration : Configuration) (identifier : String) : Record :=
  Record.ofDocument identifier configuration.testDir configuration.suiteId configuration.nodeId

/-- Each identifier gives one record. -/
theorem count_request (configuration : Configuration) :
    configuration.request.count = configuration.identifiers.length := by
  rw [Request.count, request, List.length_map]

/-- The record of a document can be sent exactly if its identifier and the shared settings can. -/
theorem document_fault?_eq_none_iff {configuration : Configuration} {identifier : String} :
    (configuration.document identifier).fault? = none ↔
      Sendable identifier ∧ configuration.SharedSendable := by
  rw [document, Record.fault?_ofDocument_eq_none_iff]
  constructor
  · intro h
    obtain ⟨hi, hd, hu, hn⟩ := h
    exact ⟨hi, hd, hu, hn⟩
  · intro h
    obtain ⟨hi, hd, hu, hn⟩ := h
    exact ⟨hi, hd, hu, hn⟩

/-- The fault of the request is that there are no identifiers, or the first fault of a document. -/
theorem request_fault?_eq (configuration : Configuration) :
    configuration.request.fault? =
      if configuration.identifiers = [] then some .empty
      else configuration.identifiers.findSome? fun identifier =>
        (configuration.document identifier).fault? := by
  rw [Request.fault?, request, List.findSome?_map]
  simp only [List.isEmpty_iff, List.map_eq_nil_iff]
  rfl

/-- The request can be sent exactly if there is an identifier and all the texts can be sent. -/
theorem request_fault?_eq_none_iff {configuration : Configuration} :
    configuration.request.fault? = none ↔
      configuration.identifiers ≠ [] ∧
        (∀ identifier ∈ configuration.identifiers, Sendable identifier) ∧
        Sendable configuration.testDir ∧ Sendable configuration.suiteId ∧
        Sendable configuration.nodeId := by
  rw [request_fault?_eq]
  split
  · next hnil => simp [hnil]
  · next hne =>
    simp only [List.findSome?_eq_none_iff, document_fault?_eq_none_iff]
    obtain ⟨first, hfirst⟩ := List.exists_mem_of_ne_nil _ hne
    constructor
    · intro h
      obtain ⟨hd, hu, hn⟩ := (h first hfirst).2
      exact ⟨hne, fun identifier hm => (h identifier hm).1, hd, hu, hn⟩
    · intro h identifier hm
      obtain ⟨-, hi, hd, hu, hn⟩ := h
      exact ⟨hi identifier hm, hd, hu, hn⟩

/-- A document whose record cannot be sent although the shared settings can has a fault in its
identifier. -/
theorem document_fault?_of_shared {configuration : Configuration} {identifier : String}
    (hs : configuration.SharedSendable) :
    (configuration.document identifier).fault? =
      if ¬ Sendable identifier then some (.invalidField .identifier identifier) else none := by
  rw [document, Record.fault?_ofDocument]
  simp only [hs.testDir, hs.suiteId, hs.nodeId, not_true_eq_false, if_false]

/-- The fault of the first document, if it has one, is that of the request. -/
theorem request_fault?_of_first {configuration : Configuration} {first : String}
    {others : List String} {error : RequestError}
    (hids : configuration.identifiers = first :: others)
    (hf : (configuration.document first).fault? = some error) :
    configuration.request.fault? = some error := by
  rw [request_fault?_eq, hids, if_neg (List.cons_ne_nil _ _), List.findSome?_cons, hf]

/-- Where some shared setting cannot be sent, the fault of the first document is what the texts
say. -/
theorem faulty_of_first {configuration : Configuration} {first : String} {others : List String}
    {error : RequestError} (hs : ¬ configuration.SharedSendable)
    (hids : configuration.identifiers = first :: others)
    (hf : (configuration.document first).fault? = some error) : configuration.Faulty error := by
  rw [document, Record.fault?_ofDocument] at hf
  by_cases hi : Sendable first
  · rw [if_neg (Classical.not_not.mpr hi)] at hf
    by_cases hd : Sendable configuration.testDir
    · rw [if_neg (Classical.not_not.mpr hd)] at hf
      by_cases hu : Sendable configuration.suiteId
      · have hn : ¬ Sendable configuration.nodeId := fun hn => hs ⟨hd, hu, hn⟩
        rw [if_neg (Classical.not_not.mpr hu), if_pos hn] at hf
        obtain rfl := Option.some.inj hf
        exact .nodeId hids hi hd hu hn
      · rw [if_pos hu] at hf
        obtain rfl := Option.some.inj hf
        exact .suiteId hids hi hd hu
    · rw [if_pos hd] at hf
      obtain rfl := Option.some.inj hf
      exact .testDir hids hi hd
  · rw [if_pos hi] at hf
    obtain rfl := Option.some.inj hf
    exact .firstIdentifier hs hids hi

/-- What is reported about the request is what its texts say. -/
theorem faulty_of_request_fault? {configuration : Configuration} {error : RequestError}
    (h : configuration.request.fault? = some error) : configuration.Faulty error := by
  rw [request_fault?_eq] at h
  split at h
  · next hnil =>
    obtain rfl := Option.some.inj h
    exact .empty hnil
  · obtain ⟨before, identifier, after, hids, hfault, hbefore⟩ := List.findSome?_eq_some_iff.mp h
    simp only [document_fault?_eq_none_iff] at hbefore
    by_cases hs : configuration.SharedSendable
    · rw [document_fault?_of_shared hs] at hfault
      split at hfault
      · next hi =>
        obtain rfl := Option.some.inj hfault
        exact .identifier hs hids (fun earlier hm => (hbefore earlier hm).1) hi
      · contradiction
    · -- a shared setting is in the record of every document, so none is passed over
      obtain rfl : before = [] :=
        List.eq_nil_iff_forall_not_mem.mpr fun earlier hm => hs (hbefore earlier hm).2
      exact faulty_of_first hs hids hfault

/-- What the texts say is reported about the request. -/
theorem Faulty.request_fault? {configuration : Configuration} {error : RequestError}
    (h : configuration.Faulty error) : configuration.request.fault? = some error := by
  cases h with
  | empty hnil => rw [request_fault?_eq, if_pos hnil]
  | @identifier before after identifier hs hids hbefore hi =>
    have hne : configuration.identifiers ≠ [] := by simp [hids]
    rw [request_fault?_eq, if_neg hne]
    refine List.findSome?_eq_some_iff.mpr ⟨before, identifier, after, hids, ?_, ?_⟩
    · rw [document_fault?_of_shared hs, if_pos hi]
    · exact fun earlier hm => document_fault?_eq_none_iff.mpr ⟨hbefore earlier hm, hs⟩
  | firstIdentifier _ hids hi =>
    refine request_fault?_of_first hids ?_
    rw [document, Record.fault?_ofDocument, if_pos hi]
  | testDir hids hi hd =>
    refine request_fault?_of_first hids ?_
    rw [document, Record.fault?_ofDocument, if_neg (Classical.not_not.mpr hi), if_pos hd]
    rfl
  | suiteId hids hi hd hu =>
    refine request_fault?_of_first hids ?_
    rw [document, Record.fault?_ofDocument, if_neg (Classical.not_not.mpr hi),
      if_neg (Classical.not_not.mpr hd), if_pos hu]
  | nodeId hids hi hd hu hn =>
    refine request_fault?_of_first hids ?_
    rw [document, Record.fault?_ofDocument, if_neg (Classical.not_not.mpr hi),
      if_neg (Classical.not_not.mpr hd), if_neg (Classical.not_not.mpr hu), if_pos hn]

/-- What is reported about the request is exactly what its texts say. -/
theorem request_fault?_eq_some_iff {configuration : Configuration} {error : RequestError} :
    configuration.request.fault? = some error ↔ configuration.Faulty error :=
  ⟨faulty_of_request_fault?, Faulty.request_fault?⟩

/-- The second path is never reported. -/
theorem not_faulty_scriptFile (configuration : Configuration) (value : String) :
    ¬ configuration.Faulty (.invalidField .scriptFile value) := by
  intro h
  cases h

/-- From the texts of a configuration to bytes and back. The request is written exactly if there
is an identifier and none of the texts holds a comma or a line break. What is written is read as a
request of the kind of the configuration, with the record of each identifier in order. Otherwise
the error is what the texts say, and the second path is never reported. The bound is that of every
list held in memory, whose length fits 64 bits. -/
theorem encode_request_exact (configuration : Configuration) :
    ((∃ wire, configuration.request.encode = .ok wire) ↔
        configuration.identifiers ≠ [] ∧
          (∀ identifier ∈ configuration.identifiers, Sendable identifier) ∧
          Sendable configuration.testDir ∧ Sendable configuration.suiteId ∧
          Sendable configuration.nodeId) ∧
      (∀ wire, configuration.request.encode = .ok wire →
        configuration.identifiers.length ≤ Wire.countLimit →
        Wire.decode wire =
          .complete
            { kind := configuration.kind
              records := configuration.identifiers.map fun identifier =>
                Record.ofDocument identifier configuration.testDir configuration.suiteId
                  configuration.nodeId }
            wire.length) ∧
      (∀ error, configuration.request.encode = .error error ↔ configuration.Faulty error) ∧
      ∀ value, configuration.request.encode ≠ .error (.invalidField .scriptFile value) := by
  have herror : ∀ error, configuration.request.encode = .error error ↔
      configuration.Faulty error := by
    intro error
    rw [Request.encode_eq_error_iff, request_fault?_eq_some_iff]
  refine ⟨?_, fun wire hw hle => ?_, herror, fun value => ?_⟩
  · simp only [Request.encode_eq_ok_iff, exists_and_left, exists_eq, and_true,
      request_fault?_eq_none_iff]
  · obtain ⟨hf, rfl⟩ := Request.encode_eq_ok_iff.mp hw
    have hcount : configuration.request.count ≤ Wire.countLimit := by
      rwa [count_request]
    exact Wire.decode_wire (Request.representable_of_fault? hf) hcount
  · rw [ne_eq, herror]
    exact not_faulty_scriptFile configuration value

/-- A configuration that names one document twice, with slashes at the end of its directory. -/
def repeatedDocument : Configuration where
  host := "localhost"
  port := 33000
  connectTimeout := none
  kind := .graph
  identifiers := ["doi:é/1", "doi:é/1"]
  testDir := "docs//"
  suiteId := "s"
  nodeId := ""
  dryRun := false
  logLevel := "info"

/-- Both records of the document are read back. In a directory with a comma the first path of the
first record is reported, whatever follows. -/
theorem encode_request_exact_repeatedDocument :
    (∃ wire, repeatedDocument.request.encode = .ok wire ∧
        Wire.decode wire =
          .complete
            ⟨.graph, [⟨"doi:é/1", "docs/doi_é_1.xml", "docs/doi_é_1.sm", "s", ""⟩,
              ⟨"doi:é/1", "docs/doi_é_1.xml", "docs/doi_é_1.sm", "s", ""⟩]⟩
            wire.length) ∧
      { repeatedDocument with identifiers := ["1", "2\n"], testDir := "a,b/" }.request.encode =
        .error (.invalidField .metadataFile "a,b/1.xml") := by
  obtain ⟨hok, hread, -, -⟩ := encode_request_exact repeatedDocument
  obtain ⟨-, -, herror, -⟩ := encode_request_exact
    { repeatedDocument with identifiers := ["1", "2\n"], testDir := "a,b/" }
  obtain ⟨wire, hw⟩ := hok.mpr (by decide +kernel)
  have hrecords : (repeatedDocument.identifiers.map fun identifier =>
      Record.ofDocument identifier repeatedDocument.testDir repeatedDocument.suiteId
        repeatedDocument.nodeId) =
      [⟨"doi:é/1", "docs/doi_é_1.xml", "docs/doi_é_1.sm", "s", ""⟩,
        ⟨"doi:é/1", "docs/doi_é_1.xml", "docs/doi_é_1.sm", "s", ""⟩] := by decide +kernel
  have hd := hread wire hw (by decide)
  rw [hrecords] at hd
  refine ⟨⟨wire, hw, hd⟩, (herror _).mpr ?_⟩
  have hpath : trimSlashes "a,b/" ++ "/" ++ sanitize "1" ++ ".xml" = "a,b/1.xml" := by
    decide +kernel
  rw [← hpath]
  exact .testDir rfl (by decide +kernel) (by decide +kernel)

end AssessmentRequest.Configuration
