import AssessmentRequest.Proofs.Settings.Section

/-!
# The sections of a settings file

Every reader of a setting takes what fits the shape of the setting and reports anything else, so
each section follows its description. What a setting is after reading means the value that was
read.

Main statements: `server_follows`, `request_follows`, `logging_follows` and `document_reports`.
-/

namespace AssessmentRequest.Settings

open Outcome
open Toml (Value Entries)

/-- The value is the text. -/
def SaysText (text : String) (value : Value) : Prop := value = .string text

/-- The value is the number of the port. -/
def SaysPort (port : UInt16) (value : Value) : Prop := value = .integer port.toNat

/-- The value is a bound, in milliseconds. -/
def SaysTimeout (timeout : Option UInt64) (value : Value) : Prop :=
  ∃ milliseconds, timeout = some milliseconds ∧ value = .integer milliseconds.toNat

/-- The value is the array of the texts. -/
def SaysTexts (texts : List String) (value : Value) : Prop := value = .array (texts.map .string)

section Meanings

variable {value : Value}

/-- A value says one text. -/
theorem SaysText.unique {text text' : String} (h : SaysText text value)
    (h' : SaysText text' value) : text = text' :=
  Value.string.inj (h.symm.trans h')

/-- A value says one port. -/
theorem SaysPort.unique {port port' : UInt16} (h : SaysPort port value)
    (h' : SaysPort port' value) : port = port' :=
  UInt16.toNat_inj.mp (Int.ofNat.inj (Value.integer.inj (h.symm.trans h')))

/-- A value says one bound. -/
theorem SaysTimeout.unique {timeout timeout' : Option UInt64} (h : SaysTimeout timeout value)
    (h' : SaysTimeout timeout' value) : timeout = timeout' := by
  obtain ⟨milliseconds, rfl, hv⟩ := h
  obtain ⟨milliseconds', rfl, hv'⟩ := h'
  have hnat := Int.ofNat.inj (Value.integer.inj (hv.symm.trans hv'))
  rw [UInt64.toNat_inj.mp hnat]

/-- A value says one list of texts. -/
theorem SaysTexts.unique {texts texts' : List String} (h : SaysTexts texts value)
    (h' : SaysTexts texts' value) : texts = texts' := by
  have hmap := Value.array.inj (h.symm.trans h')
  exact List.map_injective_iff.mpr (fun _ _ => Value.string.inj) hmap

end Meanings

section Readers

variable {value : Value} {mismatch : Mismatch}

/-- A text is read from a string. -/
theorem readText_eq_ok_iff {text : String} : readText value = .ok text ↔ SaysText text value := by
  cases value <;> simp [readText, SaysText]

/-- Anything but a string is reported. -/
theorem readText_eq_error_iff :
    readText value = .error mismatch ↔ Shape.text.Rejects value mismatch := by
  constructor
  · intro h
    unfold readText at h
    split at h
    · contradiction
    · next hno =>
      cases h
      exact .notText hno
  · intro h
    cases h with
    | notText hno => rw [readText.eq_2 _ hno]

/-- A number is read from an integer in its range. -/
theorem readNat_eq_ok_iff {greatest number : Nat} {wanted : Wanted} :
    readNat greatest wanted value = .ok number ↔ number ≤ greatest ∧ value = .integer number := by
  cases value with
  | integer whole =>
    simp only [readNat, Value.integer.injEq]
    split
    · next hrange =>
      rw [Except.ok.injEq]
      omega
    · next hrange =>
      constructor
      · intro h
        contradiction
      · omega
  | _ => simp [readNat]

/-- Anything but an integer, and an integer out of range, is reported. -/
theorem readNat_eq_error_iff {greatest : Nat} {wanted : Wanted} :
    readNat greatest wanted value = .error mismatch ↔
      (Shape.number greatest wanted).Rejects value mismatch := by
  constructor
  · intro h
    unfold readNat at h
    split at h
    · split at h
      · contradiction
      · next hrange =>
        cases h
        exact .outOfRange hrange
    · next hno =>
      cases h
      exact .notInteger hno
  · intro h
    cases h with
    | notInteger hno => rw [readNat.eq_2 _ _ _ hno]
    | outOfRange hrange => rw [readNat, if_neg hrange]

/-- A port is read from an integer of 16 bits. -/
theorem readPort_eq_ok_iff {port : UInt16} : readPort value = .ok port ↔ SaysPort port value := by
  rw [readPort, map_eq_ok_iff, SaysPort]
  constructor
  · rintro ⟨number, hread, rfl⟩
    obtain ⟨hle, rfl⟩ := readNat_eq_ok_iff.mp hread
    have hlt : number < UInt16.size := Nat.lt_of_le_sub_one (by decide) hle
    rw [UInt16.toNat_ofNat_of_lt' hlt]
  · rintro rfl
    have hlt := port.toNat_lt_size
    exact ⟨port.toNat, readNat_eq_ok_iff.mpr ⟨by omega, rfl⟩, UInt16.ofNat_toNat⟩

/-- Anything but an integer of 16 bits is reported. -/
theorem readPort_eq_error_iff :
    readPort value = .error mismatch ↔ (Shape.number 65535 .word16).Rejects value mismatch := by
  rw [readPort, map_eq_error_iff]
  exact readNat_eq_error_iff

/-- A number of milliseconds is read from an integer of 64 bits. -/
theorem readMilliseconds_eq_ok_iff {milliseconds : UInt64} :
    readMilliseconds value = .ok milliseconds ↔ value = .integer milliseconds.toNat := by
  rw [readMilliseconds, map_eq_ok_iff]
  constructor
  · rintro ⟨number, hread, rfl⟩
    obtain ⟨hle, rfl⟩ := readNat_eq_ok_iff.mp hread
    have hlt : number < UInt64.size := Nat.lt_of_le_sub_one (by decide) hle
    rw [UInt64.toNat_ofNat_of_lt' hlt]
  · rintro rfl
    have hlt := milliseconds.toNat_lt_size
    exact ⟨milliseconds.toNat, readNat_eq_ok_iff.mpr ⟨by omega, rfl⟩, UInt64.ofNat_toNat⟩

/-- No integer of a document is too great to be a number of milliseconds. -/
theorem rejects_number_iff_of_wellFormed {wanted : Wanted} (hv : value.WellFormed) :
    (Shape.number (UInt64.size - 1 : Nat) wanted).Rejects value mismatch ↔
      (Shape.number 9223372036854775807 wanted).Rejects value mismatch := by
  have hsize : UInt64.size = 18446744073709551616 := rfl
  constructor
  · intro h
    cases h with
    | notInteger hno => exact .notInteger hno
    | outOfRange hrange => exact .outOfRange (by omega)
  · intro h
    cases h with
    | notInteger hno => exact .notInteger hno
    | @outOfRange _ number _ hrange =>
      have hlt : number < 9223372036854775808 := by
        cases hv with
        | integer _ hlt => exact hlt
      exact .outOfRange (by omega)

/-- In a document, anything but an integer that is not negative is reported. -/
theorem readMilliseconds_eq_error_iff (hv : value.WellFormed) :
    readMilliseconds value = .error mismatch ↔
      (Shape.number 9223372036854775807 .word64).Rejects value mismatch := by
  rw [readMilliseconds, map_eq_error_iff, readNat_eq_error_iff]
  exact rejects_number_iff_of_wellFormed hv

/-- Strings are read as texts. -/
theorem mapM_readText_map (contents : List String) :
    (contents.map Value.string).mapM readText = .ok contents := by
  induction contents with
  | nil => rfl
  | cons content rest ih =>
    rw [List.map_cons, List.mapM_cons, ih]
    rfl

/-- The first element that is no string is reported. -/
theorem mapM_readText_append {item : Value} (h : ∀ content, item ≠ .string content)
    (before : List String) (after : List Value) :
    (before.map Value.string ++ item :: after).mapM readText =
      .error (.wrongType (.ofValue item) .text) := by
  rw [List.mapM_append, mapM_readText_map, List.mapM_cons, readText.eq_2 item h]
  rfl

/-- Texts are read from an array of strings. -/
theorem readTexts_eq_ok_iff {texts : List String} :
    readTexts value = .ok texts ↔ SaysTexts texts value := by
  rw [SaysTexts]
  constructor
  · intro h
    unfold readTexts at h
    split at h
    · next items =>
      rcases Shape.strings_or_first items with ⟨contents, rfl⟩ | ⟨before, item, after, rfl, hno⟩
      · rw [mapM_readText_map] at h
        rw [Except.ok.inj h]
      · rw [mapM_readText_append hno] at h
        contradiction
    · contradiction
  · rintro rfl
    exact mapM_readText_map texts

/-- Anything but an array, and the first element that is no string, is reported. -/
theorem readTexts_eq_error_iff :
    readTexts value = .error mismatch ↔ Shape.texts.Rejects value mismatch := by
  constructor
  · intro h
    unfold readTexts at h
    split at h
    · next items =>
      rcases Shape.strings_or_first items with ⟨contents, rfl⟩ | ⟨before, item, after, rfl, hno⟩
      · rw [mapM_readText_map] at h
        contradiction
      · rw [mapM_readText_append hno] at h
        exact Except.error.inj h ▸ .element hno
    · next hno => exact Except.error.inj h ▸ .notArray hno
  · intro h
    cases h with
    | notArray hno => rw [readTexts.eq_2 _ hno]
    | element hno => exact mapM_readText_append hno _ _

end Readers

section Follows

/-- The settings of the server section. -/
theorem server_follows : serverSection.Follows Schema.server := by
  refine ⟨rfl, rfl, ⟨?_, by decide⟩⟩
  refine .cons ?_ (.cons ?_ (.cons ?_ .nil))
  · exact Setting.reports_reading fun _ _ => readText_eq_error_iff
  · exact Setting.reports_reading fun _ _ => readPort_eq_error_iff
  · exact Setting.reports_reading fun hv _ => readMilliseconds_eq_error_iff hv

/-- The settings of the request section. -/
theorem request_follows : requestSection.Follows Schema.request := by
  refine ⟨rfl, rfl, ⟨?_, by decide⟩⟩
  refine .cons ?_ (.cons ?_ (.cons ?_ (.cons ?_ (.cons ?_ .nil))))
  · exact Setting.reports_reading fun _ _ => readText_eq_error_iff
  · exact Setting.reports_reading fun _ _ => readText_eq_error_iff
  · exact Setting.reports_reading fun _ _ => readText_eq_error_iff
  · exact Setting.reports_reading fun _ _ => readText_eq_error_iff
  · exact Setting.reports_reading fun _ _ => readTexts_eq_error_iff

/-- The settings of the logging section. -/
theorem logging_follows : loggingSection.Follows Schema.logging := by
  refine ⟨rfl, rfl, ⟨?_, by decide⟩⟩
  refine .cons ?_ .nil
  exact Setting.reports_reading fun _ _ => readText_eq_error_iff

/-- The sections are the settings of a document. -/
theorem document_reports : documentSection.Reports Schema.name Schema.Rejects Schema.all := by
  refine ⟨?_, by decide⟩
  refine .cons ?_ (.cons ?_ (.cons ?_ .nil))
  · exact Setting.reports_reading fun hv _ => server_follows.ofValue_eq_error_iff hv
  · exact Setting.reports_reading fun hv _ => request_follows.ofValue_eq_error_iff hv
  · exact Setting.reports_reading fun hv _ => logging_follows.ofValue_eq_error_iff hv

end Follows

section Sets

open Setting (affects_reading_self affects_reading_other)

/-- Of the server section the host is set under its key only. -/
theorem server_sets_host :
    serverSection.Sets "host" ServerSettings.host SaysText := by
  refine ⟨by decide, ?_⟩
  simp only [serverSection, List.forall_mem_cons, List.not_mem_nil, false_imp_iff, implies_true,
    and_true]
  refine ⟨affects_reading_self fun _ _ _ => readText_eq_ok_iff.mp, ?_, ?_⟩ <;>
    exact affects_reading_other (by decide) fun _ _ => rfl

/-- The port is set under its key only. -/
theorem server_sets_port :
    serverSection.Sets "port" ServerSettings.port SaysPort := by
  refine ⟨by decide, ?_⟩
  simp only [serverSection, List.forall_mem_cons, List.not_mem_nil, false_imp_iff, implies_true,
    and_true]
  refine ⟨?_, affects_reading_self fun _ _ _ => readPort_eq_ok_iff.mp, ?_⟩ <;>
    exact affects_reading_other (by decide) fun _ _ => rfl

/-- The bound on the time is set under its key only. -/
theorem server_sets_connectTimeout :
    serverSection.Sets "connect_timeout_ms" ServerSettings.connectTimeout SaysTimeout := by
  refine ⟨by decide, ?_⟩
  simp only [serverSection, List.forall_mem_cons, List.not_mem_nil, false_imp_iff, implies_true,
    and_true]
  have hself : ∀ value (current : ServerSettings) content, readMilliseconds value = .ok content →
      SaysTimeout { current with connectTimeout := some content }.connectTimeout value :=
    fun _ _ _ h => ⟨_, rfl, readMilliseconds_eq_ok_iff.mp h⟩
  refine ⟨?_, ?_, affects_reading_self hself⟩ <;>
    exact affects_reading_other (by decide) fun _ _ => rfl

/-- Of the request section the kind is set under its key only. -/
theorem request_sets_kind :
    requestSection.Sets "kind" RequestSettings.kind SaysText := by
  refine ⟨by decide, ?_⟩
  simp only [requestSection, List.forall_mem_cons, List.not_mem_nil, false_imp_iff, implies_true,
    and_true]
  refine ⟨affects_reading_self fun _ _ _ => readText_eq_ok_iff.mp, ?_, ?_, ?_, ?_⟩ <;>
    exact affects_reading_other (by decide) fun _ _ => rfl

/-- The suite is set under its key only. -/
theorem request_sets_suiteId :
    requestSection.Sets "suite_id" RequestSettings.suiteId SaysText := by
  refine ⟨by decide, ?_⟩
  simp only [requestSection, List.forall_mem_cons, List.not_mem_nil, false_imp_iff, implies_true,
    and_true]
  refine ⟨?_, affects_reading_self fun _ _ _ => readText_eq_ok_iff.mp, ?_, ?_, ?_⟩ <;>
    exact affects_reading_other (by decide) fun _ _ => rfl

/-- The node is set under its key only. -/
theorem request_sets_nodeId :
    requestSection.Sets "node_id" RequestSettings.nodeId SaysText := by
  refine ⟨by decide, ?_⟩
  simp only [requestSection, List.forall_mem_cons, List.not_mem_nil, false_imp_iff, implies_true,
    and_true]
  refine ⟨?_, ?_, affects_reading_self fun _ _ _ => readText_eq_ok_iff.mp, ?_, ?_⟩ <;>
    exact affects_reading_other (by decide) fun _ _ => rfl

/-- The directory is set under its key only. -/
theorem request_sets_testDir :
    requestSection.Sets "test_dir" RequestSettings.testDir SaysText := by
  refine ⟨by decide, ?_⟩
  simp only [requestSection, List.forall_mem_cons, List.not_mem_nil, false_imp_iff, implies_true,
    and_true]
  refine ⟨?_, ?_, ?_, affects_reading_self fun _ _ _ => readText_eq_ok_iff.mp, ?_⟩ <;>
    exact affects_reading_other (by decide) fun _ _ => rfl

/-- The identifiers are set under their key only. -/
theorem request_sets_identifiers :
    requestSection.Sets "identifiers" RequestSettings.identifiers SaysTexts := by
  refine ⟨by decide, ?_⟩
  simp only [requestSection, List.forall_mem_cons, List.not_mem_nil, false_imp_iff, implies_true,
    and_true]
  refine ⟨?_, ?_, ?_, ?_, affects_reading_self fun _ _ _ => readTexts_eq_ok_iff.mp⟩ <;>
    exact affects_reading_other (by decide) fun _ _ => rfl

/-- The level is set under its key. -/
theorem logging_sets_level :
    loggingSection.Sets "level" LoggingSettings.level SaysText := by
  refine ⟨by decide, ?_⟩
  simp only [loggingSection, List.forall_mem_cons, List.not_mem_nil, false_imp_iff, implies_true,
    and_true]
  exact affects_reading_self fun _ _ _ => readText_eq_ok_iff.mp

/-- In a document the server section is what is read under its key. -/
theorem document_sets_server :
    documentSection.Sets "server" Settings.server
      fun part value => serverSection.ofValue value = .ok part := by
  refine ⟨by decide, ?_⟩
  simp only [documentSection, List.forall_mem_cons, List.not_mem_nil, false_imp_iff, implies_true,
    and_true]
  refine ⟨affects_reading_self fun _ _ _ h => h, ?_, ?_⟩ <;>
    exact affects_reading_other (by decide) fun _ _ => rfl

/-- The request section is what is read under its key. -/
theorem document_sets_request :
    documentSection.Sets "request" Settings.request
      fun part value => requestSection.ofValue value = .ok part := by
  refine ⟨by decide, ?_⟩
  simp only [documentSection, List.forall_mem_cons, List.not_mem_nil, false_imp_iff, implies_true,
    and_true]
  refine ⟨?_, affects_reading_self fun _ _ _ h => h, ?_⟩ <;>
    exact affects_reading_other (by decide) fun _ _ => rfl

/-- The logging section is what is read under its key. -/
theorem document_sets_logging :
    documentSection.Sets "logging" Settings.logging
      fun part value => loggingSection.ofValue value = .ok part := by
  refine ⟨by decide, ?_⟩
  simp only [documentSection, List.forall_mem_cons, List.not_mem_nil, false_imp_iff, implies_true,
    and_true]
  refine ⟨?_, ?_, affects_reading_self fun _ _ _ h => h⟩ <;>
    exact affects_reading_other (by decide) fun _ _ => rfl

end Sets

end AssessmentRequest.Settings
