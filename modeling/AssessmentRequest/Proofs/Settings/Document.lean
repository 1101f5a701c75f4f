import Mathlib.Logic.Relation
import AssessmentRequest.Proofs.Settings.File

/-!
# The settings of a document

Of a document only the known keys of the known sections matter, and their order only where
something is reported. Each setting is what the document states under its key, or its default, and
what is reported is the first known key that may not hold its value.

Main statement: `ofEntries_knownKeys`.
-/

namespace AssessmentRequest.Settings

open Matching Outcome
open Toml (Value Entries)

/-- The settings are what the document says, setting by setting. -/
structure Says (document : Entries) (settings : Settings) : Prop where
  host : Stated (States document .server "host") SaysText "localhost" settings.server.host
  port : Stated (States document .server "port") SaysPort 33000 settings.server.port
  connectTimeout : Stated (States document .server "connect_timeout_ms") SaysTimeout none
    settings.server.connectTimeout
  kind : Stated (States document .request "kind") SaysText "quality" settings.request.kind
  suiteId : Stated (States document .request "suite_id") SaysText "test.suite"
    settings.request.suiteId
  nodeId : Stated (States document .request "node_id") SaysText "urn:node:ARCTIC"
    settings.request.nodeId
  testDir : Stated (States document .request "test_dir") SaysText
    "./src/test/resources/test-docs" settings.request.testDir
  identifiers : Stated (States document .request "identifiers") SaysTexts
    ["doi:10.18739/A2W08WG3R"] settings.request.identifiers
  level : Stated (States document .logging "level") SaysText "info" settings.logging.level

/-- The sections of the document are tables. -/
def Tabular (document : Entries) : Prop :=
  ∀ schema ∈ Schema.all, ∀ part, (schema.name, part) ∈ document → ∃ entries, part = .table entries

/-- Every known key that the document has holds what it may hold. -/
def Typed (document : Entries) : Prop :=
  ∀ schema ∈ Schema.all, ∀ entry ∈ schema.keys, ∀ value,
    States document schema entry.1 value → entry.2.Fits value

/-- The second document has one more key, which is unknown where it stands. -/
inductive Inserted : Entries → Entries → Prop where
  /-- A section that is unknown. -/
  | part {before after : Entries} {name : String} {value : Value} :
    (∀ schema ∈ Schema.all, schema.name ≠ name) →
      Inserted (before ++ after) (before ++ (name, value) :: after)
  /-- A key that is unknown in the table of a section. -/
  | key {before after first last : Entries} {schema : Schema} {key : String} {value : Value} :
    schema ∈ Schema.all → key ∉ schema.names →
      Inserted (before ++ (schema.name, .table (first ++ last)) :: after)
        (before ++ (schema.name, .table (first ++ (key, value) :: last)) :: after)

/-- The entries are the same, but for the order of the keys in a table. -/
inductive SameSection : String × Value → String × Value → Prop where
  | same (entry : String × Value) : SameSection entry entry
  | table {name : String} {entries others : Entries} : entries.Perm others →
    SameSection (name, .table entries) (name, .table others)

/-- The documents are the same, but for the order of the sections and of the keys in them. -/
def Reordered (document other : Entries) : Prop :=
  ∃ between, List.Forall₂ SameSection document between ∧ between.Perm other

/-- The document is the beginning of the other, which goes on behind it, and in the table of the
last section if the beginning ends there. -/
inductive Begins : Entries → Entries → Prop where
  | between (entries after : Entries) : Begins entries (entries ++ after)
  | within (before : Entries) (name : String) (entries others after : Entries) :
    Begins (before ++ [(name, .table entries)])
      (before ++ (name, .table (entries ++ others)) :: after)

/-- The document ends with a known key that may not hold its value, and nothing in front of that key
is to be rejected. -/
inductive EndsRejected : Entries → Mismatch → Prop where
  | key {before first : Entries} {schema : Schema} {key : String} {value : Value}
    {mismatch : Mismatch} :
    schema ∈ Schema.all →
      (∀ entry ∈ before, ∀ other, ¬ RejectsSection entry.1 entry.2 other) →
      (∀ entry ∈ first, ∀ other, ¬ schema.RejectsKey entry.1 entry.2 other) →
      schema.RejectsKey key value mismatch →
      EndsRejected (before ++ [(schema.name, .table (first ++ [(key, value)]))]) mismatch

section Stated

variable {document : Entries} {settings : Settings}

/-- A document states one value for a key. -/
theorem States.unique {schema : Schema} (hs : schema ∈ Schema.all)
    (hv : (Value.table document).WellFormed) (key : String) (value value' : Value)
    (h : States document schema key value) (h' : States document schema key value') :
    value = value' := by
  obtain ⟨part, hpart, hvalue⟩ := h
  obtain ⟨part', hpart', hvalue'⟩ := h'
  cases hv with
  | table hkeys hentries =>
    obtain ⟨-, rfl⟩ := Prod.mk.inj (List.inj_on_of_nodup_map hkeys hpart hpart' rfl)
    have hinner := schema.nodup_entries (Schema.nodup_names schema hs) (hentries _ hpart)
    exact (Prod.mk.inj (List.inj_on_of_nodup_map hinner hvalue hvalue' rfl)).2

/-- After a document has been read, a setting is what is stated under its key in its section. -/
theorem stated_of_ofEntries {σ α : Type} {sec : Section σ} {schema : Schema}
    {part : Settings → σ} {key : String} {get : σ → α} {means : α → Value → Prop}
    (hfollows : sec.Follows schema)
    (hpart : documentSection.Sets schema.name part fun taken value =>
      sec.ofValue value = .ok taken)
    (hdefaults : part {} = sec.defaults) (hset : sec.Sets key get means)
    (hv : (Value.table document).WellFormed) (h : ofEntries document = .ok settings) :
    Stated (States document schema key) means (get sec.defaults) (get (part settings)) := by
  cases hv with
  | table hkeys hentries =>
    have hsection : Stated _ _ (part {}) (part settings) :=
      hpart.stated document_reports.distinct_names hkeys h
    generalize part settings = taken at hsection ⊢
    cases hsection with
    | @given _ value hm hread =>
      have hdistinct := schema.nodup_entries hfollows.reports.distinct (hentries _ hm)
      have hinner := hset.stated hfollows.reports.distinct_names hdistinct
        (hfollows.ofEntries_of_ofValue hread)
      -- the section is there once, so what it states is all that the document states for it
      refine hinner.congr fun stated => ⟨fun hs => ⟨value, hm, hs⟩, ?_⟩
      rintro ⟨other, ho, hs⟩
      obtain ⟨-, rfl⟩ := Prod.mk.inj (List.inj_on_of_nodup_map hkeys ho hm rfl)
      exact hs
    | absent hno =>
      rw [hdefaults]
      refine .absent fun value hs => ?_
      obtain ⟨other, ho, -⟩ := hs
      exact hno other ho

/-- What is read of a document is what it says. -/
theorem says_of_ofEntries (hv : (Value.table document).WellFormed)
    (h : ofEntries document = .ok settings) : Says document settings where
  host := stated_of_ofEntries server_follows document_sets_server rfl server_sets_host hv h
  port := stated_of_ofEntries server_follows document_sets_server rfl server_sets_port hv h
  connectTimeout :=
    stated_of_ofEntries server_follows document_sets_server rfl server_sets_connectTimeout hv h
  kind := stated_of_ofEntries request_follows document_sets_request rfl request_sets_kind hv h
  suiteId :=
    stated_of_ofEntries request_follows document_sets_request rfl request_sets_suiteId hv h
  nodeId := stated_of_ofEntries request_follows document_sets_request rfl request_sets_nodeId hv h
  testDir :=
    stated_of_ofEntries request_follows document_sets_request rfl request_sets_testDir hv h
  identifiers :=
    stated_of_ofEntries request_follows document_sets_request rfl request_sets_identifiers hv h
  level := stated_of_ofEntries logging_follows document_sets_logging rfl logging_sets_level hv h

/-- A document says one thing for each setting. -/
theorem Says.unique {settings' : Settings} (hv : (Value.table document).WellFormed)
    (h : Says document settings) (h' : Says document settings') : settings = settings' := by
  have hserver := States.unique Schema.server_mem hv
  have hrequest := States.unique Schema.request_mem hv
  have hlogging := States.unique Schema.logging_mem hv
  obtain ⟨⟨_, _, _⟩, ⟨_, _, _, _, _⟩, ⟨_⟩⟩ := settings
  obtain ⟨⟨_, _, _⟩, ⟨_, _, _, _, _⟩, ⟨_⟩⟩ := settings'
  rw [mk.injEq, ServerSettings.mk.injEq, RequestSettings.mk.injEq, LoggingSettings.mk.injEq]
  refine ⟨⟨?_, ?_, ?_⟩, ⟨?_, ?_, ?_, ?_, ?_⟩, ?_⟩
  · exact h.host.unique h'.host (hserver _) fun _ => SaysText.unique
  · exact h.port.unique h'.port (hserver _) fun _ => SaysPort.unique
  · exact h.connectTimeout.unique h'.connectTimeout (hserver _) fun _ => SaysTimeout.unique
  · exact h.kind.unique h'.kind (hrequest _) fun _ => SaysText.unique
  · exact h.suiteId.unique h'.suiteId (hrequest _) fun _ => SaysText.unique
  · exact h.nodeId.unique h'.nodeId (hrequest _) fun _ => SaysText.unique
  · exact h.testDir.unique h'.testDir (hrequest _) fun _ => SaysText.unique
  · exact h.identifiers.unique h'.identifiers (hrequest _) fun _ => SaysTexts.unique
  · exact h.level.unique h'.level (hlogging _) fun _ => SaysText.unique

/-- Only what a document states matters for what it says. -/
theorem Says.congr {other : Entries} (h : Says document settings)
    (hiff : ∀ schema key value, States document schema key value ↔ States other schema key value) :
    Says other settings where
  host := h.host.congr (hiff _ _)
  port := h.port.congr (hiff _ _)
  connectTimeout := h.connectTimeout.congr (hiff _ _)
  kind := h.kind.congr (hiff _ _)
  suiteId := h.suiteId.congr (hiff _ _)
  nodeId := h.nodeId.congr (hiff _ _)
  testDir := h.testDir.congr (hiff _ _)
  identifiers := h.identifiers.congr (hiff _ _)
  level := h.level.congr (hiff _ _)

end Stated

section Typed

variable {document : Entries}

/-- Known keys hold what they may hold exactly if no entry of the document is rejected. -/
theorem typed_iff (ht : Tabular document) :
    Typed document ↔ ∀ entry ∈ document, ∀ mismatch, ¬ RejectsSection entry.1 entry.2 mismatch := by
  constructor
  · rintro htyped ⟨name, part⟩ hm mismatch ⟨schema, hs, rfl, hr⟩
    obtain ⟨entries, rfl⟩ := ht schema hs part hm
    obtain ⟨entry, hentry, other, shape, hshape, hkey, hreject⟩ :=
      exists_firstRejected_iff.mp ⟨mismatch, Schema.rejects_table_iff.mp hr⟩
    have hstates : States document schema shape.1 entry.2 := ⟨_, hm, hkey ▸ hentry⟩
    exact (htyped schema hs shape hshape entry.2 hstates).not_rejects other hreject
  · rintro hno schema hs shape hshape value ⟨part, hm, hvalue⟩
    rw [Shape.fits_iff]
    intro mismatch hreject
    obtain ⟨entries, rfl⟩ := ht schema hs part hm
    -- a value that does not fit need not be the first of its table, but then there is another
    have hkey : schema.RejectsKey shape.1 value mismatch := ⟨shape, hshape, rfl, hreject⟩
    obtain ⟨other, hfirst⟩ := exists_firstRejected_iff.mpr ⟨_, hvalue, mismatch, hkey⟩
    exact hno _ hm other ⟨schema, hs, rfl, Schema.rejects_table_iff.mpr hfirst⟩

/-- What is reported about a document is its first section that is to be rejected. -/
theorem ofEntries_eq_error_iff (hv : (Value.table document).WellFormed) {mismatch : Mismatch} :
    ofEntries document = .error mismatch ↔ FirstRejected RejectsSection document mismatch := by
  cases hv with
  | table _ hentries => exact document_reports.ofEntries_eq_error_iff hentries

/-- A document whose sections are tables is read exactly if its known keys hold what they may
hold. -/
theorem exists_ofEntries_eq_ok_iff (hv : (Value.table document).WellFormed)
    (ht : Tabular document) :
    (∃ settings, ofEntries document = .ok settings) ↔ Typed document := by
  have hrejected : (∃ mismatch, FirstRejected RejectsSection document mismatch) ↔
      ∃ entry ∈ document, ∃ mismatch, RejectsSection entry.1 entry.2 mismatch :=
    exists_firstRejected_iff
  rw [typed_iff ht]
  cases hread : ofEntries document with
  | error mismatch =>
    have hfirst := (ofEntries_eq_error_iff hv).mp hread
    obtain ⟨entry, hm, other, hr⟩ := hrejected.mp ⟨mismatch, hfirst⟩
    constructor
    · rintro ⟨settings, he⟩
      contradiction
    · exact fun hno => absurd hr (hno entry hm other)
  | ok settings =>
    refine iff_of_true ⟨settings, rfl⟩ fun entry hm mismatch hr => ?_
    obtain ⟨other, hfirst⟩ := hrejected.mpr ⟨entry, hm, mismatch, hr⟩
    rw [← ofEntries_eq_error_iff hv, hread] at hfirst
    contradiction

/-- The settings read are what the document says, if its known keys hold what they may hold. -/
theorem ofEntries_eq_ok_iff (hv : (Value.table document).WellFormed) (ht : Tabular document)
    {settings : Settings} :
    ofEntries document = .ok settings ↔ Typed document ∧ Says document settings := by
  constructor
  · intro h
    exact ⟨(exists_ofEntries_eq_ok_iff hv ht).mp ⟨settings, h⟩, says_of_ofEntries hv h⟩
  · rintro ⟨htyped, hsays⟩
    obtain ⟨read, h⟩ := (exists_ofEntries_eq_ok_iff hv ht).mpr htyped
    rw [h, (says_of_ofEntries hv h).unique hv hsays]

end Typed

section Unknown

/-- A section of a document is read on its own, and put in its place. -/
theorem exists_section {schema : Schema} (hs : schema ∈ Schema.all) :
    ∃ (σ : Type) (sec : Section σ) (put : Settings → σ → Settings), sec.Follows schema ∧
      ∀ current value, documentSection.assign current (schema.name, value) =
        (sec.ofValue value).map (put current) := by
  simp only [Schema.all, List.mem_cons, List.not_mem_nil, or_false] at hs
  rcases hs with rfl | rfl | rfl
  · exact ⟨_, serverSection, _, server_follows, fun _ _ => rfl⟩
  · exact ⟨_, requestSection, _, request_follows, fun _ _ => rfl⟩
  · exact ⟨_, loggingSection, _, logging_follows, fun _ _ => rfl⟩

/-- An unknown key changes nothing. -/
theorem ofEntries_eq_of_inserted {less more : Entries} (h : Inserted less more) :
    ofEntries less = ofEntries more := by
  cases h with
  | @part before after name value hno =>
    refine (documentSection.ofEntries_insert ?_ before after value).symm
    rw [document_reports.map_name, List.mem_map]
    exact fun ⟨schema, hs, hname⟩ => hno schema hs hname
  | @key before after first last schema key value hs hk =>
    obtain ⟨σ, sec, put, hfollows, hassign⟩ := exists_section hs
    have hknown : key ∉ sec.settings.map Setting.name := by
      rwa [hfollows.reports.map_name]
    have hread : sec.ofValue (.table (first ++ (key, value) :: last)) =
        sec.ofValue (.table (first ++ last)) :=
      sec.ofEntries_insert hknown first last value
    rw [ofEntries, ofEntries, Section.ofEntries_append, Section.ofEntries_append]
    refine congrArg _ (funext fun current => ?_)
    rw [List.foldlM_cons, List.foldlM_cons, hassign, hassign, hread]

end Unknown

section Begins

variable {beginning document : Entries} {mismatch : Mismatch}

/-- The beginning of a document is a document. -/
theorem Begins.wellFormed (h : Begins beginning document)
    (hv : (Value.table document).WellFormed) : (Value.table beginning).WellFormed := by
  cases hv with
  | table hkeys hentries =>
    cases h with
    | between _ after =>
      rw [List.map_append] at hkeys
      exact .table hkeys.of_append_left fun entry hm => hentries entry (List.mem_append_left _ hm)
    | within before name entries others after =>
      have hlast := hentries (name, .table (entries ++ others)) (by simp)
      have hsublist : ((before ++ [(name, Value.table entries)]).map Prod.fst).Sublist
          ((before ++ (name, Value.table (entries ++ others)) :: after).map Prod.fst) := by
        simp only [List.map_append, List.map_cons, List.map_nil]
        exact List.Sublist.append_left (by simp) _
      refine .table (hkeys.sublist hsublist) fun entry hm => ?_
      rcases List.mem_append.mp hm with hm | hm
      · exact hentries entry (List.mem_append_left _ hm)
      · obtain rfl := List.mem_singleton.mp hm
        cases hlast with
        | table hinner hvalues =>
          rw [List.map_append] at hinner
          exact .table hinner.of_append_left
            fun entry hm => hvalues entry (List.mem_append_left _ hm)

/-- What is reported about the beginning of a document is reported about all of it. -/
theorem error_of_begins (h : Begins beginning document)
    (he : ofEntries beginning = .error mismatch) : ofEntries document = .error mismatch := by
  cases h with
  | between _ after => exact documentSection.ofEntries_append_of_error he after
  | within before name entries others after =>
    rw [ofEntries, Section.ofEntries_append, bind_eq_error_iff] at he ⊢
    rcases he with hbefore | ⟨current, hbefore, hlast⟩
    · exact .inl hbefore
    · have hlast : documentSection.assign current (name, .table entries) = .error mismatch := by
        simpa using hlast
      refine .inr ⟨current, hbefore, ?_⟩
      rw [List.foldlM_cons, bind_eq_error_iff]
      by_cases hname : name ∈ Schema.all.map Schema.name
      · obtain ⟨schema, hs, rfl⟩ := List.mem_map.mp hname
        obtain ⟨σ, sec, put, -, hassign⟩ := exists_section hs
        rw [hassign, map_eq_error_iff] at hlast ⊢
        exact .inl (sec.ofEntries_append_of_error hlast others)
      · rw [Section.assign_of_unknown (by rwa [document_reports.map_name])] at hlast
        contradiction

/-- A document whose sections are tables is reported exactly as it is up to its first known key
that may not hold its value. -/
theorem ofEntries_eq_error_iff_endsRejected (hv : (Value.table document).WellFormed)
    (ht : Tabular document) :
    ofEntries document = .error mismatch ↔
      ∃ beginning, Begins beginning document ∧ EndsRejected beginning mismatch := by
  constructor
  · intro he
    obtain ⟨before, name, part, after, rfl, hbefore, schema, hs, rfl, hr⟩ :=
      (ofEntries_eq_error_iff hv).mp he
    obtain ⟨entries, rfl⟩ := ht schema hs part (by simp)
    obtain ⟨first, key, value, last, rfl, hfirst, hkey⟩ := Schema.rejects_table_iff.mp hr
    have hbegins := Begins.within before schema.name (first ++ [(key, value)]) last after
    rw [List.append_assoc, List.singleton_append] at hbegins
    exact ⟨_, hbegins, .key hs hbefore hfirst hkey⟩
  · rintro ⟨beginning, hbegins, hends⟩
    refine error_of_begins hbegins ((ofEntries_eq_error_iff (hbegins.wellFormed hv)).mpr ?_)
    cases hends with
    | @key before first schema key value _ hs hbefore hfirst hkey =>
      refine ⟨before, schema.name, _, [], rfl, hbefore, schema, hs, rfl, ?_⟩
      exact Schema.rejects_table_iff.mpr ⟨first, key, value, [], rfl, hfirst, hkey⟩

end Begins

section Reordered

variable {document other : Entries} {entry entry' : String × Value}

/-- The entries have one name. -/
theorem SameSection.name_eq (h : SameSection entry entry') : entry.1 = entry'.1 := by
  cases h <;> rfl

/-- Entries are the same in both directions. -/
theorem SameSection.symm (h : SameSection entry entry') : SameSection entry' entry := by
  cases h with
  | same => exact .same entry
  | table hperm => exact .table hperm.symm

/-- In any order the keys of an entry hold the same. -/
theorem SameSection.mem_entries (h : SameSection entry entry') {schema : Schema}
    {stated : String × Value} (hm : stated ∈ schema.entries entry.2) :
    stated ∈ schema.entries entry'.2 := by
  cases h with
  | same => exact hm
  | table hperm => exact hperm.mem_iff.mp hm

/-- In any order the keys of an entry can stand in a document. -/
theorem SameSection.wellFormed (h : SameSection entry entry') (hv : entry.2.WellFormed) :
    entry'.2.WellFormed := by
  cases h with
  | same => exact hv
  | table hperm =>
    cases hv with
    | table hkeys hentries =>
      refine .table ((hperm.map Prod.fst).nodup_iff.mp hkeys) fun inner hm => ?_
      exact hentries inner (hperm.mem_iff.mpr hm)

/-- Each entry has its place in the other order. -/
theorem Reordered.exists_right (h : Reordered document other) (hm : entry ∈ document) :
    ∃ entry' ∈ other, SameSection entry entry' := by
  obtain ⟨between, hsame, hperm⟩ := h
  obtain ⟨entry', hm', hsection⟩ := exists_of_mem_right hsame.flip hm
  exact ⟨entry', hperm.mem_iff.mp hm', hsection⟩

/-- Each entry of the other order had its place. -/
theorem Reordered.exists_left (h : Reordered document other) (hm : entry' ∈ other) :
    ∃ entry ∈ document, SameSection entry entry' := by
  obtain ⟨between, hsame, hperm⟩ := h
  exact exists_of_mem_right hsame (hperm.mem_iff.mpr hm)

/-- The order does not matter for what a document states. -/
theorem Reordered.states_iff (h : Reordered document other) (schema : Schema) (key : String)
    (value : Value) :
    States document schema key value ↔ States other schema key value := by
  constructor
  · rintro ⟨part, hm, hvalue⟩
    obtain ⟨⟨name, part'⟩, hm', hsame⟩ := h.exists_right hm
    obtain rfl : schema.name = name := hsame.name_eq
    exact ⟨part', hm', hsame.mem_entries hvalue⟩
  · rintro ⟨part, hm, hvalue⟩
    obtain ⟨⟨name, part'⟩, hm', hsame⟩ := h.exists_left hm
    obtain rfl : name = schema.name := hsame.name_eq
    exact ⟨part', hm', hsame.symm.mem_entries hvalue⟩

/-- The order does not matter for whether a tree is that of a document. -/
theorem Reordered.wellFormed (h : Reordered document other)
    (hv : (Value.table document).WellFormed) : (Value.table other).WellFormed := by
  cases hv with
  | table hkeys hentries =>
    refine .table ?_ fun entry hm => ?_
    · obtain ⟨between, hsame, hperm⟩ := h
      have hnames : document.map Prod.fst = between.map Prod.fst :=
        map_eq_map_of_forall₂ (hsame.imp fun _ _ => SameSection.name_eq)
      exact (hperm.map Prod.fst).nodup_iff.mp (hnames ▸ hkeys)
    · obtain ⟨entry', hm', hsame⟩ := h.exists_left hm
      exact hsame.wellFormed (hentries entry' hm')

/-- The order does not matter for whether sections are tables. -/
theorem Reordered.tabular (h : Reordered document other) (ht : Tabular document) :
    Tabular other := by
  intro schema hs part hm
  obtain ⟨entry, hm', hsame⟩ := h.exists_left hm
  cases hsame with
  | same => exact ht schema hs part hm'
  | table => exact ⟨_, rfl⟩

/-- The order does not matter for the settings of a document whose sections are tables. -/
theorem Reordered.ofEntries_eq_ok_iff (h : Reordered document other)
    (hv : (Value.table document).WellFormed) (ht : Tabular document) {settings : Settings} :
    ofEntries document = .ok settings ↔ ofEntries other = .ok settings := by
  rw [Settings.ofEntries_eq_ok_iff hv ht,
    Settings.ofEntries_eq_ok_iff (h.wellFormed hv) (h.tabular ht)]
  have htyped : Typed document ↔ Typed other := by
    simp only [Typed, h.states_iff]
  refine and_congr htyped ⟨fun hs => hs.congr h.states_iff, fun hs => hs.congr ?_⟩
  exact fun schema key value => (h.states_iff schema key value).symm

end Reordered

/-- Of a document only its known keys matter. A document with more or fewer unknown keys gives the
same settings, or is reported in the same way. If the sections are tables, the document is read
exactly if the known keys that it has hold what they may hold; each setting then is what is stated
under its key, or its default, in whatever order sections and keys stand. A document that is not
read is reported by the first known key that may not hold its value, and nothing behind that key
matters. -/
theorem ofEntries_knownKeys :
    (∀ document other, Relation.EqvGen Inserted document other →
      ofEntries document = ofEntries other) ∧
    (∀ document, (Value.table document).WellFormed → Tabular document →
      ((∃ settings, ofEntries document = .ok settings) ↔ Typed document) ∧
      (∀ settings, ofEntries document = .ok settings ↔ Typed document ∧ Says document settings) ∧
      (∀ other, Reordered document other →
        ∀ settings, ofEntries document = .ok settings ↔ ofEntries other = .ok settings) ∧
      ∀ mismatch, ofEntries document = .error mismatch ↔
        ∃ beginning, Begins beginning document ∧ EndsRejected beginning mismatch) ∧
    (∀ document, (Value.table document).WellFormed → ∀ mismatch,
      ofEntries document = .error mismatch ↔ FirstRejected RejectsSection document mismatch) ∧
    ∀ beginning document, Begins beginning document → ∀ mismatch,
      ofEntries beginning = .error mismatch → ofEntries document = .error mismatch := by
  refine ⟨?_, fun document hv ht => ⟨?_, ?_, ?_, ?_⟩, ?_, ?_⟩
  · intro document other h
    induction h with
    | rel _ _ hinserted => exact ofEntries_eq_of_inserted hinserted
    | refl _ => rfl
    | symm _ _ _ ih => exact ih.symm
    | trans _ _ _ _ _ ih ih' => exact ih.trans ih'
  · exact exists_ofEntries_eq_ok_iff hv ht
  · exact fun settings => ofEntries_eq_ok_iff hv ht
  · exact fun other h settings => h.ofEntries_eq_ok_iff hv ht
  · exact fun mismatch => ofEntries_eq_error_iff_endsRejected hv ht
  · exact fun document hv mismatch => ofEntries_eq_error_iff hv
  · exact fun beginning document h mismatch he => error_of_begins h he

/-- A document with an unknown section and an unknown key. -/
def colourful : Entries :=
  [("server", .table [("port", .integer 8080), ("colour", .string "red")]),
    ("extra", .boolean true), ("request", .table [("kind", .string "graph")])]

/-- Each of its tables has each of its keys once. -/
theorem wellFormed_colourful : (Value.table colourful).WellFormed := by
  have hserver : (Value.table [("port", .integer 8080), ("colour", .string "red")]).WellFormed := by
    refine .table (by decide) ?_
    simp only [List.forall_mem_cons, List.not_mem_nil, false_imp_iff, implies_true, and_true]
    exact ⟨.integer (by decide) (by decide), .string "red"⟩
  have hrequest : (Value.table [("kind", .string "graph")]).WellFormed := by
    refine .table (by decide) ?_
    simp only [List.forall_mem_cons, List.not_mem_nil, false_imp_iff, implies_true, and_true]
    exact .string "graph"
  refine .table (by decide) ?_
  simp only [colourful, List.forall_mem_cons, List.not_mem_nil, false_imp_iff, implies_true,
    and_true]
  exact ⟨hserver, .boolean true, hrequest⟩

/-- Both sections that it has are tables. -/
theorem tabular_colourful : Tabular colourful := by
  intro schema hs part hm
  simp only [colourful, List.mem_cons, List.not_mem_nil, or_false, Prod.mk.injEq] at hm
  rcases hm with ⟨-, rfl⟩ | ⟨hname, -⟩ | ⟨-, rfl⟩
  · exact ⟨_, rfl⟩
  · exact absurd (hname ▸ List.mem_map_of_mem hs) (by decide : "extra" ∉ Schema.all.map Schema.name)
  · exact ⟨_, rfl⟩

/-- The document without what is unknown gives the same settings; in another order the document
says the same; and one whose first known key is a port out of range is reported by it, whatever
comes after it. -/
theorem ofEntries_knownKeys_colourful :
    ofEntries [("server", .table [("port", .integer 8080)]),
        ("request", .table [("kind", .string "graph")])] = ofEntries colourful ∧
      Says colourful { server := { port := 8080 }, request := { kind := "graph" } } ∧
      ofEntries [("request", .table [("kind", .string "graph")]), ("extra", .boolean true),
        ("server", .table [("colour", .string "red"), ("port", .integer 8080)])] =
          .ok { server := { port := 8080 }, request := { kind := "graph" } } ∧
      ∀ others after : Entries,
        ofEntries (("server", .table (("port", .integer 65536) :: others)) :: after) =
          .error (.outOfRange 65536 .word16) := by
  obtain ⟨hsame, htables, hfirst, hbegins⟩ := ofEntries_knownKeys
  obtain ⟨-, hok, horder, -⟩ := htables colourful wellFormed_colourful tabular_colourful
  have hread : ofEntries colourful =
      .ok { server := { port := 8080 }, request := { kind := "graph" } } := rfl
  have hextra : Inserted
      [("server", .table [("port", .integer 8080)]),
        ("request", .table [("kind", .string "graph")])]
      [("server", .table [("port", .integer 8080)]), ("extra", .boolean true),
        ("request", .table [("kind", .string "graph")])] :=
    @Inserted.part [("server", .table [("port", .integer 8080)])]
      [("request", .table [("kind", .string "graph")])] _ _ (by decide)
  have hcolour : Inserted
      [("server", .table [("port", .integer 8080)]), ("extra", .boolean true),
        ("request", .table [("kind", .string "graph")])] colourful :=
    @Inserted.key [] _ [("port", .integer 8080)] [] Schema.server _ _ Schema.server_mem (by decide)
  have hreordered : Reordered colourful
      [("request", .table [("kind", .string "graph")]), ("extra", .boolean true),
        ("server", .table [("colour", .string "red"), ("port", .integer 8080)])] := by
    refine ⟨_, .cons (.table (.swap _ _ _)) (.cons (.same _) (.cons (.same _) .nil)), ?_⟩
    exact (List.reverse_perm _).symm
  refine ⟨hsame _ _ (.trans _ _ _ (.rel _ _ hextra) (.rel _ _ hcolour)), ((hok _).mp hread).2,
    (horder _ hreordered _).mp hread, ?_⟩
  intro others after
  exact hbegins _ _ (.within [] "server" [("port", .integer 65536)] others after) _ rfl

end AssessmentRequest.Settings
