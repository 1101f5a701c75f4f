import AssessmentRequest.Configuration
import AssessmentRequest.Proofs.Settings.Document
import AssessmentRequest.Proofs.Toml.Reading
import AssessmentRequest.Proofs.Wire.Grammar

/-!
# The layers of a configuration

Each setting of a configuration is what the command line gives, else what is stated in the settings
file, else the default. No setting depends on another, and what the command line gives hides what
the file says. The word for the kind of request is only looked at where it is used, and after the
file has been read.

Main statements: `merge_eq_ok_iff`, `merge_eq_error_iff` and `load_layered`.
-/

namespace AssessmentRequest.Configuration

open Outcome
open Settings (Schema Stated States SaysText SaysPort SaysTimeout SaysTexts)
open Toml (Value Entries)

/-- The settings file of a command line is the document; without a file nothing is said. -/
inductive Supplies (read : Bytes → Except SystemFault Bytes) (arguments : Arguments) :
    Entries → Prop where
  | nothing : arguments.config = none → Supplies read arguments []
  | file {path : Bytes} {text : String} {document : Entries} :
    arguments.config = some path → read path = .ok (Utf8.encode text) →
      Toml.parse text = some document → Supplies read arguments document

/-- The settings file of a command line is the document, which holds the settings. -/
structure Holds (read : Bytes → Except SystemFault Bytes) (arguments : Arguments)
    (document : Entries) (settings : Settings) : Prop where
  supplies : Supplies read arguments document
  settings : Settings.ofEntries document = .ok settings

/-- Why the content of a file cannot be read. -/
inductive Unreadable (content : Except SystemFault Bytes) : SystemFault → Prop where
  | fault {fault : SystemFault} : content = .error fault → Unreadable content fault
  | notText {bytes : Bytes} :
    content = .ok bytes → (∀ text, bytes ≠ Utf8.encode text) → Unreadable content .invalidUtf8

/-- Why the text of a file holds no settings. -/
inductive Unusable (content : Except SystemFault Bytes) : Settings.Fault → Prop where
  | malformed {text : String} :
    content = .ok (Utf8.encode text) → Toml.parse text = none → Unusable content .malformed
  | mismatch {text : String} {document : Entries} {mismatch : Mismatch} :
    content = .ok (Utf8.encode text) → Toml.parse text = some document →
      Settings.ofEntries document = .error mismatch → Unusable content (.mismatch mismatch)

/-- A setting is what the command line gives, else what the file states, else the default. -/
inductive Layered {α : Type} (given : Option α) (stated : Value → Prop)
    (means : α → Value → Prop) (default : α) : α → Prop where
  | commandLine {choice : α} : given = some choice → Layered given stated means default choice
  | file {choice : α} :
    given = none → Stated stated means default choice → Layered given stated means default choice

/-- The word for the kind of request that is used. -/
def EffectiveTag (arguments : Arguments) (document : Entries) (tag : String) : Prop :=
  Layered arguments.kind (States document .request "kind") SaysText "quality" tag

/-- The configuration is the command line, laid over what the document says, setting by setting. -/
structure LaidOver (arguments : Arguments) (document : Entries) (configuration : Configuration) :
    Prop where
  host : Layered arguments.host (States document .server "host") SaysText "localhost"
    configuration.host
  port : Layered arguments.port (States document .server "port") SaysPort 33000 configuration.port
  connectTimeout : Layered (arguments.connectTimeout.map some)
    (States document .server "connect_timeout_ms") SaysTimeout none configuration.connectTimeout
  kind : ∃ tag, EffectiveTag arguments document tag ∧ SameLetters tag configuration.kind.tag
  /-- Given identifiers take the place of all that the file states. -/
  identifiers : Layered
    (if arguments.identifiers = [] then none else some arguments.identifiers)
    (States document .request "identifiers") SaysTexts ["doi:10.18739/A2W08WG3R"]
    configuration.identifiers
  testDir : Layered arguments.testDir (States document .request "test_dir") SaysText
    "./src/test/resources/test-docs" configuration.testDir
  suiteId : Layered arguments.suiteId (States document .request "suite_id") SaysText "test.suite"
    configuration.suiteId
  nodeId : Layered arguments.nodeId (States document .request "node_id") SaysText
    "urn:node:ARCTIC" configuration.nodeId
  /-- No file says anything about this. -/
  dryRun : configuration.dryRun = arguments.dryRun
  logLevel : Layered arguments.logLevel (States document .logging "level") SaysText "info"
    configuration.logLevel

/-- The settings agree wherever the command line gives nothing. -/
structure Agree (arguments : Arguments) (settings settings' : Settings) : Prop where
  host : arguments.host = none → settings.server.host = settings'.server.host
  port : arguments.port = none → settings.server.port = settings'.server.port
  connectTimeout : arguments.connectTimeout = none →
    settings.server.connectTimeout = settings'.server.connectTimeout
  kind : arguments.kind = none → settings.request.kind = settings'.request.kind
  identifiers : arguments.identifiers = [] →
    settings.request.identifiers = settings'.request.identifiers
  testDir : arguments.testDir = none → settings.request.testDir = settings'.request.testDir
  suiteId : arguments.suiteId = none → settings.request.suiteId = settings'.request.suiteId
  nodeId : arguments.nodeId = none → settings.request.nodeId = settings'.request.nodeId
  logLevel : arguments.logLevel = none → settings.logging.level = settings'.logging.level

section Layered

variable {α : Type} {given : Option α} {stated : Value → Prop} {means : α → Value → Prop}
  {default choice : α}

/-- What is given, or else what the file comes to, is the choice. -/
theorem layered_getD (h : Stated stated means default choice) :
    Layered given stated means default (given.getD choice) := by
  cases given with
  | none => exact .file rfl h
  | some own => exact .commandLine rfl

/-- There is one choice, if at most one value is stated and it means one thing. -/
theorem Layered.unique {choice' : α} (h : Layered given stated means default choice)
    (h' : Layered given stated means default choice')
    (hone : ∀ value value', stated value → stated value' → value = value')
    (hmeans : ∀ value, means choice value → means choice' value → choice = choice') :
    choice = choice' := by
  cases h with
  | commandLine hgiven =>
    cases h' with
    | commandLine hgiven' => exact Option.some.inj (hgiven.symm.trans hgiven')
    | file hnone _ => exact absurd (hgiven.symm.trans hnone) (Option.some_ne_none _)
  | file hnone hstated =>
    cases h' with
    | commandLine hgiven => exact absurd (hgiven.symm.trans hnone) (Option.some_ne_none _)
    | file _ hstated' => exact hstated.unique hstated' hone hmeans

end Layered

section Merge

variable {arguments : Arguments} {document : Entries} {settings : Settings}

/-- The effective word is the one that is looked at. -/
theorem effectiveTag_iff (hv : (Value.table document).WellFormed)
    (hs : Settings.Says document settings) {tag : String} :
    EffectiveTag arguments document tag ↔ tag = arguments.kind.getD settings.request.kind := by
  have hone := States.unique Schema.request_mem hv "kind"
  constructor
  · intro h
    exact h.unique (layered_getD hs.kind) hone fun _ => SaysText.unique
  · rintro rfl
    exact layered_getD hs.kind

/-- What the command line is laid over is what the document says. -/
theorem laidOver_of_merge (hs : Settings.Says document settings) {configuration : Configuration}
    (h : merge arguments settings = .ok configuration) :
    LaidOver arguments document configuration := by
  have htimeout : (arguments.connectTimeout <|> settings.server.connectTimeout) =
      (arguments.connectTimeout.map some).getD settings.server.connectTimeout := by
    cases arguments.connectTimeout <;> rfl
  have hidentifiers : (if arguments.identifiers.isEmpty then settings.request.identifiers
      else arguments.identifiers) =
      (if arguments.identifiers = [] then none else some arguments.identifiers).getD
        settings.request.identifiers := by
    cases arguments.identifiers <;> rfl
  cases hkind : Kind.ofTag? (arguments.kind.getD settings.request.kind) with
  | none =>
    rw [merge, hkind] at h
    contradiction
  | some kind =>
    rw [merge, hkind] at h
    obtain rfl := Except.ok.inj h
    exact {
      host := layered_getD hs.host
      port := layered_getD hs.port
      connectTimeout := htimeout ▸ layered_getD hs.connectTimeout
      kind := ⟨_, layered_getD hs.kind, Kind.ofTag?_eq_some_iff.mp hkind⟩
      identifiers := hidentifiers ▸ layered_getD hs.identifiers
      testDir := layered_getD hs.testDir
      suiteId := layered_getD hs.suiteId
      nodeId := layered_getD hs.nodeId
      dryRun := rfl
      logLevel := layered_getD hs.level }

/-- A word names one kind. -/
theorem kind_unique {tag : String} {kind kind' : Kind} (h : SameLetters tag kind.tag)
    (h' : SameLetters tag kind'.tag) : kind = kind' := by
  rw [← Kind.ofTag?_eq_some_iff] at h h'
  exact Option.some.inj (h.symm.trans h')

/-- There is one configuration for a command line and a document. -/
theorem LaidOver.unique {configuration configuration' : Configuration}
    (hv : (Value.table document).WellFormed) (h : LaidOver arguments document configuration)
    (h' : LaidOver arguments document configuration') : configuration = configuration' := by
  have hserver := States.unique Schema.server_mem hv
  have hrequest := States.unique Schema.request_mem hv
  have hlogging := States.unique Schema.logging_mem hv
  obtain ⟨tag, heffective, hkind⟩ := h.kind
  obtain ⟨tag', heffective', hkind'⟩ := h'.kind
  obtain rfl : tag = tag' :=
    heffective.unique heffective' (hrequest _) fun _ => SaysText.unique
  cases configuration
  cases configuration'
  rw [mk.injEq]
  refine ⟨?_, ?_, ?_, kind_unique hkind hkind', ?_, ?_, ?_, ?_, h.dryRun.trans h'.dryRun.symm, ?_⟩
  · exact h.host.unique h'.host (hserver _) fun _ => SaysText.unique
  · exact h.port.unique h'.port (hserver _) fun _ => SaysPort.unique
  · exact h.connectTimeout.unique h'.connectTimeout (hserver _) fun _ => SaysTimeout.unique
  · exact h.identifiers.unique h'.identifiers (hrequest _) fun _ => SaysTexts.unique
  · exact h.testDir.unique h'.testDir (hrequest _) fun _ => SaysText.unique
  · exact h.suiteId.unique h'.suiteId (hrequest _) fun _ => SaysText.unique
  · exact h.nodeId.unique h'.nodeId (hrequest _) fun _ => SaysText.unique
  · exact h.logLevel.unique h'.logLevel (hlogging _) fun _ => SaysText.unique

/-- There is a configuration exactly if the effective word names a kind, and otherwise the word is
reported. -/
theorem merge_cases (arguments : Arguments) (settings : Settings) :
    (∃ configuration, merge arguments settings = .ok configuration ∧
      SameLetters (arguments.kind.getD settings.request.kind) configuration.kind.tag) ∨
    merge arguments settings = .error (.invalidKind (arguments.kind.getD settings.request.kind)) ∧
      ∀ kind : Kind, ¬ SameLetters (arguments.kind.getD settings.request.kind) kind.tag := by
  cases hkind : Kind.ofTag? (arguments.kind.getD settings.request.kind) with
  | some kind =>
    have hletters := Kind.ofTag?_eq_some_iff.mp hkind
    exact .inl ⟨_, by rw [merge, hkind], hletters⟩
  | none =>
    refine .inr ⟨by rw [merge, hkind], fun kind hs => ?_⟩
    rw [← Kind.ofTag?_eq_some_iff, hkind] at hs
    contradiction

/-- The command line can be laid over the settings exactly in the one way that is right. -/
theorem merge_eq_ok_iff (hv : (Value.table document).WellFormed)
    (hs : Settings.Says document settings) {configuration : Configuration} :
    merge arguments settings = .ok configuration ↔
      LaidOver arguments document configuration := by
  constructor
  · exact laidOver_of_merge hs
  · intro h
    obtain ⟨tag, heffective, hkind⟩ := h.kind
    obtain rfl := (effectiveTag_iff hv hs).mp heffective
    -- what comes out is laid over the document as well, and there is one such configuration
    rcases merge_cases arguments settings with ⟨merged, hm, -⟩ | ⟨-, hno⟩
    · rw [hm, (laidOver_of_merge hs hm).unique hv h]
    · exact absurd hkind (hno configuration.kind)

/-- What is reported is the effective word, if it names no kind. -/
theorem merge_eq_error_iff (hv : (Value.table document).WellFormed)
    (hs : Settings.Says document settings) {error : ConfigurationError} :
    merge arguments settings = .error error ↔
      ∃ tag, error = .invalidKind tag ∧ EffectiveTag arguments document tag ∧
        ∀ kind : Kind, ¬ SameLetters tag kind.tag := by
  simp only [effectiveTag_iff hv hs]
  rcases merge_cases arguments settings with ⟨merged, hm, hkind⟩ | ⟨hm, hno⟩
  · rw [hm]
    constructor
    · intro he
      contradiction
    · rintro ⟨tag, -, rfl, hno⟩
      exact absurd hkind (hno merged.kind)
  · rw [hm]
    constructor
    · intro he
      exact ⟨_, (Except.error.inj he).symm, rfl, hno⟩
    · rintro ⟨tag, rfl, rfl, -⟩
      rfl

/-- What is given hides what it is laid over. -/
theorem getD_congr {α : Type} {given : Option α} {below below' : α}
    (h : given = none → below = below') : given.getD below = given.getD below' := by
  cases given with
  | none => exact h rfl
  | some own => rfl

/-- What the command line gives hides what the file says. -/
theorem merge_congr {settings' : Settings} (h : Agree arguments settings settings') :
    merge arguments settings = merge arguments settings' := by
  have htimeout : (arguments.connectTimeout <|> settings.server.connectTimeout) =
      (arguments.connectTimeout <|> settings'.server.connectTimeout) := by
    cases hgiven : arguments.connectTimeout with
    | none => exact h.connectTimeout hgiven
    | some own => rfl
  have hidentifiers : (if arguments.identifiers.isEmpty then settings.request.identifiers
      else arguments.identifiers) =
      if arguments.identifiers.isEmpty then settings'.request.identifiers
      else arguments.identifiers := by
    cases hgiven : arguments.identifiers with
    | nil => exact h.identifiers hgiven
    | cons first others => rfl
  simp only [merge, getD_congr h.host, getD_congr h.port, htimeout, getD_congr h.kind,
    hidentifiers, getD_congr h.testDir, getD_congr h.suiteId, getD_congr h.nodeId,
    getD_congr h.logLevel]

end Merge

section Load

variable {read : Bytes → Except SystemFault Bytes} {arguments : Arguments} {document : Entries}
  {settings : Settings}

/-- What a settings file supplies is the tree of a document. -/
theorem Supplies.wellFormed (h : Supplies read arguments document) :
    (Value.table document).WellFormed := by
  cases h with
  | nothing => exact .table List.nodup_nil (by simp)
  | file _ _ hp => exact Toml.wellFormed_of_parse hp

/-- The settings of a text are those of its document. -/
theorem parse_of_document {text : String} (h : Toml.parse text = some document) :
    Settings.parse text = (Settings.ofEntries document).mapError .mismatch := by
  rw [Settings.parse, h]

/-- The settings in a file are those of its text. -/
theorem readSettings_encode (path : Bytes) (text : String) :
    readSettings path (.ok (Utf8.encode text)) =
      (Settings.parse text).mapError (.unusable path) := by
  simp only [readSettings, Utf8.decode?_encode]

/-- What a file supplies is laid under the command line. -/
theorem load_of_holds (h : Holds read arguments document settings) :
    load read arguments = merge arguments settings := by
  obtain ⟨hsupplies, hsettings⟩ := h
  cases hsupplies with
  | nothing hnone =>
    obtain rfl := Except.ok.inj hsettings
    rw [load, hnone]
    rfl
  | @file path text _ hsome hread hparse =>
    have hcontent : readSettings path (read path) = .ok settings := by
      rw [hread, readSettings_encode, parse_of_document hparse, hsettings]
      rfl
    rw [load, hsome]
    simp only [hcontent]

/-- What goes wrong with the file is reported before anything else. -/
theorem load_of_readSettings {path : Bytes} {error : ConfigurationError}
    (hsome : arguments.config = some path) (h : readSettings path (read path) = .error error) :
    load read arguments = .error error := by
  rw [load, hsome]
  simp only [h]

/-- A file that cannot be read is reported. -/
theorem load_of_unreadable {path : Bytes} {fault : SystemFault}
    (hsome : arguments.config = some path) (h : Unreadable (read path) fault) :
    load read arguments = .error (.unreadable path fault) := by
  refine load_of_readSettings hsome ?_
  cases h with
  | fault hread => rw [hread, readSettings]
  | @notText bytes hread hno =>
    have hnone : Utf8.decode? bytes = none := by
      cases hdecode : Utf8.decode? bytes with
      | none => rfl
      | some text => exact absurd (Utf8.decode?_eq_some_iff.mp hdecode) (hno text)
    simp only [hread, readSettings, hnone]

/-- A file without settings is reported. -/
theorem load_of_unusable {path : Bytes} {fault : Settings.Fault}
    (hsome : arguments.config = some path) (h : Unusable (read path) fault) :
    load read arguments = .error (.unusable path fault) := by
  refine load_of_readSettings hsome ?_
  cases h with
  | malformed hread hparse =>
    rw [hread, readSettings_encode, Settings.parse, hparse]
    rfl
  | mismatch hread hparse hentries =>
    rw [hread, readSettings_encode, parse_of_document hparse, hentries]
    rfl

/-- A file whose text is read as settings holds them. -/
theorem holds_of_parse {path : Bytes} {text : String} (hsome : arguments.config = some path)
    (hread : read path = .ok (Utf8.encode text)) (h : Settings.parse text = .ok settings) :
    ∃ document, Holds read arguments document settings := by
  cases hparse : Toml.parse text with
  | none =>
    rw [Settings.parse, hparse] at h
    contradiction
  | some document =>
    rw [parse_of_document hparse] at h
    exact ⟨document, .file hsome hread hparse, mapError_eq_ok_iff.mp h⟩

/-- A file whose text is not read as settings holds none. -/
theorem unusable_of_parse {content : Except SystemFault Bytes} {text : String}
    {fault : Settings.Fault} (hread : content = .ok (Utf8.encode text))
    (h : Settings.parse text = .error fault) : Unusable content fault := by
  cases hparse : Toml.parse text with
  | none =>
    rw [Settings.parse, hparse] at h
    obtain rfl := Except.error.inj h
    exact .malformed hread hparse
  | some document =>
    rw [parse_of_document hparse] at h
    obtain ⟨mismatch, hentries, rfl⟩ := mapError_eq_error_iff.mp h
    exact .mismatch hread hparse hentries

/-- A settings file holds settings, cannot be read, or holds none. -/
theorem holds_or_fault (read : Bytes → Except SystemFault Bytes) (arguments : Arguments) :
    (∃ document settings, Holds read arguments document settings) ∨
      ∃ path, arguments.config = some path ∧
        ((∃ fault, Unreadable (read path) fault) ∨ ∃ fault, Unusable (read path) fault) := by
  cases hconfig : arguments.config with
  | none => exact .inl ⟨[], {}, .nothing hconfig, rfl⟩
  | some path =>
    cases hread : read path with
    | error fault => exact .inr ⟨path, rfl, .inl ⟨fault, .fault hread⟩⟩
    | ok bytes =>
      cases hdecode : Utf8.decode? bytes with
      | none =>
        refine .inr ⟨path, rfl, .inl ⟨_, .notText hread fun text he => ?_⟩⟩
        rw [Utf8.decode?_eq_some_iff.mpr he] at hdecode
        contradiction
      | some text =>
        obtain rfl := Utf8.decode?_eq_some_iff.mp hdecode
        cases hparse : Settings.parse text with
        | error fault => exact .inr ⟨path, rfl, .inr ⟨fault, unusable_of_parse hread hparse⟩⟩
        | ok settings =>
          obtain ⟨document, h⟩ := holds_of_parse hconfig hread hparse
          exact .inl ⟨document, settings, h⟩

end Load

/-- Where the settings file holds settings, the configuration is the command line laid over the
file; it fails only with the effective word for the kind, exactly if that names no kind, so the
word in a file is harmless under one that names a kind. Two files that agree wherever the command
line gives nothing come to the same. A word on the command line that names no kind is never
rescued. A file that cannot be read, or holds no settings, is reported with its path, whatever else
the command line says; there is no other case. -/
theorem load_layered (read : Bytes → Except SystemFault Bytes) (arguments : Arguments) :
    (∀ document settings, Holds read arguments document settings →
      (∀ configuration, load read arguments = .ok configuration ↔
        LaidOver arguments document configuration) ∧
      (∀ error, load read arguments = .error error ↔
        ∃ tag, error = .invalidKind tag ∧ EffectiveTag arguments document tag ∧
          ∀ kind : Kind, ¬ SameLetters tag kind.tag) ∧
      (∀ tag, ∀ kind : Kind, arguments.kind = some tag → SameLetters tag kind.tag →
        ∃ configuration, load read arguments = .ok configuration ∧ configuration.kind = kind) ∧
      ∀ read' config document' settings',
        Holds read' { arguments with config := config } document' settings' →
          Agree arguments settings settings' →
          load read' { arguments with config := config } = load read arguments) ∧
    (∀ tag, arguments.kind = some tag → (∀ kind : Kind, ¬ SameLetters tag kind.tag) →
      ∀ configuration, load read arguments ≠ .ok configuration) ∧
    ((∃ document settings, Holds read arguments document settings) ∨
      ∃ path, arguments.config = some path ∧
        ((∃ fault, Unreadable (read path) fault) ∨ ∃ fault, Unusable (read path) fault)) ∧
    ∀ path, arguments.config = some path →
      (∀ fault, Unreadable (read path) fault →
        load read arguments = .error (.unreadable path fault)) ∧
      ∀ fault, Unusable (read path) fault →
        load read arguments = .error (.unusable path fault) := by
  refine ⟨fun document settings h => ?_, ?_, holds_or_fault read arguments, ?_⟩
  · have hv := h.supplies.wellFormed
    have hs := Settings.says_of_ofEntries hv h.settings
    rw [load_of_holds h]
    refine ⟨fun _ => merge_eq_ok_iff hv hs, fun _ => merge_eq_error_iff hv hs, ?_, ?_⟩
    · intro tag kind hgiven hletters
      rcases merge_cases arguments settings with ⟨merged, hm, hkind⟩ | ⟨-, hno⟩
      · rw [hgiven] at hkind
        exact ⟨merged, hm, kind_unique hkind hletters⟩
      · rw [hgiven] at hno
        exact absurd hletters (hno kind)
    · intro read' config document' settings' h' hagree
      rw [load_of_holds h', merge_congr hagree]
      rfl
  · intro tag hgiven hno configuration hok
    rcases holds_or_fault read arguments with
      ⟨document, settings, h⟩ | ⟨path, hsome, ⟨fault, hfault⟩ | ⟨fault, hfault⟩⟩
    · have hv := h.supplies.wellFormed
      have hs := Settings.says_of_ofEntries hv h.settings
      rw [load_of_holds h, merge_eq_ok_iff hv hs] at hok
      obtain ⟨effective, heffective, hletters⟩ := hok.kind
      obtain rfl := (effectiveTag_iff hv hs).mp heffective
      rw [hgiven] at hletters
      exact hno configuration.kind hletters
    · rw [load_of_unreadable hsome hfault] at hok
      contradiction
    · rw [load_of_unusable hsome hfault] at hok
      contradiction
  · intro path hsome
    exact ⟨fun fault => load_of_unreadable hsome, fun fault => load_of_unusable hsome⟩

/-- Two files that agree on the node only, and one whose port is no number. -/
def files : Bytes → Except SystemFault Bytes
  | [0x61] => .ok (Utf8.encode "server.host = \"a\"\n[request]\nkind = \"x\"\nnode_id = \"n\"")
  | [0x62] => .ok (Utf8.encode "[request]\nnode_id = \"n\"\n[logging]\nlevel = \"warn\"\n")
  | [0x63] => .ok (Utf8.encode "[server]\nport = \"1\"\n")
  | _ => .error .notFound

/-- A command line that gives everything in which the two files differ. -/
def overriding : Arguments where
  config := some [0x61]
  host := some "h"
  kind := some "GRAPH"
  logLevel := some "debug"

/-- The wrong word in the first file does no harm, and the second file comes to the same. A wrong
word on the command line is not rescued. A file with a wrong port and a missing file are
reported. -/
theorem load_layered_overriding :
    (∃ configuration, load files overriding = .ok configuration ∧ configuration.kind = .graph) ∧
      (∃ document, Supplies files overriding document ∧
        LaidOver overriding document
          ⟨"h", 33000, none, .graph, ["doi:10.18739/A2W08WG3R"], "./src/test/resources/test-docs",
            "test.suite", "n", false, "debug"⟩) ∧
      load files { overriding with config := some [0x62] } = load files overriding ∧
      (∀ configuration, load files { overriding with kind := some "x" } ≠ .ok configuration) ∧
      load files { overriding with config := some [0x63] } =
        .error (.unusable [0x63] (.mismatch (.wrongType (.string "1") .word16))) ∧
      load files { overriding with config := some [] } = .error (.unreadable [] .notFound) := by
  obtain ⟨document, hfirst⟩ : ∃ document, Holds files overriding document
      { server := { host := "a" }, request := { kind := "x", nodeId := "n" } } :=
    holds_of_parse rfl rfl (by decide +kernel)
  obtain ⟨document', hsecond⟩ : ∃ document,
      Holds files { overriding with config := some [0x62] } document
        { request := { nodeId := "n" }, logging := { level := "warn" } } :=
    holds_of_parse rfl rfl (by decide +kernel)
  have hunusable : Unusable (files [0x63]) (.mismatch (.wrongType (.string "1") .word16)) :=
    unusable_of_parse rfl (by decide +kernel)
  have hx (kind : Kind) : ¬ SameLetters "x" kind.tag := by
    rw [Kind.sameLetters_iff]
    cases kind <;> decide
  have hgraph : SameLetters "GRAPH" Kind.graph.tag := Kind.ofTag?_eq_some_iff.mp (by decide)
  have hagree : Agree overriding
      { server := { host := "a" }, request := { kind := "x", nodeId := "n" } }
      { request := { nodeId := "n" }, logging := { level := "warn" } } := by
    constructor <;> decide
  obtain ⟨hholds, -, -, -⟩ := load_layered files overriding
  obtain ⟨hok, -, hharmless, htwo⟩ := hholds _ _ hfirst
  obtain ⟨-, hwrong, -, -⟩ := load_layered files { overriding with kind := some "x" }
  obtain ⟨-, -, -, hport⟩ := load_layered files { overriding with config := some [0x63] }
  obtain ⟨-, -, -, hmissing⟩ := load_layered files { overriding with config := some [] }
  refine ⟨hharmless "GRAPH" .graph rfl hgraph, ⟨document, hfirst.supplies, (hok _).mp ?_⟩,
    htwo files _ _ _ hsecond hagree, hwrong "x" rfl hx, ?_, ?_⟩
  · rw [load_of_holds hfirst]
    rfl
  · exact (hport _ rfl).2 _ hunusable
  · exact (hmissing _ rfl).1 _ (.fault rfl)

end AssessmentRequest.Configuration
