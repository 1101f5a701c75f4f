import AssessmentRequest.Settings.Section
import AssessmentRequest.Toml.Document

/-!
# The settings file

A settings file has a section for the server, one for the request and one for logging, and
each setting has a default. The kind of request is any word here.
-/

namespace AssessmentRequest

/-- How to reach the controller. -/
structure ServerSettings where
  /-- Name or address of the controller. -/
  host : String := "localhost"
  /-- Port of the controller. -/
  port : UInt16 := 33000
  /-- Bound on the time for a connection attempt, in milliseconds. -/
  connectTimeout : Option UInt64 := none
  deriving Repr, DecidableEq

/-- What to request. -/
structure RequestSettings where
  /-- Word for the kind of request. -/
  kind : String := "quality"
  /-- Assessment suite to run. -/
  suiteId : String := "test.suite"
  /-- Node that the documents come from. -/
  nodeId : String := "urn:node:ARCTIC"
  /-- Directory of the test documents. -/
  testDir : String := "./src/test/resources/test-docs"
  /-- Identifiers of the documents. -/
  identifiers : List String := ["doi:10.18739/A2W08WG3R"]
  deriving Repr, DecidableEq

/-- What to log. -/
structure LoggingSettings where
  /-- The log filter. -/
  level : String := "info"
  deriving Repr, DecidableEq

/-- Everything that a settings file can say. -/
structure Settings where
  server : ServerSettings := {}
  request : RequestSettings := {}
  logging : LoggingSettings := {}
  deriving Repr, DecidableEq

namespace Settings

/-- A string setting. -/
def readText : Toml.Value → Except Mismatch String
  | .string text => .ok text
  | value => .error (.wrongType (.ofValue value) .text)

/-- An integer setting between zero and a greatest value. -/
def readNat (greatest : Nat) (wanted : Wanted) : Toml.Value → Except Mismatch Nat
  | .integer value =>
    if 0 ≤ value ∧ value ≤ greatest then .ok value.toNat
    else .error (.outOfRange value wanted)
  | value => .error (.wrongType (.ofValue value) wanted)

/-- A setting that is an array of strings. -/
def readTexts : Toml.Value → Except Mismatch (List String)
  | .array items => items.mapM readText
  | value => .error (.wrongType (.ofValue value) .sequence)

/-- A port number. -/
def readPort (value : Toml.Value) : Except Mismatch UInt16 :=
  (readNat (UInt16.size - 1) .word16 value).map UInt16.ofNat

/-- A number of milliseconds. -/
def readMilliseconds (value : Toml.Value) : Except Mismatch UInt64 :=
  (readNat (UInt64.size - 1) .word64 value).map UInt64.ofNat

/-- The server section. Only here the array form has to be complete. -/
def serverSection : Section ServerSettings where
  title := "ServerConfig"
  settings := [
    ⟨"host", fun value current => do return { current with host := ← readText value }⟩,
    ⟨"port", fun value current => do return { current with port := ← readPort value }⟩,
    ⟨"connect_timeout_ms", fun value current => do
      return { current with connectTimeout := some (← readMilliseconds value) }⟩]
  defaults := {}
  required := some 2

/-- The request section. -/
def requestSection : Section RequestSettings where
  title := "RequestConfig"
  settings := [
    ⟨"kind", fun value current => do return { current with kind := ← readText value }⟩,
    ⟨"suite_id", fun value current => do return { current with suiteId := ← readText value }⟩,
    ⟨"node_id", fun value current => do return { current with nodeId := ← readText value }⟩,
    ⟨"test_dir", fun value current => do return { current with testDir := ← readText value }⟩,
    ⟨"identifiers", fun value current => do
      return { current with identifiers := ← readTexts value }⟩]
  defaults := {}
  required := none

/-- The logging section. -/
def loggingSection : Section LoggingSettings where
  title := "LoggingConfig"
  settings := [
    ⟨"level", fun value current => do return { current with level := ← readText value }⟩]
  defaults := {}
  required := none

/-- The document, whose settings are the three sections. -/
def documentSection : Section Settings where
  title := "TomlConfig"
  settings := [
    ⟨"server", fun value current => do
      return { current with server := ← serverSection.ofValue value }⟩,
    ⟨"request", fun value current => do
      return { current with request := ← requestSection.ofValue value }⟩,
    ⟨"logging", fun value current => do
      return { current with logging := ← loggingSection.ofValue value }⟩]
  defaults := {}
  required := none

/-- The settings of a document. -/
def ofEntries (entries : Toml.Entries) : Except Mismatch Settings :=
  documentSection.ofEntries entries

/-- Why a text is no settings file. -/
inductive Fault where
  /-- It is no document. -/
  | malformed
  /-- A setting has the wrong shape. -/
  | mismatch (mismatch : Mismatch)
  deriving Repr, DecidableEq

/-- Reads the text of a settings file. -/
def parse (text : String) : Except Fault Settings :=
  match Toml.parse text with
  | none => .error .malformed
  | some entries => (ofEntries entries).mapError .mismatch

end Settings

end AssessmentRequest
