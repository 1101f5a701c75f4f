import AssessmentRequest.Text.Utf8

/-!
# The options of the command line

Options that take a value, flags that take none, and one positional argument, the port.
-/

namespace AssessmentRequest.CommandLine

/-- The options that take a value. -/
inductive Named where
  | config
  | host
  | kind
  | identifier
  | testDir
  | suiteId
  | nodeId
  | connectTimeout
  | logLevel
  deriving Repr, DecidableEq

/-- The options that take no value. -/
inductive Flag where
  | dryRun
  | help
  | version
  deriving Repr, DecidableEq

namespace Named

/-- Every option with a value. -/
def all : List Named :=
  [config, host, kind, identifier, testDir, suiteId, nodeId, connectTimeout, logLevel]

/-- The long name of an option. -/
def name : Named → String
  | config => "config"
  | host => "host"
  | kind => "kind"
  | identifier => "identifier"
  | testDir => "test-dir"
  | suiteId => "suite-id"
  | nodeId => "node-id"
  | connectTimeout => "connect-timeout-ms"
  | logLevel => "log-level"

/-- The letter of an option. -/
def letter? : Named → Option Char
  | config => some 'c'
  | kind => some 'k'
  | identifier => some 'i'
  | _ => none

/-- The name of the value of an option. -/
def valueName : Named → String
  | config => "CONFIG"
  | host => "HOST"
  | kind => "KIND"
  | identifier => "IDENTIFIERS"
  | testDir => "TEST_DIR"
  | suiteId => "SUITE_ID"
  | nodeId => "NODE_ID"
  | connectTimeout => "CONNECT_TIMEOUT_MS"
  | logLevel => "LOG_LEVEL"

/-- How an option is shown in messages. -/
def shown (option : Named) : String := "--" ++ option.name ++ " <" ++ option.valueName ++ ">"

/-- What an option is for. -/
def purpose : Named → String
  | config => "Path to TOML configuration file"
  | host => "Controller host"
  | kind => "Request kind (quality or graph)"
  | identifier => "Identifier of a document to assess; repeat for several documents"
  | testDir => "Directory holding the <id>.xml and <id>.sm test documents"
  | suiteId => "Assessment suite to run"
  | nodeId => "Originating node identifier"
  | connectTimeout => "Give up connecting after this many milliseconds"
  | logLevel => "Log level (trace, debug, info, warn, error) [default: info]"

end Named

namespace Flag

/-- Every flag. -/
def all : List Flag := [dryRun, help, version]

/-- The long name of a flag. -/
def name : Flag → String
  | dryRun => "dry-run"
  | help => "help"
  | version => "version"

/-- The letter of a flag. -/
def letter? : Flag → Option Char
  | dryRun => none
  | help => some 'h'
  | version => some 'V'

/-- How a flag is shown in messages. -/
def shown (flag : Flag) : String := "--" ++ flag.name

/-- What a flag is for. -/
def purpose : Flag → String
  | dryRun => "Print the request to stdout instead of connecting"
  | help => "Print help"
  | version => "Print version"

end Flag

/-- An option of either sort. -/
inductive Switch where
  | valued (option : Named)
  | bare (flag : Flag)
  deriving Repr, DecidableEq

namespace Switch

/-- Every option, in the order of the help text. -/
def all : List Switch :=
  [.valued .config, .valued .host, .valued .kind, .valued .identifier, .valued .testDir,
    .valued .suiteId, .valued .nodeId, .valued .connectTimeout, .bare .dryRun, .valued .logLevel,
    .bare .help, .bare .version]

/-- The long name of an option. -/
def name : Switch → String
  | valued option => option.name
  | bare flag => flag.name

/-- The letter of an option. -/
def letter? : Switch → Option Char
  | valued option => option.letter?
  | bare flag => flag.letter?

/-- How an option is shown in messages. -/
def shown : Switch → String
  | valued option => option.shown
  | bare flag => flag.shown

/-- What an option is for. -/
def purpose : Switch → String
  | valued option => option.purpose
  | bare flag => flag.purpose

/-- The option of a long name. -/
def ofName? (name : String) : Option Switch := all.find? fun switch => switch.name = name

/-- The option of a letter. -/
def ofLetter? (letter : Char) : Option Switch :=
  all.find? fun switch => switch.letter? = some letter

end Switch

/-- How the positional argument is shown in messages. -/
def portShown : String := "[PORT]"

/-- The name of the program. -/
def programName : String := "send-assessment-test"

/-- The version text. -/
def versionText : String := programName ++ " 0.1.0\n"

/-- The entry of an option in the help text. -/
def helpEntry (switch : Switch) : String :=
  let lead :=
    match switch.letter? with
    | some letter => "  -" ++ letter.toString ++ ", "
    | none => "      "
  lead ++ switch.shown ++ "\n          " ++ switch.purpose ++ "\n"

/-- The help text. -/
def helpText : String :=
  "Send an assessment test request to a local metadig controller\n\n"
    ++ "Usage: " ++ programName ++ " [OPTIONS] " ++ portShown ++ "\n\n"
    ++ "Arguments:\n  " ++ portShown ++ "  Controller port (default 33000)\n\n"
    ++ "Options:\n" ++ String.join (Switch.all.map helpEntry)

end AssessmentRequest.CommandLine
