import AssessmentRequest.CommandLine.Arguments
import AssessmentRequest.Settings.File
import AssessmentRequest.SystemFault
import AssessmentRequest.Wire.Encoding

/-!
# The configuration of a run

Each setting is taken from the command line if it is there, else from the settings file,
which holds a default for what it does not say. The word for the kind of request is checked
last, after the file has been read and only where it is used.
-/

namespace AssessmentRequest

/-- Where to deliver a request. -/
structure Target where
  /-- Name or address of the controller. -/
  host : String
  /-- Port of the controller. -/
  port : UInt16
  /-- Bound on the time for a connection attempt, in milliseconds. -/
  connectTimeout : Option UInt64
  deriving Repr, DecidableEq

/-- Everything that a run depends on. -/
structure Configuration where
  host : String
  port : UInt16
  connectTimeout : Option UInt64
  kind : Kind
  identifiers : List String
  testDir : String
  suiteId : String
  nodeId : String
  /-- Write the request out instead of sending it. -/
  dryRun : Bool
  /-- The log filter. -/
  logLevel : String
  deriving Repr, DecidableEq

/-- Why a run has no configuration. -/
inductive ConfigurationError where
  /-- The settings file cannot be read. -/
  | unreadable (path : Bytes) (fault : SystemFault)
  /-- The settings file holds no settings. -/
  | unusable (path : Bytes) (fault : Settings.Fault)
  /-- The word for the kind of request names none. -/
  | invalidKind (tag : String)
  deriving Repr, DecidableEq

namespace Configuration

/-- Lays the command line over the settings of the file. -/
def merge (arguments : Arguments) (settings : Settings) :
    Except ConfigurationError Configuration :=
  let tag := arguments.kind.getD settings.request.kind
  match Kind.ofTag? tag with
  | none => .error (.invalidKind tag)
  | some kind =>
    .ok {
      host := arguments.host.getD settings.server.host
      port := arguments.port.getD settings.server.port
      connectTimeout := arguments.connectTimeout <|> settings.server.connectTimeout
      kind := kind
      identifiers :=
        if arguments.identifiers.isEmpty then settings.request.identifiers
        else arguments.identifiers
      testDir := arguments.testDir.getD settings.request.testDir
      suiteId := arguments.suiteId.getD settings.request.suiteId
      nodeId := arguments.nodeId.getD settings.request.nodeId
      dryRun := arguments.dryRun
      logLevel := arguments.logLevel.getD settings.logging.level }

/-- The settings in the content of a file. -/
def readSettings (path : Bytes) (content : Except SystemFault Bytes) :
    Except ConfigurationError Settings :=
  match content with
  | .error fault => .error (.unreadable path fault)
  | .ok bytes =>
    match Utf8.decode? bytes with
    | none => .error (.unreadable path .invalidUtf8)
    | some text => (Settings.parse text).mapError (.unusable path)

/-- The configuration of a command line, `read` giving the content of files. -/
def load (read : Bytes → Except SystemFault Bytes) (arguments : Arguments) :
    Except ConfigurationError Configuration :=
  match arguments.config with
  | none => merge arguments {}
  | some path =>
    match readSettings path (read path) with
    | .error error => .error error
    | .ok settings => merge arguments settings

/-- Where to deliver the request. -/
def target (configuration : Configuration) : Target where
  host := configuration.host
  port := configuration.port
  connectTimeout := configuration.connectTimeout

/-- The request that a configuration describes: a record for each identifier, in order. -/
def request (configuration : Configuration) : Request where
  kind := configuration.kind
  records := configuration.identifiers.map fun identifier =>
    Record.ofDocument identifier configuration.testDir configuration.suiteId configuration.nodeId

end Configuration

namespace ConfigurationError

/-- The message of a configuration error. For a settings file that holds no settings it is
the message of the mismatch, if the file is a document at all. -/
def message? : ConfigurationError → Option String
  | unreadable path fault =>
    some ("Failed to read config file '" ++ Utf8.decodeLossy path ++ "': " ++ fault.message)
  | unusable _ .malformed => none
  | unusable _ (.mismatch mismatch) => some mismatch.message
  | invalidKind tag => some ("Unknown request kind '" ++ tag ++ "' (expected quality or graph)")

/-- The detailed form of a configuration error. -/
def detail : ConfigurationError → String
  | unreadable path fault =>
    "FileRead(" ++ Quoted.quoteBytes path ++ ", " ++ fault.detail ++ ")"
  | unusable _ _ => "TomlParse"
  | invalidKind tag => "InvalidKind(" ++ Quoted.quote tag ++ ")"

end ConfigurationError

end AssessmentRequest
