/-!
# Test records

A record describes one document to assess: its identifier, the two files that hold its
metadata, the suite to run and the node it came from. On the wire a record is one line of
five fields with commas between them. Nothing is quoted, so a field that holds a comma or
a line break cannot be sent.
-/

namespace AssessmentRequest

/-- The fields of a record. -/
inductive Field where
  | identifier
  | metadataFile
  | scriptFile
  | suiteId
  | nodeId
  deriving Repr, DecidableEq

namespace Field

/-- Every field once, in the order of a record line. -/
def all : List Field := [identifier, metadataFile, scriptFile, suiteId, nodeId]

/-- The name of a field in messages. -/
def name : Field → String
  | identifier => "identifier"
  | metadataFile => "metadata_file"
  | scriptFile => "script_file"
  | suiteId => "suite_id"
  | nodeId => "node_id"

end Field

/-- One document to assess. -/
structure Record where
  /-- Identifier of the document. -/
  identifier : String
  /-- Path of the science metadata. -/
  metadataFile : String
  /-- Path of the system metadata. -/
  scriptFile : String
  /-- Assessment suite to run. -/
  suiteId : String
  /-- Node that the document came from. -/
  nodeId : String
  deriving Repr, DecidableEq

/-- Characters that a file name made from an identifier may not hold. -/
def isUnsafeInFileName (char : Char) : Bool :=
  char = '/' || char = '(' || char = ')' || char = '"' || char = ':'

/-- The file name of an identifier: each unsafe character becomes an underscore. -/
def sanitize (identifier : String) : String :=
  String.ofList (identifier.toList.map fun char => if isUnsafeInFileName char then '_' else char)

/-- A directory path without the slashes at its end. -/
def trimSlashes (path : String) : String :=
  String.ofList (path.toList.reverse.dropWhile (· = '/')).reverse

namespace Record

/-- The record of a document whose two files lie in a test directory, under the file name
of its identifier. -/
def ofDocument (identifier testDir suiteId nodeId : String) : Record where
  identifier := identifier
  metadataFile := trimSlashes testDir ++ "/" ++ sanitize identifier ++ ".xml"
  scriptFile := trimSlashes testDir ++ "/" ++ sanitize identifier ++ ".sm"
  suiteId := suiteId
  nodeId := nodeId

/-- The text of one field. -/
def get (record : Record) : Field → String
  | .identifier => record.identifier
  | .metadataFile => record.metadataFile
  | .scriptFile => record.scriptFile
  | .suiteId => record.suiteId
  | .nodeId => record.nodeId

/-- The record with one field replaced. -/
def set (record : Record) (field : Field) (value : String) : Record :=
  match field with
  | .identifier => { record with identifier := value }
  | .metadataFile => { record with metadataFile := value }
  | .scriptFile => { record with scriptFile := value }
  | .suiteId => { record with suiteId := value }
  | .nodeId => { record with nodeId := value }

@[simp] theorem get_set_self (record : Record) (field : Field) (value : String) :
    (record.set field value).get field = value := by
  cases field <;> rfl

theorem get_set_of_ne (record : Record) {field other : Field} (value : String)
    (h : other ≠ field) : (record.set field value).get other = record.get other := by
  cases field <;> cases other <;> simp_all [set, get]

/-- The texts of all fields in the order of a record line. -/
def values (record : Record) : List String := Field.all.map record.get

/-- The record line: the fields with a comma between each two. -/
def line (record : Record) : String := ",".intercalate record.values

/-- Reads a record line: exactly five parts between its commas, each taken as it is. -/
def ofLine? (line : String) : Option Record :=
  match line.toList.splitOn ',' with
  | [identifier, metadataFile, scriptFile, suiteId, nodeId] =>
    some {
      identifier := String.ofList identifier
      metadataFile := String.ofList metadataFile
      scriptFile := String.ofList scriptFile
      suiteId := String.ofList suiteId
      nodeId := String.ofList nodeId }
  | _ => none

/-- Characters that would end a field or a line early. -/
def isBreaking (char : Char) : Bool := char = ',' || char = '\r' || char = '\n'

/-- The first field, in line order, that cannot be sent. -/
def badField? (record : Record) : Option Field :=
  Field.all.find? fun field => (record.get field).toList.any isBreaking

end Record

end AssessmentRequest
