import AssessmentRequest.SystemFault
import AssessmentRequest.Text.Utf8

/-!
# A working directory held in memory

Files and directories below a working directory, and what reading a path finds there. A
path is walked name by name, and each step needs a directory to start from. Outside of the
working directory there is what every system has: the directories at its root, the null
device, and the lists of users and of hosts.
-/

namespace AssessmentRequest

/-- The files and directories below a working directory. Every directory on the way to an
entry exists too. -/
structure WorkingDirectory where
  /-- Each entry by the names that lead to it: the content of a file, or `none` for a
  directory. -/
  entries : List (List Bytes × Option Bytes)
  deriving Repr

namespace WorkingDirectory

/-- The byte between the names of a path. -/
def separator : UInt8 := 0x2F

/-- The names of a path, without the empty ones. -/
def names (path : Bytes) : List Bytes := (path.splitOn separator).filter fun name => !name.isEmpty

/-- A directory tree of files and directories under relative paths. -/
def ofPaths (entries : List (Bytes × Option Bytes)) : WorkingDirectory where
  entries := entries.map fun (path, content) => (names path, content)

/-- What stands under a path among some entries, if anything does: the content of a file, or
`none` for a directory. -/
def look (entries : List (List Bytes × Option Bytes)) (path : List Bytes) :
    Option (Option Bytes) :=
  match entries.find? fun entry => entry.1 = path ∧ entry.2.isSome with
  | some (_, content) => some content
  | none =>
    if path.isEmpty ∨ (entries.any fun entry => path.isPrefixOf entry.1) then some none
    else none

/-- The directories at the root of a system. -/
def rootDirectories : List String :=
  ["bin", "boot", "dev", "etc", "home", "lib", "media", "mnt", "opt", "proc", "root", "run",
    "sbin", "srv", "sys", "tmp", "usr", "var"]

/-- The files that every system has, with enough of their content to tell that they are no
settings. -/
def systemFiles : List (String × String) :=
  [("/dev/null", ""), ("/etc/hosts", "127.0.0.1 localhost\n"),
    ("/etc/passwd", "root:x:0:0:root:/root:/bin/sh\n")]

/-- What every system has outside of a working directory, by the names that lead to it from
the root. -/
def surroundings : List (List Bytes × Option Bytes) :=
  (systemFiles.map fun (path, content) => (names (Utf8.encode path), some (Utf8.encode content)))
    ++ rootDirectories.map fun name => ([Utf8.encode name], none)

/-- The directory that holds the working directory. -/
def parent : List Bytes := [Utf8.encode "tmp"]

/-- Where a walk has come to. -/
inductive Place where
  /-- The directory that the names lead to, inside of the working directory or from the
  root. -/
  | directory (inside : Bool) (path : List Bytes)
  /-- A file with its content. -/
  | file (content : Bytes)
  deriving Repr, DecidableEq

/-- Names are at most this long. -/
def nameLimit : Nat := 255

/-- Paths are at most this long. -/
def pathLimit : Nat := 4095

/-- Follows one name of a path. -/
def follow (tree : WorkingDirectory) (place : Place) (name : Bytes) : Except SystemFault Place :=
  match place with
  | .file _ => .error .notDirectory
  | .directory inside path =>
    if name = [0x2E] then .ok place
    else if name = [0x2E, 0x2E] then
      .ok (if inside ∧ path.isEmpty then .directory false parent
        else .directory inside path.dropLast)
    else if nameLimit < name.length then .error .nameTooLong
    else
      match look (if inside then tree.entries else surroundings) (path ++ [name]) with
      | some (some content) => .ok (.file content)
      | some none => .ok (.directory inside (path ++ [name]))
      | none => .error .notFound

/-- The names to follow. A slash at the end asks for a directory, as a dot would. -/
def steps (path : Bytes) : List Bytes :=
  names path ++ (if path.getLast? = some separator then [[0x2E]] else [])

/-- The content of the file under a path. -/
def read (tree : WorkingDirectory) (path : Bytes) : Except SystemFault Bytes := do
  if path.contains 0 then throw .nulInName
  if path.isEmpty then throw .notFound
  if pathLimit < path.length then throw .nameTooLong
  let start := Place.directory (path.head? ≠ some separator) []
  match ← (steps path).foldlM tree.follow start with
  | .file content => .ok content
  | _ => .error .isDirectory

end WorkingDirectory

end AssessmentRequest
