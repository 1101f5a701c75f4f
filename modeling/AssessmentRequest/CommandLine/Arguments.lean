import AssessmentRequest.CommandLine.Usage

/-!
# Reading the command line

Words are taken from left to right. An option whose value is a word of its own, and the
port, are checked only when the next option or the port is taken, or at the end; until then
they are pending. An attached value and a flag are checked at once. A word that is no option
is reported before anything that is pending.
-/

namespace AssessmentRequest

/-- What a command line says. -/
structure Arguments where
  /-- Port of the controller. -/
  port : Option UInt16 := none
  /-- Path of the settings file. -/
  config : Option Bytes := none
  /-- Name or address of the controller. -/
  host : Option String := none
  /-- Word for the kind of request. -/
  kind : Option String := none
  /-- Identifiers of the documents; empty if none is given. -/
  identifiers : List String := []
  /-- Directory of the test documents. -/
  testDir : Option String := none
  /-- Assessment suite to run. -/
  suiteId : Option String := none
  /-- Node that the documents come from. -/
  nodeId : Option String := none
  /-- Bound on the time for a connection attempt, in milliseconds. -/
  connectTimeout : Option UInt64 := none
  /-- Write the request out instead of sending it. -/
  dryRun : Bool := false
  /-- The log filter. -/
  logLevel : Option String := none
  deriving Repr, DecidableEq

namespace Arguments

open CommandLine

/-- An option has been given. The list of identifiers may grow and never counts. -/
def has (arguments : Arguments) : Named → Bool
  | .config => arguments.config.isSome
  | .host => arguments.host.isSome
  | .kind => arguments.kind.isSome
  | .identifier => false
  | .testDir => arguments.testDir.isSome
  | .suiteId => arguments.suiteId.isSome
  | .nodeId => arguments.nodeId.isSome
  | .connectTimeout => arguments.connectTimeout.isSome
  | .logLevel => arguments.logLevel.isSome

/-- A value as a text. -/
def text (value : Bytes) : Except Stop String :=
  match Utf8.decode? value with
  | some text => .ok text
  | none => .error .invalidUtf8

/-- A value as a port. -/
def readPort (value : Bytes) : Except Stop UInt16 := do
  let shown ← text value
  match Numeral.readInt 64 shown.toList with
  | .error fault => .error (.badNumber portShown shown (.numeral fault))
  | .ok number =>
    if 0 ≤ number ∧ number < UInt16.size then .ok (UInt16.ofNat number.toNat)
    else .error (.badNumber portShown shown (.notPort number))

/-- A value as a number of milliseconds. -/
def readMilliseconds (value : Bytes) : Except Stop UInt64 := do
  let shown ← text value
  match Numeral.readNat (UInt64.size - 1) shown.toList with
  | .error fault => .error (.badNumber Named.connectTimeout.shown shown (.numeral fault))
  | .ok number => .ok (UInt64.ofNat number)

/-- Takes the value of an option, whether or not the option has been given before. -/
def set (arguments : Arguments) (option : Named) (value : Bytes) : Except Stop Arguments :=
  match option with
  | .config =>
    if value.isEmpty then .error (.missingValue .config)
    else .ok { arguments with config := some value }
  | .host => do return { arguments with host := some (← text value) }
  | .kind => do return { arguments with kind := some (← text value) }
  | .identifier => do
    return { arguments with identifiers := arguments.identifiers ++ [← text value] }
  | .testDir => do return { arguments with testDir := some (← text value) }
  | .suiteId => do return { arguments with suiteId := some (← text value) }
  | .nodeId => do return { arguments with nodeId := some (← text value) }
  | .connectTimeout => do
    return { arguments with connectTimeout := some (← readMilliseconds value) }
  | .logLevel => do return { arguments with logLevel := some (← text value) }

/-- Takes an option with its value, once. -/
def give (arguments : Arguments) (option : Named) (value : Bytes) : Except Stop Arguments :=
  if arguments.has option then .error (.repeated (.valued option)) else arguments.set option value

/-- Takes the port. -/
def givePort (arguments : Arguments) (value : Bytes) : Except Stop Arguments := do
  return { arguments with port := some (← readPort value) }

/-- Takes a flag. -/
def raise (arguments : Arguments) : Flag → Except Stop Arguments
  | .dryRun =>
    if arguments.dryRun then .error (.repeated (.bare .dryRun))
    else .ok { arguments with dryRun := true }
  | .help => .error .help
  | .version => .error .version

end Arguments

namespace CommandLine

/-- What has been taken and not yet been checked. -/
inductive Pending where
  /-- Nothing. -/
  | nothing
  /-- An option, and its value once it has been met. -/
  | option (option : Named) (value : Option Bytes)
  /-- The port. -/
  | port (value : Bytes)
  deriving Repr, DecidableEq

/-- How far a command line has been read. -/
structure Progress where
  /-- What has been checked. -/
  arguments : Arguments := {}
  /-- What has still to be checked. -/
  pending : Pending := .nothing
  /-- A port has been met. -/
  hasPort : Bool := false
  /-- Only the port may still come. -/
  onlyPort : Bool := false
  deriving Repr, DecidableEq

namespace Progress

/-- Checks what is pending. -/
def settle (progress : Progress) : Except Stop Arguments :=
  match progress.pending with
  | .nothing => .ok progress.arguments
  | .option option none => .error (.missingValue option)
  | .option option (some value) => progress.arguments.give option value
  | .port value => progress.arguments.givePort value

/-- Takes an option, with the value attached to it if there is one. -/
def takeOption (progress : Progress) (option : Named) (attached : Option Bytes) :
    Except Stop Progress := do
  let arguments ← progress.settle
  match attached with
  | some value =>
    return { progress with arguments := ← arguments.give option value, pending := .nothing }
  | none => return { progress with arguments, pending := .option option none }

/-- Takes a flag. -/
def takeFlag (progress : Progress) (flag : Flag) : Except Stop Progress := do
  let arguments ← progress.settle
  return { progress with arguments := ← arguments.raise flag, pending := .nothing }

/-- Takes the port; there is one at most. -/
def takePort (progress : Progress) (word : Bytes) : Except Stop Progress := do
  if progress.hasPort then .error (.unknownArgument (Utf8.decodeLossy word))
  else
    let arguments ← progress.settle
    return { progress with arguments, pending := .port word, hasPort := true }

/-- Takes a word that begins with no dash, or a lone dash. -/
def takePlain (progress : Progress) (word : Bytes) : Except Stop Progress :=
  match progress.pending with
  | .option option none => .ok { progress with pending := .option option (some word) }
  | _ => progress.takePort word

/-- Takes a long option, behind its two dashes. -/
def takeLong (progress : Progress) (name : Bytes) (attached : Option Bytes) :
    Except Stop Progress :=
  match (Utf8.decode? name).bind Switch.ofName? with
  | none => .error (.unknownArgument ("--" ++ Utf8.decodeLossy name))
  | some (.valued option) => progress.takeOption option attached
  | some (.bare flag) =>
    match attached with
    | some value => .error (.surplusValue (Utf8.decodeLossy value) flag)
    | none => progress.takeFlag flag

/-- The value attached to a letter: what follows it, less one equals sign. -/
def attachedToLetter : Bytes → Option Bytes
  | [] => none
  | byte :: rest => if byte = 0x3D then some rest else some (byte :: rest)

/-- Takes an option written with its letter, behind the dash. -/
def takeShort (progress : Progress) (word : Bytes) : Except Stop Progress :=
  match Utf8.head? word with
  | none => .error (.unknownArgument ("-" ++ Utf8.decodeLossy word))
  | some (letter, rest) =>
    match Switch.ofLetter? letter with
    | none => .error (.unknownArgument ("-" ++ letter.toString))
    | some (.valued option) => progress.takeOption option (attachedToLetter rest)
    | some (.bare flag) => progress.takeFlag flag

/-- The name in a long option, and the value behind its first equals sign. -/
def splitLong (word : Bytes) : Bytes × Option Bytes :=
  (word.takeWhile (· ≠ 0x3D), (word.dropWhile (· ≠ 0x3D)).tail?)

/-- Takes the next word. -/
def take (progress : Progress) (word : Bytes) : Except Stop Progress :=
  if progress.onlyPort then progress.takePort word
  else
    match word with
    | [0x2D] => progress.takePlain word
    | [0x2D, 0x2D] => .ok { progress with onlyPort := true }
    | 0x2D :: 0x2D :: rest => progress.takeLong (splitLong rest).1 (splitLong rest).2
    | 0x2D :: rest => progress.takeShort rest
    | _ => progress.takePlain word

end Progress

/-- Reads the words of a command line, the name of the program not among them. -/
def parse (words : List Bytes) : Except Stop Arguments := do
  let progress ← words.foldlM Progress.take {}
  progress.settle

end CommandLine

end AssessmentRequest
