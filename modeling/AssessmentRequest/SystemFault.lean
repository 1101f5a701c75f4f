import AssessmentRequest.Text.Quoted

/-!
# Faults of the system

What the operating system answers when a file cannot be read or a connection cannot be
used, in the two forms in which it is shown: a message for people and a detailed form.
-/

namespace AssessmentRequest

/-- Why an operation of the system failed. -/
inductive SystemFault where
  /-- There is no such file. -/
  | notFound
  /-- A file stands in the way where a directory is needed. -/
  | notDirectory
  /-- A directory cannot be read as a file. -/
  | isDirectory
  /-- A path is longer than the system allows. -/
  | nameTooLong
  /-- The address cannot be used in this way. -/
  | invalidArgument
  /-- There is no local address to connect from. -/
  | unavailable
  /-- No network leads to the address. -/
  | unreachable
  /-- Nobody listens at the address. -/
  | refused
  /-- Nobody answered in time. -/
  | timedOut
  /-- A file is not UTF-8. -/
  | invalidUtf8
  /-- A name holds a NUL. -/
  | nulInName
  /-- A sink takes no more bytes. -/
  | sinkFull
  /-- A host is not known, and why. -/
  | unknownHost (reason : String)
  /-- Another fault, in the words of whoever reports it. -/
  | other (text : String)
  deriving Repr, DecidableEq

namespace SystemFault

/-- The number by which the operating system knows a fault. -/
def code? : SystemFault → Option Nat
  | notFound => some 2
  | notDirectory => some 20
  | isDirectory => some 21
  | nameTooLong => some 36
  | invalidArgument => some 22
  | unavailable => some 99
  | unreachable => some 101
  | refused => some 111
  | _ => none

/-- The class of a fault. -/
def kind : SystemFault → String
  | notFound => "NotFound"
  | notDirectory => "NotADirectory"
  | isDirectory => "IsADirectory"
  | nameTooLong => "InvalidFilename"
  | invalidArgument => "InvalidInput"
  | unavailable => "AddrNotAvailable"
  | unreachable => "NetworkUnreachable"
  | refused => "ConnectionRefused"
  | timedOut => "TimedOut"
  | invalidUtf8 => "InvalidData"
  | nulInName => "InvalidInput"
  | sinkFull => "WriteZero"
  | unknownHost _ => "Uncategorized"
  | other _ => "Other"

/-- The words for a fault, without its number. -/
def text : SystemFault → String
  | notFound => "No such file or directory"
  | notDirectory => "Not a directory"
  | isDirectory => "Is a directory"
  | nameTooLong => "File name too long"
  | invalidArgument => "Invalid argument"
  | unavailable => "Cannot assign requested address"
  | unreachable => "Network is unreachable"
  | refused => "Connection refused"
  | timedOut => "timed out"
  | invalidUtf8 => "stream did not contain valid UTF-8"
  | nulInName => "file name contained an unexpected NUL byte"
  | sinkFull => "failed to write whole buffer"
  | unknownHost reason => "failed to lookup address information: " ++ reason
  | other text => text

/-- The message of a fault. -/
def message (fault : SystemFault) : String :=
  match fault.code? with
  | some code => fault.text ++ " (os error " ++ toString code ++ ")"
  | none => fault.text

/-- The detailed form of a fault. -/
def detail (fault : SystemFault) : String :=
  match fault.code?, fault with
  | some code, _ =>
    "Os \x7b code: " ++ toString code ++ ", kind: " ++ fault.kind ++ ", message: "
      ++ Quoted.quote fault.text ++ " \x7d"
  | none, timedOut => "Kind(TimedOut)"
  | none, unknownHost _ | none, other _ =>
    "Custom \x7b kind: " ++ fault.kind ++ ", error: " ++ Quoted.quote fault.text ++ " \x7d"
  | none, _ =>
    "Error \x7b kind: " ++ fault.kind ++ ", message: " ++ Quoted.quote fault.text ++ " \x7d"

end SystemFault

end AssessmentRequest
