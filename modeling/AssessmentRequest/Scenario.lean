import AssessmentRequest.Session
import AssessmentRequest.WorkingDirectory

/-!
# Scenarios

A scenario says in advance how the surroundings of a run answer: the files there are, the
addresses of hosts, the outcome of each attempt to connect and of each write, the other end of a
connection, and how much the output takes and whether it passes that on. A run in a scenario
leaves behind its result and the acts it did, in order. To ask for the other end of a connection
and to flush the output count as no acts.
-/

namespace AssessmentRequest

/-- Something that a run did to its surroundings. -/
inductive Act where
  /-- Read a file. -/
  | read (path : Bytes)
  /-- Looked up a host. -/
  | lookup (host : String) (port : UInt16)
  /-- Tried to connect to an address. -/
  | attempt (address : SocketAddress)
  /-- Wrote bytes to a connection. -/
  | write (bytes : Bytes)
  /-- Closed a connection. -/
  | close
  /-- Wrote bytes to the output. -/
  | print (bytes : Bytes)
  /-- Said something beside the log. -/
  | notice (text : String)
  /-- Recorded an event. -/
  | log (event : Journal.Event)
  deriving Repr, DecidableEq

namespace Act

/-- The address of an attempt to connect. -/
def attempted? : Act → Option SocketAddress
  | attempt address => some address
  | _ => none

/-- The bytes of a write to a connection. -/
def written? : Act → Option Bytes
  | write bytes => some bytes
  | _ => none

/-- The bytes that the output took. -/
def printed? : Act → Option Bytes
  | print bytes => some bytes
  | _ => none

/-- The event recorded. -/
def logged? : Act → Option Journal.Event
  | log event => some event
  | _ => none

/-- What was said, in the log or beside it. -/
def said? : Act → Option String
  | notice text => some text
  | log event => some event.text
  | _ => none

end Act

/-- What a run did, in order. -/
abbrev History := List Act

namespace History

/-- The addresses tried, in order. -/
def attempted (history : History) : List SocketAddress := history.filterMap Act.attempted?

/-- The writes to connections, in order. -/
def written (history : History) : List Bytes := history.filterMap Act.written?

/-- Everything that the output took. -/
def printed (history : History) : Bytes := (history.filterMap Act.printed?).flatten

/-- The events recorded, in order. -/
def logged (history : History) : List Journal.Event := history.filterMap Act.logged?

/-- Everything said, in order. -/
def said (history : History) : List String := history.filterMap Act.said?

end History

/-- How the surroundings of a run answer. -/
structure Scenario where
  /-- The files there are. -/
  directory : WorkingDirectory
  /-- The addresses of a host with a port. -/
  resolve : String → UInt16 → Except SystemFault (List SocketAddress)
  /-- The outcome of an attempt to connect, by the number of attempts before. A connection is known
  by an address. -/
  attempt : Nat → SocketAddress → Except SystemFault SocketAddress
  /-- The address at the other end of a connection, if it can be told: the one that the connection
  is known by, where nothing else is said. -/
  peer : SocketAddress → Except SystemFault SocketAddress := .ok
  /-- The outcome of a write, by the number of writes before. -/
  accept : Nat → Except SystemFault Unit
  /-- Number of bytes that the output takes; no bound if there is none. -/
  room : Option Nat
  /-- The outcome of a flush of the output. -/
  flush : Except SystemFault Unit := .ok ()

namespace Scenario

/-- The part of some bytes that the output still takes after `before` bytes. -/
def taken (scenario : Scenario) (before : Nat) (bytes : Bytes) : Bytes :=
  match scenario.room with
  | none => bytes
  | some room => bytes.take (room - before)

/-- The operations of a scenario. -/
def environment (scenario : Scenario) : Environment (StateM History) SocketAddress where
  read path := fun history => (scenario.directory.read path, history ++ [.read path])
  resolve host port := fun history =>
    (scenario.resolve host port, history ++ [.lookup host port])
  connect address _ := fun history =>
    (scenario.attempt history.attempted.length address, history ++ [.attempt address])
  peer link := fun history => (scenario.peer link, history)
  write _ bytes := fun history =>
    (scenario.accept history.written.length, history ++ [.write bytes])
  close _ := fun history => ((), history ++ [.close])
  print bytes := fun history =>
    let part := scenario.taken history.printed.length bytes
    (if part = bytes then .ok () else .error .sinkFull, history ++ [.print part])
  flush := fun history => (scenario.flush, history)
  notice text := fun history => ((), history ++ [.notice text])
  log event := fun history => ((), history ++ [.log event])

/-- Runs a configuration in a scenario. -/
def run (scenario : Scenario) (configuration : Configuration) :
    Except RunError (Option Summary) × History :=
  Session.run scenario.environment configuration []

/-- Delivers a request in a scenario. -/
def send (scenario : Scenario) (target : Target) (request : Request) :
    Except SendError Summary × History :=
  Delivery.send scenario.environment target request []

end Scenario

end AssessmentRequest
