import AssessmentRequest.Configuration
import AssessmentRequest.Environment

/-!
# Delivering a request

A request that can be sent is written, line by line, to the first address of the controller
that accepts a connection. The addresses are tried in order; if none accepts, the fault of
the last attempt is reported. Nothing is tried twice.
-/

namespace AssessmentRequest

/-- What a delivery amounted to. -/
structure Summary where
  /-- The address that the request was delivered to. -/
  peer : SocketAddress
  /-- Number of records. -/
  records : Nat
  /-- Number of bytes. -/
  bytesWritten : Nat
  deriving Repr, DecidableEq

/-- Why a request was not delivered. -/
inductive SendError where
  /-- It cannot be sent. -/
  | request (error : RequestError)
  /-- The host could not be looked up. -/
  | resolve (host : String) (fault : SystemFault)
  /-- The host has no address. -/
  | noAddress (host : String)
  /-- No address accepted a connection; the last one tried and its fault. -/
  | connect (address : SocketAddress) (fault : SystemFault)
  /-- The connection failed. -/
  | write (fault : SystemFault)
  deriving Repr, DecidableEq

/-- The detailed form of a request error. -/
def RequestError.detail : RequestError → String
  | .empty => "Empty"
  | .invalidField field value =>
    "InvalidField \x7b field: " ++ Quoted.quote field.name ++ ", value: " ++ Quoted.quote value
      ++ " \x7d"

namespace SendError

/-- The message of a send error. -/
def message : SendError → String
  | request error => "Invalid request: " ++ error.message
  | resolve host fault => "Failed to resolve '" ++ host ++ "': " ++ fault.message
  | noAddress host => "No addresses found for '" ++ host ++ "'"
  | connect address fault => "Failed to connect to " ++ address.render ++ ": " ++ fault.message
  | write fault => "Failed to send request: " ++ fault.message

/-- The message of the error behind a send error. -/
def source? : SendError → Option String
  | request error => some error.message
  | noAddress _ => none
  | resolve _ fault | connect _ fault | write fault => some fault.message

/-- The detailed form of a send error. -/
def detail : SendError → String
  | request error => "Request(" ++ error.detail ++ ")"
  | resolve host fault => "Resolve(" ++ Quoted.quote host ++ ", " ++ fault.detail ++ ")"
  | noAddress host => "NoAddress(" ++ Quoted.quote host ++ ")"
  | connect address fault => "Connect(" ++ address.render ++ ", " ++ fault.detail ++ ")"
  | write fault => "Write(" ++ fault.detail ++ ")"

end SendError

namespace Delivery

open Journal

variable {m : Type → Type} [Monad m] {Link : Type}

/-- A connection has been made. -/
def connectedEvent (peer : SocketAddress) : Event :=
  ⟨.info, .sender, "Connected to controller", [("peer", peer.render)]⟩

/-- An attempt to connect has failed. -/
def attemptFailedEvent (address : SocketAddress) (fault : SystemFault) : Event :=
  ⟨.debug, .sender, "Connect attempt failed",
    [("address", address.render), ("error", fault.message)]⟩

/-- A line is about to be written. -/
def sendingEvent (line : String) : Event := ⟨.debug, .sender, "Sending", [("line", line)]⟩

/-- Connects to the first address that accepts; else gives the last address tried with its
fault, `last` if there is no address to try. -/
def tryEach (env : Environment m Link) (timeout : Option UInt64)
    (last : Option (SocketAddress × SystemFault)) :
    List SocketAddress → m (Except (Option (SocketAddress × SystemFault)) Link)
  | [] => pure (.error last)
  | address :: rest => do
    match ← env.connect address timeout with
    | .ok link => pure (.ok link)
    | .error fault => do
      env.log (attemptFailedEvent address fault)
      tryEach env timeout (some (address, fault)) rest

/-- Connects to a target. -/
def connect (env : Environment m Link) (target : Target) : m (Except SendError Link) := do
  match ← env.resolve target.host target.port with
  | .error fault => pure (.error (.resolve target.host fault))
  | .ok addresses =>
    match ← tryEach env target.connectTimeout none addresses with
    | .ok link => pure (.ok link)
    | .error none => pure (.error (.noAddress target.host))
    | .error (some (address, fault)) => pure (.error (.connect address fault))

/-- Writes a line, and then its line feed. -/
def writeLine (env : Environment m Link) (link : Link) (line : String) :
    m (Except SystemFault Unit) := do
  match ← env.write link (Utf8.encode line) with
  | .error fault => pure (.error fault)
  | .ok () => env.write link [Wire.lineFeed]

/-- Writes lines, `written` bytes having been written before, and gives the number of bytes
written in the end. -/
def writeLines (env : Environment m Link) (link : Link) (written : Nat) :
    List String → m (Except SystemFault Nat)
  | [] => pure (.ok written)
  | line :: rest => do
    env.log (sendingEvent line)
    match ← writeLine env link line with
    | .error fault => pure (.error fault)
    | .ok () => writeLines env link (written + (Utf8.encode line).length + 1) rest

/-- Writes a request to a connection. -/
def sendOver (env : Environment m Link) (link : Link) (request : Request) :
    m (Except SendError Summary) := do
  match ← env.peer link with
  | .error fault => pure (.error (.write fault))
  | .ok peer => do
    env.log (connectedEvent peer)
    match ← writeLines env link 0 request.lines with
    | .error fault => pure (.error (.write fault))
    | .ok written => pure (.ok ⟨peer, request.count, written⟩)

/-- Delivers a request to a target. A request that cannot be sent is refused before anything
else is done, and the connection is closed in the end, whatever came of it. -/
def send (env : Environment m Link) (target : Target) (request : Request) :
    m (Except SendError Summary) := do
  match request.fault? with
  | some fault => pure (.error (.request fault))
  | none =>
    match ← connect env target with
    | .error error => pure (.error error)
    | .ok link => do
      let outcome ← sendOver env link request
      env.close link
      pure outcome

/-- The address and scope that a host is written as, if it is no name. -/
def written? (host : String) : Option (IpAddress × UInt32) :=
  match IpAddress.ofLiteral? host with
  | some ip => some (ip, 0)
  | none =>
    match IpAddress.ofNumerals? host with
    | some ip => some (ip, 0)
    | none => IpAddress.ofScoped? host

/-- The addresses of a host: the one that it is written as, else what `lookup` finds under
the name, each with its scope. -/
def resolveWith (lookup : String → m (Except SystemFault (List (IpAddress × UInt32))))
    (host : String) (port : UInt16) : m (Except SystemFault (List SocketAddress)) := do
  match written? host with
  | some (ip, scope) => pure (.ok [⟨ip, port, scope⟩])
  | none =>
    if host.toList.contains '\x00' then pure (.error .nulInName)
    else
      match ← lookup host with
      | .error fault => pure (.error fault)
      | .ok found => pure (.ok (found.map fun (ip, scope) => ⟨ip, port, scope⟩))

end Delivery

end AssessmentRequest
