import AssessmentRequest.Program
import Std.Async.DNS
import Std.Async.TCP

/-!
# The command

The program on a real system: files, name lookup, connections, standard output and a log on
standard error. Everything that is decided is decided by `Program.execute`.
-/

namespace AssessmentRequest.Command

open Std.Async

/-- A connection. -/
abbrev Link := TCP.Socket.Client

/-- The number by which the system knows an error. -/
def numberOf : IO.Error → Option UInt32
  | .alreadyExists _ number _ | .otherError number _ | .resourceBusy number _
  | .resourceVanished number _ | .unsupportedOperation number _ | .hardwareFault number _
  | .unsatisfiedConstraints number _ | .illegalOperation number _ | .protocolError number _
  | .timeExpired number _ | .interrupted _ number _ | .noFileOrDirectory _ number _
  | .invalidArgument _ number _ | .permissionDenied _ number _ | .resourceExhausted _ number _
  | .inappropriateType _ number _ | .noSuchThing _ number _ => some number
  | .unexpectedEof | .userError _ => none

/-- The faults that have a number. -/
def numbered : List SystemFault :=
  [.notFound, .notDirectory, .isDirectory, .nameTooLong, .invalidArgument, .unavailable,
    .unreachable, .refused]

/-- The fault that an error of the system is. -/
def faultOf (error : IO.Error) : SystemFault :=
  let known := do
    let number ← numberOf error
    numbered.find? fun (fault : SystemFault) => fault.code? = some number.toNat
  known.getD (.other (toString error))

/-- Does something and tells its fault. -/
def attempt {α : Type} (action : IO α) : IO (Except SystemFault α) := do
  match ← action.toBaseIO with
  | .ok value => pure (.ok value)
  | .error error => pure (.error (faultOf error))

/-- An address in the form of the socket library. -/
def toNet (address : SocketAddress) : Std.Net.SocketAddress :=
  match address.ip with
  | .v4 first second third fourth =>
    .v4 ⟨⟨#v[first, second, third, fourth]⟩, address.port⟩
  | .v6 groups => .v6 ⟨⟨groups⟩, address.port⟩

/-- A machine in the form of this library. -/
def ofNetIp : Std.Net.IPAddr → IpAddress
  | .v4 ip => .v4 ip.octets[0] ip.octets[1] ip.octets[2] ip.octets[3]
  | .v6 ip => .v6 ip.segments

/-- A socket address in the form of this library. -/
def ofNet : Std.Net.SocketAddress → SocketAddress
  | .v4 address => ⟨ofNetIp (.v4 address.addr), address.port, 0⟩
  | .v6 address => ⟨ofNetIp (.v6 address.addr), address.port, 0⟩

/-- Waits for a task, looking each millisecond. -/
def await (task : AsyncTask Unit) : Nat → IO (Except SystemFault Unit)
  | 0 => pure (.error .timedOut)
  | more + 1 => do
    if ← IO.hasFinished task then attempt (AsyncTask.block task)
    else
      IO.sleep 1
      await task more

/-- Connects to an address. -/
def connect (address : SocketAddress) (timeout : Option UInt64) :
    IO (Except SystemFault Link) := do
  match ← attempt TCP.Socket.Client.mk with
  | .error fault => pure (.error fault)
  | .ok link =>
    let outcome ←
      match timeout with
      | none => attempt (link.connect (toNet address)).block
      | some limit => do
        match ← attempt (link.connect (toNet address)).toIO with
        | .error fault => pure (.error fault)
        | .ok task => await task (limit.toNat + 1)
    match outcome with
    | .error fault => pure (.error fault)
    | .ok () => do
      let _ ← attempt link.noDelay
      pure (.ok link)

/-- Looks a name up. -/
def lookup (host : String) : IO (Except SystemFault (List (IpAddress × UInt32))) := do
  match ← (DNS.getAddrInfo host "").block.toBaseIO with
  | .error error => pure (.error (.unknownHost (toString error)))
  | .ok found => pure (.ok (found.toList.map fun ip => (ofNetIp ip, 0)))

/-- The real system. -/
def environment : Environment IO Link where
  read path := do
    match ← attempt (IO.FS.readBinFile (Utf8.decodeLossy path)) with
    | .error fault => pure (.error fault)
    | .ok content => pure (.ok content.toList)
  resolve host port := Delivery.resolveWith lookup host port
  connect := connect
  peer link := do
    match ← attempt link.getPeerName with
    | .error fault => pure (.error fault)
    | .ok address => pure (.ok (ofNet address))
  write link bytes := attempt (link.send bytes.toByteArray).block
  close link := do
    let _ ← attempt link.shutdown.block
  print bytes := attempt do
    let output ← IO.getStdout
    output.write bytes.toByteArray
  flush := attempt do
    let output ← IO.getStdout
    output.flush
  notice := IO.eprintln
  log event := IO.eprintln event.text

end AssessmentRequest.Command

/-- Runs the program on its command line. -/
def main (words : List String) : IO UInt32 := do
  let override ← IO.getEnv "RUST_LOG"
  let exit ← AssessmentRequest.Program.execute AssessmentRequest.Command.environment override
    (words.map AssessmentRequest.Utf8.encode)
  match exit.complaint with
  | some complaint =>
    IO.eprintln ((if exit.code = 2 then "error: " else "Error: ") ++ complaint)
  | none => pure ()
  pure exit.code
