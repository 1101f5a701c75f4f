import AssessmentRequest.Delivery.Address
import AssessmentRequest.Journal.Event
import AssessmentRequest.SystemFault

/-!
# The surroundings of a run

Everything that a run asks of the system, as a record of operations. The same run acts on a
real system or on a scenario, according to the operations it is given.
-/

namespace AssessmentRequest

/-- The operations of a system in the monad `m`, whose connections are values of `Link`. -/
structure Environment (m : Type → Type) (Link : Type) where
  /-- The content of a file. -/
  read : Bytes → m (Except SystemFault Bytes)
  /-- The addresses of a host, with a port. -/
  resolve : String → UInt16 → m (Except SystemFault (List SocketAddress))
  /-- Connects to an address, within a number of milliseconds if one is given. -/
  connect : SocketAddress → Option UInt64 → m (Except SystemFault Link)
  /-- The address at the other end of a connection. -/
  peer : Link → m (Except SystemFault SocketAddress)
  /-- Writes bytes to a connection. -/
  write : Link → Bytes → m (Except SystemFault Unit)
  /-- Closes a connection. -/
  close : Link → m Unit
  /-- Writes bytes to the output of the program, all of them or up to the first fault. -/
  print : Bytes → m (Except SystemFault Unit)
  /-- Has the output pass on what it has taken. -/
  flush : m (Except SystemFault Unit)
  /-- Says something beside the log. -/
  notice : String → m Unit
  /-- Records an event. -/
  log : Journal.Event → m Unit

end AssessmentRequest
