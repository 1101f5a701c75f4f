import AssessmentRequest.Delivery.Address
import AssessmentRequest.SystemFault

/-!
# A system without a network

Of all names only that of the machine itself has an address, and no attempt to connect
succeeds. A name that could be a host is looked for in vain; any other is refused at once.
-/

namespace AssessmentRequest.Isolated

/-- The name of the machine itself. -/
def localName : String := "localhost"

/-- Names of hosts are at most this long. -/
def nameLimit : Nat := 253

/-- The parts of a name between its points are at most this long. -/
def labelLimit : Nat := 63

/-- A character of the name of a host. -/
def isNameChar (char : Char) : Bool := char.isAlphanum || char = '-' || char = '_'

/-- The parts between the points of a name, which may end with a point. -/
def labels (name : List Char) : List (List Char) :=
  (if name.getLast? = some '.' then name.dropLast else name).splitOn '.'

/-- A name could be that of a host. -/
def isHostName (name : List Char) : Bool :=
  name = ['.'] || (name.head? != some '-' && name.length ≤ nameLimit
    && (labels name).all fun label =>
      !label.isEmpty && label.length ≤ labelLimit && label.all isNameChar)

/-- The addresses of a name, each with its scope. -/
def lookup (host : String) : Except SystemFault (List (IpAddress × UInt32)) :=
  if host.toList.map Char.toLower = localName.toList then .ok [(.v4 127 0 0 1, 0)]
  else if isHostName host.toList then
    .error (.unknownHost "Temporary failure in name resolution")
  else .error (.unknownHost "Name or service not known")

/-- Why an attempt to connect to an address fails. There is no address of version 6 to
connect from, and an address of one link needs to be told which. -/
def fault (address : SocketAddress) : SystemFault :=
  match address.ip with
  | .v4 .. => .unreachable
  | .v6 _ =>
    if address.ip.isMapped || address.ip.isMulticast then .unreachable
    else if address.ip.isLinkLocal && address.scope = 0 then .invalidArgument
    else .unavailable

end AssessmentRequest.Isolated
