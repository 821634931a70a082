/-
# Divert.Net.Destination — where a redirected connection was going.

The kernel hands out a socket address of sixteen bytes: the family in the byte order of the host, the
port in network order, four octets, and padding.  A destination is written in seven bytes, a tag for the
kind of address first, and as text with a colon before the port.
-/
import Divert.Net.Address
import Divert.SystemError

namespace Divert

/-! ## Socket addresses -/

/-- The length of a socket address. -/
def socketAddressLength : Nat := 16

/-- The family of IPv4 socket addresses. -/
def inetFamily : UInt16 := 2

/-- A socket address as the kernel fills it in. -/
abbrev SocketAddress := Vector UInt8 socketAddressLength

namespace SocketAddress

/-- The number of two bytes. -/
def word (high low : UInt8) : UInt16 := high.toUInt16 * 256 + low.toUInt16

/-- The family, whose low byte comes first. -/
def family (s : SocketAddress) : UInt16 := word s[1] s[0]

/-- The port, whose high byte comes first. -/
def port (s : SocketAddress) : UInt16 := word s[2] s[3]

/-- The address. -/
def address (s : SocketAddress) : Address := ⟨s[4], s[5], s[6], s[7]⟩

/-- The socket address of those bytes, if they are as many as it has. -/
def ofBytes? (bytes : List UInt8) : Option SocketAddress :=
  if h : bytes.toArray.size = socketAddressLength then some ⟨bytes.toArray, h⟩ else none

end SocketAddress

/-! ## The query -/

/-- The socket option that asks where a connection was going. -/
def destinationOption : Nat := 80

/-- Ask the kernel where a connection was going.  `getOption` fills the value of a socket option in and
says how many bytes that were; fewer than a socket address has are refused. -/
def queryDestination (getOption : Nat → Except SystemError (SocketAddress × UInt32)) :
    Except SystemError SocketAddress := do
  let (address, filled) ← getOption destinationOption
  if filled.toNat < socketAddressLength then
    throw (.custom .other s!"SO_ORIGINAL_DST returned {filled} bytes, expected {socketAddressLength}")
  return address

/-! ## Resolution errors -/

/-- Why the destination of a connection is not known. -/
inductive ResolveError where
  /-- The connection has no usable socket. -/
  | descriptor (cause : SystemError)
  /-- The query failed. -/
  | query (cause : SystemError)
  /-- The destination is not an IPv4 address. -/
  | unsupportedFamily (family : UInt16)
  deriving DecidableEq, Repr

namespace ResolveError

/-- The error in words. -/
def message : ResolveError → String
  | descriptor cause => s!"Connection descriptor unavailable: {cause}"
  | query cause => s!"SO_ORIGINAL_DST query failed (connection not redirected?): {cause}"
  | unsupportedFamily family => s!"Unsupported address family {family} (only AF_INET is supported)"

/-- Whether the same query may succeed later. -/
def isRecoverable : ResolveError → Bool
  | query cause => cause.kind = .interrupted
  | descriptor _ | unsupportedFamily _ => false

end ResolveError

/-! ## Destinations -/

/-- An address and a port. -/
structure Destination where
  address : Address
  port : UInt16
  deriving DecidableEq, Repr

namespace Destination

/-- The tag of IPv4 addresses in the written form. -/
def inetTag : UInt8 := 1

/-- The length of the written form. -/
def rawLength : Nat := 7

/-- Read a socket address. -/
def ofSocketAddress (s : SocketAddress) : Except ResolveError Destination :=
  if s.family = inetFamily then .ok ⟨s.address, s.port⟩ else .error (.unsupportedFamily s.family)

/-- The bytes of the written form: tag, octets, port. -/
def rawBytes (d : Destination) : Vector UInt8 rawLength :=
  #v[inetTag, d.address.a, d.address.b, d.address.c, d.address.d, (d.port / 256).toUInt8,
    (d.port % 256).toUInt8]

/-- The written form. -/
def raw (d : Destination) : List UInt8 := d.rawBytes.toList

/-- Append the written form to a buffer. -/
def encode (d : Destination) (buffer : List UInt8) : List UInt8 := buffer ++ d.raw

/-- Address and port with a colon between them. -/
def hostPort (d : Destination) : String := s!"{d.address}:{d.port}"

instance : ToString Destination := ⟨hostPort⟩

/-- Where a connection was going, from what the query for it returned.  A descriptor that is closed (9)
or no socket (88) is told apart from a query that failed. -/
def resolve (query : Except SystemError SocketAddress) : Except ResolveError Destination :=
  match query with
  | .ok s => ofSocketAddress s
  | .error cause =>
    .error (if cause = .os 9 ∨ cause = .os 88 then .descriptor cause else .query cause)

/-- Where a connection was going, by the kernel. -/
def resolveByKernel (getOption : Nat → Except SystemError (SocketAddress × UInt32)) :
    Except ResolveError Destination :=
  resolve (queryDestination getOption)

end Destination

end Divert
