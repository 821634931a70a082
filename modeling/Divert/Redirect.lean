/-
# Divert.Redirect — what is redirected, and where to.

A redirect sends the traffic for one key, a protocol and a destination address, to a local port.  Keys
are ordered: all of TCP before all of UDP, then by address, octet by octet.
-/
import Divert.Net.Address
import Divert.Net.Protocol

namespace Divert

/-! ## Keys -/

/-- The traffic that one redirect matches. -/
structure Key where
  protocol : Protocol
  address : Address
  deriving DecidableEq, Repr, Inhabited

namespace Key

/-- The place of a key in the order of keys. -/
def rank (k : Key) : Nat := k.protocol.rank * 0x100000000 + k.address.toNat

/-- Whether a key comes no later than another. -/
def le (x y : Key) : Bool := decide (x.rank ≤ y.rank)

/-- Keys in order. -/
def sorted (keys : List Key) : List Key := keys.mergeSort le

/-- Protocol and address with a slash between them. -/
def toText (k : Key) : String := s!"{k.protocol}/{k.address}"

instance : ToString Key := ⟨toText⟩

end Key

/-! ## Redirects -/

/-- Traffic for `key` is delivered to the local port `port`. -/
structure Redirect where
  key : Key
  port : UInt16
  deriving DecidableEq, Repr, Inhabited

end Divert
