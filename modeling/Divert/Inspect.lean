/-
# Divert.Inspect — one-line views of the values that live as long as a run.

A view names the kind of a value and its parts, with two dots for the parts that are not shown.
-/
import Divert.Text.Quoted
import Divert.Translator

namespace Divert

/-- The view of a chain name. -/
def ChainName.inspect (chain : ChainName) : String :=
  let name := Text.quoted chain.text
  s!"ChainName({name})"

/-- The view of what installs and removes a chain. -/
def Lifecycle.inspect (chain : ChainName) : String :=
  s!"ChainController \x7b chain: {chain.inspect}, .. \x7d"

/-- The view of a protocol. -/
def Protocol.inspect : Protocol → String
  | tcp => "Tcp"
  | udp => "Udp"

/-- The view of a key. -/
def Key.inspect (key : Key) : String :=
  s!"AddressKey \x7b protocol: {key.protocol.inspect}, ip: {key.address} \x7d"

/-- The view of the redirects in a chain. -/
def Redirects.inspect (chain : ChainName) (r : Redirects) : String :=
  let entries := r.mappings.map fun r => s!"{r.key.inspect}: {r.port}"
  let entries := String.intercalate ", " entries
  s!"RedirectionTable \x7b chain: {chain.inspect}, entries: \x7b{entries}\x7d, .. \x7d"

/-- The view of a translator. -/
def Translator.inspect (t : Translator) : String :=
  let chain := Lifecycle.inspect t.chain
  let table := t.redirects.inspect t.chain
  s!"Translator \x7b chain: {chain}, table: {table}, .. \x7d"

/-- The view of what finds destinations. -/
def Destination.inspectResolver : String := "DestinationResolver \x7b .. \x7d"

end Divert
