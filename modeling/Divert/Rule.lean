/-
# Divert.Rule — the texts of the rules that are installed.

Rules are written as the arguments of the administration command, the target first, so that other
tools can show and remove them.
-/
import Divert.ChainName

namespace Divert

/-! ## The table and its hook points -/

/-- The packet-filter table that every rule lives in. -/
def natTable : String := "nat"

/-- A built-in chain from which traffic is sent into our chain. -/
inductive Hook where
  /-- Traffic that starts on this host. -/
  | output
  /-- Traffic that arrives for routing. -/
  | prerouting
  deriving DecidableEq, Repr

namespace Hook

/-- Both hook points, in the order of installation. -/
def all : List Hook := [output, prerouting]

/-- The built-in chain of a hook point. -/
def chain : Hook → String
  | output => "OUTPUT"
  | prerouting => "PREROUTING"

instance : ToString Hook := ⟨chain⟩

end Hook

/-! ## Rule texts -/

namespace Rule

/-- The option that names a rule's target. -/
def jumpOption : String := "-j"

/-- The rule that jumps to the chain of that name. -/
def jumpTo (chain : String) : String := s!"{jumpOption} {chain}"

/-- The rule that jumps to our chain. -/
def jump (chain : ChainName) : String := jumpTo chain.text

/-- The rule that lets loopback traffic through as it is. -/
def loopback : String := "-j RETURN --dest 127.0.0.1/32 -p tcp"

/-- The rule of one redirect. -/
def redirect (key : Key) (port : UInt16) : String :=
  s!"-j REDIRECT --dest {key.address}/32 -p {key.protocol} --to-ports {port}"

example : redirect ⟨.udp, ⟨10, 0, 0, 1⟩⟩ 53 =
    "-j REDIRECT --dest 10.0.0.1/32 -p udp --to-ports 53" := by
  decide

end Rule

end Divert
