/-
# Divert.Net.Protocol — the transport protocols a redirect can match.
-/

namespace Divert

/-- A transport protocol. -/
inductive Protocol where
  | tcp
  | udp
  deriving DecidableEq, Repr, Inhabited

namespace Protocol

/-- Every protocol, in order. -/
def all : List Protocol := [tcp, udp]

/-- The name, as rules and configurations write it. -/
def name : Protocol → String
  | tcp => "tcp"
  | udp => "udp"

instance : ToString Protocol := ⟨name⟩

/-- The place in the order: TCP comes first. -/
def rank : Protocol → Nat
  | tcp => 0
  | udp => 1

/-- The protocol of that very name. -/
def ofName? (s : String) : Option Protocol := all.find? fun p => decide (p.name = s)

example : ofName? "udp" = some udp ∧ ofName? "UDP" = none := by decide

end Protocol

end Divert
