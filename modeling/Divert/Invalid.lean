/-
# Divert.Invalid — the reasons for which a configured value is turned down.
-/
import Divert.Redirect
import Divert.Text.Case

namespace Divert

/-- The longest chain name in bytes. -/
def maxChainNameLength : Nat := 28

/-- Why a configured value is not valid. -/
inductive Invalid where
  | emptyChain
  | longChain (name : String)
  | illegalChain (name : String)
  | reservedChain (name : String)
  | unknownProtocol (name : String)
  | zeroPort (key : Key)
  | repeatedKey (key : Key)
  | unknownLevel (level : String)
  | unknownFormat (format : String)
  | stated (reason : String)
  deriving DecidableEq, Repr

/-- The reason in words. -/
def Invalid.message : Invalid → String
  | emptyChain => "Chain name cannot be empty"
  | longChain name => s!"Chain name '{name}' too long (max {maxChainNameLength} chars)"
  | illegalChain name => s!"Chain name '{name}' contains invalid characters"
  | reservedChain name => s!"Chain name '{name}' is reserved"
  | unknownProtocol name => s!"Unsupported protocol '{name}' (expected tcp or udp)"
  | zeroPort key => s!"Redirect for {key} has port 0"
  | repeatedKey key => s!"Duplicate redirect for {key}"
  | unknownLevel level => s!"Unknown log level: {level}"
  | unknownFormat format => s!"Unknown log format: {format}"
  | stated reason => reason

/-- The protocol of a name in any letter case. -/
def Protocol.parse (s : String) : Except Invalid Protocol :=
  match Protocol.ofName? (Text.lower s) with
  | some protocol => .ok protocol
  | none => .error (.unknownProtocol (Text.lower s))

end Divert
