/-
# Divert.ChainName — the names a chain of our own may have.

A valid name fits the kernel's limit in bytes, holds no blank and no control character, does not look
like an option, and is not the name of a built-in chain or of a target.  Validity is part of the type,
so a rule that jumps to a chain is always two words.
-/
import Divert.Invalid
import Divert.Text.Blank

namespace Divert

/-! ## Reserved names -/

/-- Names of built-in chains, in any table, and of targets that are not chains. -/
def reservedNames : List String :=
  ["PREROUTING", "INPUT", "FORWARD", "OUTPUT", "POSTROUTING", "ACCEPT", "DROP", "RETURN", "QUEUE",
    "REDIRECT", "DNAT", "SNAT", "MASQUERADE"]

/-! ## Valid names -/

/-- The first rule that a name breaks. -/
def invalidName? (name : String) : Option Invalid :=
  if name = "" then some .emptyChain
  else if name.utf8ByteSize > maxChainNameLength then some (.longChain name)
  else if name.toList.head? = some '-' ∨
      name.toList.any (fun c => Text.isBlank c || Text.isControl c) = true then
    some (.illegalChain name)
  else if name ∈ reservedNames then some (.reservedChain name)
  else none

/-- A name that a chain of our own may have. -/
structure ChainName where
  text : String
  valid : invalidName? text = none
  deriving DecidableEq, Repr

namespace ChainName

instance : ToString ChainName := ⟨text⟩

/-- Accept a name, or say which rule it breaks. -/
def check (name : String) : Except Invalid ChainName :=
  match valid : invalidName? name with
  | none => .ok ⟨name, valid⟩
  | some reason => .error reason

@[ext] theorem ext {x y : ChainName} (h : x.text = y.text) : x = y := by
  cases x; cases y; simp_all

end ChainName

end Divert
