/-
# Divert.Translator — one chain and the redirects in it.
-/
import Divert.Lifecycle
import Divert.Redirects

namespace Divert

/-- A chain of our own and the redirects recorded for it. -/
structure Translator where
  chain : ChainName
  redirects : Redirects

namespace Translator

/-- The translator of a chain, without redirects. -/
def start (chain : ChainName) : Translator := ⟨chain, .empty⟩

/-! ## Lifecycle -/

/-- Put the chain in place. -/
def enable (t : Translator) : Script Report := Lifecycle.enable t.chain

/-- Take the chain away and forget the redirects that were in it. -/
def disable (t : Translator) : Script (Report × Translator) := do
  let report ← Lifecycle.disable t.chain
  let redirects ← t.redirects.forget
  return (report, { t with redirects })

/-- Whether the chain exists. -/
def isEnabled (t : Translator) : Script Bool := Lifecycle.isInstalled t.chain

/-! ## Redirects -/

/-- Every redirect, in the order of the keys. -/
def mappings (t : Translator) : List Redirect := t.redirects.mappings

/-- Send the traffic for a key to a port. -/
def forward (t : Translator) (key : Key) (port : UInt16) : Script (Report × Translator) := do
  let (report, redirects) ← t.redirects.forward t.chain key port
  return (report, { t with redirects })

/-- Stop redirecting the traffic for a key. -/
def clear (t : Translator) (key : Key) : Script (Report × Translator) := do
  let (report, redirects) ← t.redirects.clear t.chain key
  return (report, { t with redirects })

/-- Install a redirect within a report. -/
def applyNext (outcome : Report × Translator) (r : Redirect) : Script (Report × Translator) := do
  let (part, t) ← outcome.2.forward r.key r.port
  return (outcome.1.merge part, t)

/-- Install redirects one after the other, in one report. -/
def applyAll (t : Translator) (redirects : List Redirect) : Script (Report × Translator) :=
  redirects.foldlM applyNext (.start "apply_redirects", t)

end Translator

end Divert
