/-
# Divert.Redirects — which redirects are installed in our chain.

The record says, for every key, which port its one rule sends the traffic to.  Clearing a key deletes
the rule that was recorded for it, never one that a caller describes, and a new rule is appended only
when the key has none, so two rules for one key never stand side by side.
-/
import Divert.Keyed
import Divert.Script

namespace Divert

/-- The port recorded for every key, the most recently recorded key last. -/
structure Redirects where
  ports : Keyed Key UInt16

namespace Redirects

open Script

/-! ## The record -/

/-- The record without redirects. -/
def empty : Redirects := ⟨.empty⟩

/-- The port recorded for a key. -/
def get? (r : Redirects) (key : Key) : Option UInt16 := r.ports.get? key

/-- The number of redirects. -/
def size (r : Redirects) : Nat := r.ports.size

/-- Every redirect, in the order of the keys. -/
def mappings (r : Redirects) : List Redirect :=
  (r.ports.entries.map fun e => Redirect.mk e.1 e.2).mergeSort fun x y => x.key.le y.key

/-! ## Installing and clearing -/

/-- A command on the rule of one redirect. -/
def command (chain : ChainName) (key : Key) (port : UInt16) (action : String → Action) : Command :=
  ⟨natTable, chain.text, action (Rule.redirect key port)⟩

/-- Delete the rule recorded for a key, if there is one, and the record with it. -/
def drop (r : Redirects) (chain : ChainName) (key : Key) (report : Report) :
    Script (Report × Redirects) :=
  match r.get? key with
  | none => return (report, r)
  | some port => do
    let (deleted, report) ← attempt report (command chain key port .delete)
    if deleted.isNone then return (report, r)
    log (.redirectCleared ⟨key, port⟩)
    return (report, ⟨r.ports.erase key⟩)

/-- Send the traffic for a key to a port.  A rule that cannot be deleted keeps its key. -/
def forward (r : Redirects) (chain : ChainName) (key : Key) (port : UInt16) :
    Script (Report × Redirects) := do
  let (report, r) ← r.drop chain key (.start "forward")
  if (r.get? key).isSome then
    log (.redirectKept key)
    return (report, r)
  let (added, report) ← attempt report (command chain key port .append)
  if added.isNone then return (report, r)
  log (.redirectAdded ⟨key, port⟩)
  return (report, ⟨r.ports.put key port⟩)

/-- Stop redirecting the traffic for a key. -/
def clear (r : Redirects) (chain : ChainName) (key : Key) : Script (Report × Redirects) :=
  r.drop chain key (.start "clear")

/-- Forget every redirect without touching a rule. -/
def forget (r : Redirects) : Script Redirects := do
  if r.size ≠ 0 then
    log (.redirectsForgotten r.size)
  return empty

end Redirects

end Divert
