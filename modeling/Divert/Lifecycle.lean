/-
# Divert.Lifecycle — putting our chain in place and taking it away.

Both sequences are fixed and can be run again: every step is attempted, and failures go into the
report.  Enabling fills the chain before any hook points at it, so traffic never meets a chain without
the loopback exemption.
-/
import Divert.Script

namespace Divert.Lifecycle

open Script

/-! ## Hooks -/

/-- The most copies of the hook that are removed from one hook point. -/
def maxHookCopies : Nat := 16

/-- A command on the rule that jumps from a hook point to our chain. -/
def hookCommand (chain : ChainName) (hook : Hook) (action : String → Action) : Command :=
  ⟨natTable, hook.chain, action (Rule.jump chain)⟩

/-- The failure of a hook point that still has copies of the hook. -/
def tooManyCopies (chain : ChainName) (hook : Hook) : RuleError :=
  (hookCommand chain hook .delete).refused s!"more than {maxHookCopies} copies, giving up"

/-- Remove at most `rounds` copies of the hook.  If a check fails, which it does when the chain is
gone, one delete is tried without it and its failure is expected.  After the last round the hook has
to be gone. -/
def removeCopies (chain : ChainName) (hook : Hook) : Nat → Report → Script Report
  | 0, report => do
    match ← issue (hookCommand chain hook .check) with
    | .ok false => return report
    | _ =>
      log (.stepFailed report.operation (tooManyCopies chain hook))
      return report.step (.error (tooManyCopies chain hook) : Except RuleError Unit)
  | rounds + 1, report => do
    match ← issue (hookCommand chain hook .check) with
    | .ok false => return report
    | .ok true =>
      let (deleted, report) ← attempt report (hookCommand chain hook .delete)
      if deleted.isNone then return report
      log (.hookRemoved hook chain)
      removeCopies chain hook rounds report
    | .error e =>
      log (.hookUnchecked hook e)
      match ← issue (hookCommand chain hook .delete) with
      | .error _ => return report
      | .ok _ => removeCopies chain hook rounds report

/-- Remove the hook from both hook points. -/
def removeHooks (chain : ChainName) (report : Report) : Script Report :=
  Hook.all.foldlM (fun report hook => removeCopies chain hook maxHookCopies report) report

/-! ## The sequences -/

/-- A command on our chain. -/
def chainCommand (chain : ChainName) (action : Action) : Command := ⟨natTable, chain.text, action⟩

/-- Create the chain unless it is known to exist. -/
def ensureChain (chain : ChainName) (report : Report) : Script Report := do
  let (found, report) ← attempt report (chainCommand chain .probe)
  if found = some true then
    log (.chainReused chain)
    return report
  let (_, report) ← attempt report (chainCommand chain .create)
  return report

/-- Put the chain in place: remove old hooks, create the chain if it is missing, empty it, add the
loopback exemption, and hook it in front of both hook points. -/
def enable (chain : ChainName) : Script Report := do
  let report ← removeHooks chain (.start "enable")
  let report ← ensureChain chain report
  let (_, report) ← attempt report (chainCommand chain .flush)
  let (_, report) ← attempt report (chainCommand chain (.append Rule.loopback))
  let report ← Hook.all.foldlM (fun report hook => do
    let (_, report) ← attempt report (hookCommand chain hook (.insert 1))
    return report) report
  log (.chainEnabled chain report)
  return report

/-- Take the chain away: remove its hooks, empty it, and delete it. -/
def disable (chain : ChainName) : Script Report := do
  let report ← removeHooks chain (.start "disable")
  let (_, report) ← attempt report (chainCommand chain .flush)
  let (_, report) ← attempt report (chainCommand chain .remove)
  log (.chainDisabled chain report)
  return report

/-- Whether the chain exists.  A filter that cannot say counts as one without the chain. -/
def isInstalled (chain : ChainName) : Script Bool := do
  let answer ← issue (chainCommand chain .probe)
  return answer.toOption.getD false

end Divert.Lifecycle
