/-
# Divert.Proofs.Lifecycle.Effect — all that enabling does.

On a filter that nothing is made to fail, enabling is a function of the rules that are there.  The hook
points may hold any other rules and any number of old hooks in between.  A removal takes the first
sixteen hooks of each hook point away; the new hook then stands in front of what is left, and our chain
holds the loopback exemption only.  The report counts every copy that went, and its only failures are
the hook points that had more copies than that.
-/
import Divert.Proofs.Lifecycle.Settled

namespace Divert

namespace Lifecycle

/-! ## The report of a removal -/

/-- The failure of a hook point at which more hooks were found than a removal takes away. -/
def overflow (chain : ChainName) (hook : Hook) (found : Nat) : List RuleError :=
  if maxHookCopies < found then [tooManyCopies chain hook] else []

/-- The steps of the removal of the hooks that were found: one for each copy, and one that fails if
there are more. -/
def removalSteps (found : Nat) : Nat :=
  min found maxHookCopies + if maxHookCopies < found then 1 else 0

variable {chain : ChainName} {view : Chains}

theorem overflow_eq_nil_iff {hook : Hook} {found : Nat} :
    overflow chain hook found = [] ↔ found ≤ maxHookCopies := by
  simp [overflow]

theorem reportCopies_eq_plus (chain : ChainName) (hook : Hook) (found : Nat) (report : Report) :
    reportCopies chain hook maxHookCopies found report =
      report.plus (removalSteps found) (overflow chain hook found) := by
  by_cases h : maxHookCopies < found
  · rw [reportCopies, removalSteps, overflow, if_pos h, if_pos h, if_pos h,
      Nat.min_eq_right (Nat.le_of_lt h)]
  · rw [reportCopies, removalSteps, overflow, if_neg h, if_neg h, if_neg h,
      Nat.min_eq_left (Nat.le_of_not_lt h), Nat.add_zero]

theorem reportHooks_eq_plus (chain : ChainName) (view : Chains) (report : Report) :
    reportHooks chain view report =
      report.plus (removalSteps (view.copies chain .output) +
          removalSteps (view.copies chain .prerouting))
        (overflow chain .output (view.copies chain .output) ++
          overflow chain .prerouting (view.copies chain .prerouting)) := by
  rw [reportHooks, reportCopies_eq_plus, reportCopies_eq_plus, Report.plus_plus]

/-- The removal of the hooks has no failure if no hook point has too many of them. -/
theorem failures_reportHooks_eq_nil_iff {operation : String} :
    (reportHooks chain view (.start operation)).failures = [] ↔
      ∀ hook, view.copies chain hook ≤ maxHookCopies := by
  rw [reportHooks_eq_plus, Report.start_plus, List.append_eq_nil_iff, overflow_eq_nil_iff,
    overflow_eq_nil_iff]
  constructor
  · rintro ⟨output, prerouting⟩ hook
    cases hook with
    | output => exact output
    | prerouting => exact prerouting
  · exact fun h => ⟨h .output, h .prerouting⟩

end Lifecycle

/-! ## The effect of enabling -/

open Lifecycle in
/-- **Effect of enabling.** Nothing is made to fail, and the hook points have any rules, with `a` and
`b` copies of the hook among them.  Afterwards the hook stands before what is left without the first
sixteen copies at most, our chain holds the loopback exemption only, and no other chain of any table is
changed.  The report has a failure for each hook point with more than sixteen copies and no other, and
counts the removals, those failures, and five steps more, or six if the chain was missing. -/
theorem enable_effect {m : Memory} (unforced : m.failing = []) {output prerouting : List String}
    (houtput : m.rules natTable Hook.output.chain = some output)
    (hprerouting : m.rules natTable Hook.prerouting.chain = some prerouting) (chain : ChainName) :
    let jump := Rule.jump chain
    let a := output.count jump
    let b := prerouting.count jump
    let outcome := (enable chain).eval Memory.backend m
    let after := outcome.2.rules
    after natTable Hook.output.chain = some (jump :: eraseCopies jump (min a 16) output) ∧
      after natTable Hook.prerouting.chain =
        some (jump :: eraseCopies jump (min b 16) prerouting) ∧
      after natTable chain.text = some [Rule.loopback] ∧
      (∀ table name, (table = natTable → name ≠ chain.text ∧ ∀ hook : Hook, name ≠ hook.chain) →
        after table name = m.rules table name) ∧
      outcome.1.failures = (if 16 < a then [tooManyCopies chain .output] else []) ++
        (if 16 < b then [tooManyCopies chain .prerouting] else []) ∧
      outcome.1.attempted = min a 16 + (if 16 < a then 1 else 0) + min b 16 +
        (if 16 < b then 1 else 0) + 5 + (if m.rules natTable chain.text = none then 1 else 0) := by
  have shows : m.Shows m.rules := ⟨unforced, rfl⟩
  have hooks : Chains.HasHooks m.rules := by
    intro hook
    cases hook with
    | output => rw [houtput]; rfl
    | prerouting => rw [hprerouting]; rfl
  obtain ⟨s, heval, hs⟩ := enable_eval shows hooks chain
  rw [reportHooks_eq_plus, Report.plus_plus, Report.start_plus, Chains.copies, Chains.copies, houtput,
    hprerouting] at heval
  intro jump a b
  rw [heval]
  intro outcome after
  have hafter : after = _ := hs.rules
  rw [hafter]
  refine ⟨?_, ?_, ?_, ?_, ?_, ?_⟩
  · rw [Chains.arrange_hook, houtput, eraseCopies_min]
    rfl
  · rw [Chains.arrange_hook, hprerouting, eraseCopies_min]
    rfl
  · exact Chains.arrange_own ..
  · intro table name hname
    exact Chains.arrange_other _ _ _ _ hname
  · exact List.append_nil _
  · have missing : (if (m.rules natTable chain.text).isSome = true then 5 else 6) =
        5 + if m.rules natTable chain.text = none then 1 else 0 := by
      cases m.rules natTable chain.text <;> rfl
    show Report.attempted ⟨_, .ofNat ((min a 16 + if 16 < a then 1 else 0) +
      (min b 16 + if 16 < b then 1 else 0) + _), _⟩ = _
    rw [missing, Report.attempted_of_lt]
    · omega
    · split_ifs <;> omega

/-- A filter with a chain and `n + 1` hooks for it at one hook point, the last behind another rule. -/
def Memory.littered (chain : ChainName) (n : Nat) : Memory :=
  let hook := Lifecycle.hookCommand chain .output (.insert 1)
  let foreign : Command := ⟨natTable, Hook.output.chain, .insert 1 "-p udp -j ACCEPT"⟩
  through ((Lifecycle.chainCommand chain .create :: hook :: foreign :: List.replicate n hook).map
    .command)

/-- Of seventeen old hooks one is left, where it was, and reported. -/
theorem enable_effect_littered :
    let chain : ChainName := ⟨"A", by decide⟩
    let outcome := (Lifecycle.enable chain).eval Memory.backend (.littered chain 16)
    outcome.2.rules natTable Hook.output.chain = some ["-j A", "-p udp -j ACCEPT", "-j A"] ∧
      outcome.1.failures = [Lifecycle.tooManyCopies chain .output] ∧
      outcome.1.attempted = 22 := by
  intro chain outcome
  have houtput : (Memory.littered chain 16).rules natTable Hook.output.chain =
      some (List.replicate 16 "-j A" ++ ["-p udp -j ACCEPT", "-j A"]) := by
    decide +kernel
  have hprerouting : (Memory.littered chain 16).rules natTable Hook.prerouting.chain = some [] := by
    decide +kernel
  obtain ⟨output, -, -, -, failures, attempted⟩ :=
    enable_effect (m := .littered chain 16) (by decide +kernel) houtput hprerouting chain
  exact ⟨output.trans (by decide), failures.trans (by decide),
    attempted.trans (by decide +kernel)⟩

end Divert
