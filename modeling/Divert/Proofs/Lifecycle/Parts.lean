/-
# Divert.Proofs.Lifecycle.Parts — the parts of the two sequences.

Both sequences begin with the removal of the hooks.  Enabling then fills the chain and puts the hooks
back; disabling dismantles the chain.  Each part keeps to one kind of command, whatever the filter
answers: the removal to a rule of the hook points, filling and dismantling to our own chain, and the
insertion to the hook points again.  So each part leaves alone what the others are about.
-/
import Divert.Lifecycle
import Divert.Proofs.Script.Calls

namespace Divert.Lifecycle

open Script

/-! ## The parts -/

/-- Create the chain if it is missing, empty it, and add the loopback exemption. -/
def fill (chain : ChainName) (report : Report) : Script Report := do
  let report ← ensureChain chain report
  let (_, report) ← attempt report (chainCommand chain .flush)
  let (_, report) ← attempt report (chainCommand chain (.append Rule.loopback))
  return report

/-- Put the hook in front of one hook point. -/
def insertHook (chain : ChainName) (report : Report) (hook : Hook) : Script Report := do
  let (_, report) ← attempt report (hookCommand chain hook (.insert 1))
  return report

/-- Put the hook in front of both hook points. -/
def insertHooks (chain : ChainName) (report : Report) : Script Report :=
  Hook.all.foldlM (insertHook chain) report

/-- Empty the chain and delete it. -/
def dismantle (chain : ChainName) (report : Report) : Script Report := do
  let (_, report) ← attempt report (chainCommand chain .flush)
  let (_, report) ← attempt report (chainCommand chain .remove)
  return report

theorem enable_eq (chain : ChainName) :
    enable chain = (do
      let report ← removeHooks chain (.start "enable")
      let report ← fill chain report
      let report ← insertHooks chain report
      log (.chainEnabled chain report)
      return report) := by
  simp only [enable, fill, bind_assoc, pure_bind]
  rfl

theorem disable_eq (chain : ChainName) :
    disable chain = (do
      let report ← removeHooks chain (.start "disable")
      let report ← dismantle chain report
      log (.chainDisabled chain report)
      return report) := by
  simp only [disable, dismantle, bind_assoc, pure_bind]

theorem removeHooks_eq (chain : ChainName) (report : Report) :
    removeHooks chain report = (do
      let report ← removeCopies chain .output maxHookCopies report
      removeCopies chain .prerouting maxHookCopies report) := by
  simp only [removeHooks, Hook.all, List.foldlM_cons, List.foldlM_nil, bind_pure]

theorem insertHooks_eq (chain : ChainName) (report : Report) :
    insertHooks chain report = (do
      let report ← insertHook chain report .output
      insertHook chain report .prerouting) := by
  simp only [insertHooks, Hook.all, List.foldlM_cons, List.foldlM_nil, bind_pure]

/-! ## What the parts may issue -/

/-- The commands that take a hook away from a hook point. -/
inductive Unhooks (chain : ChainName) (hook : Hook) : Command → Prop
  | check : Unhooks chain hook (hookCommand chain hook .check)
  | delete : Unhooks chain hook (hookCommand chain hook .delete)

/-- The commands on our own chain. -/
inductive Prepares (chain : ChainName) : Command → Prop
  | probe : Prepares chain (chainCommand chain .probe)
  | create : Prepares chain (chainCommand chain .create)
  | flush : Prepares chain (chainCommand chain .flush)
  | remove : Prepares chain (chainCommand chain .remove)
  | exempt : Prepares chain (chainCommand chain (.append Rule.loopback))

/-- The command that puts a hook in front of a hook point. -/
inductive InsertsHook (chain : ChainName) (hook : Hook) : Command → Prop
  | insert : InsertsHook chain hook (hookCommand chain hook (.insert 1))

section Place

variable {chain : ChainName} {hook : Hook} {c : Command}

theorem Unhooks.place (h : Unhooks chain hook c) : c.chain = hook.chain := by cases h <;> rfl

theorem Prepares.place (h : Prepares chain c) : c.chain = chain.text := by cases h <;> rfl

theorem InsertsHook.place (h : InsertsHook chain hook c) : c.chain = hook.chain := by cases h; rfl

end Place

variable (chain : ChainName)

theorem removeCopies_within (hook : Hook) (rounds : Nat) (report : Report) :
    (removeCopies chain hook rounds report).Within (Unhooks chain hook) fun _ => True := by
  induction rounds generalizing report with
  | zero =>
    rw [removeCopies]
    refine (within_issue .check).bind fun answer _ => ?_
    split <;> trivial
  | succ rounds ih =>
    rw [removeCopies]
    refine (within_issue .check).bind fun answer _ => ?_
    split
    · trivial
    · refine (within_attempt .delete report).bind fun outcome _ => ?_
      split
      split
      · trivial
      · exact ih _
    · refine ⟨.delete, fun answer => ?_⟩
      cases answer with
      | error e => trivial
      | ok value => exact ih _

theorem removeHooks_within (report : Report) :
    (removeHooks chain report).Within (fun c => ∃ hook, Unhooks chain hook c) fun _ => True := by
  refine within_foldlM _ (fun report hook _ _ => ?_) trivial
  exact (removeCopies_within chain hook _ report).mono (fun _ h => ⟨hook, h⟩) fun _ h => h

theorem ensureChain_within (report : Report) :
    (ensureChain chain report).Within (Prepares chain) fun _ => True := by
  refine (within_attempt .probe report).bind fun outcome _ => ?_
  split
  split
  · trivial
  · refine (within_attempt .create _).bind fun outcome _ => ?_
    trivial

theorem fill_within (report : Report) :
    (fill chain report).Within (Prepares chain) fun _ => True := by
  refine (ensureChain_within chain report).bind fun report _ => ?_
  refine (within_attempt .flush report).bind fun outcome _ => ?_
  exact (within_attempt .exempt _).bind fun outcome _ => trivial

theorem insertHook_within (report : Report) (hook : Hook) :
    (insertHook chain report hook).Within (InsertsHook chain hook) fun _ => True :=
  (within_attempt .insert report).bind fun _ _ => trivial

theorem insertHooks_within (report : Report) :
    (insertHooks chain report).Within (fun c => ∃ hook, InsertsHook chain hook c)
      fun _ => True := by
  refine within_foldlM _ (fun report hook _ _ => ?_) trivial
  exact (insertHook_within chain report hook).mono (fun _ h => ⟨hook, h⟩) fun _ h => h

theorem dismantle_within (report : Report) :
    (dismantle chain report).Within (Prepares chain) fun _ => True := by
  refine (within_attempt .flush report).bind fun outcome _ => ?_
  exact (within_attempt .remove _).bind fun outcome _ => trivial

end Divert.Lifecycle
