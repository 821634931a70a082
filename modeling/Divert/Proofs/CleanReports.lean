/-
# Divert.Proofs.CleanReports — which reports of the lifecycle can be trusted.

The filter in memory starts in any state at all, kinds of command are made to fail, and single calls are
lost.  Whatever the report says, the lifecycle of a chain touches its own chain and its own hooks only.
If disabling reports no failure, the chain is gone and nothing jumps to it.  If enabling reports none,
chain and hooks are in place, and there is one hook at each hook point exactly if no old one was spared;
`clean_enable_spared` shows how that comes about.
-/
import Divert.Proofs.Lifecycle.Clean

namespace Divert

open Script

/-! ## What the lifecycle leaves alone -/

/-- The rules that are not the hook of the chain. -/
def Rule.foreign (chain : ChainName) (rules : List String) : List String :=
  rules.filter fun rule => decide (rule ≠ Rule.jump chain)

theorem Rule.foreign_cons_jump (chain : ChainName) (rules : List String) :
    foreign chain (jump chain :: rules) = foreign chain rules := by
  simp [foreign]

theorem Rule.foreign_erase_jump (chain : ChainName) (rules : List String) :
    foreign chain (rules.erase (jump chain)) = foreign chain rules := by
  induction rules with
  | nil => rfl
  | cons rule rest ih =>
    by_cases h : rule = jump chain
    · rw [h, List.erase_cons_head, foreign_cons_jump]
    · rw [List.erase_cons_tail (by simpa using h)]
      simpa [foreign, h] using ih

/-- The same rules in the same order, but for the hook of the chain at the hook points and for the chain
itself. -/
structure Chains.Untouched (before : Chains) (chain : ChainName) (after : Chains) : Prop where
  hooks : ∀ hook : Hook, (after natTable hook.chain).map (Rule.foreign chain) =
    (before natTable hook.chain).map (Rule.foreign chain)
  others : ∀ table name,
    (table = natTable → name ≠ chain.text ∧ ∀ hook : Hook, name ≠ hook.chain) →
      after table name = before table name

section Untouched

variable {σ : Type} {b : Backend σ} {rules : σ → Chains} {before : Chains} {chain : ChainName} {s : σ}

theorem Chains.Untouched.answer (faithful : b.Faithful rules) {c : Command}
    (issued : Lifecycle.Issues chain c) (h : before.Untouched chain (rules s)) :
    before.Untouched chain (rules (b.answer s c).2) where
  hooks hook := by
    rw [← h.hooks hook]
    by_cases hplace : hook.chain = c.chain
    swap
    · rw [faithful.elsewhere hplace]
    cases hanswer : (b.answer s c).1 with
    | error e => rw [faithful.refused hanswer]
    | ok value =>
      rw [hplace, faithful.effect_of_issued (.lifecycle issued) hanswer]
      cases issued with
      | probe | create | flush | remove | exempt => exact absurd hplace (chain.hook_ne_text hook)
      | checkHook _ => rfl
      | deleteHook _ =>
        refine (Option.map_map ..).trans (congrArg (Option.map · _) ?_)
        exact funext (Rule.foreign_erase_jump chain)
      | insertHook _ =>
        refine (Option.map_map ..).trans (congrArg (Option.map · _) ?_)
        exact funext (Rule.foreign_cons_jump chain)
  others table name hname := by
    rw [← h.others table name hname]
    obtain ⟨htable, hplace⟩ := Translator.Issues.place (.lifecycle issued)
    apply faithful.outside
    rintro ⟨rfl, rfl⟩
    obtain ⟨hown, hhooks⟩ := hname htable
    rcases hplace with hplace | ⟨hook, hplace⟩
    · exact hown hplace
    · exact hhooks hook hplace

theorem Lifecycle.untouched (faithful : b.Faithful rules) {x : Script Report}
    (hx : x.Within (Lifecycle.Issues chain) fun _ => True) :
    (rules s).Untouched chain (rules (x.eval b s).2) :=
  (hx.eval_keeps (I := fun s' => (rules s).Untouched chain (rules s'))
    (fun _ _ issued h => h.answer faithful issued) ⟨fun _ => rfl, fun _ _ _ => rfl⟩).2

end Untouched

/-! ## Disabling -/

/-- **A clean disable.** Whatever is made to fail and whatever call is lost, disabling touches nothing
but the chain and its hooks, and if it reports no failure, the chain is gone and no rule of its table
jumps to it.  The translator of the chain gives the same report and leaves the same filter. -/
theorem clean_disable (chain : ChainName) (f : Faulty Memory) :
    let outcome := (Lifecycle.disable chain).eval Faulty.memory f
    Chains.Untouched f.inner.rules chain outcome.2.inner.rules ∧
      (outcome.1.isClean = true → outcome.2.inner.rules natTable chain.text = none ∧
        ∀ name own, outcome.2.inner.rules natTable name = some own → Rule.jump chain ∉ own) ∧
      ∀ redirects, Deployment.serve Faulty.memory ⟨⟨chain, redirects⟩, f⟩ .disable =
        (outcome.1, ⟨⟨chain, .empty⟩, outcome.2⟩) := by
  intro outcome
  have heval : (Lifecycle.disable chain).eval Faulty.memory f = (outcome.1, outcome.2) := rfl
  have gone := Lifecycle.disable_clean Faulty.memory_truthful heval
  refine ⟨?_, gone, ?_⟩
  · exact Lifecycle.untouched Faulty.memory_truthful.toFaithful (Lifecycle.disable_within chain)
  · intro redirects
    exact Deployment.serve_disable_of_eval rfl

/-- A filter with a chain whose checks fail, three hooks at one hook point, and other rules there. -/
def Memory.crowded (chain : ChainName) : Memory :=
  let hook := Lifecycle.hookCommand chain .output (.insert 1)
  let other : Command := ⟨natTable, Hook.output.chain, .insert 2 "-p udp -j ACCEPT"⟩
  let enabled := ((Lifecycle.enable chain).eval backend fresh).2
  ([hook, other, hook].foldl (fun m c => (m.answer c).2) enabled).setFailing .check true

/-- Disabling takes all the hooks away although no check for them succeeds. -/
theorem clean_disable_crowded :
    let chain : ChainName := ⟨"A", by decide⟩
    let f : Faulty Memory := ⟨.crowded chain, [], []⟩
    let outcome := (Lifecycle.disable chain).eval Faulty.memory f
    f.inner.rules natTable Hook.output.chain =
        some ["-j A", "-j A", "-p udp -j ACCEPT", "-j A"] ∧
      outcome.1.isClean = true ∧ outcome.2.inner.rules natTable chain.text = none ∧
      ∀ name own, outcome.2.inner.rules natTable name = some own → Rule.jump chain ∉ own := by
  intro chain f outcome
  have clean : outcome.1.isClean = true := by decide +kernel
  exact ⟨by decide +kernel, clean, (clean_disable chain f).2.1 clean⟩

/-! ## Enabling -/

/-- **A clean enable.** Whatever is made to fail and whatever call is lost, if enabling reports no
failure, the chain holds the loopback exemption and nothing else, and the hook is the first rule of each
hook point.  It is the only one of its kind there, unless the delete of an old one was refused after a
check that failed. -/
theorem clean_enable (chain : ChainName) (f : Faulty Memory)
    (clean : ((Lifecycle.enable chain).eval Faulty.memory f).1.isClean = true) :
    let after := ((Lifecycle.enable chain).eval Faulty.memory f).2.inner.rules
    after natTable chain.text = some [Rule.loopback] ∧
      ∀ hook : Hook, ∃ rest, after natTable hook.chain = some (Rule.jump chain :: rest) ∧
        (Rule.jump chain ∈ rest ↔ Lifecycle.Spared Faulty.memory (fun f => f.inner.rules) chain hook
          ((Lifecycle.enable chain).calls Faulty.memory f)) := by
  have heval : (Lifecycle.enable chain).eval Faulty.memory f =
      (((Lifecycle.enable chain).eval Faulty.memory f).1,
        ((Lifecycle.enable chain).eval Faulty.memory f).2) := rfl
  exact Lifecycle.enable_clean Faulty.memory_truthful heval clean

/-- With checks and deletes that fail, enabling a second time reports no failure and puts a second hook
beside the first. -/
theorem clean_enable_spared :
    let chain : ChainName := ⟨"A", by decide⟩
    let enabled := ((Lifecycle.enable chain).eval Memory.backend .fresh).2
    let f : Faulty Memory := ⟨(enabled.setFailing .check true).setFailing .delete true, [], []⟩
    let outcome := (Lifecycle.enable chain).eval Faulty.memory f
    outcome.1.isClean = true ∧
      outcome.2.inner.rules natTable Hook.output.chain = some [Rule.jump chain, Rule.jump chain] ∧
      Lifecycle.Spared Faulty.memory (fun f => f.inner.rules) chain .output
        ((Lifecycle.enable chain).calls Faulty.memory f) := by
  intro chain enabled f outcome
  have clean : outcome.1.isClean = true := by decide +kernel
  have twice : outcome.2.inner.rules natTable Hook.output.chain =
      some [Rule.jump chain, Rule.jump chain] := by decide +kernel
  obtain ⟨rest, hafter, hspared⟩ := (clean_enable chain f clean).2 .output
  refine ⟨clean, twice, hspared.1 ?_⟩
  obtain rfl : rest = [Rule.jump chain] := by
    rw [twice] at hafter
    exact (List.cons_inj_right _).1 (Option.some.inj hafter).symm
  exact List.mem_cons_self

end Divert
