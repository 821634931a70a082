/-
# Divert.Proofs.Lifecycle.Vacant — the lifecycle where the only hooks are our own.

A filter is vacant for a chain if it has the hook points, but neither the chain nor a rule that jumps to
it.  Enabling on a vacant filter puts the chain and one hook at each hook point over the rules that are
there, enabling again changes the chain only, and disabling gives back exactly those rules.
-/
import Divert.Proofs.Lifecycle.Settled

namespace Divert

/-- The filter has the hook points, but neither our chain nor a jump to it. -/
structure Chains.Vacant (base : Chains) (chain : ChainName) : Prop where
  hooks : base.HasHooks
  absent : base natTable chain.text = none
  unused : ∀ {name : String} {rules : List String}, base natTable name = some rules →
    Rule.jump chain ∉ rules

/-! ## Hooks -/

namespace Lifecycle

variable {chain : ChainName} {rules : List String}

theorem unhooked_of_notMem (h : Rule.jump chain ∉ rules) : unhooked chain rules = rules :=
  eraseCopies_of_notMem h _

theorem unhooked_cons (h : Rule.jump chain ∉ rules) :
    unhooked chain (Rule.jump chain :: rules) = rules := by
  rw [unhooked, maxHookCopies, eraseCopies, List.erase_cons_head]
  exact eraseCopies_of_notMem h _

theorem reportHooks_eq {view : Chains} {found : Nat} (hfound : found ≤ maxHookCopies)
    (h : ∀ hook, view.copies chain hook = found) (report : Report) :
    reportHooks chain view report = report.plus (2 * found) [] := by
  have few : ¬ maxHookCopies < found := by omega
  rw [reportHooks, h .output, h .prerouting, reportCopies, reportCopies, if_neg few, if_neg few,
    Report.plus_plus, List.nil_append]
  congr 1
  omega

end Lifecycle

namespace Chains

theorem arrange_congr {view : Chains} {chain : ChainName} {own : Option (List String)}
    {f g : List String → List String}
    (h : ∀ (hook : Hook) rules, view natTable hook.chain = some rules → f rules = g rules) :
    view.arrange chain own f = view.arrange chain own g := by
  apply eq_arrange
  · exact arrange_own ..
  · intro hook
    rw [arrange_hook]
    cases hrules : view natTable hook.chain with
    | none => rfl
    | some rules => rw [Option.map_some, Option.map_some, h hook rules hrules]
  · intro table name hname
    exact arrange_other _ _ _ _ hname

namespace Vacant

variable {base : Chains} {chain : ChainName}

theorem copies (h : base.Vacant chain) (hook : Hook) : base.copies chain hook = 0 := by
  obtain ⟨rules, hrules, hcount⟩ := h.hooks.rules chain hook
  rw [hcount, List.count_eq_zero.2 (h.unused hrules)]

theorem copies_hooked (h : base.Vacant chain) (own : Option (List String)) (hook : Hook) :
    (base.arrange chain own (Rule.jump chain :: ·)).copies chain hook = 1 := by
  obtain ⟨rules, hrules, -⟩ := h.hooks.rules chain hook
  rw [Chains.copies, arrange_hook, hrules, Option.map_some, Option.getD_some, List.count_cons_self,
    List.count_eq_zero.2 (h.unused hrules)]

/-- Taking away the hooks that were put in front gives the first rules back. -/
theorem arrange_unhooked (h : base.Vacant chain) (own more : Option (List String)) :
    (base.arrange chain own (Rule.jump chain :: ·)).arrange chain more (Lifecycle.unhooked chain) =
      base.arrange chain more id := by
  rw [arrange_arrange]
  apply arrange_congr
  intro hook rules hrules
  rw [Function.comp_apply, Lifecycle.unhooked_cons (h.unused hrules), id_eq]

/-- Without our chain and with the hook points as they were, nothing is changed. -/
theorem arrange_none (h : base.Vacant chain) : base.arrange chain none id = base :=
  arrange_eq_self h.absent fun _ _ _ => rfl

/-- No rule jumps to our chain as long as none of its own does. -/
theorem unused_arrange (h : base.Vacant chain) {own : List String}
    (hown : Rule.jump chain ∉ own) {name : String} {rules : List String}
    (hrules : base.arrange chain (some own) id natTable name = some rules) :
    Rule.jump chain ∉ rules := by
  simp only [arrange, Option.map_id] at hrules
  split at hrules
  · exact Option.some.inj hrules ▸ hown
  · split at hrules <;> exact h.unused hrules

end Vacant

end Chains

/-- A filter that has its hook points is vacant for a chain that it neither has nor jumps to. -/
theorem Memory.Reachable.vacant {m : Memory} (h : m.Reachable) {chain : ChainName}
    (absent : m.rules natTable chain.text = none)
    (unused : ∀ {name : String} {rules : List String}, m.rules natTable name = some rules →
      Rule.jump chain ∉ rules) :
    Chains.Vacant m.rules chain where
  hooks := h.hooks
  absent := absent
  unused := unused

/-- At the start, a filter is vacant for every chain. -/
theorem Memory.vacant_fresh (chain : ChainName) : Chains.Vacant Memory.fresh.rules chain := by
  apply Reachable.fresh.vacant
  · rw [rules_fresh, if_neg chain.text_notMem_builtinChains]
  · intro name rules hrules
    rw [rules_fresh] at hrules
    split at hrules
    · cases hrules
      exact List.not_mem_nil
    · cases hrules

/-! ## The sequences -/

namespace Lifecycle

open Script

variable {m : Memory} {base : Chains} {chain : ChainName}

theorem enable_vacant (h : m.Shows base) (vacant : base.Vacant chain) :
    ∃ after, (enable chain).eval Memory.backend m = (⟨"enable", 6, []⟩, after) ∧
      after.Shows (base.arrange chain (some [Rule.loopback]) (Rule.jump chain :: ·)) := by
  obtain ⟨after, heval, hafter⟩ := enable_eval h vacant.hooks chain
  rw [vacant.absent, reportHooks_eq (by decide) vacant.copies] at heval
  have same : base.arrange chain (some [Rule.loopback])
        (fun rules => Rule.jump chain :: unhooked chain rules) =
      base.arrange chain (some [Rule.loopback]) (Rule.jump chain :: ·) := by
    apply Chains.arrange_congr
    intro hook rules hrules
    rw [unhooked_of_notMem (vacant.unused hrules)]
  exact ⟨after, heval, same ▸ hafter⟩

theorem enable_again {own : List String} (vacant : base.Vacant chain)
    (h : m.Shows (base.arrange chain (some own) (Rule.jump chain :: ·))) :
    ∃ after, (enable chain).eval Memory.backend m = (⟨"enable", 7, []⟩, after) ∧
      after.Shows (base.arrange chain (some [Rule.loopback]) (Rule.jump chain :: ·)) := by
  obtain ⟨after, heval, hafter⟩ := enable_eval h vacant.hooks.arrange chain
  rw [Chains.arrange_own, reportHooks_eq (by decide) (vacant.copies_hooked _)] at heval
  rw [Chains.arrange_arrange] at hafter
  have same : base.arrange chain (some [Rule.loopback])
        ((fun rules => Rule.jump chain :: unhooked chain rules) ∘ (Rule.jump chain :: ·)) =
      base.arrange chain (some [Rule.loopback]) (Rule.jump chain :: ·) := by
    apply Chains.arrange_congr
    intro hook rules hrules
    rw [Function.comp_apply, unhooked_cons (vacant.unused hrules)]
  exact ⟨after, heval, same ▸ hafter⟩

theorem disable_installed {own : List String} (vacant : base.Vacant chain)
    (h : m.Shows (base.arrange chain (some own) (Rule.jump chain :: ·))) :
    ∃ after, (disable chain).eval Memory.backend m = (⟨"disable", 4, []⟩, after) ∧
      after.Shows base := by
  -- With the hooks gone, nothing jumps to our chain, so it can be deleted.
  have unused : ∀ name rules, (base.arrange chain (some own) (Rule.jump chain :: ·)).arrange chain
      (some []) (unhooked chain) natTable name = some rules → Rule.jump chain ∉ rules := by
    intro name rules hrules
    rw [vacant.arrange_unhooked] at hrules
    exact vacant.unused_arrange List.not_mem_nil hrules
  obtain ⟨after, heval, hafter⟩ :=
    disable_eval h vacant.hooks.arrange (Chains.isSome_arrange_own ..) unused
  rw [reportHooks_eq (by decide) (vacant.copies_hooked _)] at heval
  rw [vacant.arrange_unhooked, vacant.arrange_none] at hafter
  exact ⟨after, heval, hafter⟩

theorem disable_vacant (h : m.Shows base) (vacant : base.Vacant chain) :
    ∃ after, (disable chain).eval Memory.backend m =
        (⟨"disable", 2, notInstalled chain⟩, after) ∧ after.Shows base := by
  obtain ⟨after, heval, hafter⟩ := disable_eval_missing h vacant.hooks vacant.absent
  rw [reportHooks_eq (by decide) vacant.copies] at heval
  have same : base.arrange chain none (unhooked chain) = base := by
    apply Chains.arrange_eq_self vacant.absent
    intro hook rules hrules
    exact unhooked_of_notMem (vacant.unused hrules)
  exact ⟨after, heval, same ▸ hafter⟩

end Lifecycle

end Divert
