/-
# Divert.Proofs.Convergence — how often a sequence has to be run.

One run takes at most sixteen hooks away from a hook point, so where more were left over, the first run
reports it and the next one goes on.  Enabling puts one hook back each time, so it gains fifteen on them
with every run; from its first clean run on it changes nothing any more.  Disabling gains sixteen, and
its first clean run is the one that leaves nothing to jump to the chain, provided that only the hook
points did.  The number of the first clean run is exact in both cases.
-/
import Divert.Proofs.CleanReports
import Divert.Proofs.Lifecycle.Effect
import Divert.Proofs.Lifecycle.Vacant
import Mathlib.Algebra.Order.Floor.Div
import Mathlib.GroupTheory.GroupAction.Ring

namespace Divert

/-! ## Running a script again and again -/

/-- What a script leaves behind that is run `n` times. -/
def Script.rerun {σ α : Type} (b : Backend σ) (x : Script α) (n : Nat) (s : σ) : σ :=
  (fun s => (x.eval b s).2)^[n] s

theorem Script.rerun_succ {σ α : Type} (b : Backend σ) (x : Script α) (n : Nat) (s : σ) :
    x.rerun b (n + 1) s = x.rerun b n (x.eval b s).2 :=
  rfl

theorem Script.rerun_succ_last {σ α : Type} (b : Backend σ) (x : Script α) (n : Nat) (s : σ) :
    x.rerun b (n + 1) s = (x.eval b (x.rerun b n s)).2 :=
  Function.iterate_succ_apply' _ n s

namespace Lifecycle

open Script

variable {m : Memory} {view : Chains} {chain : ChainName}

/-! ## Enabling -/

/-- Enabling is clean if no hook point has more hooks than a removal takes away. -/
theorem enable_isClean_iff (h : m.Shows view) (hooks : view.HasHooks) :
    ((enable chain).eval Memory.backend m).1.isClean = true ↔
      ∀ hook, view.copies chain hook ≤ maxHookCopies := by
  obtain ⟨after, heval, -⟩ := enable_eval h hooks chain
  rw [heval, Report.isClean, Report.plus, List.append_nil, List.isEmpty_iff]
  exact failures_reportHooks_eq_nil_iff

/-- **Clean runs of enabling.** Every run before gains fifteen on the hooks of each hook point. -/
theorem enable_rerun_isClean_iff (h : m.Shows view) (hooks : view.HasHooks) (n : Nat) :
    ((enable chain).eval Memory.backend ((enable chain).rerun Memory.backend n m)).1.isClean = true ↔
      ∀ hook, view.copies chain hook ≤ 16 + 15 * n := by
  induction n generalizing m view with
  | zero => exact enable_isClean_iff h hooks
  | succ n ih =>
    obtain ⟨after, heval, hafter⟩ := enable_eval h hooks chain
    rw [rerun_succ, heval, ih hafter hooks.arrange]
    refine forall_congr' fun hook => ?_
    rw [hooks.copies_arrange (g := fun found => found - maxHookCopies + 1) count_rehooked hook,
      maxHookCopies]
    omega

/-- After a clean run, enabling changes nothing any more. -/
theorem enable_settles (h : m.Shows view) (hooks : view.HasHooks)
    (few : ∀ hook, view.copies chain hook ≤ maxHookCopies) :
    let enabled (m : Memory) : Memory := ((enable chain).eval Memory.backend m).2
    (enabled (enabled m)).rules = (enabled m).rules := by
  intro enabled
  obtain ⟨first, hfirst, h₁⟩ := enable_eval h hooks chain
  obtain ⟨second, hsecond, h₂⟩ := enable_eval h₁ hooks.arrange chain
  have once : enabled m = first := congrArg Prod.snd hfirst
  have twice : enabled first = second := congrArg Prod.snd hsecond
  rw [once, twice, h₂.rules, h₁.rules, Chains.arrange_arrange]
  -- The second run takes its own hook away and puts it back in front of the same rules.
  apply Chains.arrange_congr
  intro hook rules hrules
  have gone : Rule.jump chain ∉ unhooked chain rules := by
    have found := few hook
    rw [Chains.copies, hrules] at found
    rw [← List.count_eq_zero, count_unhooked]
    exact Nat.sub_eq_zero_of_le found
  rw [Function.comp_apply, unhooked_cons gone]

/-- The runs of enabling leave the hook points in their place. -/
theorem enable_rerun_shows (h : m.Shows view) (hooks : view.HasHooks) (n : Nat) :
    ∃ later : Chains, ((enable chain).rerun Memory.backend n m).Shows later ∧ later.HasHooks := by
  induction n with
  | zero => exact ⟨view, h, hooks⟩
  | succ n ih =>
    obtain ⟨later, hlater, hooksLater⟩ := ih
    obtain ⟨after, heval, hafter⟩ := enable_eval hlater hooksLater chain
    rw [rerun_succ_last, heval]
    exact ⟨_, hafter, hooksLater.arrange⟩

/-! ## Disabling -/

end Lifecycle

/-- Our chain is there, and of the chains of its table only the hook points may jump to it. -/
structure Chains.Hookable (view : Chains) (chain : ChainName) : Prop where
  hooks : view.HasHooks
  present : (view natTable chain.text).isSome = true
  only : ∀ name rules, view natTable name = some rules → Rule.jump chain ∈ rules →
    ∃ hook : Hook, name = hook.chain

namespace Chains.Hookable

variable {view : Chains} {chain : ChainName}

/-- What jumps to the chain once it is empty stands at a hook point. -/
theorem jump_of_arrange (h : view.Hookable chain) {own : Option (List String)}
    (hown : ∀ rules, own = some rules → Rule.jump chain ∉ rules)
    {f : List String → List String} {name : String} {rules : List String}
    (hrules : view.arrange chain own f natTable name = some rules)
    (hmem : Rule.jump chain ∈ rules) : ∃ hook : Hook, name = hook.chain := by
  by_cases hname : name = chain.text
  · rw [hname, arrange_own] at hrules
    exact absurd hmem (hown rules hrules)
  · by_contra hooks
    rw [arrange_other _ _ _ _ fun _ => ⟨hname, not_exists.1 hooks⟩] at hrules
    exact hooks (h.only name rules hrules hmem)

/-- A run that empties the chain keeps the rest as it has to be. -/
theorem emptied (h : view.Hookable chain) (f : List String → List String) :
    (view.arrange chain (some []) f).Hookable chain where
  hooks := h.hooks.arrange
  present := isSome_arrange_own ..
  only _ _ hrules hmem := by
    refine h.jump_of_arrange ?_ hrules hmem
    rintro rules heq
    cases heq
    exact List.not_mem_nil

end Chains.Hookable

theorem Rule.foreign_eraseCopies (chain : ChainName) (n : Nat) (rules : List String) :
    foreign chain (eraseCopies (jump chain) n rules) = foreign chain rules := by
  induction n generalizing rules with
  | zero => rfl
  | succ n ih => rw [eraseCopies, ih, foreign_erase_jump]

/-- Without any of its copies a rule leaves the other rules. -/
theorem Rule.eraseCopies_eq_foreign {chain : ChainName} {n : Nat} {rules : List String}
    (h : rules.count (jump chain) ≤ n) : eraseCopies (jump chain) n rules = foreign chain rules := by
  have all := eraseCopies_append (jump chain) rules []
  rw [List.append_nil, List.append_nil] at all
  rw [← eraseCopies_min, Nat.min_eq_left h, all, foreign]

namespace Lifecycle

open Script

variable {m : Memory} {view : Chains} {chain : ChainName}

/-- With few hooks, disabling is clean and takes everything away. -/
theorem disable_of_few (h : m.Shows view) (hookable : view.Hookable chain)
    (few : ∀ hook, view.copies chain hook ≤ maxHookCopies) :
    ∃ report after, (disable chain).eval Memory.backend m = (report, after) ∧
      report.isClean = true ∧ after.Shows (view.arrange chain none (Rule.foreign chain)) := by
  have foundIn (hook : Hook) (rules : List String) (hrules : view natTable hook.chain = some rules) :
      rules.count (Rule.jump chain) ≤ maxHookCopies := by
    have found := few hook
    rwa [Chains.copies, hrules] at found
  have unused : ∀ name rules, view.arrange chain (some []) (unhooked chain) natTable name =
      some rules → Rule.jump chain ∉ rules := by
    intro name rules hrules hmem
    obtain ⟨hook, rfl⟩ := (hookable.emptied (unhooked chain)).only name rules hrules hmem
    rw [Chains.arrange_hook] at hrules
    obtain ⟨old, hold, rfl⟩ := Option.map_eq_some_iff.1 hrules
    rw [← List.count_pos_iff, count_unhooked] at hmem
    have found := foundIn hook old hold
    omega
  obtain ⟨after, heval, hafter⟩ := disable_eval h hookable.hooks hookable.present unused
  refine ⟨_, after, heval, ?_, ?_⟩
  · rw [Report.isClean, Report.plus, List.append_nil, List.isEmpty_iff]
    exact failures_reportHooks_eq_nil_iff.2 few
  · have same : view.arrange chain none (unhooked chain) =
        view.arrange chain none (Rule.foreign chain) := by
      apply Chains.arrange_congr
      intro hook rules hrules
      exact Rule.eraseCopies_eq_foreign (foundIn hook rules hrules)
    exact same ▸ hafter

/-- With too many hooks somewhere, disabling says so, and leaves an empty chain with fewer hooks. -/
theorem disable_of_many (h : m.Shows view) (hookable : view.Hookable chain) {hook : Hook}
    (many : maxHookCopies < view.copies chain hook) :
    ∃ report after, (disable chain).eval Memory.backend m = (report, after) ∧
      report.isClean = false ∧ after.Shows (view.arrange chain (some []) (unhooked chain)) := by
  obtain ⟨rules, hrules, hcount⟩ := hookable.hooks.rules chain hook
  have left : Rule.jump chain ∈ unhooked chain rules := by
    rw [← List.count_pos_iff, count_unhooked, ← hcount]
    exact Nat.sub_pos_of_lt many
  have place : view.arrange chain (some []) (unhooked chain) natTable hook.chain =
      some (unhooked chain rules) := by
    rw [Chains.arrange_hook, hrules]
    rfl
  obtain ⟨after, heval, hafter⟩ := disable_eval_used h hookable.hooks hookable.present place left
  refine ⟨_, after, heval, ?_, hafter⟩
  simp [Report.isClean, Report.plus]

/-- **Clean runs of disabling.** As long as there were too many hooks, every run gains sixteen on the
hooks of each hook point; the run after that is clean and takes everything away. -/
theorem disable_rerun (h : m.Shows view) (hookable : view.Hookable chain) {n : Nat}
    (many : n = 0 ∨ ∃ hook, 16 * n < view.copies chain hook) :
    (((disable chain).eval Memory.backend
        ((disable chain).rerun Memory.backend n m)).1.isClean = true ↔
      ∀ hook, view.copies chain hook ≤ 16 * (n + 1)) ∧
    ((∀ hook, view.copies chain hook ≤ 16 * (n + 1)) →
      ((disable chain).rerun Memory.backend (n + 1) m).rules =
        view.arrange chain none (Rule.foreign chain)) := by
  induction n generalizing m view with
  | zero =>
    by_cases few : ∀ hook, view.copies chain hook ≤ maxHookCopies
    · obtain ⟨report, after, heval, clean, hafter⟩ := disable_of_few h hookable few
      have last : (disable chain).rerun Memory.backend 1 m = after := congrArg Prod.snd heval
      refine ⟨⟨fun _ => few, fun _ => ?_⟩, fun _ => ?_⟩
      · exact (congrArg (fun outcome => outcome.1.isClean) heval).trans clean
      · rw [last, hafter.rules]
    · obtain ⟨hook, hmany⟩ := Classical.not_forall.1 few
      obtain ⟨report, after, heval, unclean, -⟩ :=
        disable_of_many h hookable (Nat.lt_of_not_le hmany)
      refine ⟨⟨fun clean => ?_, fun all => absurd all few⟩, fun all => absurd all few⟩
      have report : _ = report.isClean := congrArg (fun outcome => outcome.1.isClean) heval
      rw [unclean] at report
      exact Bool.noConfusion (report.symm.trans clean)
  | succ n ih =>
    -- There were too many hooks for the first run, so it gained sixteen and the others go on from there.
    obtain ⟨hook, hmany⟩ := many.resolve_left (Nat.succ_ne_zero n)
    have first : maxHookCopies < view.copies chain hook := by
      rw [maxHookCopies]
      omega
    obtain ⟨report, after, heval, -, hafter⟩ := disable_of_many h hookable first
    have gained (hook : Hook) : (view.arrange chain (some []) (unhooked chain)).copies chain hook =
        view.copies chain hook - 16 :=
      hookable.hooks.copies_arrange (g := (· - 16)) count_unhooked hook
    have rest := ih hafter (hookable.emptied _) (Or.inr ⟨hook, by rw [gained]; omega⟩)
    have bound : (∀ hook, view.copies chain hook - 16 ≤ 16 * (n + 1)) ↔
        ∀ hook, view.copies chain hook ≤ 16 * (n + 1 + 1) :=
      forall_congr' fun hook => by omega
    simp only [gained, bound] at rest
    rw [rerun_succ, rerun_succ, heval]
    refine ⟨rest.1, fun few => (rest.2 few).trans ?_⟩
    rw [Chains.arrange_arrange]
    apply Chains.arrange_congr
    intro hook rules _
    rw [Function.comp_apply, unhooked, Rule.foreign_eraseCopies]

end Lifecycle

/-! ## The first clean run -/

/-- The larger number of hooks at one of the hook points. -/
def Chains.most (view : Chains) (chain : ChainName) : Nat :=
  max (view.copies chain .output) (view.copies chain .prerouting)

theorem Chains.most_le_iff {view : Chains} {chain : ChainName} {bound : Nat} :
    view.most chain ≤ bound ↔ ∀ hook, view.copies chain hook ≤ bound := by
  rw [most, Nat.max_le]
  constructor
  · rintro ⟨output, prerouting⟩ hook
    cases hook with
    | output => exact output
    | prerouting => exact prerouting
  · exact fun h => ⟨h .output, h .prerouting⟩

namespace Lifecycle

variable {m : Memory} {view : Chains} {chain : ChainName} {n : Nat}

/-- The runs of enabling are clean from a certain one on. -/
theorem enable_first_clean (h : m.Shows view) (hooks : view.HasHooks) (n : Nat) :
    ((enable chain).eval Memory.backend ((enable chain).rerun Memory.backend n m)).1.isClean = true ↔
      1 + (view.most chain - 16) ⌈/⌉ 15 ≤ n + 1 := by
  have gained : view.most chain ≤ 16 + 15 * n ↔ (view.most chain - 16) ⌈/⌉ 15 ≤ n := by
    rw [ceilDiv_le_iff_le_mul (by decide)]
    omega
  rw [enable_rerun_isClean_iff h hooks, ← Chains.most_le_iff, gained]
  omega

/-- After its first clean run, enabling changes nothing any more. -/
theorem enable_rerun_settles (h : m.Shows view) (hooks : view.HasHooks)
    (late : 1 + (view.most chain - 16) ⌈/⌉ 15 ≤ n) :
    ((enable chain).rerun Memory.backend (n + 1) m).rules =
      ((enable chain).rerun Memory.backend n m).rules := by
  obtain ⟨n, rfl⟩ : ∃ before, n = before + 1 := ⟨n - 1, by omega⟩
  obtain ⟨later, hlater, hooksLater⟩ := enable_rerun_shows h hooks n
  have few := (enable_isClean_iff hlater hooksLater).1 ((enable_first_clean h hooks n).2 late)
  simp only [Script.rerun_succ_last]
  exact enable_settles hlater hooksLater few

/-- Up to the first clean run of disabling, each run finds too many hooks. -/
theorem many_of_early (early : n + 1 ≤ max 1 (view.most chain ⌈/⌉ 16)) :
    n = 0 ∨ ∃ hook, 16 * n < view.copies chain hook := by
  by_cases hn : n = 0
  · exact Or.inl hn
  · have unreached : ¬ view.most chain ⌈/⌉ 16 ≤ n := by omega
    rw [ceilDiv_le_iff_le_mul (by decide), Chains.most_le_iff, not_forall] at unreached
    obtain ⟨hook, hmany⟩ := unreached
    exact Or.inr ⟨hook, Nat.lt_of_not_le hmany⟩

/-- The first clean run of disabling has this very number. -/
theorem disable_first_clean (h : m.Shows view) (hookable : view.Hookable chain)
    (early : n + 1 ≤ max 1 (view.most chain ⌈/⌉ 16)) :
    ((disable chain).eval Memory.backend
        ((disable chain).rerun Memory.backend n m)).1.isClean = true ↔
      n + 1 = max 1 (view.most chain ⌈/⌉ 16) := by
  rw [(disable_rerun h hookable (many_of_early early)).1, ← Chains.most_le_iff,
    ← ceilDiv_le_iff_le_mul (by decide)]
  omega

/-- The first clean run of disabling takes the chain and every hook away. -/
theorem disable_rerun_rules (h : m.Shows view) (hookable : view.Hookable chain) :
    ((disable chain).rerun Memory.backend (max 1 (view.most chain ⌈/⌉ 16)) m).rules =
      view.arrange chain none (Rule.foreign chain) := by
  obtain ⟨n, hn⟩ : ∃ n, max 1 (view.most chain ⌈/⌉ 16) = n + 1 :=
    ⟨max 1 (view.most chain ⌈/⌉ 16) - 1, by omega⟩
  have all : ∀ hook, view.copies chain hook ≤ 16 * (n + 1) := by
    rw [← Chains.most_le_iff, ← ceilDiv_le_iff_le_mul (by decide)]
    omega
  rw [hn]
  exact (disable_rerun h hookable (many_of_early hn.ge)).2 all

end Lifecycle

/-- Without the chain and the hooks, nothing jumps to the chain. -/
theorem Chains.Hookable.unused {view : Chains} {chain : ChainName} (h : view.Hookable chain)
    {name : String} {rules : List String}
    (hrules : view.arrange chain none (Rule.foreign chain) natTable name = some rules) :
    Rule.jump chain ∉ rules := by
  intro hmem
  obtain ⟨hook, rfl⟩ := h.jump_of_arrange (fun _ heq => by cases heq) hrules hmem
  rw [arrange_hook] at hrules
  obtain ⟨old, -, rfl⟩ := Option.map_eq_some_iff.1 hrules
  exact of_decide_eq_true (List.mem_filter.1 hmem).2 rfl

/-- **Convergence.** The filter is in any state with its hook points, nothing is made to fail, and `most`
is the larger number of hooks at one of them.  Of the runs of enabling, the first clean one has the number
`1 + ⌈(most - 16) / 15⌉`; all later ones are clean and change no rule.  If the chain is there and only the
hook points jump to it, the first clean run of disabling has the number `max 1 ⌈most / 16⌉`; after it neither
the chain nor a jump to it is left, and the other tables are as they were.  Whatever a translator for the
chain has on record, it makes the same runs with the same reports. -/
theorem reruns_converge {m : Memory} (unforced : m.failing = [])
    (hooks : Chains.HasHooks m.rules) (chain : ChainName) :
    let most := max (Chains.copies m.rules chain .output) (Chains.copies m.rules chain .prerouting)
    let enabled (n : Nat) : Memory := (Lifecycle.enable chain).rerun Memory.backend n m
    let disabled (n : Nat) : Memory := (Lifecycle.disable chain).rerun Memory.backend n m
    (∀ n, ((Lifecycle.enable chain).eval Memory.backend (enabled n)).1.isClean = true ↔
        1 + (most - 16) ⌈/⌉ 15 ≤ n + 1) ∧
      (∀ n, 1 + (most - 16) ⌈/⌉ 15 ≤ n → (enabled (n + 1)).rules = (enabled n).rules) ∧
      ((m.rules natTable chain.text).isSome = true →
        (∀ name rules, m.rules natTable name = some rules → Rule.jump chain ∈ rules →
          ∃ hook : Hook, name = hook.chain) →
        (∀ n, n + 1 ≤ max 1 (most ⌈/⌉ 16) →
          (((Lifecycle.disable chain).eval Memory.backend (disabled n)).1.isClean = true ↔
            n + 1 = max 1 (most ⌈/⌉ 16))) ∧
        let after := (disabled (max 1 (most ⌈/⌉ 16))).rules
        after natTable chain.text = none ∧
          (∀ name rules, after natTable name = some rules → Rule.jump chain ∉ rules) ∧
          ∀ table name, table ≠ natTable → after table name = m.rules table name) ∧
      ∀ (redirects : Redirects) (s : Memory),
        Deployment.serve Memory.backend ⟨⟨chain, redirects⟩, s⟩ .enable =
            (((Lifecycle.enable chain).eval Memory.backend s).1,
              ⟨⟨chain, redirects⟩, ((Lifecycle.enable chain).eval Memory.backend s).2⟩) ∧
          Deployment.serve Memory.backend ⟨⟨chain, redirects⟩, s⟩ .disable =
            (((Lifecycle.disable chain).eval Memory.backend s).1,
              ⟨.start chain, ((Lifecycle.disable chain).eval Memory.backend s).2⟩) := by
  intro most enabled disabled
  have shows : m.Shows m.rules := ⟨unforced, rfl⟩
  refine ⟨Lifecycle.enable_first_clean shows hooks,
    fun _ => Lifecycle.enable_rerun_settles shows hooks, ?_, ?_⟩
  · intro present only
    have hookable : Chains.Hookable m.rules chain := ⟨hooks, present, only⟩
    refine ⟨fun _ => Lifecycle.disable_first_clean shows hookable, ?_⟩
    intro after
    have hafter : after = _ := Lifecycle.disable_rerun_rules shows hookable
    rw [hafter]
    refine ⟨Chains.arrange_own .., fun _ _ => hookable.unused, ?_⟩
    intro table name other
    exact Chains.arrange_other _ _ _ _ fun same => absurd same other
  · intro redirects s
    exact ⟨Deployment.serve_enable_of_eval rfl, Deployment.serve_disable_of_eval rfl⟩

/-- Seventeen hooks at one hook point take two runs, of enabling as of disabling. -/
theorem reruns_converge_littered :
    let chain : ChainName := ⟨"A", by decide⟩
    let m : Memory := .littered chain 16
    let enabled := (Lifecycle.enable chain).eval Memory.backend m
    let disabled := (Lifecycle.disable chain).eval Memory.backend m
    (enabled.1.isClean = false ∧
        ((Lifecycle.enable chain).eval Memory.backend enabled.2).1.isClean = true) ∧
      (disabled.1.isClean = false ∧
        ((Lifecycle.disable chain).eval Memory.backend disabled.2).1.isClean = true) := by
  intro chain m enabled disabled
  have most : max (Chains.copies m.rules chain .output) (Chains.copies m.rules chain .prerouting) =
      17 := by
    decide +kernel
  have only : ∀ name rules, m.rules natTable name = some rules → Rule.jump chain ∈ rules →
      ∃ hook : Hook, name = hook.chain := by
    have listed : ∀ entry ∈ (m.table natTable).entries, Rule.jump chain ∈ entry.2 →
        entry.1 = Hook.output.chain := by
      decide +kernel
    intro name rules hrules hmem
    exact ⟨.output, listed ⟨name, rules⟩ (Keyed.get?_eq_some_iff.1 hrules) hmem⟩
  obtain ⟨enables, -, disables, -⟩ := reruns_converge (m := m) (by decide +kernel)
    (Memory.reachable_through _).hooks chain
  obtain ⟨disables, -⟩ := disables (by decide +kernel) only
  simp only [most] at enables disables
  refine ⟨⟨?_, (enables 1).2 (by decide)⟩, ?_, (disables 1 (by decide)).2 (by decide)⟩
  · exact Bool.eq_false_iff.2 (mt (enables 0).1 (by decide))
  · exact Bool.eq_false_iff.2 (mt (disables 0 (by decide)).1 (by decide))

end Divert
