/-
# Divert.Proofs.Lifecycle.Settled — the lifecycle on a filter that nothing is made to fail.

Both sequences do three things to the rules of the filter: they decide what our own chain holds, they
change the rules of the two hook points in the same way, and they leave every other chain alone.
`Chains.arrange` says just that, and arranging twice is arranging once.  So `enable_eval` and
`disable_eval` give the whole effect of a sequence in one equation, together with its report.
-/
import Divert.Proofs.Lifecycle.Copies
import Divert.Proofs.Lifecycle.Parts

namespace Divert

/-! ## Our chain, the hook points, and the rest -/

/-- The same rules, but our chain is as given and the rules of the hook points are changed. -/
def Chains.arrange (view : Chains) (chain : ChainName) (own : Option (List String))
    (f : List String → List String) : Chains := fun table name =>
  if table = natTable ∧ name = chain.text then own
  else if table = natTable ∧ (name = Hook.output.chain ∨ name = Hook.prerouting.chain) then
    (view table name).map f
  else view table name

namespace Chains

variable (view : Chains) (chain : ChainName) (own : Option (List String))
  (f : List String → List String)

@[simp] theorem arrange_own : view.arrange chain own f natTable chain.text = own := by
  simp [arrange]

theorem isSome_arrange_own (rules : List String) :
    (view.arrange chain (some rules) f natTable chain.text).isSome = true := by
  rw [arrange_own]
  rfl

@[simp] theorem arrange_hook (hook : Hook) :
    view.arrange chain own f natTable hook.chain = (view natTable hook.chain).map f := by
  have hne := chain.hook_ne_text hook
  cases hook <;> simp [arrange, hne]

theorem arrange_other {table name : String}
    (h : table = natTable → name ≠ chain.text ∧ ∀ hook : Hook, name ≠ hook.chain) :
    view.arrange chain own f table name = view table name := by
  simp only [arrange]
  split
  · next heq => exact absurd heq.2 (h heq.1).1
  · split
    · next heq =>
      rcases heq.2 with hname | hname
      · exact absurd hname ((h heq.1).2 .output)
      · exact absurd hname ((h heq.1).2 .prerouting)
    · rfl

variable {view chain own f}

/-- An arrangement is known by our chain, the hook points, and that nothing else differs. -/
theorem eq_arrange {after : Chains} (hown : after natTable chain.text = own)
    (hhook : ∀ hook : Hook, after natTable hook.chain = (view natTable hook.chain).map f)
    (hother : ∀ table name,
      (table = natTable → name ≠ chain.text ∧ ∀ hook : Hook, name ≠ hook.chain) →
        after table name = view table name) :
    after = view.arrange chain own f := by
  funext table name
  by_cases hrest : table = natTable → name ≠ chain.text ∧ ∀ hook : Hook, name ≠ hook.chain
  · rw [hother table name hrest, arrange_other view chain own f hrest]
  · obtain ⟨rfl, hname⟩ := Classical.not_imp.1 hrest
    by_cases hchain : name = chain.text
    · rw [hchain, hown, arrange_own]
    · obtain ⟨hook, hhookname⟩ := Classical.not_forall.1 fun hall => hname ⟨hchain, hall⟩
      rw [Classical.not_not.1 hhookname, hhook, arrange_hook]

theorem arrange_arrange (more : Option (List String)) (g : List String → List String) :
    (view.arrange chain own f).arrange chain more g = view.arrange chain more (g ∘ f) := by
  apply eq_arrange
  · exact arrange_own ..
  · intro hook
    rw [arrange_hook, arrange_hook, Option.map_map]
  · intro table name h
    rw [arrange_other _ _ _ _ h, arrange_other _ _ _ _ h]

/-- Arranging what is there already changes nothing. -/
theorem arrange_eq_self (hown : view natTable chain.text = own)
    (hhook : ∀ (hook : Hook) rules, view natTable hook.chain = some rules → f rules = rules) :
    view.arrange chain own f = view := by
  symm
  apply eq_arrange hown
  · intro hook
    cases hrules : view natTable hook.chain with
    | none => rfl
    | some rules => rw [Option.map_some, hhook hook rules hrules]
  · intro table name h
    rfl

/-- Changing our own chain only. -/
theorem set_own_arrange (more : Option (List String)) :
    (view.arrange chain own f).set natTable chain.text more = view.arrange chain more f := by
  apply eq_arrange
  · exact set_self ..
  · intro hook
    rw [set_of_ne _ _ _ _ (chain.hook_ne_text hook), arrange_hook]
  · intro table name h
    rw [← arrange_other view chain own f h]
    simp only [set]
    split
    · next heq => exact absurd heq.2 (h heq.1).1
    · rfl

/-- Changing one hook point after the other is changing both. -/
theorem set_hooks_eq_arrange {output prerouting : List String}
    (houtput : view natTable Hook.output.chain = some output)
    (hprerouting : view natTable Hook.prerouting.chain = some prerouting) :
    (view.set natTable Hook.output.chain (some (f output))).set natTable Hook.prerouting.chain
        (some (f prerouting)) = view.arrange chain (view natTable chain.text) f := by
  have hdistinct : Hook.output.chain ≠ Hook.prerouting.chain := by decide
  apply eq_arrange
  · rw [set_of_ne _ _ _ _ (chain.hook_ne_text _).symm,
      set_of_ne _ _ _ _ (chain.hook_ne_text _).symm]
  · intro hook
    cases hook with
    | output => rw [set_of_ne _ _ _ _ hdistinct, set_self, houtput, Option.map_some]
    | prerouting => rw [set_self, hprerouting, Option.map_some]
  · intro table name h
    simp only [set]
    split
    · next heq => exact absurd heq.2 ((h heq.1).2 .prerouting)
    · split
      · next heq => exact absurd heq.2 ((h heq.1).2 .output)
      · rfl

/-- Both hook points are there. -/
def HasHooks (view : Chains) : Prop := ∀ hook : Hook, (view natTable hook.chain).isSome = true

/-- The number of copies of our hook at a hook point. -/
def copies (view : Chains) (chain : ChainName) (hook : Hook) : Nat :=
  ((view natTable hook.chain).getD []).count (Rule.jump chain)

theorem HasHooks.arrange (h : view.HasHooks) : (view.arrange chain own f).HasHooks := by
  intro hook
  rw [arrange_hook, Option.isSome_map]
  exact h hook

variable (chain) in
theorem HasHooks.rules (h : view.HasHooks) (hook : Hook) :
    ∃ rules, view natTable hook.chain = some rules ∧
      view.copies chain hook = rules.count (Rule.jump chain) := by
  obtain ⟨rules, hrules⟩ := Option.isSome_iff_exists.1 (h hook)
  refine ⟨rules, hrules, ?_⟩
  rw [copies, hrules]
  rfl

/-- A change of the hook points changes the number of hooks there as it changes that of a list. -/
theorem HasHooks.copies_arrange (h : view.HasHooks) {g : Nat → Nat}
    (count : ∀ rules, (f rules).count (Rule.jump chain) = g (rules.count (Rule.jump chain)))
    (hook : Hook) : (view.arrange chain own f).copies chain hook = g (view.copies chain hook) := by
  obtain ⟨rules, hrules, hcount⟩ := h.rules chain hook
  rw [hcount, ← count, copies, arrange_hook, hrules]
  rfl

end Chains

/-- Every state of the filter has its hook points. -/
theorem Memory.Reachable.hooks {m : Memory} (h : m.Reachable) : Chains.HasHooks m.rules :=
  fun hook => h.builtin natTable (by cases hook <;> decide)

/-! ## The sequences -/

namespace Lifecycle

open Script

variable {m : Memory} {view : Chains}

/-- What the removal of every hook adds to a report. -/
def reportHooks (chain : ChainName) (view : Chains) (report : Report) : Report :=
  reportCopies chain .prerouting maxHookCopies (view.copies chain .prerouting)
    (reportCopies chain .output maxHookCopies (view.copies chain .output) report)

/-- What the removal of the hooks leaves of the rules of a hook point. -/
def unhooked (chain : ChainName) (rules : List String) : List String :=
  eraseCopies (Rule.jump chain) maxHookCopies rules

theorem count_unhooked {chain : ChainName} (rules : List String) :
    (unhooked chain rules).count (Rule.jump chain) =
      rules.count (Rule.jump chain) - maxHookCopies :=
  count_eraseCopies _ _ _

theorem count_rehooked {chain : ChainName} (rules : List String) :
    (Rule.jump chain :: unhooked chain rules).count (Rule.jump chain) =
      rules.count (Rule.jump chain) - maxHookCopies + 1 := by
  rw [List.count_cons_self, count_unhooked]

/-- The hooks are removed from both hook points, and nothing else is changed. -/
theorem removeHooks_eval (h : m.Shows view) (hooks : view.HasHooks) (chain : ChainName)
    (report : Report) :
    ∃ after, (removeHooks chain report).eval Memory.backend m =
        (reportHooks chain view report, after) ∧
      after.Shows (view.arrange chain (view natTable chain.text) (unhooked chain)) := by
  obtain ⟨output, houtput, houtputCopies⟩ := hooks.rules chain .output
  obtain ⟨prerouting, hprerouting, hpreroutingCopies⟩ := hooks.rules chain .prerouting
  have hdistinct : Hook.prerouting.chain ≠ Hook.output.chain := by decide
  obtain ⟨between, hfirst, hbetween⟩ :=
    removeCopies_eval h chain houtput maxHookCopies report
  have hprerouting' := hprerouting
  rw [← Chains.set_of_ne view natTable _
    (some (eraseCopies (Rule.jump chain) maxHookCopies output)) hdistinct] at hprerouting'
  obtain ⟨after, hsecond, hafter⟩ := removeCopies_eval hbetween chain hprerouting' maxHookCopies
    (reportCopies chain .output maxHookCopies (output.count (Rule.jump chain)) report)
  refine ⟨after, ?_, ?_⟩
  · rw [removeHooks_eq, eval_bind_of hfirst, hsecond, reportHooks, houtputCopies,
      hpreroutingCopies]
  · rw [← Chains.set_hooks_eq_arrange houtput hprerouting]
    exact hafter

/-- A step on our chain that is carried out. -/
theorem attempt_done {after : Memory} {chain : ChainName} {action : Action} {value : Bool}
    (h : m.answer ⟨natTable, chain.text, action⟩ = (.ok value, after)) (report : Report) :
    (attempt report (chainCommand chain action)).eval Memory.backend m =
      ((some value, report.plus 1 []), after) :=
  eval_attempt_ok h report

/-- A step on our chain that is refused. -/
theorem attempt_refused {after : Memory} {chain : ChainName} {action : Action} {e : RuleError}
    (h : m.answer ⟨natTable, chain.text, action⟩ = (.error e, after)) (report : Report) :
    (attempt report (chainCommand chain action)).eval Memory.backend m =
      ((none, report.plus 1 [e]), after) :=
  eval_attempt_error h report

/-- The chain is created if it is missing, in one step more. -/
theorem ensureChain_eval (h : m.Shows view) (chain : ChainName) (report : Report) :
    ∃ after, (ensureChain chain report).eval Memory.backend m =
        (report.plus (if (view natTable chain.text).isSome then 1 else 2) [], after) ∧
      after.Shows (view.set natTable chain.text (some ((view natTable chain.text).getD []))) := by
  obtain ⟨asked, hprobe, hasked⟩ := h.probe natTable chain.text
  rw [ensureChain, eval_bind_of (attempt_done hprobe report)]
  cases hown : view natTable chain.text with
  | some rules =>
    refine ⟨asked, rfl, ?_⟩
    rwa [Option.getD_some, Chains.set_eq_self _ _ _ _ hown]
  | none =>
    obtain ⟨after, hcreate, hafter⟩ := hasked.create hown
    refine ⟨after, ?_, hafter⟩
    simp only [Option.isSome_none, Option.some.injEq, Bool.false_eq_true, if_false]
    rw [eval_bind_of (attempt_done hcreate _), Report.plus_plus]
    rfl

/-- Our chain is filled, in three steps or four. -/
theorem fill_eval (h : m.Shows view) (chain : ChainName) (report : Report) :
    ∃ after, (fill chain report).eval Memory.backend m =
        (report.plus (if (view natTable chain.text).isSome then 3 else 4) [], after) ∧
      after.Shows (view.set natTable chain.text (some [Rule.loopback])) := by
  obtain ⟨m₁, hensure, h₁⟩ := ensureChain_eval h chain report
  obtain ⟨m₂, hflush, h₂⟩ := h₁.flush (Chains.set_self ..)
  rw [Chains.set_set] at h₂
  obtain ⟨m₃, happend, h₃⟩ := h₂.append (Chains.set_self ..) Rule.plain_loopback
  rw [Chains.set_set, List.nil_append] at h₃
  refine ⟨m₃, ?_, h₃⟩
  rw [fill, eval_bind_of hensure, eval_bind_of (attempt_done hflush _),
    eval_bind_of (attempt_done happend _), Report.plus_plus, Report.plus_plus]
  cases view natTable chain.text <;> rfl

/-- A hook is put in front of the rules of a hook point, in one step. -/
theorem insertHook_eval (h : m.Shows view) {chain : ChainName}
    (present : (view natTable chain.text).isSome = true) {hook : Hook} {rules : List String}
    (hrules : view natTable hook.chain = some rules) (report : Report) :
    ∃ after, (insertHook chain report hook).eval Memory.backend m = (report.plus 1 [], after) ∧
      after.Shows (view.set natTable hook.chain (some (Rule.jump chain :: rules))) := by
  obtain ⟨after, hinsert, hafter⟩ := h.hook present hrules
  have hstep : (attempt report (hookCommand chain hook (.insert 1))).eval Memory.backend m = _ :=
    eval_attempt_ok hinsert report
  refine ⟨after, ?_, hafter⟩
  rw [insertHook, eval_bind_of hstep]
  rfl

/-- A hook is put in front of the rules of both hook points, in two steps. -/
theorem insertHooks_eval (h : m.Shows view) (hooks : view.HasHooks) {chain : ChainName}
    (present : (view natTable chain.text).isSome = true) (report : Report) :
    ∃ after, (insertHooks chain report).eval Memory.backend m = (report.plus 2 [], after) ∧
      after.Shows (view.arrange chain (view natTable chain.text) (Rule.jump chain :: ·)) := by
  obtain ⟨output, houtput, -⟩ := hooks.rules chain .output
  obtain ⟨prerouting, hprerouting, -⟩ := hooks.rules chain .prerouting
  have hdistinct : Hook.prerouting.chain ≠ Hook.output.chain := by decide
  obtain ⟨between, hfirst, hbetween⟩ := insertHook_eval h present houtput report
  have hprerouting' := hprerouting
  rw [← Chains.set_of_ne view natTable _ (some (Rule.jump chain :: output)) hdistinct]
    at hprerouting'
  have present' := present
  rw [← Chains.set_of_ne view natTable _ (some (Rule.jump chain :: output))
    (chain.hook_ne_text .output).symm] at present'
  obtain ⟨after, hsecond, hafter⟩ :=
    insertHook_eval hbetween present' hprerouting' (report.plus 1 [])
  refine ⟨after, ?_, ?_⟩
  · rw [insertHooks_eq, eval_bind_of hfirst, hsecond, Report.plus_plus]
    rfl
  · rw [← Chains.set_hooks_eq_arrange houtput hprerouting]
    exact hafter

/-- **Enabling.** Afterwards our chain holds the loopback exemption only, and the hook stands in front
of what its removal left of both hook points. -/
theorem enable_eval (h : m.Shows view) (hooks : view.HasHooks) (chain : ChainName) :
    ∃ after, (enable chain).eval Memory.backend m =
        ((reportHooks chain view (.start "enable")).plus
          (if (view natTable chain.text).isSome then 5 else 6) [], after) ∧
      after.Shows (view.arrange chain (some [Rule.loopback])
        (fun rules => Rule.jump chain :: unhooked chain rules)) := by
  obtain ⟨m₁, hremove, h₁⟩ := removeHooks_eval h hooks chain (.start "enable")
  obtain ⟨m₂, hfill, h₂⟩ := fill_eval h₁ chain (reportHooks chain view (.start "enable"))
  rw [Chains.set_own_arrange] at h₂
  rw [Chains.arrange_own] at hfill
  obtain ⟨m₃, hinsert, h₃⟩ := insertHooks_eval h₂ hooks.arrange (Chains.isSome_arrange_own ..)
    ((reportHooks chain view (.start "enable")).plus
      (if (view natTable chain.text).isSome then 3 else 4) [])
  rw [Chains.arrange_own, Chains.arrange_arrange] at h₃
  refine ⟨m₃, ?_, h₃⟩
  rw [enable_eq, eval_bind_of hremove, eval_bind_of hfill, eval_bind_of hinsert, Report.plus_plus]
  split <;> rfl

/-- **Disabling.** A chain that no rule but the removed hooks jumps to is taken away. -/
theorem disable_eval (h : m.Shows view) (hooks : view.HasHooks) {chain : ChainName}
    (present : (view natTable chain.text).isSome = true)
    (unused : ∀ name rules,
      view.arrange chain (some []) (unhooked chain) natTable name = some rules →
        Rule.jump chain ∉ rules) :
    ∃ after, (disable chain).eval Memory.backend m =
        ((reportHooks chain view (.start "disable")).plus 2 [], after) ∧
      after.Shows (view.arrange chain none (unhooked chain)) := by
  obtain ⟨own, hown⟩ := Option.isSome_iff_exists.1 present
  obtain ⟨m₁, hremove, h₁⟩ := removeHooks_eval h hooks chain (.start "disable")
  rw [hown] at h₁
  obtain ⟨m₂, hflush, h₂⟩ := h₁.flush (Chains.arrange_own ..)
  rw [Chains.set_own_arrange] at h₂
  obtain ⟨m₃, hdelete, h₃⟩ :=
    h₂.remove chain.text_notMem_builtinChains (Chains.arrange_own ..) unused
  rw [Chains.set_own_arrange] at h₃
  refine ⟨m₃, ?_, h₃⟩
  rw [disable, eval_bind_of hremove, eval_bind_of (attempt_done hflush _),
    eval_bind_of (attempt_done hdelete _), Report.plus_plus]
  rfl

/-- The refusal to delete a chain that some rule jumps to. -/
def inUse (chain : ChainName) : RuleError :=
  (chainCommand chain .remove).refused Filter.Refusal.chainInUse.message

/-- Disabling a chain that some rule still jumps to empties it, and is refused its deletion. -/
theorem disable_eval_used (h : m.Shows view) (hooks : view.HasHooks) {chain : ChainName}
    (present : (view natTable chain.text).isSome = true) {name : String} {rules : List String}
    (hrules : view.arrange chain (some []) (unhooked chain) natTable name = some rules)
    (used : Rule.jump chain ∈ rules) :
    ∃ after, (disable chain).eval Memory.backend m =
        ((reportHooks chain view (.start "disable")).plus 2 [inUse chain], after) ∧
      after.Shows (view.arrange chain (some []) (unhooked chain)) := by
  obtain ⟨own, hown⟩ := Option.isSome_iff_exists.1 present
  obtain ⟨m₁, hremove, h₁⟩ := removeHooks_eval h hooks chain (.start "disable")
  rw [hown] at h₁
  obtain ⟨m₂, hflush, h₂⟩ := h₁.flush (Chains.arrange_own ..)
  rw [Chains.set_own_arrange] at h₂
  obtain ⟨m₃, hdelete, h₃⟩ :=
    h₂.remove_used chain.text_notMem_builtinChains (Chains.arrange_own ..) hrules used
  refine ⟨m₃, ?_, h₃⟩
  rw [disable, eval_bind_of hremove, eval_bind_of (attempt_done hflush _),
    eval_bind_of (attempt_refused hdelete _), Report.plus_plus]
  rfl

/-- The two refusals of a chain that is not there: it can neither be emptied nor deleted. -/
def notInstalled (chain : ChainName) : List RuleError :=
  [(chainCommand chain .flush).refused Filter.Refusal.noSuchChain.message,
    (chainCommand chain .remove).refused Filter.Refusal.noSuchChain.message]

/-- Disabling a chain that is not there removes hooks and is refused twice. -/
theorem disable_eval_missing (h : m.Shows view) (hooks : view.HasHooks) {chain : ChainName}
    (absent : view natTable chain.text = none) :
    ∃ after, (disable chain).eval Memory.backend m =
        ((reportHooks chain view (.start "disable")).plus 2 (notInstalled chain), after) ∧
      after.Shows (view.arrange chain none (unhooked chain)) := by
  obtain ⟨m₁, hremove, h₁⟩ := removeHooks_eval h hooks chain (.start "disable")
  rw [absent] at h₁
  obtain ⟨m₂, hflush, h₂⟩ := h₁.flush_missing (Chains.arrange_own ..)
  obtain ⟨m₃, hdelete, h₃⟩ :=
    h₂.remove_missing chain.text_notMem_builtinChains (Chains.arrange_own ..)
  refine ⟨m₃, ?_, h₃⟩
  rw [disable, eval_bind_of hremove, eval_bind_of (attempt_refused hflush _),
    eval_bind_of (attempt_refused hdelete _), Report.plus_plus]
  rfl

end Lifecycle

end Divert
