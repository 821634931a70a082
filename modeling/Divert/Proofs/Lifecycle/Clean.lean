/-
# Divert.Proofs.Lifecycle.Clean — what a clean report vouches for.

A clean report of disabling can be trusted, whatever failed on the way: its last step is the deletion
of the chain, and no filter deletes a chain that a rule still jumps to.  A clean report of enabling can
be trusted but for one thing.  If the check for the hook fails, the removal goes on to one delete
without it, and takes the refusal of that delete for a sign that there is nothing to delete.  Where the
hook does stand, it is spared without a word, and the new hook is put in front of the old one.
-/
import Divert.Proofs.Filter.Hooks

namespace Divert

open Script

namespace Lifecycle

variable {σ : Type} {b : Backend σ} {rules : σ → Chains} {chain : ChainName} {hook : Hook}
  {s after : σ} {report out : Report}

/-- A script whose commands are about other chains leaves a chain alone. -/
theorem rules_elsewhere (faithful : b.Faithful rules) {P : Command → Prop} {Q : Report → Prop}
    {x : Script Report} (hx : x.Within P Q) (h : x.eval b s = (out, after)) {name : String}
    (elsewhere : ∀ c, P c → name ≠ c.chain) :
    rules after natTable name = rules s natTable name := by
  have same := hx.eval_keeps (b := b) (s := s)
    (I := fun s' => rules s' natTable name = rules s natTable name) ?_ rfl
  · rw [h] at same
    exact same.2
  · intro s' c issued hs'
    rw [faithful.elsewhere (elsewhere c issued), hs']

/-! ## The removal of hooks -/

/-- The refusal of a command to delete the hook although it stands. -/
def Spares (b : Backend σ) (rules : σ → Chains) (chain : ChainName) (hook : Hook)
    (call : Call σ) : Prop :=
  call.command = hookCommand chain hook .delete ∧ (∃ e, call.answer b = .error e) ∧
    (rules call.state).HookAt chain hook

/-- The hook was spared by one of the calls. -/
def Spared (b : Backend σ) (rules : σ → Chains) (chain : ChainName) (hook : Hook)
    (calls : List (Call σ)) : Prop :=
  ∃ call ∈ calls, Spares b rules chain hook call

theorem spared_append {calls more : List (Call σ)} :
    Spared b rules chain hook (calls ++ more) ↔
      Spared b rules chain hook calls ∨ Spared b rules chain hook more := by
  simp only [Spared, List.mem_append, or_and_right, exists_or]

theorem spared_singleton {call : Call σ} :
    Spared b rules chain hook [call] ↔ Spares b rules chain hook call := by
  simp [Spared]

/-- Without deletes of the hook, no hook is spared. -/
theorem not_spared_of_within {P : Command → Prop} {Q : Report → Prop} {x : Script Report}
    (hx : x.Within P Q) (other : ¬ P (hookCommand chain hook .delete)) :
    ¬ Spared b rules chain hook (x.calls b s) := by
  rintro ⟨call, hcall, hdelete, -⟩
  exact other (hdelete ▸ hx.of_mem_calls hcall)

theorem not_spares_check :
    ¬ Spares b rules chain hook ⟨s, hookCommand chain hook .check⟩ :=
  fun h => Action.noConfusion (congrArg Command.action h.1)

/-- A truthful answer to the check says whether the hook stands. -/
theorem hookAt_of_checked (truthful : b.Truthful rules) {value : Bool}
    (h : (b.answer s (hookCommand chain hook .check)).1 = .ok value) :
    value = true ↔ (rules s).HookAt chain hook := by
  obtain ⟨own, hown, rfl⟩ := truthful.told h
  have place : rules s natTable hook.chain = some own := hown
  have same : Text.normalise (Rule.jump chain) = Rule.jump chain := Rule.normalise_jump chain
  rw [same, decide_eq_true_eq, Chains.HookAt, place]
  simp

theorem rules_of_checked (faithful : b.Faithful rules) {answer : Answer}
    (h : b.answer s (hookCommand chain hook .check) = (answer, after)) : rules after = rules s := by
  have same : rules (b.answer s (hookCommand chain hook .check)).2 = rules s :=
    faithful.asked fun _ => rfl
  rwa [h] at same

/-- A removal that ends with the check has found no hook and spared none. -/
theorem absent_of_checked (truthful : b.Truthful rules)
    (h : b.answer s (hookCommand chain hook .check) = (.ok false, after)) :
    (rules after).HookAt chain hook ↔
      Spared b rules chain hook [⟨s, hookCommand chain hook .check⟩] := by
  have standing := hookAt_of_checked truthful (congrArg Prod.fst h)
  rw [rules_of_checked truthful.toFaithful h, ← standing, spared_singleton]
  exact ⟨fun h => Bool.noConfusion h, fun h => absurd h not_spares_check⟩

/-- A round that ends with a delete that was carried out has spared none. -/
theorem spared_of_deleted {between : σ} {value : Bool}
    (h : b.answer between (hookCommand chain hook .delete) = (.ok value, after))
    (calls : List (Call σ)) :
    Spared b rules chain hook ([⟨s, hookCommand chain hook .check⟩] ++
        ([⟨between, hookCommand chain hook .delete⟩] ++ calls)) ↔
      Spared b rules chain hook calls := by
  have deleted : ¬ Spares b rules chain hook ⟨between, hookCommand chain hook .delete⟩ := by
    rintro ⟨-, ⟨e, he⟩, -⟩
    rw [Call.answer, h] at he
    cases he
  rw [spared_append, spared_append, spared_singleton, spared_singleton]
  simp only [not_spares_check, deleted, false_or]

/-- A removal that ends with a delete that was refused without a check has spared the hook, if it
stands. -/
theorem spared_of_kept (faithful : b.Faithful rules) {between : σ} {e : RuleError}
    (hdelete : b.answer between (hookCommand chain hook .delete) = (.error e, after)) :
    (rules after).HookAt chain hook ↔
      Spared b rules chain hook ([⟨s, hookCommand chain hook .check⟩] ++
        [⟨between, hookCommand chain hook .delete⟩]) := by
  rw [spared_append, spared_singleton, spared_singleton, faithful.kept hdelete]
  simp only [not_spares_check, false_or]
  exact ⟨fun standing => ⟨rfl, ⟨e, congrArg Prod.fst hdelete⟩, standing⟩, fun spares => spares.2.2⟩

/-- **Removal with a clean report.** The hook is gone afterwards, unless it was spared. -/
theorem removeCopies_clean (truthful : b.Truthful rules) {rounds : Nat}
    (h : (removeCopies chain hook rounds report).eval b s = (out, after))
    (clean : out.isClean = true) :
    report.isClean = true ∧ ((rules after).HookAt chain hook ↔
      Spared b rules chain hook ((removeCopies chain hook rounds report).calls b s)) := by
  induction rounds generalizing s report with
  | zero =>
    rcases hcheck : b.answer s (hookCommand chain hook .check) with ⟨answer, s₁⟩
    have hask : (issue (hookCommand chain hook .check)).eval b s = (answer, s₁) := hcheck
    rw [removeCopies, eval_bind_of hask] at h
    rw [removeCopies, calls_bind_of hask, calls_issue]
    rcases answer with e | ⟨_ | _⟩
    case ok.false =>
      obtain ⟨rfl, rfl⟩ := Prod.mk.inj h
      exact ⟨clean, absent_of_checked truthful hcheck⟩
    -- A hook that is still found, or a check that fails, is reported.
    all_goals
      obtain ⟨rfl, rfl⟩ := Prod.mk.inj h
      exact absurd clean (Report.not_isClean_step Unit _ _)
  | succ rounds ih =>
    rcases hcheck : b.answer s (hookCommand chain hook .check) with ⟨answer, s₁⟩
    rcases hdelete : b.answer s₁ (hookCommand chain hook .delete) with ⟨deleted, s₂⟩
    have hask : (issue (hookCommand chain hook .check)).eval b s = (answer, s₁) := hcheck
    rw [removeCopies, eval_bind_of hask] at h
    rw [removeCopies, calls_bind_of hask, calls_issue]
    rcases answer with e | ⟨_ | _⟩
    case ok.false =>
      obtain ⟨rfl, rfl⟩ := Prod.mk.inj h
      exact ⟨clean, absent_of_checked truthful hcheck⟩
    -- The copy that was found is deleted, or the report says that it was not.
    case ok.true =>
      have hstep := eval_attempt_of hdelete report
      dsimp only at h ⊢
      rw [eval_bind_of hstep] at h
      rw [calls_bind_of hstep, calls_attempt]
      cases deleted with
      | error e =>
        obtain ⟨rfl, rfl⟩ := Prod.mk.inj h
        exact absurd clean (Report.not_isClean_step Bool report e)
      | ok value =>
        rw [spared_of_deleted hdelete]
        obtain ⟨before, gone⟩ := ih h
        exact ⟨(Report.isClean_step.1 before).1, gone⟩
    -- The check failed, so one delete is tried without it.
    case error =>
      have hstep : (issue (hookCommand chain hook .delete)).eval b s₁ = (deleted, s₂) := hdelete
      dsimp only at h ⊢
      rw [eval_bind, eval_log, eval_bind_of hstep] at h
      rw [calls_bind, calls_log, eval_log, List.nil_append, calls_bind_of hstep, calls_issue]
      cases deleted with
      | error e' =>
        obtain ⟨rfl, rfl⟩ := Prod.mk.inj h
        exact ⟨clean, spared_of_kept truthful.toFaithful hdelete⟩
      | ok value =>
        rw [spared_of_deleted hdelete]
        exact ih h

/-! ### Both hook points -/

/-- The removal of one hook leaves the other hook point alone. -/
theorem removeCopies_elsewhere (faithful : b.Faithful rules) {other : Hook} (hne : other ≠ hook)
    {rounds : Nat} (h : (removeCopies chain hook rounds report).eval b s = (out, after)) :
    (rules after).HookAt chain other ↔ (rules s).HookAt chain other := by
  have same : rules after natTable other.chain = rules s natTable other.chain := by
    apply rules_elsewhere faithful (removeCopies_within chain hook rounds report) h
    intro c issued
    rw [issued.place]
    exact fun heq => hne (Hook.chain_injective heq)
  rw [Chains.HookAt, same, Chains.HookAt]

/-- The removal of one hook spares no hook at the other hook point. -/
theorem removeCopies_spares (rules : σ → Chains) {other : Hook} (hne : other ≠ hook)
    (rounds : Nat) :
    ¬ Spared b rules chain other ((removeCopies chain hook rounds report).calls b s) :=
  not_spared_of_within (removeCopies_within chain hook rounds report) fun issued =>
    hne (Hook.chain_injective issued.place)

/-- **Removal of the hooks with a clean report.** Every hook is gone, unless it was spared. -/
theorem removeHooks_clean (truthful : b.Truthful rules)
    (h : (removeHooks chain report).eval b s = (out, after)) (clean : out.isClean = true) :
    report.isClean = true ∧ ∀ hook, (rules after).HookAt chain hook ↔
      Spared b rules chain hook ((removeHooks chain report).calls b s) := by
  have faithful := truthful.toFaithful
  have hdistinct : Hook.output ≠ Hook.prerouting := by decide
  rcases hfirst : (removeCopies chain .output maxHookCopies report).eval b s with ⟨between, s₁⟩
  rw [removeHooks_eq, eval_bind_of hfirst] at h
  rw [removeHooks_eq, calls_bind_of hfirst]
  obtain ⟨cleanFirst, second⟩ := removeCopies_clean truthful h clean
  obtain ⟨cleanBefore, first⟩ := removeCopies_clean truthful hfirst cleanFirst
  refine ⟨cleanBefore, ?_⟩
  intro hook
  rw [spared_append]
  cases hook with
  | output =>
    rw [removeCopies_elsewhere faithful hdistinct h, first]
    simp only [removeCopies_spares rules hdistinct, or_false]
  | prerouting =>
    rw [second]
    simp only [removeCopies_spares rules hdistinct.symm, false_or]

/-! ## Filling the chain and putting the hooks back -/

theorem ensureChain_clean (h : (ensureChain chain report).eval b s = (out, after))
    (clean : out.isClean = true) : report.isClean = true := by
  rw [ensureChain, eval_bind, eval_attempt] at h
  dsimp only at h
  split at h
  · obtain ⟨rfl, rfl⟩ := Prod.mk.inj h
    exact (Report.isClean_step.1 clean).1
  · rw [eval_bind, eval_attempt] at h
    obtain ⟨rfl, rfl⟩ := Prod.mk.inj h
    exact (Report.isClean_step.1 (Report.isClean_step.1 clean).1).1

/-- **Filling with a clean report.** The chain holds the loopback exemption and nothing else. -/
theorem fill_clean (faithful : b.Faithful rules) (h : (fill chain report).eval b s = (out, after))
    (clean : out.isClean = true) :
    report.isClean = true ∧ rules after natTable chain.text = some [Rule.loopback] := by
  rcases hensure : (ensureChain chain report).eval b s with ⟨ensured, s₁⟩
  rcases hflush : b.answer s₁ (chainCommand chain .flush) with ⟨flushed, s₂⟩
  rcases happend : b.answer s₂ (chainCommand chain (.append Rule.loopback)) with ⟨appended, s₃⟩
  rw [fill, eval_bind_of hensure, eval_bind_of (eval_attempt_of hflush _),
    eval_bind_of (eval_attempt_of happend _)] at h
  obtain ⟨rfl, rfl⟩ := Prod.mk.inj h
  obtain ⟨cleanFlush, _, rfl⟩ := Report.isClean_step.1 clean
  obtain ⟨cleanEnsure, _, rfl⟩ := Report.isClean_step.1 cleanFlush
  refine ⟨ensureChain_clean hensure cleanEnsure, ?_⟩
  have emptied : rules s₂ natTable chain.text = some [] :=
    faithful.effect_of_answer (.lifecycle .flush) hflush
  have exempted : rules s₃ natTable chain.text = _ :=
    faithful.effect_of_answer (.lifecycle .exempt) happend
  exact exempted.trans (congrArg (Action.effect (.append Rule.loopback)) emptied)

/-- Filling the chain leaves the hook points alone. -/
theorem fill_elsewhere (faithful : b.Faithful rules)
    (h : (fill chain report).eval b s = (out, after)) (hook : Hook) :
    rules after natTable hook.chain = rules s natTable hook.chain := by
  apply rules_elsewhere faithful (fill_within chain report) h
  intro c issued
  rw [issued.place]
  exact chain.hook_ne_text hook

/-- Filling the chain spares no hook. -/
theorem fill_spares (rules : σ → Chains) (hook : Hook) :
    ¬ Spared b rules chain hook ((fill chain report).calls b s) :=
  not_spared_of_within (fill_within chain report) fun issued =>
    chain.hook_ne_text hook issued.place

/-- **Insertion with a clean report.** The hook stands in front of the rules of the hook point. -/
theorem insertHook_clean (truthful : b.Truthful rules)
    (h : (insertHook chain report hook).eval b s = (out, after)) (clean : out.isClean = true) :
    report.isClean = true ∧ ∃ before, rules s natTable hook.chain = some before ∧
      rules after natTable hook.chain = some (Rule.jump chain :: before) := by
  have issued : Translator.Issues chain (hookCommand chain hook (.insert 1)) :=
    .lifecycle (.insertHook hook)
  rcases hinsert : b.answer s (hookCommand chain hook (.insert 1)) with ⟨inserted, s₁⟩
  rw [insertHook, eval_bind_of (eval_attempt_of hinsert _)] at h
  obtain ⟨rfl, rfl⟩ := Prod.mk.inj h
  obtain ⟨cleanBefore, _, rfl⟩ := Report.isClean_step.1 clean
  have told := truthful.told (congrArg Prod.fst hinsert)
  rw [issued.normal] at told
  obtain ⟨before, hbefore⟩ := Option.isSome_iff_exists.1 told.1
  have place : rules s natTable hook.chain = some before := hbefore
  have effect : rules s₁ natTable hook.chain = _ :=
    truthful.toFaithful.effect_of_answer issued hinsert
  refine ⟨cleanBefore, before, place, effect.trans ?_⟩
  exact congrArg (Action.effect (.insert 1 (Rule.jump chain))) place

theorem insertHook_elsewhere (faithful : b.Faithful rules)
    (h : (insertHook chain report hook).eval b s = (out, after)) {name : String}
    (hne : name ≠ hook.chain) : rules after natTable name = rules s natTable name :=
  rules_elsewhere faithful (insertHook_within chain report hook) h fun _ issued =>
    issued.place ▸ hne

/-- **Insertion of the hooks with a clean report.** Each stands in front of the rules of its hook point,
and our chain is left alone. -/
theorem insertHooks_clean (truthful : b.Truthful rules)
    (h : (insertHooks chain report).eval b s = (out, after)) (clean : out.isClean = true) :
    report.isClean = true ∧ rules after natTable chain.text = rules s natTable chain.text ∧
      ∀ hook : Hook, ∃ before, rules s natTable hook.chain = some before ∧
        rules after natTable hook.chain = some (Rule.jump chain :: before) := by
  have faithful := truthful.toFaithful
  have hdistinct : Hook.output.chain ≠ Hook.prerouting.chain := by decide
  rcases hfirst : (insertHook chain report .output).eval b s with ⟨between, s₁⟩
  rw [insertHooks_eq, eval_bind_of hfirst] at h
  obtain ⟨cleanFirst, prerouting, hbefore, hafter⟩ := insertHook_clean truthful h clean
  obtain ⟨cleanBefore, output, houtput, hinserted⟩ := insertHook_clean truthful hfirst cleanFirst
  refine ⟨cleanBefore, ?_, ?_⟩
  · rw [insertHook_elsewhere faithful h (chain.hook_ne_text _).symm,
      insertHook_elsewhere faithful hfirst (chain.hook_ne_text _).symm]
  · intro hook
    cases hook with
    | output =>
      rw [insertHook_elsewhere faithful h hdistinct]
      exact ⟨output, houtput, hinserted⟩
    | prerouting =>
      rw [insertHook_elsewhere faithful hfirst hdistinct.symm] at hbefore
      exact ⟨prerouting, hbefore, hafter⟩

theorem insertHooks_spares (rules : σ → Chains) (hook : Hook) :
    ¬ Spared b rules chain hook ((insertHooks chain report).calls b s) := by
  apply not_spared_of_within (insertHooks_within chain report)
  rintro ⟨other, issued⟩
  generalize hc : hookCommand chain hook .delete = c at issued
  cases issued
  exact Action.noConfusion (congrArg Command.action hc)

/-! ## The sequences -/

/-- **Enabling with a clean report.** The chain holds the loopback exemption and nothing else, and at
each hook point the hook is the first rule.  It is the only one of its kind, unless the old hook was
spared. -/
theorem enable_clean (truthful : b.Truthful rules)
    (h : (enable chain).eval b s = (out, after)) (clean : out.isClean = true) :
    rules after natTable chain.text = some [Rule.loopback] ∧
      ∀ hook : Hook, ∃ rest, rules after natTable hook.chain = some (Rule.jump chain :: rest) ∧
        (Rule.jump chain ∈ rest ↔ Spared b rules chain hook ((enable chain).calls b s)) := by
  have faithful := truthful.toFaithful
  rcases hremove : (removeHooks chain (.start "enable")).eval b s with ⟨r₁, s₁⟩
  rcases hfill : (fill chain r₁).eval b s₁ with ⟨r₂, s₂⟩
  rcases hinsert : (insertHooks chain r₂).eval b s₂ with ⟨r₃, s₃⟩
  rw [enable_eq, eval_bind_of hremove, eval_bind_of hfill, eval_bind_of hinsert] at h
  obtain ⟨rfl, rfl⟩ := Prod.mk.inj h
  rw [enable_eq, calls_bind_of hremove, calls_bind_of hfill, calls_bind_of hinsert, calls_bind,
    calls_log, calls_pure, List.append_nil, List.append_nil]
  obtain ⟨cleanFill, own, hooked⟩ := insertHooks_clean truthful hinsert clean
  obtain ⟨cleanRemove, filled⟩ := fill_clean faithful hfill cleanFill
  refine ⟨own.trans filled, ?_⟩
  intro hook
  obtain ⟨rest, hrest, hafter⟩ := hooked hook
  have removed := (removeHooks_clean truthful hremove cleanRemove).2 hook
  have left : (rules s₁).HookAt chain hook ↔ Rule.jump chain ∈ rest := by
    rw [Chains.HookAt, ← fill_elsewhere faithful hfill hook, hrest]
    simp
  refine ⟨rest, hafter, left.symm.trans (removed.trans ?_)⟩
  rw [spared_append, spared_append]
  simp only [fill_spares, insertHooks_spares, or_false]

/-- **Disabling with a clean report.** The chain is gone, and so is every rule that jumps to it. -/
theorem disable_clean (truthful : b.Truthful rules)
    (h : (disable chain).eval b s = (out, after)) (clean : out.isClean = true) :
    rules after natTable chain.text = none ∧
      ∀ name own, rules after natTable name = some own → Rule.jump chain ∉ own := by
  have faithful := truthful.toFaithful
  have issued : Translator.Issues chain (chainCommand chain .remove) := .lifecycle .remove
  rcases hremove : (removeHooks chain (.start "disable")).eval b s with ⟨r₁, s₁⟩
  rcases hflush : b.answer s₁ (chainCommand chain .flush) with ⟨flushed, s₂⟩
  rcases hdelete : b.answer s₂ (chainCommand chain .remove) with ⟨deleted, s₃⟩
  rw [disable, eval_bind_of hremove, eval_bind_of (eval_attempt_of hflush _),
    eval_bind_of (eval_attempt_of hdelete _)] at h
  obtain rfl : (r₁.step flushed).step deleted = out := congrArg Prod.fst h
  obtain rfl : s₃ = after := congrArg Prod.snd h
  -- The last step was carried out, and the filter had a reason to do so.
  obtain ⟨-, _, rfl⟩ := Report.isClean_step.1 clean
  have told := truthful.told (congrArg Prod.fst hdelete)
  rw [issued.normal] at told
  have gone : rules s₃ natTable chain.text = none := faithful.effect_of_answer issued hdelete
  refine ⟨gone, ?_⟩
  intro name own hown
  have hname : name ≠ chain.text := by
    rintro rfl
    rw [gone] at hown
    cases hown
  have elsewhere : rules (b.answer s₂ (chainCommand chain .remove)).2 natTable name =
      rules s₂ natTable name := faithful.elsewhere hname
  rw [hdelete] at elsewhere
  exact told.2 name own (elsewhere.symm.trans hown)

end Lifecycle

end Divert
