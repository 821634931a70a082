/-
# Divert.Proofs.Filter.Alike — what a filter can let one chain know of the others.

The translator of a chain sees a filter through the answers to its own commands.  Those depend on a few
things only: what is made to fail, the rules of its chain, and how many copies of its hook stand at each
hook point.  Two filters that agree on these are *alike* to the chain: they answer its commands alike
and stay alike, and no command of another translator makes a difference to it.  The one assumption is
that no rule but the hooks jumps to the chain, and every translator keeps to that.
-/
import Divert.Proofs.Filter.Hooks

namespace Divert

/-! ## The relation -/

/-- The filter is in one of its states, and jumps to our chain stand at hook points only. -/
structure Memory.Confined (chain : ChainName) (m : Memory) : Prop where
  reachable : m.Reachable
  jumps : ∀ {name : String} {rules : List String}, m.rules natTable name = some rules →
    Rule.jump chain ∈ rules → ∃ hook : Hook, name = hook.chain

/-- The filters agree on all that our own commands depend on. -/
structure Memory.SameFor (chain : ChainName) (m m' : Memory) : Prop where
  failing : m.failing = m'.failing
  own : m.rules natTable chain.text = m'.rules natTable chain.text
  copies : ∀ hook, Chains.copies m.rules chain hook = Chains.copies m'.rules chain hook

/-- Our own commands cannot tell the filters apart. -/
structure Memory.Alike (chain : ChainName) (m m' : Memory) : Prop extends m.SameFor chain m' where
  left : m.Confined chain
  right : m'.Confined chain

namespace Memory

/-! ## Verdicts -/

/-- The answer to a command without the words of its refusal. -/
def verdict (m : Memory) (c : Command) : Except Filter.Refusal Bool :=
  (m.perform (c.mapRule Text.normalise)).map Prod.fst

/-- An answer is its verdict, put in words. -/
theorem answer_fst (m : Memory) (c : Command) :
    (m.answer c).1 = (m.verdict c).mapError fun refusal =>
      (c.mapRule Text.normalise).refused refusal.message := by
  cases hperform : m.perform (c.mapRule Text.normalise) with
  | error refusal =>
    rw [(answer_of_error hperform).1, verdict, hperform]
    rfl
  | ok result =>
    rw [(answer_of_ok hperform).1, verdict, hperform]
    rfl

variable {m m' : Memory} {chain : ChainName}

/-- Filters that fail alike give the same verdict where their tables do. -/
theorem verdict_congr (hfailing : m.failing = m'.failing) {c : Command}
    (normal : c.action.mapRule Text.normalise = c.action)
    (h : ((m.table c.table).perform c.chain c.action).map Prod.fst =
      ((m'.table c.table).perform c.chain c.action).map Prod.fst) :
    m.verdict c = m'.verdict c := by
  have same : c.mapRule Text.normalise = c := by rw [Command.mapRule, normal]
  rw [verdict, verdict, perform, perform, same, hfailing]
  by_cases hmem : c.action.op ∈ m'.failing
  · rw [if_pos hmem, if_pos hmem]
  · rw [if_neg hmem, if_neg hmem, h]

theorem SameFor.mem_hook (h : m.SameFor chain m') {hook : Hook} {rules rules' : List String}
    (hrules : m.rules natTable hook.chain = some rules)
    (hrules' : m'.rules natTable hook.chain = some rules') :
    Rule.jump chain ∈ rules ↔ Rule.jump chain ∈ rules' := by
  have copies := h.copies hook
  rw [Chains.copies, Chains.copies, hrules, hrules', Option.getD_some, Option.getD_some] at copies
  rw [← List.count_pos_iff, ← List.count_pos_iff, copies]

/-- A chain without rules is jumped to exactly if a hook point has a copy of its hook. -/
theorem Confined.holdsRule_iff (h : m.Confined chain) :
    (m.table natTable).holdsRule (Rule.jump chain) = true ↔
      ∃ hook, 0 < Chains.copies m.rules chain hook := by
  rw [Filter.Table.holdsRule_iff]
  constructor
  · rintro ⟨name, rules, hrules, hmem⟩
    obtain ⟨hook, rfl⟩ := h.jumps hrules hmem
    refine ⟨hook, ?_⟩
    have hhook : m.rules natTable hook.chain = some rules := hrules
    rw [Chains.copies, hhook]
    exact List.count_pos_iff.2 hmem
  · rintro ⟨hook, hpos⟩
    obtain ⟨rules, hrules, hcount⟩ := h.reachable.hooks.rules chain hook
    exact ⟨hook.chain, rules, hrules, List.count_pos_iff.1 (hcount ▸ hpos)⟩

/-! ### Our chain -/

section Own

variable {t t' : Filter.Table} {name : String}

/-- What a command on a rule of a chain comes to depends on the rules of that chain. -/
theorem map_perform_elim (h : t.get? name = t'.get? name) {f f' : List String →
    Except Filter.Refusal (Bool × Filter.Table)}
    (hf : ∀ rules, (f rules).map Prod.fst = (f' rules).map Prod.fst) :
    ((t.get? name).elim (.error .noSuchChain) f).map Prod.fst =
      ((t'.get? name).elim (.error .noSuchChain) f').map Prod.fst := by
  rw [h]
  cases t'.get? name with
  | none => rfl
  | some rules => exact hf rules

theorem map_perform_append (h : t.get? name = t'.get? name) {rule : String}
    (plain : Rule.Plain rule) :
    (t.perform name (.append rule)).map Prod.fst =
      (t'.perform name (.append rule)).map Prod.fst := by
  rw [Filter.Table.perform_append t name (plain.2 t),
    Filter.Table.perform_append t' name (plain.2 t')]
  exact map_perform_elim h fun rules => rfl

theorem map_perform_delete (h : t.get? name = t'.get? name) (rule : String) :
    (t.perform name (.delete rule)).map Prod.fst =
      (t'.perform name (.delete rule)).map Prod.fst := by
  rw [Filter.Table.perform_delete, Filter.Table.perform_delete]
  apply map_perform_elim h
  intro rules
  split <;> rfl

theorem map_perform_create (h : t.get? name = t'.get? name) :
    (t.perform name .create).map Prod.fst = (t'.perform name .create).map Prod.fst := by
  have contains : t.contains name = t'.contains name := congrArg Option.isSome h
  rw [Filter.Table.perform_create, Filter.Table.perform_create, contains]
  split <;> rfl

theorem map_perform_flush (h : t.get? name = t'.get? name) :
    (t.perform name .flush).map Prod.fst = (t'.perform name .flush).map Prod.fst := by
  rw [Filter.Table.perform_flush, Filter.Table.perform_flush]
  exact map_perform_elim h fun rules => rfl

theorem map_perform_remove (custom : name ∉ Filter.builtinChains) (h : t.get? name = t'.get? name)
    (used : t.holdsRule (Rule.jumpTo name) = t'.holdsRule (Rule.jumpTo name)) :
    (t.perform name .remove).map Prod.fst = (t'.perform name .remove).map Prod.fst := by
  rw [Filter.Table.perform_remove t name custom, Filter.Table.perform_remove t' name custom]
  apply map_perform_elim h
  intro rules
  rw [used]
  split
  · rfl
  · split <;> rfl

end Own

/-! ### The hook points -/

section Hooked

variable {t t' : Filter.Table} {name rule : String} {rules rules' : List String}

theorem map_perform_check (hrules : t.get? name = some rules) (hrules' : t'.get? name = some rules')
    (same : rule ∈ rules ↔ rule ∈ rules') :
    (t.perform name (.check rule)).map Prod.fst = (t'.perform name (.check rule)).map Prod.fst := by
  rw [Filter.Table.perform_check, Filter.Table.perform_check, hrules, hrules']
  exact congrArg Except.ok (decide_eq_decide.2 same)

theorem map_perform_unhook (hrules : t.get? name = some rules)
    (hrules' : t'.get? name = some rules') (same : rule ∈ rules ↔ rule ∈ rules') :
    (t.perform name (.delete rule)).map Prod.fst =
      (t'.perform name (.delete rule)).map Prod.fst := by
  rw [Filter.Table.perform_delete, Filter.Table.perform_delete, hrules, hrules', Option.elim_some,
    Option.elim_some]
  by_cases hmem : rule ∈ rules
  · rw [if_pos hmem, if_pos (same.1 hmem)]
    rfl
  · rw [if_neg hmem, if_neg (mt same.2 hmem)]

/-- A hook is inserted exactly if the table has our chain. -/
theorem map_perform_hook (hrules : t.get? name = some rules) (chain : ChainName) :
    (t.perform name (.insert 1 (Rule.jump chain))).map Prod.fst =
      if t.contains chain.text then .ok true else .error (.unknownTarget chain.text) := by
  have target := t.checkTarget_jump chain
  by_cases present : t.contains chain.text = true
  · rw [if_pos present] at target ⊢
    rw [Filter.Table.perform_insert t name target, hrules, Option.elim_some, if_neg (by omega)]
    rfl
  · rw [if_neg present] at target ⊢
    rw [Filter.Table.perform_insert_of_refused t name target]
    rfl

end Hooked

/-- **Verdicts.** Filters that are alike to a chain give its translator's commands the same verdict. -/
theorem Alike.verdict (h : m.Alike chain m') {c : Command} (issued : Translator.Issues chain c) :
    m.verdict c = m'.verdict c := by
  have own : (m.table natTable).get? chain.text = (m'.table natTable).get? chain.text := h.own
  have contains : (m.table natTable).contains chain.text =
      (m'.table natTable).contains chain.text := congrArg Option.isSome own
  have hooks : ∀ hook : Hook, ∃ rules rules',
      (m.table natTable).get? hook.chain = some rules ∧
        (m'.table natTable).get? hook.chain = some rules' ∧
        (Rule.jump chain ∈ rules ↔ Rule.jump chain ∈ rules') := by
    intro hook
    obtain ⟨rules, hrules, -⟩ := h.left.reachable.hooks.rules chain hook
    obtain ⟨rules', hrules', -⟩ := h.right.reachable.hooks.rules chain hook
    exact ⟨rules, rules', hrules, hrules', h.mem_hook hrules hrules'⟩
  have used : (m.table natTable).holdsRule (Rule.jump chain) =
      (m'.table natTable).holdsRule (Rule.jump chain) := by
    rw [Bool.eq_iff_iff, h.left.holdsRule_iff, h.right.holdsRule_iff]
    simp only [h.copies]
  apply verdict_congr h.failing issued.normal
  -- Commands on our chain read its rules, a removal reads who jumps to it, and the hooks are
  -- compared by their number.
  cases issued with
  | append key port => exact map_perform_append own (Rule.plain_redirect key port)
  | delete key port => exact map_perform_delete own _
  | lifecycle issued =>
    cases issued with
    | probe => exact congrArg Except.ok contains
    | create => exact map_perform_create own
    | flush => exact map_perform_flush own
    | remove => exact map_perform_remove chain.text_notMem_builtinChains own used
    | exempt => exact map_perform_append own Rule.plain_loopback
    | checkHook hook =>
      obtain ⟨rules, rules', hrules, hrules', same⟩ := hooks hook
      exact map_perform_check hrules hrules' same
    | deleteHook hook =>
      obtain ⟨rules, rules', hrules, hrules', same⟩ := hooks hook
      exact map_perform_unhook hrules hrules' same
    | insertHook hook =>
      obtain ⟨rules, rules', hrules, hrules', -⟩ := hooks hook
      have known := map_perform_hook hrules chain
      have known' := map_perform_hook hrules' chain
      rw [contains, ← known'] at known
      exact known

/-! ## Effects -/

/-- A command whose rule is in normal form is refused, and changes no rule, or it is carried out, and
has its effect on its chain. -/
theorem answer_cases (m : Memory) {c : Command} (normal : c.action.mapRule Text.normalise = c.action) :
    (∃ e, (m.answer c).1 = .error e ∧ (m.answer c).2.rules = m.rules) ∨
      ∃ value, (m.answer c).1 = .ok value ∧ (m.answer c).2.rules =
        Chains.set m.rules c.table c.chain (c.action.effect (m.rules c.table c.chain)) := by
  cases hanswer : (m.answer c).1 with
  | error e => exact Or.inl ⟨e, rfl, faithful.refused hanswer⟩
  | ok value =>
    have done := faithful.done hanswer
    rw [normal] at done
    exact Or.inr ⟨value, rfl, done⟩

/-- A translator brings no jump into its own chain. -/
theorem jump_of_effect {owner : ChainName} {c : Command} (issued : Translator.Issues owner c)
    (hchain : c.chain = owner.text) {before : Option (List String)} {after : List String}
    (heffect : c.action.effect before = some after) (hmem : Rule.jump chain ∈ after) :
    ∃ rules, before = some rules ∧ Rule.jump chain ∈ rules := by
  have appended {rule : String} (hne : rule ≠ Rule.jump chain)
      (heffect : before.map (fun rules => rules ++ [rule]) = some after) :
      ∃ rules, before = some rules ∧ Rule.jump chain ∈ rules := by
    obtain ⟨rules, hrules, rfl⟩ := Option.map_eq_some_iff.1 heffect
    rcases List.mem_append.1 hmem with hold | hnew
    · exact ⟨rules, hrules, hold⟩
    · exact absurd (List.mem_singleton.1 hnew).symm hne
  cases issued with
  | append key port => exact appended (Rule.redirect_ne_jump key port chain) heffect
  | delete key port =>
    obtain ⟨rules, hrules, rfl⟩ := Option.map_eq_some_iff.1 heffect
    exact ⟨rules, hrules, List.mem_of_mem_erase hmem⟩
  | lifecycle issued =>
    cases issued with
    | probe => exact ⟨after, heffect, hmem⟩
    | create | flush =>
      cases heffect
      exact absurd hmem List.not_mem_nil
    | remove => cases heffect
    | exempt => exact appended (Rule.loopback_ne_jump chain) heffect
    | checkHook hook | deleteHook hook | insertHook hook =>
      exact absurd hchain (owner.hook_ne_text hook)

/-- No translator lets a jump to our chain stand anywhere but at a hook point. -/
theorem Confined.answer (h : m.Confined chain) {owner : ChainName} {c : Command}
    (issued : Translator.Issues owner c) : (m.answer c).2.Confined chain := by
  refine ⟨h.reachable.answer c, ?_⟩
  intro name after hafter hmem
  obtain ⟨htable, hplace⟩ := issued.place
  rcases answer_cases m issued.normal with ⟨e, -, hrules⟩ | ⟨value, -, hrules⟩
  · rw [hrules] at hafter
    exact h.jumps hafter hmem
  · rw [hrules, htable] at hafter
    by_cases hname : name = c.chain
    · subst hname
      rcases hplace with hown | hhook
      · rw [Chains.set_self] at hafter
        obtain ⟨rules, hbefore, hold⟩ := jump_of_effect issued hown hafter hmem
        exact h.jumps hbefore hold
      · exact hhook
    · rw [Chains.set_of_ne _ _ _ _ hname] at hafter
      exact h.jumps hafter hmem

/-! ### Counting hooks -/

theorem copies_set_self (view : Chains) (hook : Hook) (rules : Option (List String)) :
    Chains.copies (view.set natTable hook.chain rules) chain hook =
      (rules.getD []).count (Rule.jump chain) := by
  rw [Chains.copies, Chains.set_self]

theorem copies_set_of_ne (view : Chains) {hook : Hook} {name : String} (h : hook.chain ≠ name)
    (rules : Option (List String)) :
    Chains.copies (view.set natTable name rules) chain hook = Chains.copies view chain hook := by
  rw [Chains.copies, Chains.copies, Chains.set_of_ne _ _ _ _ h]

/-- What one of our commands makes of the copies of our hook depends on their number only. -/
theorem count_effect {c : Command} (issued : Translator.Issues chain c) {hook : Hook}
    (hchain : hook.chain = c.chain) {rules rules' : List String}
    (same : rules.count (Rule.jump chain) = rules'.count (Rule.jump chain)) :
    ((c.action.effect (some rules)).getD []).count (Rule.jump chain) =
      ((c.action.effect (some rules')).getD []).count (Rule.jump chain) := by
  cases issued with
  | append key port | delete key port => exact absurd hchain (chain.hook_ne_text hook)
  | lifecycle issued =>
    cases issued with
    | checkHook _ => exact same
    | deleteHook _ =>
      show (rules.erase (Rule.jump chain)).count _ = (rules'.erase (Rule.jump chain)).count _
      rw [List.count_erase_self, List.count_erase_self, same]
    | insertHook _ =>
      show (Rule.jump chain :: rules).count _ = (Rule.jump chain :: rules').count _
      rw [List.count_cons_self, List.count_cons_self, same]
    | probe | create | flush | remove | exempt => exact absurd hchain (chain.hook_ne_text hook)

/-! ## Commands and filters that are alike -/

/-- The same answer means the same to both filters: no change, or the effect of the command. -/
theorem rules_of_same_answer {c : Command} (normal : c.action.mapRule Text.normalise = c.action)
    (same : (m.answer c).1 = (m'.answer c).1) :
    ((m.answer c).2.rules = m.rules ∧ (m'.answer c).2.rules = m'.rules) ∨
      (m.answer c).2.rules =
          Chains.set m.rules c.table c.chain (c.action.effect (m.rules c.table c.chain)) ∧
        (m'.answer c).2.rules =
          Chains.set m'.rules c.table c.chain (c.action.effect (m'.rules c.table c.chain)) := by
  rcases answer_cases m normal with ⟨e, hanswer, hrules⟩ | ⟨value, hanswer, hrules⟩
  · rcases answer_cases m' normal with ⟨e', -, hrules'⟩ | ⟨value', hanswer', -⟩
    · exact Or.inl ⟨hrules, hrules'⟩
    · rw [hanswer, hanswer'] at same
      cases same
  · rcases answer_cases m' normal with ⟨e', hanswer', -⟩ | ⟨value', -, hrules'⟩
    · rw [hanswer, hanswer'] at same
      cases same
    · exact Or.inr ⟨hrules, hrules'⟩

/-- **Our own commands.** Filters that are alike answer them alike and stay alike. -/
theorem Alike.answer (h : m.Alike chain m') {c : Command} (issued : Translator.Issues chain c) :
    (m.answer c).1 = (m'.answer c).1 ∧ (m.answer c).2.Alike chain (m'.answer c).2 := by
  have same : (m.answer c).1 = (m'.answer c).1 := by
    rw [answer_fst, answer_fst, h.verdict issued]
  have hfailing : (m.answer c).2.failing = (m'.answer c).2.failing := by
    rw [failing_answer, failing_answer, h.failing]
  obtain ⟨htable, hplace⟩ := issued.place
  refine ⟨same, ⟨⟨hfailing, ?_, ?_⟩, h.left.answer issued, h.right.answer issued⟩⟩
  -- The rules of our chain stay equal: the command changes them alike, or not at all.
  · rcases rules_of_same_answer issued.normal same with
      ⟨hrules, hrules'⟩ | ⟨hrules, hrules'⟩
    · rw [hrules, hrules', h.own]
    · rw [hrules, hrules', htable]
      rcases hplace with hown | ⟨hook, hhook⟩
      · rw [hown, Chains.set_self, Chains.set_self, h.own]
      · have hne := (chain.hook_ne_text hook).symm
        rw [hhook, Chains.set_of_ne _ _ _ _ hne, Chains.set_of_ne _ _ _ _ hne, h.own]
  -- The other rules of a hook point may differ, so only the copies of the hook are compared.
  · intro hook
    rcases rules_of_same_answer issued.normal same with
      ⟨hrules, hrules'⟩ | ⟨hrules, hrules'⟩
    · rw [hrules, hrules', h.copies]
    · rw [hrules, hrules', htable]
      by_cases hchain : hook.chain = c.chain
      · obtain ⟨rules, hhook, hcount⟩ := h.left.reachable.hooks.rules chain hook
        obtain ⟨rules', hhook', hcount'⟩ := h.right.reachable.hooks.rules chain hook
        have count : rules.count (Rule.jump chain) = rules'.count (Rule.jump chain) := by
          rw [← hcount, ← hcount', h.copies]
        rw [← hchain, copies_set_self, copies_set_self, hhook, hhook']
        exact count_effect issued hchain count
      · rw [copies_set_of_ne _ hchain, copies_set_of_ne _ hchain, h.copies]

/-- **Commands of the others.** They change nothing that our own commands depend on. -/
theorem SameFor.of_other (h : m.SameFor chain m') {owner : ChainName} (hne : owner ≠ chain)
    {c : Command} (issued : Translator.Issues owner c) : (m.answer c).2.SameFor chain m' where
  failing := (failing_answer m c).trans h.failing
  own := (faithful.elsewhere (issued.place_ne hne)).trans h.own
  copies hook := (copies_of_other faithful issued hne hook).trans (h.copies hook)

/-! ## Scripts and filters that are alike -/

variable {α : Type} {Q : α → Prop} {x : Script α}

/-- Scripts of our own commands have the same value on filters that are alike. -/
theorem Alike.eval (h : m.Alike chain m') (hx : x.Within (Translator.Issues chain) Q) :
    (x.eval backend m).1 = (x.eval backend m').1 ∧
      (x.eval backend m).2.Alike chain (x.eval backend m').2 :=
  hx.eval_alike (R := Alike chain) (fun _ _ _ issued hst => hst.answer issued) h

/-- Scripts of another translator's commands leave filters alike. -/
theorem Alike.eval_other (h : m.Alike chain m') {owner : ChainName} (hne : owner ≠ chain)
    (hx : x.Within (Translator.Issues owner) Q) : (x.eval backend m).2.Alike chain m' := by
  have keeps := hx.eval_keeps (b := backend) (I := fun s => s.Alike chain m')
    (fun s c issued hs =>
      ⟨hs.toSameFor.of_other hne issued, hs.left.answer issued, hs.right⟩) h
  exact keeps.2

theorem Alike.setFailing (h : m.Alike chain m') (kind : Op) (failing : Bool) :
    (m.setFailing kind failing).Alike chain (m'.setFailing kind failing) where
  failing := by rw [Memory.setFailing, Memory.setFailing, h.failing]
  own := h.own
  copies := h.copies
  left := ⟨h.left.reachable.setFailing kind failing, h.left.jumps⟩
  right := ⟨h.right.reachable.setFailing kind failing, h.right.jumps⟩

/-- At the start there is nothing to tell apart. -/
theorem alike_fresh (chain : ChainName) : fresh.Alike chain fresh := by
  have confined : fresh.Confined chain := by
    refine ⟨.fresh, ?_⟩
    intro name rules hrules hmem
    rw [rules_fresh] at hrules
    split at hrules
    · cases hrules
      exact absurd hmem List.not_mem_nil
    · cases hrules
  exact ⟨⟨rfl, rfl, fun _ => rfl⟩, confined, confined⟩

end Memory

end Divert
