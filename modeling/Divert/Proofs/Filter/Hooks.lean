/-
# Divert.Proofs.Filter.Hooks — what one command does to a hook and to what it leads to.

A hook is only as good as the chain behind it.  The view of a filter is *backed* for a chain if its hook
never stands without the chain, and *guarded* if it never stands without the loopback exemption in
front of the chain.  Every command of every translator keeps a truthful filter backed, whatever fails.
Guarding it takes an order of commands: it may be lost when a chain is emptied that is still hooked, or
when a hook is put before a chain that is not headed by the exemption, and by nothing else.
-/
import Divert.Proofs.Commands
import Divert.Proofs.Filter.Answers
import Divert.Proofs.Lifecycle.Settled

namespace Divert

theorem Hook.chain_injective {hook other : Hook} (h : hook.chain = other.chain) : hook = other := by
  cases hook <;> cases other <;> first | rfl | exact absurd h (by decide)

/-! ## Hooks and chains in a view -/

namespace Chains

variable (view : Chains) (chain : ChainName)

/-- The hook of the chain stands at the hook point. -/
def HookAt (hook : Hook) : Prop :=
  ∃ rules, view natTable hook.chain = some rules ∧ Rule.jump chain ∈ rules

/-- The hook of the chain stands somewhere. -/
def Hooked : Prop := ∃ hook, view.HookAt chain hook

/-- The hook of the chain stands only where the chain exists. -/
def Backed : Prop := view.Hooked chain → (view natTable chain.text).isSome = true

/-- The first rule of the chain is the loopback exemption. -/
def Headed : Prop := ∃ rest, view natTable chain.text = some (Rule.loopback :: rest)

/-- The hook of the chain stands only where the chain is headed by the loopback exemption. -/
def Guarded : Prop := view.Hooked chain → view.Headed chain

variable {view chain}

theorem hookAt_iff_copies {hook : Hook} : view.HookAt chain hook ↔ 0 < view.copies chain hook := by
  rw [HookAt, copies, List.count_pos_iff]
  cases view natTable hook.chain with
  | none => simp
  | some rules => simp

theorem not_hooked_iff_copies : ¬ view.Hooked chain ↔ ∀ hook, view.copies chain hook = 0 := by
  simp only [Hooked, hookAt_iff_copies, not_exists, Nat.not_lt, Nat.le_zero]

/-- At the start nothing is hooked. -/
theorem not_hooked_fresh (chain : ChainName) : ¬ Hooked Memory.fresh.rules chain := by
  rintro ⟨hook, rules, hrules, hmem⟩
  rw [Memory.rules_fresh] at hrules
  split at hrules
  · cases hrules
    exact absurd hmem List.not_mem_nil
  · cases hrules

end Chains

/-! ## One command -/

section Command

variable {σ : Type} {b : Backend σ} {rules : σ → Chains} {chain owner : ChainName} {s : σ}
  {c : Command}

/-- Where an action stands that is carried out, its effect stands afterwards. -/
theorem Backend.Faithful.effect_of_issued (faithful : b.Faithful rules)
    (issued : Translator.Issues owner c) {value : Bool} (done : (b.answer s c).1 = .ok value) :
    rules (b.answer s c).2 natTable c.chain = c.action.effect (rules s natTable c.chain) := by
  have own := faithful.own done
  rwa [issued.place.1, issued.normal] at own

theorem Backend.Faithful.effect_of_answer (faithful : b.Faithful rules)
    (issued : Translator.Issues owner c) {value : Bool} {after : σ}
    (h : b.answer s c = (.ok value, after)) :
    rules after natTable c.chain = c.action.effect (rules s natTable c.chain) := by
  have effect := faithful.effect_of_issued (s := s) issued (congrArg Prod.fst h)
  rwa [h] at effect

/-- **New hooks.** A hook that stands after a command stood before it, or it was inserted by this very
command. -/
theorem hookAt_of_answer (faithful : b.Faithful rules) (issued : Translator.Issues owner c)
    {hook : Hook} (h : (rules (b.answer s c).2).HookAt chain hook) :
    (rules s).HookAt chain hook ∨
      owner = chain ∧ c = Lifecycle.hookCommand chain hook (.insert 1) ∧
        ∃ value, (b.answer s c).1 = .ok value := by
  obtain ⟨after, hafter, hmem⟩ := h
  by_cases hplace : hook.chain = c.chain
  swap
  · rw [faithful.elsewhere hplace] at hafter
    exact Or.inl ⟨after, hafter, hmem⟩
  cases hanswer : (b.answer s c).1 with
  | error e =>
    rw [faithful.refused hanswer] at hafter
    exact Or.inl ⟨after, hafter, hmem⟩
  | ok value =>
    rw [hplace, faithful.effect_of_issued issued hanswer, ← hplace] at hafter
    -- Only commands of the lifecycle are about a hook point.
    cases issued with
    | append key port | delete key port => exact absurd hplace (owner.hook_ne_text hook)
    | lifecycle issued =>
      cases issued with
      | probe | create | flush | remove | exempt => exact absurd hplace (owner.hook_ne_text hook)
      | checkHook _ => exact Or.inl ⟨after, hafter, hmem⟩
      | deleteHook _ =>
        obtain ⟨before, hbefore, rfl⟩ := Option.map_eq_some_iff.1 hafter
        exact Or.inl ⟨before, hbefore, List.mem_of_mem_erase hmem⟩
      | insertHook other =>
        obtain ⟨before, hbefore, rfl⟩ := Option.map_eq_some_iff.1 hafter
        have inserted : Rule.jump chain ∈ Rule.jump owner :: before := hmem
        rcases List.mem_cons.1 inserted with hjump | hold
        · obtain rfl : chain = owner := Rule.jump_inj.1 hjump
          obtain rfl : hook = other := Hook.chain_injective hplace
          exact Or.inr ⟨rfl, rfl, value, rfl⟩
        · exact Or.inl ⟨before, hbefore, hold⟩

/-- No command but the insertion of its own hook hooks a chain. -/
theorem hooked_of_answer (faithful : b.Faithful rules) (issued : Translator.Issues owner c)
    (other : owner = chain → c.action.op ≠ .insert) (h : (rules (b.answer s c).2).Hooked chain) :
    (rules s).Hooked chain := by
  obtain ⟨hook, hhook⟩ := h
  rcases hookAt_of_answer faithful issued hhook with hold | ⟨howner, rfl, -⟩
  · exact ⟨hook, hold⟩
  · exact absurd rfl (other howner)

/-! ### The number of copies -/

/-- The commands of another translator leave the number of copies of our hook as it is. -/
theorem count_effect_of_ne (hne : owner ≠ chain) (issued : Translator.Issues owner c) {hook : Hook}
    (hplace : hook.chain = c.chain) (before : Option (List String)) :
    ((c.action.effect before).getD []).count (Rule.jump chain) =
      (before.getD []).count (Rule.jump chain) := by
  have jumps : Rule.jump owner ≠ Rule.jump chain := fun h => hne (Rule.jump_inj.1 h)
  cases issued with
  | append key port | delete key port => exact absurd hplace (owner.hook_ne_text hook)
  | lifecycle issued =>
    cases issued with
    | probe | create | flush | remove | exempt => exact absurd hplace (owner.hook_ne_text hook)
    | checkHook _ => rfl
    | deleteHook _ =>
      cases before with
      | none => rfl
      | some rules => exact List.count_erase_of_ne jumps.symm
    | insertHook _ =>
      cases before with
      | none => rfl
      | some rules => exact List.count_cons_of_ne jumps

theorem copies_of_other (faithful : b.Faithful rules) (issued : Translator.Issues owner c)
    (hne : owner ≠ chain) (hook : Hook) :
    (rules (b.answer s c).2).copies chain hook = (rules s).copies chain hook := by
  by_cases hplace : hook.chain = c.chain
  swap
  · rw [Chains.copies, Chains.copies, faithful.elsewhere hplace]
  cases hanswer : (b.answer s c).1 with
  | error e => rw [faithful.refused hanswer]
  | ok value =>
    rw [Chains.copies, Chains.copies, hplace, faithful.effect_of_issued issued hanswer, ← hplace]
    exact count_effect_of_ne hne issued hplace _

/-- What is done to our own chain leaves the copies of its hook as they are. -/
theorem copies_of_own (faithful : b.Faithful rules) (hown : c.chain = chain.text) (hook : Hook) :
    (rules (b.answer s c).2).copies chain hook = (rules s).copies chain hook := by
  rw [Chains.copies, Chains.copies, faithful.elsewhere (hown ▸ chain.hook_ne_text hook)]

/-! ### Backing -/

/-- **Backing.** Every command of every translator keeps a filter backed, whatever it answers. -/
theorem Chains.Backed.answer (truthful : b.Truthful rules) (issued : Translator.Issues owner c)
    (h : (rules s).Backed chain) : (rules (b.answer s c).2).Backed chain := by
  have faithful := truthful.toFaithful
  rintro ⟨hook, hhook⟩
  rcases hookAt_of_answer faithful issued hhook with hold | ⟨-, rfl, value, hanswer⟩
  swap
  -- The hook was accepted, so its chain is there, and an insertion is not about our chain.
  · have told := truthful.told hanswer
    rw [issued.normal] at told
    rw [faithful.elsewhere (chain.hook_ne_text hook).symm]
    exact told.2 chain rfl
  -- The hook was there, and so was the chain; only a removal could have taken it away.
  have present := h ⟨hook, hold⟩
  by_cases hplace : chain.text = c.chain
  swap
  · rwa [faithful.elsewhere hplace]
  cases hanswer : (b.answer s c).1 with
  | error e => rwa [faithful.refused hanswer]
  | ok value =>
    obtain ⟨own, hown⟩ := Option.isSome_iff_exists.1 present
    have told := truthful.told hanswer
    rw [issued.normal, issued.place.1] at told
    rw [hplace, faithful.effect_of_issued issued hanswer, ← hplace, hown]
    cases haction : c.action with
    | remove =>
      rw [haction, ← hplace] at told
      obtain ⟨before, hbefore, hmem⟩ := hold
      exact absurd hmem (told.2 hook.chain before hbefore)
    | _ => rfl

/-! ### Guarding -/

/-- A command of another translator keeps a filter guarded. -/
theorem Chains.Guarded.answer_other (faithful : b.Faithful rules)
    (issued : Translator.Issues owner c) (hne : owner ≠ chain) (h : (rules s).Guarded chain) :
    (rules (b.answer s c).2).Guarded chain := by
  intro hooked
  have headed := h (hooked_of_answer faithful issued (fun heq => absurd heq hne) hooked)
  rwa [Headed, faithful.elsewhere (issued.place_ne hne)]

/-- Taking hooks away keeps a filter guarded. -/
theorem Chains.Guarded.answer_unhooks (faithful : b.Faithful rules) {hook : Hook}
    (issued : Lifecycle.Unhooks chain hook c) (h : (rules s).Guarded chain) :
    (rules (b.answer s c).2).Guarded chain := by
  have notInsert : c.action.op ≠ .insert := by cases issued <;> exact Op.noConfusion
  intro hooked
  have headed := h (hooked_of_answer faithful (.lifecycle issued.issues) (fun _ => notInsert) hooked)
  rwa [Headed, faithful.elsewhere (issued.place ▸ (chain.hook_ne_text hook).symm)]

/-- What is done to our own chain hooks nothing. -/
theorem not_hooked_prepares (faithful : b.Faithful rules) (issued : Lifecycle.Prepares chain c)
    (h : ¬ (rules s).Hooked chain) : ¬ (rules (b.answer s c).2).Hooked chain := by
  have notInsert : c.action.op ≠ .insert := by cases issued <;> exact Op.noConfusion
  exact mt (hooked_of_answer faithful (.lifecycle issued.issues) fun _ => notInsert) h

/-- Inserting hooks leaves the chain headed. -/
theorem Chains.Headed.answer_inserts (faithful : b.Faithful rules) {hook : Hook}
    (issued : Lifecycle.InsertsHook chain hook c) (h : (rules s).Headed chain) :
    (rules (b.answer s c).2).Headed chain := by
  rwa [Headed, faithful.elsewhere (issued.place ▸ (chain.hook_ne_text hook).symm)]

/-- Redirect rules come and go behind the loopback exemption. -/
theorem Chains.Headed.answer_redirects (faithful : b.Faithful rules)
    (issued : Redirects.Issues chain c) (h : (rules s).Headed chain) :
    (rules (b.answer s c).2).Headed chain := by
  obtain ⟨rest, hrest⟩ := h
  have place : c.chain = chain.text := by cases issued <;> rfl
  cases hanswer : (b.answer s c).1 with
  | error e =>
    rw [faithful.refused hanswer]
    exact ⟨rest, hrest⟩
  | ok value =>
    have own := faithful.effect_of_issued issued.translator hanswer
    rw [place, hrest] at own
    cases issued with
    | append key port => exact ⟨rest ++ [Rule.redirect key port], own⟩
    | delete key port =>
      refine ⟨rest.erase (Rule.redirect key port), own.trans (congrArg some ?_)⟩
      have hne : Rule.loopback ≠ Rule.redirect key port := (Rule.redirect_ne_loopback key port).symm
      exact List.erase_cons_tail (by simpa using hne)

theorem Chains.Guarded.answer_redirects (faithful : b.Faithful rules)
    (issued : Redirects.Issues chain c) (h : (rules s).Guarded chain) :
    (rules (b.answer s c).2).Guarded chain := by
  have notInsert : c.action.op ≠ .insert := by cases issued <;> exact Op.noConfusion
  intro hooked
  have before := hooked_of_answer faithful issued.translator (fun _ => notInsert) hooked
  exact (h before).answer_redirects faithful issued

end Command

end Divert
