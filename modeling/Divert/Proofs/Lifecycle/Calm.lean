/-
# Divert.Proofs.Lifecycle.Calm — the two sequences command by command.

Each part of a sequence has its own reason for being harmless.  While the hooks are taken away, the
chain behind them is left alone.  While the chain is filled or dismantled, nothing is hooked, provided
that there were not more hooks than a removal takes away.  And while the hooks are put back, the chain
is headed by the loopback exemption.  A filter is *calm* if the next sequence may count on all this.
-/
import Divert.Proofs.Filter.Hooks

namespace Divert

open Script

/-! ## The parts of the sequences -/

namespace Lifecycle

section Faithful

variable {σ : Type} {b : Backend σ} {rules : σ → Chains} {chain : ChainName} {s : σ}

/-- Taking the hooks away keeps a filter guarded. -/
theorem removeHooks_guarded (faithful : b.Faithful rules) (h : (rules s).Guarded chain)
    (report : Report) :
    ∀ call ∈ (removeHooks chain report).calls b s, (rules (call.after b)).Guarded chain := by
  refine (removeHooks_within chain report).calls_after (I := fun s => (rules s).Guarded chain) ?_ h
  rintro s c ⟨hook, issued⟩ hs
  exact hs.answer_unhooks faithful issued

/-- Work on our own chain hooks nothing. -/
theorem prepares_unhooked (faithful : b.Faithful rules) {α : Type} {Q : α → Prop} {x : Script α}
    (hx : x.Within (Prepares chain) Q) (h : ¬ (rules s).Hooked chain) :
    ∀ call ∈ x.calls b s, ¬ (rules (call.after b)).Hooked chain := by
  refine hx.calls_after (I := fun s => ¬ (rules s).Hooked chain) ?_ h
  intro s c issued hs
  exact not_hooked_prepares faithful issued hs

/-- Putting the hooks back leaves the chain headed. -/
theorem insertHooks_headed (faithful : b.Faithful rules) (h : (rules s).Headed chain)
    (report : Report) :
    ∀ call ∈ (insertHooks chain report).calls b s, (rules (call.after b)).Headed chain := by
  refine (insertHooks_within chain report).calls_after (I := fun s => (rules s).Headed chain) ?_ h
  rintro s c ⟨hook, issued⟩ hs
  exact hs.answer_inserts faithful issued

end Faithful

end Lifecycle

/-! ## Calm filters -/

theorem Chains.Headed.guarded {view : Chains} {chain : ChainName} (h : view.Headed chain) :
    view.Guarded chain :=
  fun _ => h

theorem Chains.guarded_of_not_hooked {view : Chains} {chain : ChainName}
    (h : ¬ view.Hooked chain) : view.Guarded chain :=
  fun hooked => absurd hooked h

/-- The filter is guarded, and there are not more hooks than a removal takes away. -/
structure Chains.Calm (view : Chains) (chain : ChainName) : Prop where
  guarded : view.Guarded chain
  few : ∀ hook, view.copies chain hook ≤ Lifecycle.maxHookCopies

namespace Chains

variable {view : Chains} {chain : ChainName}

theorem calm_of_not_hooked (h : ¬ view.Hooked chain) : view.Calm chain := by
  refine ⟨guarded_of_not_hooked h, ?_⟩
  intro hook
  rw [not_hooked_iff_copies.1 h hook]
  exact Nat.zero_le _

/-- A removal takes all hooks away if there are few. -/
theorem Calm.not_hooked_unhooked (calm : view.Calm chain) (hooks : view.HasHooks)
    (own : Option (List String)) :
    ¬ (view.arrange chain own (Lifecycle.unhooked chain)).Hooked chain := by
  rw [not_hooked_iff_copies]
  intro hook
  rw [hooks.copies_arrange (g := (· - Lifecycle.maxHookCopies)) Lifecycle.count_unhooked hook]
  exact Nat.sub_eq_zero_of_le (calm.few hook)

section Answer

variable {σ : Type} {b : Backend σ} {rules : σ → Chains} {s : σ} {c : Command}

theorem Calm.answer_other (faithful : b.Faithful rules) {owner : ChainName}
    (issued : Translator.Issues owner c) (hne : owner ≠ chain) (h : (rules s).Calm chain) :
    (rules (b.answer s c).2).Calm chain where
  guarded := h.guarded.answer_other faithful issued hne
  few hook := by
    rw [copies_of_other faithful issued hne hook]
    exact h.few hook

theorem Calm.answer_redirects (faithful : b.Faithful rules) (issued : Redirects.Issues chain c)
    (h : (rules s).Calm chain) : (rules (b.answer s c).2).Calm chain where
  guarded := h.guarded.answer_redirects faithful issued
  few hook := by
    have own : c.chain = chain.text := by cases issued <;> rfl
    rw [copies_of_own faithful own hook]
    exact h.few hook

end Answer

end Chains

/-! ## The sequences where nothing is made to fail -/

namespace Lifecycle

variable {m : Memory} {view : Chains} {chain : ChainName}

/-- **Enabling.** A calm filter is guarded after each of its commands, and calm in the end. -/
theorem enable_guarded (h : m.Shows view) (hooks : view.HasHooks) (calm : view.Calm chain) :
    (∀ call ∈ (enable chain).calls Memory.backend m,
        Chains.Guarded (call.after Memory.backend).rules chain) ∧
      Chains.Calm ((enable chain).eval Memory.backend m).2.rules chain := by
  obtain ⟨m₁, hremove, h₁⟩ := removeHooks_eval h hooks chain (.start "enable")
  obtain ⟨m₂, hfill, h₂⟩ := fill_eval h₁ chain (reportHooks chain view (.start "enable"))
  have unhooked₁ : ¬ Chains.Hooked m₁.rules chain := by
    rw [h₁.rules]
    exact calm.not_hooked_unhooked hooks _
  have headed₂ : Chains.Headed m₂.rules chain := by
    rw [h₂.rules]
    exact ⟨[], Chains.set_self ..⟩
  constructor
  · rw [← h.rules] at calm
    intro call hcall
    rw [enable_eq, calls_bind_of hremove, calls_bind_of hfill, calls_bind, calls_bind, calls_log,
      calls_pure, List.nil_append, List.append_nil, List.mem_append, List.mem_append] at hcall
    rcases hcall with hcall | hcall | hcall
    · exact removeHooks_guarded Memory.faithful calm.guarded _ call hcall
    · exact Chains.guarded_of_not_hooked
        (prepares_unhooked Memory.faithful (fill_within chain _) unhooked₁ call hcall)
    · exact (insertHooks_headed Memory.faithful headed₂ _ call hcall).guarded
  · obtain ⟨after, heval, hafter⟩ := enable_eval h hooks chain
    rw [heval, hafter.rules]
    refine ⟨Chains.Headed.guarded ⟨[], Chains.arrange_own ..⟩, ?_⟩
    intro hook
    rw [hooks.copies_arrange (g := fun found => found - maxHookCopies + 1) count_rehooked hook,
      Nat.sub_eq_zero_of_le (calm.few hook)]
    decide

/-- **Disabling.** A calm filter is guarded after each of its commands, and calm in the end. -/
theorem disable_guarded (h : m.Shows view) (hooks : view.HasHooks) (calm : view.Calm chain) :
    (∀ call ∈ (disable chain).calls Memory.backend m,
        Chains.Guarded (call.after Memory.backend).rules chain) ∧
      Chains.Calm ((disable chain).eval Memory.backend m).2.rules chain := by
  obtain ⟨m₁, hremove, h₁⟩ := removeHooks_eval h hooks chain (.start "disable")
  have unhooked₁ : ¬ Chains.Hooked m₁.rules chain := by
    rw [h₁.rules]
    exact calm.not_hooked_unhooked hooks _
  constructor
  · rw [← h.rules] at calm
    intro call hcall
    rw [disable_eq, calls_bind_of hremove, calls_bind, calls_bind, calls_log, calls_pure,
      List.nil_append, List.append_nil, List.mem_append] at hcall
    rcases hcall with hcall | hcall
    · exact removeHooks_guarded Memory.faithful calm.guarded _ call hcall
    · exact Chains.guarded_of_not_hooked
        (prepares_unhooked Memory.faithful (dismantle_within chain _) unhooked₁ call hcall)
  · apply Chains.calm_of_not_hooked
    have rest := (dismantle_within chain (reportHooks chain view (.start "disable"))).eval_keeps
      (I := fun m : Memory => ¬ Chains.Hooked m.rules chain)
      (fun m c issued hm => not_hooked_prepares Memory.faithful issued hm) unhooked₁
    rw [disable_eq, eval_bind_of hremove, eval_bind, eval_bind]
    exact rest.2

end Lifecycle

end Divert
