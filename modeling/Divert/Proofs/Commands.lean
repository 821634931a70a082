/-
# Divert.Proofs.Commands — which commands a translator ever issues.

Whatever the filter answers, the lifecycle of a chain asks and changes its own chain and its own hooks
only, and the redirects add one kind of rule and take it away again.  These are facts about the scripts,
so they hold on every filter, with or without failures.
-/
import Divert.Proofs.Deployment
import Divert.Proofs.Lifecycle.Parts

namespace Divert

open Script

/-! ## The lifecycle -/

namespace Lifecycle

/-- The commands of the lifecycle of a chain. -/
inductive Issues (chain : ChainName) : Command → Prop
  | checkHook (hook : Hook) : Issues chain (hookCommand chain hook .check)
  | deleteHook (hook : Hook) : Issues chain (hookCommand chain hook .delete)
  | insertHook (hook : Hook) : Issues chain (hookCommand chain hook (.insert 1))
  | probe : Issues chain (chainCommand chain .probe)
  | create : Issues chain (chainCommand chain .create)
  | flush : Issues chain (chainCommand chain .flush)
  | remove : Issues chain (chainCommand chain .remove)
  | exempt : Issues chain (chainCommand chain (.append Rule.loopback))

theorem Unhooks.issues {chain : ChainName} {hook : Hook} {c : Command} (h : Unhooks chain hook c) :
    Issues chain c := by
  cases h with
  | check => exact .checkHook hook
  | delete => exact .deleteHook hook

theorem Prepares.issues {chain : ChainName} {c : Command} (h : Prepares chain c) :
    Issues chain c := by
  cases h with
  | probe => exact .probe
  | create => exact .create
  | flush => exact .flush
  | remove => exact .remove
  | exempt => exact .exempt

theorem InsertsHook.issues {chain : ChainName} {hook : Hook} {c : Command}
    (h : InsertsHook chain hook c) : Issues chain c := by
  cases h
  exact .insertHook hook

variable (chain : ChainName)

theorem removeHooks_issues (report : Report) :
    (removeHooks chain report).Within (Issues chain) fun _ => True := by
  refine (removeHooks_within chain report).mono ?_ fun _ h => h
  rintro c ⟨hook, h⟩
  exact h.issues

theorem enable_within : (enable chain).Within (Issues chain) fun _ => True := by
  rw [enable_eq]
  refine (removeHooks_issues chain _).bind fun report _ => ?_
  refine ((fill_within chain report).mono (fun _ => Prepares.issues) fun _ h => h).bind
    fun report _ => ?_
  refine Within.bind (Q := fun _ => True) ?_ fun report _ => trivial
  refine (insertHooks_within chain report).mono ?_ fun _ h => h
  rintro c ⟨hook, h⟩
  exact h.issues

theorem disable_within : (disable chain).Within (Issues chain) fun _ => True := by
  rw [disable_eq]
  refine (removeHooks_issues chain _).bind fun report _ => ?_
  exact ((dismantle_within chain report).mono (fun _ => Prepares.issues) fun _ h => h).bind
    fun report _ => trivial

theorem isInstalled_within : (isInstalled chain).Within (Issues chain) fun _ => True :=
  (within_issue .probe).bind fun _ _ => trivial

end Lifecycle

/-! ## The redirects -/

/-- The commands on the redirect rules of a chain. -/
inductive Redirects.Issues (chain : ChainName) : Command → Prop
  | append (key : Key) (port : UInt16) : Redirects.Issues chain (command chain key port .append)
  | delete (key : Key) (port : UInt16) : Redirects.Issues chain (command chain key port .delete)

namespace Translator

/-- The commands of the translator of a chain. -/
inductive Issues (chain : ChainName) : Command → Prop
  | lifecycle {c : Command} : Lifecycle.Issues chain c → Issues chain c
  | append (key : Key) (port : UInt16) : Issues chain (Redirects.command chain key port .append)
  | delete (key : Key) (port : UInt16) : Issues chain (Redirects.command chain key port .delete)

namespace Issues

variable {chain : ChainName} {c : Command}

/-- The rules of a translator's commands are in normal form. -/
theorem normal (issued : Issues chain c) : c.action.mapRule Text.normalise = c.action := by
  have jump (a : String → Action) (ha : ∀ rule, (a rule).mapRule Text.normalise =
      a (Text.normalise rule)) : (a (Rule.jump chain)).mapRule Text.normalise = a (Rule.jump chain) :=
    (ha _).trans (congrArg a (Rule.normalise_jump chain))
  cases issued with
  | append key port => exact congrArg Action.append (Rule.normalise_redirect key port)
  | delete key port => exact congrArg Action.delete (Rule.normalise_redirect key port)
  | lifecycle issued =>
    cases issued with
    | checkHook hook => exact jump .check fun _ => rfl
    | deleteHook hook => exact jump .delete fun _ => rfl
    | insertHook hook => exact jump (.insert 1) fun _ => rfl
    | exempt => exact congrArg Action.append Rule.normalise_loopback
    | probe | create | flush | remove => rfl

/-- A translator's commands are about its own chain or a hook point, in one table. -/
theorem place (issued : Issues chain c) :
    c.table = natTable ∧ (c.chain = chain.text ∨ ∃ hook : Hook, c.chain = hook.chain) := by
  cases issued with
  | append key port | delete key port => exact ⟨rfl, Or.inl rfl⟩
  | lifecycle issued =>
    cases issued with
    | checkHook hook | deleteHook hook | insertHook hook => exact ⟨rfl, Or.inr ⟨hook, rfl⟩⟩
    | probe | create | flush | remove | exempt => exact ⟨rfl, Or.inl rfl⟩

/-- A translator's commands are not about the chain of another. -/
theorem place_ne (issued : Issues chain c) {other : ChainName} (hne : chain ≠ other) :
    other.text ≠ c.chain := by
  rcases issued.place.2 with hown | ⟨hook, hhook⟩
  · rw [hown]
    intro heq
    exact hne (ChainName.ext heq.symm)
  · rw [hhook]
    exact (other.hook_ne_text hook).symm

end Issues

end Translator

namespace Redirects

theorem Issues.translator {chain : ChainName} {c : Command} (h : Issues chain c) :
    Translator.Issues chain c := by
  cases h with
  | append key port => exact .append key port
  | delete key port => exact .delete key port

variable (r : Redirects) (chain : ChainName) (key : Key)

theorem drop_within (report : Report) :
    (r.drop chain key report).Within (Issues chain) fun _ => True := by
  rw [drop]
  split
  · trivial
  · refine (within_attempt (.delete key _) report).bind fun outcome _ => ?_
    split
    split <;> trivial

theorem clear_within : (r.clear chain key).Within (Issues chain) fun _ => True :=
  r.drop_within chain key _

theorem forward_within (port : UInt16) :
    (r.forward chain key port).Within (Issues chain) fun _ => True := by
  refine (r.drop_within chain key _).bind fun outcome _ => ?_
  split
  split
  · trivial
  · refine (within_attempt (.append key port) _).bind fun outcome _ => ?_
    split
    split <;> trivial

theorem forget_within (P : Command → Prop) : r.forget.Within P fun _ => True := by
  rw [forget]
  split <;> trivial

end Redirects

namespace Translator

variable (t : Translator)

theorem forward_within (key : Key) (port : UInt16) :
    (t.forward key port).Within (Redirects.Issues t.chain)
      fun outcome => outcome.2.chain = t.chain :=
  (t.redirects.forward_within t.chain key port).bind fun _ _ => rfl

theorem clear_within (key : Key) :
    (t.clear key).Within (Redirects.Issues t.chain) fun outcome => outcome.2.chain = t.chain :=
  (t.redirects.clear_within t.chain key).bind fun _ _ => rfl

theorem applyAll_within (redirects : List Redirect) :
    (t.applyAll redirects).Within (Redirects.Issues t.chain)
      fun outcome => outcome.2.chain = t.chain := by
  refine within_foldlM redirects (fun outcome r _ hchain => ?_) rfl
  have next := outcome.2.forward_within r.key r.port
  rw [hchain] at next
  exact next.bind fun _ h => h

/-- **What a translator issues.** Every command of an operation is one of the translator's own chain,
and the translator keeps that chain. -/
theorem perform_within (op : Operation) :
    (t.perform op).Within (Issues t.chain) fun outcome => outcome.2.chain = t.chain := by
  have sequence {x : Script Report} (h : x.Within (Lifecycle.Issues t.chain) fun _ => True) :
      x.Within (Issues t.chain) fun _ => True :=
    h.mono (fun _ => .lifecycle) fun _ _ => trivial
  cases op with
  | enable => exact (sequence (Lifecycle.enable_within t.chain)).bind fun _ _ => rfl
  | disable =>
    refine (sequence (Lifecycle.disable_within t.chain)).bind fun report _ => ?_
    exact (t.redirects.forget_within _).bind fun _ _ => rfl
  | forward key port =>
    exact (t.forward_within key port).mono (fun _ => Redirects.Issues.translator) fun _ h => h
  | clear key => exact (t.clear_within key).mono (fun _ => Redirects.Issues.translator) fun _ h => h
  | applyAll redirects =>
    exact (t.applyAll_within redirects).mono (fun _ => Redirects.Issues.translator) fun _ h => h

end Translator

/-- No operation gives a translator another chain. -/
theorem Deployment.serve_chain {σ : Type} (b : Backend σ) (d : Deployment σ) (op : Operation) :
    (d.serve b op).2.translator.chain = d.translator.chain :=
  (d.translator.perform_within op).eval_value b d.filter

end Divert
