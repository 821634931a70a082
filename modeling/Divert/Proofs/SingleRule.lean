/-
# Divert.Proofs.SingleRule — at most one rule for a key, whatever fails.

Commands may fail at any moment: kinds of them can be made to fail between operations, and single calls
can be lost within one.  What keeps the rules of a key single is that the chain is *sound*: for every
key it holds either no redirect rule, or just the one that is on record.  Every operation keeps a chain
sound but one.  Disabling forgets the record also when the rules could not be flushed, and the next
forward of the same key then puts a second rule beside the first.  `single_rule_iff` says that this is
the only way.
-/
import Divert.Proofs.Commands
import Divert.Proofs.Filter.Memory
import Divert.Proofs.Redirects.Settled
import Divert.Proofs.Rule.Ports
import Mathlib.Data.List.Induction

namespace Divert

open Script

/-! ## Sound chains -/

/-- For every key the rules are those of the record, or there is none. -/
def Redirects.Sound (r : Redirects) (own : Option (List String)) : Prop :=
  ∀ rules, own = some rules → ∀ key,
    Rule.ports key rules = [] ∨ Rule.ports key rules = (r.get? key).toList

/-- No key has two redirect rules. -/
def AtMostOne (own : Option (List String)) : Prop :=
  ∀ rules, own = some rules → ∀ key, (Rule.ports key rules).length ≤ 1

/-- No redirect rule is left. -/
def NoRedirects (own : Option (List String)) : Prop :=
  ∀ rules, own = some rules → ∀ key port, Rule.redirect key port ∉ rules

theorem Redirects.Sound.atMostOne {r : Redirects} {own : Option (List String)} (h : r.Sound own) :
    AtMostOne own := by
  intro rules hrules key
  rcases h rules hrules key with hnone | hport
  · rw [hnone]
    exact Nat.zero_le 1
  · rw [hport]
    cases r.get? key with
    | none => exact Nat.zero_le 1
    | some port => exact Nat.le_refl 1

theorem NoRedirects.sound {own : Option (List String)} (h : NoRedirects own) (r : Redirects) :
    r.Sound own := by
  intro rules hrules key
  have hnone : Rule.ports key rules = [] := Rule.ports_eq_nil_iff.2 (h rules hrules key)
  exact Or.inl hnone

/-! ## The lifecycle -/

section Faithful

variable {σ : Type} {b : Backend σ} {rules : σ → Chains} {chain : ChainName} {r : Redirects} {s : σ}

/-- The lifecycle never adds a redirect rule to our chain. -/
theorem sound_of_lifecycle (faithful : b.Faithful rules) {c : Command}
    (issued : Lifecycle.Issues chain c) (h : r.Sound (rules s natTable chain.text)) :
    r.Sound (rules (b.answer s c).2 natTable chain.text) := by
  have hooked {hook : Hook} {a : String → Action} :
      rules (b.answer s (Lifecycle.hookCommand chain hook a)).2 natTable chain.text =
        rules s natTable chain.text := faithful.elsewhere (chain.hook_ne_text hook).symm
  have effect {a : Action} {value : Bool}
      (done : (b.answer s (Lifecycle.chainCommand chain a)).1 = .ok value) :
      rules (b.answer s (Lifecycle.chainCommand chain a)).2 natTable chain.text =
        (a.mapRule Text.normalise).effect (rules s natTable chain.text) := faithful.own done
  have emptied : r.Sound (some []) := by
    intro rules hrules key
    cases hrules
    exact Or.inl rfl
  cases hanswer : (b.answer s c).1 with
  | error e => rwa [faithful.refused hanswer]
  | ok value =>
    -- The hooks are in other chains, and what is done to ours empties it, but for the exemption.
    cases issued with
    | checkHook hook => rwa [hooked]
    | deleteHook hook => rwa [hooked]
    | insertHook hook => rwa [hooked]
    | probe => rwa [effect hanswer]
    | create =>
      rw [effect hanswer]
      exact emptied
    | flush =>
      rw [effect hanswer]
      exact emptied
    | remove =>
      rw [effect hanswer]
      intro rules hrules
      cases hrules
    | exempt =>
      rw [effect hanswer]
      intro after hafter key
      obtain ⟨before, hbefore, rfl⟩ := Option.map_eq_some_iff.1 hafter
      simp only [Rule.normalise_loopback, Rule.ports_append, Rule.ports_loopback, List.append_nil]
      exact h before hbefore key

/-! ## The redirects -/

/-- Without its record, and with its rule deleted, a key has no rule. -/
theorem Redirects.Sound.erase {own : Option (List String)} (h : r.Sound own) {key : Key}
    {port : UInt16} (hrecord : r.get? key = some port) :
    Redirects.Sound ⟨r.ports.erase key⟩
      (own.map fun rules => rules.erase (Rule.redirect key port)) := by
  intro after hafter other
  obtain ⟨before, hbefore, rfl⟩ := Option.map_eq_some_iff.1 hafter
  by_cases hother : other = key
  -- The deleted rule was the only one of the key.
  · subst hother
    refine Or.inl ?_
    rw [Rule.ports_erase_self]
    rcases h before hbefore other with hnone | hport
    · rw [hnone]
      rfl
    · rw [hport, hrecord, Option.toList_some, List.erase_cons_head]
  · rw [Rule.ports_erase_of_none (Rule.port?_redirect_of_ne (Ne.symm hother) port)]
    have same : (⟨r.ports.erase key⟩ : Redirects).get? other = r.get? other :=
      r.ports.get?_erase_of_ne hother
    rw [same]
    exact h before hbefore other

/-- A key without a record gets one together with its only rule. -/
theorem Redirects.Sound.put {own : Option (List String)} (h : r.Sound own) {key : Key}
    (hrecord : r.get? key = none) (port : UInt16) :
    Redirects.Sound ⟨r.ports.put key port⟩
      (own.map fun rules => rules ++ [Rule.redirect key port]) := by
  intro after hafter other
  obtain ⟨before, hbefore, rfl⟩ := Option.map_eq_some_iff.1 hafter
  rw [Rule.ports_append]
  by_cases hother : other = key
  · subst hother
    have none : Rule.ports other before = [] := by
      rcases h before hbefore other with hnone | hport
      · exact hnone
      · rw [hport, hrecord, Option.toList_none]
    have recorded : (⟨r.ports.put other port⟩ : Redirects).get? other = some port :=
      r.ports.get?_put_self other port
    rw [none, recorded, Rule.ports_redirect_self]
    exact Or.inr rfl
  · have same : (⟨r.ports.put key port⟩ : Redirects).get? other = r.get? other :=
      r.ports.get?_put_of_ne port hother
    rw [same, Rule.ports_redirect_of_ne (Ne.symm hother) port, List.append_nil]
    exact h before hbefore other

/-- Dropping a key keeps a chain sound. -/
theorem drop_sound (faithful : b.Faithful rules) (h : r.Sound (rules s natTable chain.text))
    (key : Key) (report : Report) :
    ((r.drop chain key report).eval b s).1.2.Sound
      (rules ((r.drop chain key report).eval b s).2 natTable chain.text) := by
  cases hrecord : r.get? key with
  | none => rwa [Redirects.drop_of_none hrecord]
  | some port =>
    rcases hanswer : b.answer s (Redirects.command chain key port .delete) with ⟨answer, after⟩
    cases answer with
    | error e =>
      rw [Redirects.drop_refused hrecord hanswer]
      dsimp only
      rwa [faithful.kept hanswer]
    | ok value =>
      rw [Redirects.drop_deleted hrecord hanswer]
      dsimp only
      rw [Redirects.rules_of_deleted faithful hanswer]
      exact h.erase hrecord

/-- Forwarding a key keeps a chain sound. -/
theorem forward_sound (faithful : b.Faithful rules) (h : r.Sound (rules s natTable chain.text))
    (key : Key) (port : UInt16) :
    ((r.forward chain key port).eval b s).1.2.Sound
      (rules ((r.forward chain key port).eval b s).2 natTable chain.text) := by
  have dropped := drop_sound faithful h key (.start "forward")
  rcases hdrop : (r.drop chain key (.start "forward")).eval b s with ⟨⟨report, r'⟩, between⟩
  rw [hdrop] at dropped
  cases hrecord : r'.get? key with
  -- A key that still has its record could not be dropped, and nothing is appended.
  | some old =>
    rw [Redirects.forward_kept hdrop (Option.isSome_of_eq_some hrecord)]
    exact dropped
  | none =>
    rcases hanswer : b.answer between (Redirects.command chain key port .append) with
      ⟨answer, after⟩
    cases answer with
    | error e =>
      rw [Redirects.forward_refused hdrop hrecord hanswer]
      dsimp only
      rwa [faithful.kept hanswer]
    | ok value =>
      rw [Redirects.forward_added hdrop hrecord hanswer]
      dsimp only
      rw [Redirects.rules_of_added faithful hanswer]
      exact dropped.put hrecord port

/-! ## Operations -/

/-- The chain of a translator is sound. -/
def Deployment.Sound (rules : σ → Chains) (d : Deployment σ) : Prop :=
  d.translator.redirects.Sound (d.chainRules rules)

variable {d : Deployment σ}

theorem serve_forward_sound (faithful : b.Faithful rules) (h : d.Sound rules) (key : Key)
    (port : UInt16) : (d.serve b (.forward key port)).2.Sound rules := by
  have after := forward_sound faithful h key port
  rw [Deployment.serve_forward_of_eval rfl]
  exact after

theorem foldl_forward_sound (faithful : b.Faithful rules) (redirects : List Redirect)
    {outcome : Report × Deployment σ} (h : outcome.2.Sound rules) :
    (redirects.foldl (Deployment.serveNext b) outcome).2.Sound rules := by
  induction redirects generalizing outcome with
  | nil => exact h
  | cons r rest ih => exact ih (serve_forward_sound faithful h r.key r.port)

/-- **One operation.** Every operation keeps our chain sound, provided that disabling leaves no
redirect rule in it. -/
theorem serve_sound (faithful : b.Faithful rules) (h : d.Sound rules) (op : Operation)
    (cleared : op = .disable → NoRedirects ((d.serve b op).2.chainRules rules)) :
    (d.serve b op).2.Sound rules := by
  cases op with
  | enable =>
    have keeps := (Lifecycle.enable_within d.translator.chain).eval_keeps
      (I := fun s => d.translator.redirects.Sound (rules s natTable d.translator.chain.text))
      (fun s c issued hs => sound_of_lifecycle faithful issued hs) h
    rw [Deployment.serve_enable_of_eval rfl]
    exact keeps.2
  | disable => exact (cleared rfl).sound _
  | forward key port => exact serve_forward_sound faithful h key port
  | clear key =>
    have after := drop_sound faithful h key (.start "clear")
    rw [Deployment.serve_clear_of_eval rfl]
    exact after
  | applyAll redirects =>
    rw [Deployment.serve_applyAll]
    exact foldl_forward_sound faithful redirects h

end Faithful

/-! ## Runs with failures -/

/-- An operation, or a kind of command that is made to fail from now on or no longer. -/
inductive Event where
  | ask (op : Operation)
  | setFailing (kind : Op) (failing : Bool)

namespace Deployment

/-- A new translator on a filter in memory some of whose calls will be lost. -/
def faulty (chain : ChainName) (schedule : List Fault) : Deployment (Faulty Memory) :=
  ⟨.start chain, ⟨.fresh, schedule, []⟩⟩

def react (d : Deployment (Faulty Memory)) : Event → Deployment (Faulty Memory)
  | .ask op => (d.serve (Faulty.backend Memory.backend) op).2
  | .setFailing kind failing =>
    { d with filter := { d.filter with inner := d.filter.inner.setFailing kind failing } }

/-- The deployment after some events. -/
def through (d : Deployment (Faulty Memory)) (events : List Event) : Deployment (Faulty Memory) :=
  events.foldl react d

/-- The rules of our chain behind the schedule. -/
def ownRules (d : Deployment (Faulty Memory)) : Option (List String) :=
  d.chainRules fun f => f.inner.rules

/-- The same translator and the same rules, but nothing fails any more. -/
def unhindered (d : Deployment (Faulty Memory)) : Deployment Memory :=
  ⟨d.translator, { d.filter.inner with failing := [] }⟩

end Deployment

/-- Every disable among the events leaves no redirect rule in our chain. -/
def DisablesClear (chain : ChainName) (schedule : List Fault) (events : List Event) : Prop :=
  ∀ before, before ++ [.ask .disable] <+: events →
    NoRedirects ((Deployment.faulty chain schedule).through (before ++ [.ask .disable])).ownRules

theorem through_concat (d : Deployment (Faulty Memory)) (events : List Event) (event : Event) :
    d.through (events ++ [event]) = (d.through events).react event := by
  rw [Deployment.through, List.foldl_append]
  rfl

/-- **Whole runs.** As long as disabling clears the chain, the chain stays sound. -/
theorem through_sound {chain : ChainName} {schedule : List Fault} {events : List Event}
    (clear : DisablesClear chain schedule events) :
    ((Deployment.faulty chain schedule).through events).Sound fun f => f.inner.rules := by
  -- From the right, since whether a disable clears the chain depends on all that was before it.
  induction events using List.reverseRecOn with
  | nil =>
    intro rules hrules
    have absent : Memory.fresh.rules natTable chain.text = some rules := hrules
    rw [Memory.rules_fresh, if_neg chain.text_notMem_builtinChains] at absent
    cases absent
  | append_singleton events event ih =>
    have earlier := ih (by
      intro before hinitial
      exact clear before (hinitial.trans (List.prefix_append events [event])))
    cases event with
    | ask op =>
      rw [through_concat]
      refine serve_sound (Faulty.faithful Memory.faithful) earlier op ?_
      rintro rfl
      have cleared := clear events (List.prefix_refl _)
      rwa [through_concat] at cleared
    | setFailing kind failing =>
      rw [through_concat]
      exact earlier

/-! ## The way to a second rule -/

/-- Disabling leaves nothing on record, on any filter. -/
theorem serve_disable_redirects {σ : Type} (b : Backend σ) (d : Deployment σ) :
    (d.serve b .disable).2.translator.redirects = .empty := by
  rw [Deployment.serve_disable_of_eval rfl]

/-- A rule that is not on record gets a second one beside it. -/
theorem second_rule {d : Deployment Memory} (hfailing : d.filter.failing = []) {key : Key}
    {old : UInt16} {rules : List String} (hrules : d.chainRules Memory.rules = some rules)
    (hmem : Rule.redirect key old ∈ rules) (hnone : d.translator.redirects.get? key = none)
    (port : UInt16) :
    ¬ AtMostOne ((d.serve Memory.backend (.forward key port)).2.chainRules Memory.rules) := by
  have shows : d.filter.Shows d.filter.rules := ⟨hfailing, rfl⟩
  have hdrop : (d.translator.redirects.drop d.translator.chain key (.start "forward")).eval
      Memory.backend d.filter = ((.start "forward", d.translator.redirects), d.filter) := by
    rw [Redirects.drop_of_none hnone]
    rfl
  obtain ⟨after, heval, hafter⟩ :=
    Redirects.forward_eval_of_dropped hdrop hnone shows hrules port
  have own : (d.serve Memory.backend (.forward key port)).2.chainRules Memory.rules =
      some (rules ++ [Rule.redirect key port]) := by
    rw [Deployment.serve_forward_of_eval heval, Deployment.chainRules, hafter.rules,
      Chains.set_self]
  intro single
  have count := single _ own key
  have first := List.length_pos_of_mem (Rule.mem_ports.2 hmem)
  rw [Rule.ports_append, Rule.ports_redirect_self, List.length_append,
    List.length_singleton] at count
  omega

theorem second_rule_of_forgotten {d : Deployment (Faulty Memory)}
    (forgotten : d.translator.redirects = .empty) {key : Key} {old : UInt16} {rules : List String}
    (hrules : d.ownRules = some rules) (hmem : Rule.redirect key old ∈ rules) (port : UInt16) :
    ¬ AtMostOne ((d.unhindered.serve Memory.backend (.forward key port)).2.chainRules
      Memory.rules) := by
  have own : d.unhindered.chainRules Memory.rules = some rules := hrules
  refine second_rule rfl own hmem ?_ port
  show d.translator.redirects.get? key = none
  rw [forgotten]
  rfl

/-- **At most one rule for a key.** Whatever commands fail: no event leads to two redirect rules for a
key, nor would one more forward of some key if nothing failed in it, exactly if every disable left no
redirect rule in the chain. -/
theorem single_rule_iff (chain : ChainName) (schedule : List Fault) (events : List Event) :
    (∀ before, before <+: events →
      AtMostOne ((Deployment.faulty chain schedule).through before).ownRules ∧
      ∀ key port, AtMostOne ((((Deployment.faulty chain schedule).through before).unhindered.serve
        Memory.backend (.forward key port)).2.chainRules Memory.rules)) ↔
    DisablesClear chain schedule events := by
  constructor
  -- A rule that a disable left is forgotten, and one more forward of its key doubles it.
  · intro single before hinitial rules hrules key port hmem
    have forgotten : ((Deployment.faulty chain schedule).through
        (before ++ [.ask .disable])).translator.redirects = .empty := by
      rw [through_concat]
      exact serve_disable_redirects _ _
    exact second_rule_of_forgotten forgotten hrules hmem port ((single _ hinitial).2 key port)
  · intro clear before hinitial
    have clearBefore : DisablesClear chain schedule before := by
      intro earlier h
      exact clear earlier (h.trans hinitial)
    have sound := through_sound clearBefore
    refine ⟨sound.atMostOne, ?_⟩
    intro key port
    have next := serve_forward_sound
      (d := ((Deployment.faulty chain schedule).through before).unhindered) Memory.faithful sound
      key port
    exact next.atMostOne

end Divert
