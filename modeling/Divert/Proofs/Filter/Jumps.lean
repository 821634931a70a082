/-
# Divert.Proofs.Filter.Jumps — where the jumps of the stored rules lead.

A rule is taken in only if it jumps to a standard target or to a chain that is there, so at first every
jump leads somewhere.  A chain is let go only if no rule is the bare jump to it.  A rule that jumps to
it and has other options besides is no such text, and stays behind with a jump that leads nowhere.
`anchored_iff` says that this is the only way to lose a target.
-/
import Divert.Proofs.Filter.Answers
import Mathlib.Data.List.Induction
import Mathlib.Data.List.InsertIdx

namespace Divert

open Filter.Table (jumpTarget?)

/-! ## Stored rules and their targets -/

namespace Chains

variable (view : Chains) (table : String)

/-- Some chain of the table holds the rule. -/
def Holds (rule : String) : Prop := ∃ chain rules, view table chain = some rules ∧ rule ∈ rules

/-- If the rule has a jump option, then what follows the first one is a standard target or a chain of
the table. -/
def Leads (rule : String) : Prop :=
  ∀ found, jumpTarget? (Text.words rule) = some found →
    ∃ target, found = some target ∧
      (target ∈ Filter.standardTargets ∨ (view table target).isSome = true)

/-- Some rule of the table jumps to the chain. -/
def Targets (chain : String) : Prop :=
  ∃ rule, view.Holds table rule ∧ jumpTarget? (Text.words rule) = some (some chain)

/-- Every jump of a stored rule leads somewhere. -/
def Anchored : Prop := ∀ table rule, view.Holds table rule → view.Leads table rule

end Chains

/-- A table accepts a rule exactly if the rule leads somewhere. -/
theorem Filter.Table.checkTarget_iff {t : Filter.Table} {rule : String} :
    t.checkTarget rule = .ok () ↔
      ∀ found, jumpTarget? (Text.words rule) = some found →
        ∃ target, found = some target ∧
          (target ∈ Filter.standardTargets ∨ (t.get? target).isSome = true) := by
  unfold checkTarget
  cases jumpTarget? (Text.words rule) with
  | none => simp
  | some found =>
    cases found with
    | none => simp
    | some target =>
      show (if target ∈ Filter.standardTargets ∨ (t.get? target).isSome = true then
        (Except.ok () : Except Refusal Unit) else .error (.unknownTarget target)) = .ok () ↔ _
      split
      · next h => simpa using h
      · next h => simpa using h

/-! ## What an action does to the rules -/

/-- The rules of a chain after an action are old ones, or the one that the action adds. -/
theorem Action.mem_effect {a : Action} {own : Option (List String)} {rules : List String}
    {rule : String} (h : a.effect own = some rules) (hmem : rule ∈ rules) :
    (∃ old, own = some old ∧ rule ∈ old) ∨ a = .append rule ∨ ∃ position, a = .insert position rule := by
  cases a with
  | probe | check _ => exact Or.inl ⟨rules, h, hmem⟩
  | create | flush =>
    cases h
    exact absurd hmem List.not_mem_nil
  | remove => cases h
  | insert position added =>
    obtain ⟨old, rfl, rfl⟩ := Option.map_eq_some_iff.1 h
    rcases List.eq_or_mem_of_mem_insertIdx hmem with rfl | hold
    · exact Or.inr (Or.inr ⟨position, rfl⟩)
    · exact Or.inl ⟨old, rfl, hold⟩
  | append added =>
    obtain ⟨old, rfl, rfl⟩ := Option.map_eq_some_iff.1 h
    rcases List.mem_append.1 hmem with hold | hnew
    · exact Or.inl ⟨old, rfl, hold⟩
    · rw [List.mem_singleton.1 hnew]
      exact Or.inr (Or.inl rfl)
  | delete gone =>
    obtain ⟨old, rfl, rfl⟩ := Option.map_eq_some_iff.1 h
    exact Or.inl ⟨old, rfl, List.mem_of_mem_erase hmem⟩

theorem Action.rule?_mapRule (a : Action) (f : String → String) :
    (a.mapRule f).rule? = a.rule?.map f := by
  cases a <;> rfl

/-- The rules of a command are handed on in normal form. -/
theorem Action.normalise_of_mapRule {a : Action} {rule : String}
    (h : (a.mapRule Text.normalise).rule? = some rule) : Text.normalise rule = rule := by
  rw [rule?_mapRule] at h
  obtain ⟨text, -, rfl⟩ := Option.map_eq_some_iff.1 h
  exact Text.normalise_normalise text

theorem Action.mapRule_eq_remove {a : Action} {f : String → String} :
    a.mapRule f = .remove ↔ a = .remove := by
  cases a <;> simp [mapRule]

/-- Only a removal takes a chain away. -/
theorem Action.isSome_effect {a : Action} (h : a ≠ .remove) {own : Option (List String)}
    (present : own.isSome = true) : (a.effect own).isSome = true := by
  obtain ⟨rules, rfl⟩ := Option.isSome_iff_exists.1 present
  cases a with
  | remove => exact absurd rfl h
  | _ => rfl

namespace Filter.Table

/-- A rule that an action adds was accepted. -/
theorem accepted_of_perform {t after : Table} {chain rule : String} {a : Action} {value : Bool}
    (h : t.perform chain a = .ok (value, after))
    (added : a = .append rule ∨ ∃ position, a = .insert position rule) :
    t.checkTarget rule = .ok () := by
  cases target : t.checkTarget rule with
  | ok _ => rfl
  | error reason =>
    rcases added with rfl | ⟨position, rfl⟩
    · rw [perform_append_of_refused t chain target] at h
      cases h
    · rw [perform_insert_of_refused t chain target] at h
      cases h

end Filter.Table

/-! ## What a command does to the rules -/

namespace Memory

variable {m : Memory} {c : Command} {table chain rule : String}

/-- A command that is carried out was not made to fail, and its table carried it out. -/
theorem perform_of_answer {value : Bool} (done : (m.answer c).1 = .ok value) :
    (c.action.mapRule Text.normalise).op ∉ m.failing ∧
      ∃ after, (m.table c.table).perform c.chain (c.action.mapRule Text.normalise) =
        .ok (value, after) := by
  cases hperform : m.perform (c.mapRule Text.normalise) with
  | error refusal =>
    rw [(answer_of_error hperform).1] at done
    cases done
  | ok result =>
    rw [(answer_of_ok hperform).1] at done
    cases done
    unfold perform at hperform
    split at hperform
    · cases hperform
    · next hfailing => exact ⟨hfailing, result.2, hperform⟩

/-- A command that is not made to fail is carried out if its table carries it out. -/
theorem answer_of_perform {value : Bool} {after : Filter.Table}
    (unforced : (c.action.mapRule Text.normalise).op ∉ m.failing)
    (done : (m.table c.table).perform c.chain (c.action.mapRule Text.normalise) =
      .ok (value, after)) : (m.answer c).1 = .ok value := by
  have hperform : m.perform (c.mapRule Text.normalise) = .ok (value, after) := by
    show (if (c.action.mapRule Text.normalise).op ∈ m.failing then _ else _) = _
    rw [if_neg unforced]
    exact done
  exact (answer_of_ok hperform).1

/-- A rule that a table accepts leads somewhere. -/
theorem leads_of_accepted (h : (m.table table).checkTarget rule = .ok ()) :
    Chains.Leads m.rules table rule :=
  Filter.Table.checkTarget_iff.1 h

/-- A rule that is stored after a command was stored before, or the command has just added it: in
normal form, and with a target that was there. -/
theorem holds_of_answer (h : Chains.Holds (m.answer c).2.rules table rule) :
    Chains.Holds m.rules table rule ∨
      c.action ≠ .remove ∧ Text.normalise rule = rule ∧ Chains.Leads m.rules table rule := by
  obtain ⟨name, rules, hrules, hmem⟩ := h
  cases hanswer : (m.answer c).1 with
  | error e =>
    have same : (m.answer c).2.rules = m.rules := faithful.refused (b := backend) hanswer
    rw [same] at hrules
    exact Or.inl ⟨name, rules, hrules, hmem⟩
  | ok value =>
    by_cases hplace : table = c.table ∧ name = c.chain
    · obtain ⟨rfl, rfl⟩ := hplace
      have own : (c.action.mapRule Text.normalise).effect (m.rules c.table c.chain) = some rules :=
        (faithful.own (b := backend) hanswer).symm.trans hrules
      rcases Action.mem_effect own hmem with ⟨old, hold, holdmem⟩ | hadded
      · exact Or.inl ⟨c.chain, old, hold, holdmem⟩
      · obtain ⟨-, after, hperform⟩ := perform_of_answer hanswer
        have accepted := Filter.Table.accepted_of_perform hperform hadded
        have hrule : (c.action.mapRule Text.normalise).rule? = some rule := by
          rcases hadded with hadded | ⟨position, hadded⟩
          · rw [hadded]
            rfl
          · rw [hadded]
            rfl
        refine Or.inr ⟨?_, Action.normalise_of_mapRule hrule, leads_of_accepted accepted⟩
        intro hremove
        rw [hremove] at hrule
        cases hrule
    · have same := faithful.outside (b := backend) (s := m) (c := c) hplace
      exact Or.inl ⟨name, rules, same.symm.trans hrules, hmem⟩

/-- A rule that leads somewhere goes on to do so, unless its target is taken away. -/
theorem leads_answer (h : Chains.Leads m.rules table rule)
    (kept : ∀ value, (m.answer c).1 = .ok value → c.action = .remove → c.table = table →
      jumpTarget? (Text.words rule) = some (some c.chain) → c.chain ∈ Filter.standardTargets) :
    Chains.Leads (m.answer c).2.rules table rule := by
  intro found hfound
  obtain ⟨target, rfl, standard | present⟩ := h found hfound
  · exact ⟨target, rfl, Or.inl standard⟩
  refine ⟨target, rfl, ?_⟩
  cases hanswer : (m.answer c).1 with
  | error e =>
    have same : (m.answer c).2.rules = m.rules := faithful.refused (b := backend) hanswer
    rw [same]
    exact Or.inr present
  | ok value =>
    by_cases hplace : table = c.table ∧ target = c.chain
    · obtain ⟨rfl, rfl⟩ := hplace
      by_cases hremove : c.action = .remove
      · exact Or.inl (kept value hanswer hremove rfl hfound)
      · have own : (m.answer c).2.rules c.table c.chain = _ := faithful.own (b := backend) hanswer
        rw [own]
        exact Or.inr (Action.isSome_effect (mt Action.mapRule_eq_remove.1 hremove) present)
    · have same : (m.answer c).2.rules table target = _ :=
        faithful.outside (b := backend) (s := m) (c := c) hplace
      rw [same]
      exact Or.inr present

/-! ## Taking chains away -/

/-- The chain would be taken away although some rule of the table jumps to it. -/
def Uproots (m : Memory) (table chain : String) : Prop :=
  (m.answer ⟨table, chain, .remove⟩).1 = .ok true ∧ chain ∉ Filter.standardTargets ∧
    Chains.Targets m.rules table chain

theorem of_removed {value : Bool} (done : (m.answer ⟨table, chain, .remove⟩).1 = .ok value) :
    .remove ∉ m.failing ∧ chain ∉ Filter.builtinChains ∧ m.rules table chain = some [] ∧
      ¬ Chains.Holds m.rules table (Rule.jumpTo chain) := by
  obtain ⟨hfailing, after, hperform⟩ := perform_of_answer done
  obtain ⟨hempty, hunused⟩ := truthful.told (b := backend) done
  refine ⟨hfailing, ?_, hempty, ?_⟩
  · intro hbuiltin
    simp only [Action.mapRule, Filter.Table.perform_remove_builtin _ _ hbuiltin] at hperform
    cases hperform
  · rintro ⟨name, rules, hrules, hmem⟩
    exact hunused name rules hrules hmem

/-- **Removals.** A chain is taken away exactly if removals are not made to fail, the chain is there,
empty and not built in, and no rule of the table is the bare jump to it. -/
theorem remove_iff (m : Memory) (table chain : String) :
    (m.answer ⟨table, chain, .remove⟩).1 = .ok true ↔
      .remove ∉ m.failing ∧ chain ∉ Filter.builtinChains ∧ m.rules table chain = some [] ∧
        ¬ Chains.Holds m.rules table (Rule.jumpTo chain) := by
  constructor
  · exact of_removed
  · rintro ⟨hfailing, hcustom, hempty, hunused⟩
    have hown : (m.table table).get? chain = some [] := hempty
    have hheld : ¬ (m.table table).holdsRule (Rule.jumpTo chain) = true :=
      mt (m.table table).holdsRule_iff.1 hunused
    have done : (m.table table).perform chain .remove =
        .ok (true, (m.table table).erase chain) := by
      rw [Filter.Table.perform_remove _ _ hcustom, hown]
      simp [hheld]
    exact answer_of_perform (c := ⟨table, chain, .remove⟩) hfailing done

/-- Where a target is uprooted, some rule is left behind that leads nowhere. -/
theorem not_anchored_of_uproots (h : m.Uproots table chain) :
    ¬ Chains.Anchored (m.answer ⟨table, chain, .remove⟩).2.rules := by
  obtain ⟨done, custom, rule, ⟨name, rules, hrules, hmem⟩, hjump⟩ := h
  obtain ⟨-, -, hempty, -⟩ := (remove_iff m table chain).1 done
  -- The chain was empty, so the rule that jumps to it stands in another chain and stays there.
  have hname : name ≠ chain := by
    rintro rfl
    rw [hempty] at hrules
    cases hrules
    exact absurd hmem List.not_mem_nil
  have gone : (m.answer ⟨table, chain, .remove⟩).2.rules table chain = none :=
    faithful.own (b := backend) done
  have stays : (m.answer ⟨table, chain, .remove⟩).2.rules table name = some rules := by
    have same : (m.answer ⟨table, chain, .remove⟩).2.rules table name = m.rules table name :=
      faithful.elsewhere (b := backend) (c := ⟨table, chain, .remove⟩) hname
    exact same.trans hrules
  intro hanchored
  obtain ⟨target, htarget, hleads⟩ := hanchored table rule ⟨name, rules, stays, hmem⟩ _ hjump
  cases htarget
  rcases hleads with standard | present
  · exact custom standard
  · rw [gone] at present
    cases present

/-- Every other request leaves a filter anchored. -/
theorem anchored_react (h : Chains.Anchored m.rules) (request : Request)
    (kept : ∀ table chain, request = .command ⟨table, chain, .remove⟩ → ¬ m.Uproots table chain) :
    Chains.Anchored (m.react request).rules := by
  cases request with
  | setFailing op failing => exact h
  | command c =>
    obtain ⟨place, chain, action⟩ := c
    intro table rule hholds
    rcases holds_of_answer hholds with hold | ⟨hadds, -, hnew⟩
    · apply leads_answer (h table rule hold)
      rintro value done rfl rfl hjump
      by_contra hcustom
      have removed := (remove_iff m place chain).2 (of_removed done)
      exact kept place chain rfl ⟨removed, hcustom, rule, hold, hjump⟩
    · apply leads_answer hnew
      intro value done hremove
      exact absurd hremove hadds

/-! ## Rules that only jump -/

theorem not_holds_fresh (table rule : String) : ¬ Chains.Holds fresh.rules table rule := by
  rintro ⟨chain, rules, hrules, hmem⟩
  rw [rules_fresh] at hrules
  split at hrules
  · cases hrules
    exact absurd hmem List.not_mem_nil
  · cases hrules

/-- **Normal forms.** In every state of the filter, every stored rule is its own normal form. -/
theorem Reachable.normal (h : m.Reachable) (hholds : Chains.Holds m.rules table rule) :
    Text.normalise rule = rule := by
  induction h with
  | fresh => exact absurd hholds (not_holds_fresh table rule)
  | answer c _ ih =>
    rcases holds_of_answer hholds with hold | ⟨-, hnormal, -⟩
    · exact ih hold
    · exact hnormal
  | setFailing op failing _ ih => exact ih hholds
  | clearHistory _ ih => exact ih hholds

/-- A rule in normal form that has two words, the first of them the jump option, is the bare jump. -/
theorem eq_jumpTo_of_words {target : String} (hnormal : Text.normalise rule = rule)
    (hwords : Text.words rule = [Rule.jumpOption, target]) : rule = Rule.jumpTo target := by
  unfold Text.words at hwords
  obtain ⟨option, rest, hcut, hoption, hrest⟩ := List.map_eq_cons_iff.1 hwords
  obtain ⟨name, nothing, rfl, hname, hnothing⟩ := List.map_eq_cons_iff.1 hrest
  obtain rfl := List.map_eq_nil_iff.1 hnothing
  rw [← hnormal, Text.normalise, hcut, Rule.jumpTo, ← hoption, ← hname]
  apply String.toList_inj.1
  simp [toString]

/-- **Bare jumps.** In every state of the filter, a stored rule of no more than its jump leads
somewhere. -/
theorem Reachable.bare_leads (h : m.Reachable) {target : String}
    (hholds : Chains.Holds m.rules table rule)
    (hwords : Text.words rule = [Rule.jumpOption, target]) : Chains.Leads m.rules table rule := by
  induction h with
  | fresh => exact absurd hholds (not_holds_fresh table rule)
  | @answer m c hm ih =>
    obtain ⟨place, chain, action⟩ := c
    rcases holds_of_answer hholds with hold | ⟨hadds, -, hnew⟩
    · apply leads_answer (ih hold)
      rintro value done rfl rfl hjump
      obtain ⟨-, -, -, hunused⟩ := of_removed done
      rw [hwords] at hjump
      have htarget : target = chain := Option.some.inj (Option.some.inj hjump)
      rw [eq_jumpTo_of_words (hm.normal hold) hwords, htarget] at hold
      exact absurd hold hunused
    · apply leads_answer hnew
      intro value done hremove
      exact absurd hremove hadds
  | setFailing op failing _ ih => exact ih hholds
  | clearHistory _ ih => exact ih hholds

/-! ## Runs -/

/-- **Lost targets.** After any requests: every jump has led somewhere all the time exactly if no chain
was taken away that a stored rule jumped to.  That cannot happen to a rule of no more than its jump,
as such a rule is what keeps its chain from being taken away; a rule with other options keeps none. -/
theorem anchored_iff (requests : List Request) :
    ((∀ before, before <+: requests → Chains.Anchored (through before).rules) ↔
      ∀ before table chain, before ++ [.command ⟨table, chain, .remove⟩] <+: requests →
        ¬ (through before).Uproots table chain) ∧
    (∀ table rule target, Chains.Holds (through requests).rules table rule →
      Text.words rule = [Rule.jumpOption, target] →
        Chains.Leads (through requests).rules table rule) ∧
    ∀ table chain, ((through requests).answer ⟨table, chain, .remove⟩).1 = .ok true ↔
      .remove ∉ (through requests).failing ∧ chain ∉ Filter.builtinChains ∧
        (through requests).rules table chain = some [] ∧
        ¬ Chains.Holds (through requests).rules table (Rule.jumpTo chain) := by
  refine ⟨⟨?_, ?_⟩, ?_, ?_⟩
  · intro hanchored before table chain hprefix huproots
    have after := hanchored _ hprefix
    rw [through_concat] at after
    exact not_anchored_of_uproots huproots after
  · intro kept before hprefix
    induction before using List.reverseRecOn with
    | nil =>
      intro table rule hholds
      exact absurd hholds (not_holds_fresh table rule)
    | append_singleton before request ih =>
      rw [through_concat]
      apply anchored_react (ih ((List.prefix_append before [request]).trans hprefix))
      rintro table chain rfl
      exact kept before table chain hprefix
  · intro table rule target hholds hwords
    exact (reachable_through requests).bare_leads hholds hwords
  · intro table chain
    exact remove_iff (through requests) table chain

/-- A chain is taken away although a rule for TCP traffic jumps to it. -/
theorem anchored_iff_qualified :
    let create : Request := .command ⟨natTable, "CUSTOM", .create⟩
    let append : Request := .command ⟨natTable, "OUTPUT", .append "-p tcp -j CUSTOM"⟩
    let remove : Request := .command ⟨natTable, "CUSTOM", .remove⟩
    (through [create, append, remove]).rules natTable "OUTPUT" = some ["-p tcp -j CUSTOM"] ∧
      (through [create, append, remove]).rules natTable "CUSTOM" = none ∧
      ¬ ∀ before, before <+: [create, append, remove] → Chains.Anchored (through before).rules := by
  intro create append remove
  have stored : (through [create, append]).rules natTable "OUTPUT" = some ["-p tcp -j CUSTOM"] := by
    decide +kernel
  have uprooted : (through [create, append]).Uproots natTable "CUSTOM" := by
    refine ⟨by decide +kernel, by decide, "-p tcp -j CUSTOM", ?_, by decide +kernel⟩
    exact ⟨"OUTPUT", _, stored, List.mem_singleton_self _⟩
  refine ⟨by decide +kernel, by decide +kernel, ?_⟩
  intro hanchored
  exact (anchored_iff [create, append, remove]).1.1 hanchored [create, append] natTable "CUSTOM"
    (List.prefix_refl _) uprooted

end Memory

end Divert
