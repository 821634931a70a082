/-
# Divert.Proofs.Filter.Ledger — every copy of a rule is accounted for.

How often a chain holds a rule can be read off the commands that were carried out: what was put in
since the chain was last left empty, less what was taken out since.  Positions, other chains, other
tables, refused commands and made failures have no part in it, and neither have the blanks that the
rules were spelled with.  A command that is carried out is one entry of the ledger (`balanced_answer`),
and the ledger balances after any requests.
-/
import Divert.Proofs.Filter.Jumps
import Mathlib.Data.List.DropRight
import Mathlib.Data.List.Perm.Basic

namespace Divert

/-! ## Entries of the ledger -/

namespace Action

/-- The rule that the action puts into its chain. -/
def added? : Action → Option String
  | .insert _ rule | .append rule => some rule
  | _ => none

/-- The rule that the action takes out of its chain. -/
def deleted? : Action → Option String
  | .delete rule => some rule
  | _ => none

/-- Whether the action leaves its chain there and empty. -/
def clears : Action → Bool
  | .create | .flush => true
  | _ => false

variable (a : Action) (f : String → String)

@[simp] theorem added?_mapRule : (a.mapRule f).added? = a.added?.map f := by
  cases a <;> rfl

@[simp] theorem deleted?_mapRule : (a.mapRule f).deleted? = a.deleted?.map f := by
  cases a <;> rfl

@[simp] theorem clears_mapRule : (a.mapRule f).clears = a.clears := by
  cases a <;> rfl

variable {a}

/-- Whatever the chain was, an action that clears it leaves no rule. -/
theorem effect_of_clears (h : a.clears = true) (own : Option (List String)) :
    a.effect own = some [] := by
  cases a with
  | create | flush => rfl
  | _ => cases h

end Action

namespace Filter.Table

variable {t after : Table} {chain : String} {value : Bool}

/-- Wherever a rule is put in, the chain holds what it held and that rule. -/
theorem perm_of_insert {position : Int} {rule : String}
    (h : t.perform chain (.insert position rule) = .ok (value, after)) :
    ∃ old, t.get? chain = some old ∧
      (old.insertIdx (position - 1).toNat rule).Perm (rule :: old) := by
  cases target : t.checkTarget rule with
  | error reason =>
    rw [perform_insert_of_refused t chain target] at h
    cases h
  | ok _ =>
    rw [perform_insert t chain target] at h
    obtain ⟨old, hold, h⟩ := exists_of_elim_eq_ok h
    split_ifs at h with hposition
    exact ⟨old, hold, List.perm_insertIdx rule old (by omega)⟩

/-- **One entry.** A chain that an action neither clears nor takes away holds afterwards what it held,
with the rule that was put in and without the one that was taken out. -/
theorem count_of_perform {a : Action} {rules : List String}
    (h : t.perform chain a = .ok (value, after)) (keeps : a.clears = false)
    (hrules : a.effect (t.get? chain) = some rules) :
    ∃ old, t.get? chain = some old ∧ ∀ rule,
      rules.count rule + (if a.deleted? = some rule then 1 else 0) =
        old.count rule + if a.added? = some rule then 1 else 0 := by
  cases a with
  | create | flush => cases keeps
  | remove => cases hrules
  | probe | check _ => exact ⟨rules, hrules, fun _ => rfl⟩
  | insert position new =>
    obtain ⟨old, hold, hperm⟩ := perm_of_insert h
    rw [hold] at hrules
    cases hrules
    refine ⟨old, hold, ?_⟩
    intro rule
    rw [hperm.count_eq, List.count_cons]
    simp [Action.added?, Action.deleted?]
  | append new =>
    obtain ⟨old, hold, rfl⟩ := Option.map_eq_some_iff.1 hrules
    refine ⟨old, hold, ?_⟩
    intro rule
    rw [List.count_append, List.count_singleton]
    simp [Action.added?, Action.deleted?]
  | delete gone =>
    obtain ⟨old, hold, rfl⟩ := Option.map_eq_some_iff.1 hrules
    refine ⟨old, hold, ?_⟩
    intro rule
    obtain ⟨rules, hrules, hmem⟩ := tells_of_perform h
    obtain rfl : old = rules := Option.some.inj (hold.symm.trans hrules)
    -- The rule that was taken out had been there, so one copy less is what is left.
    have hpos : 0 < old.count gone := List.count_pos_iff.2 hmem
    by_cases hrule : gone = rule
    · subst hrule
      rw [List.count_erase_self]
      simp only [Action.deleted?, Action.added?, if_true, reduceCtorEq, if_false]
      omega
    · rw [List.count_erase_of_ne (Ne.symm hrule)]
      simp [Action.added?, Action.deleted?, hrule]

end Filter.Table

/-! ## The ledger of a chain -/

namespace Memory

/-- The commands that a filter carries out among some requests, in order. -/
def carried (m : Memory) : List Request → List Command
  | [] => []
  | .setFailing op failing :: rest => (m.setFailing op failing).carried rest
  | .command c :: rest =>
    let later := (m.answer c).2.carried rest
    if (m.answer c).1.isOk then c :: later else later

end Memory

namespace Command

/-- Whether the command is about the chain of the table. -/
def isAt (table chain : String) (c : Command) : Bool := c.table = table ∧ c.chain = chain

/-- The commands after the last one that left the chain there and empty. -/
def sinceCleared (table chain : String) (commands : List Command) : List Command :=
  commands.rtakeWhile fun c => !(c.isAt table chain && c.action.clears)

/-- How many of the commands are about the chain and count for a rule with this normal form.  The rule
that an action counts for is the one that it puts in, or the one that it takes out. -/
def tally (counted : Action → Option String) (table chain rule : String)
    (commands : List Command) : Nat :=
  commands.countP fun c => c.isAt table chain && (counted c.action).map Text.normalise = some rule

variable {table chain : String} {c : Command} (commands : List Command)

theorem sinceCleared_concat_of_clears (h : (c.isAt table chain && c.action.clears) = true) :
    sinceCleared table chain (commands ++ [c]) = [] :=
  List.rtakeWhile_concat_neg _ _ _ (by simpa using h)

theorem sinceCleared_concat (h : (c.isAt table chain && c.action.clears) = false) :
    sinceCleared table chain (commands ++ [c]) = sinceCleared table chain commands ++ [c] :=
  List.rtakeWhile_concat_pos _ _ _ (by simp only [h, Bool.not_false])

theorem tally_concat (counted : Action → Option String) (rule : String) :
    tally counted table chain rule (commands ++ [c]) = tally counted table chain rule commands +
      if (c.isAt table chain && (counted c.action).map Text.normalise = some rule) = true
        then 1 else 0 := by
  rw [tally, List.countP_append, List.countP_singleton]
  rfl

end Command

open Command

/-- Every chain holds as many copies of each rule as were put in and not taken out since it was last
left empty. -/
def Chains.Balanced (view : Chains) (commands : List Command) : Prop :=
  ∀ table chain rules, view table chain = some rules → ∀ rule,
    rules.count rule + tally Action.deleted? table chain rule (sinceCleared table chain commands) =
      tally Action.added? table chain rule (sinceCleared table chain commands)

namespace Memory

variable {m : Memory} {c : Command}

/-- One entry, made by a command: a rule counts in normal form, however the command spells it. -/
theorem count_of_answer {value : Bool} {rules : List String} (done : (m.answer c).1 = .ok value)
    (keeps : c.action.clears = false)
    (hrules : (m.answer c).2.rules c.table c.chain = some rules) :
    ∃ old, m.rules c.table c.chain = some old ∧ ∀ rule,
      rules.count rule + (if c.action.deleted?.map Text.normalise = some rule then 1 else 0) =
        old.count rule + if c.action.added?.map Text.normalise = some rule then 1 else 0 := by
  have own : (c.action.mapRule Text.normalise).effect (m.rules c.table c.chain) = some rules :=
    (faithful.own (b := backend) done).symm.trans hrules
  obtain ⟨-, after, hperform⟩ := perform_of_answer done
  obtain ⟨old, hold, hcount⟩ :=
    Filter.Table.count_of_perform hperform (by rwa [Action.clears_mapRule]) own
  refine ⟨old, hold, ?_⟩
  intro rule
  have entry := hcount rule
  rwa [Action.added?_mapRule, Action.deleted?_mapRule] at entry

/-- A command that is carried out is entered in the ledger. -/
theorem balanced_answer {commands : List Command} (h : Chains.Balanced m.rules commands)
    {value : Bool} (done : (m.answer c).1 = .ok value) :
    Chains.Balanced (m.answer c).2.rules (commands ++ [c]) := by
  intro table chain rules hrules rule
  by_cases hplace : table = c.table ∧ chain = c.chain
  · obtain ⟨rfl, rfl⟩ := hplace
    have here : c.isAt c.table c.chain = true := by simp [isAt]
    cases hclears : c.action.clears with
    | true =>
      have own : (c.action.mapRule Text.normalise).effect (m.rules c.table c.chain) = some rules :=
        (faithful.own (b := backend) done).symm.trans hrules
      rw [sinceCleared_concat_of_clears _ (by rw [here, hclears]; rfl)]
      rw [Action.effect_of_clears (by rwa [Action.clears_mapRule])] at own
      cases own
      rfl
    | false =>
      obtain ⟨old, hold, hcount⟩ := count_of_answer done hclears hrules
      have before := h c.table c.chain old hold rule
      have entry := hcount rule
      rw [sinceCleared_concat _ (by rw [here, hclears]; rfl), tally_concat, tally_concat]
      simp only [here, Bool.true_and, decide_eq_true_eq]
      omega
  · -- The command is about another chain: neither the rules nor the entries of this one change.
    have elsewhere : c.isAt table chain = false := by
      exact decide_eq_false fun heq => hplace ⟨heq.1.symm, heq.2.symm⟩
    have same : (m.answer c).2.rules table chain = _ :=
      faithful.outside (b := backend) (s := m) (c := c) hplace
    rw [sinceCleared_concat _ (by rw [elsewhere]; rfl), tally_concat, tally_concat]
    simp only [elsewhere, Bool.false_and, Bool.false_eq_true, if_false, Nat.add_zero]
    exact h table chain rules (same.symm.trans hrules) rule

/-! ## Runs -/

theorem carried_concat (m : Memory) (requests : List Request) (request : Request) :
    m.carried (requests ++ [request]) =
      m.carried requests ++ (requests.foldl react m).carried [request] := by
  induction requests generalizing m with
  | nil => rfl
  | cons first rest ih =>
    cases first with
    | setFailing op failing => exact ih (m.setFailing op failing)
    | command c =>
      simp only [List.cons_append, carried, ih, List.foldl_cons, react]
      split <;> rfl

/-- The ledger balances after one more request. -/
theorem balanced_react {commands : List Command} (h : Chains.Balanced m.rules commands)
    (request : Request) :
    Chains.Balanced (m.react request).rules (commands ++ m.carried [request]) := by
  cases request with
  | setFailing op failing =>
    show Chains.Balanced m.rules (commands ++ [])
    rwa [List.append_nil]
  | command c =>
    cases hanswer : (m.answer c).1 with
    | error e =>
      have same : (m.answer c).2.rules = m.rules := faithful.refused (b := backend) hanswer
      simp only [carried, hanswer, Except.isOk, Except.toBool, Bool.false_eq_true, if_false,
        List.append_nil, react, same]
      exact h
    | ok value =>
      simp only [carried, hanswer, Except.isOk, Except.toBool, if_true]
      exact balanced_answer h hanswer

theorem balanced_fresh : Chains.Balanced fresh.rules [] := by
  intro table chain rules hrules rule
  rw [rules_fresh] at hrules
  split at hrules
  · cases hrules
    rfl
  · cases hrules

theorem balanced_through (requests : List Request) :
    Chains.Balanced (through requests).rules (fresh.carried requests) := by
  induction requests using List.reverseRecOn with
  | nil => exact balanced_fresh
  | append_singleton before request ih =>
    rw [through_concat, carried_concat]
    exact balanced_react ih request

/-! ## Questions and deletions, however the rule is spelled -/

variable {table chain : String} {rules : List String}

/-- A question for a rule that is not made to fail is answered from the rules of the chain. -/
theorem answer_check (hrules : m.rules table chain = some rules) (text : String)
    (unforced : .check ∉ m.failing) :
    (m.answer ⟨table, chain, .check text⟩).1 = .ok (decide (Text.normalise text ∈ rules)) := by
  have hown : (m.table table).get? chain = some rules := hrules
  have done := (m.table table).perform_check chain (Text.normalise text)
  rw [hown, Option.elim_some] at done
  exact answer_of_perform (c := ⟨table, chain, .check text⟩) unforced done

/-- A deletion that is not made to fail succeeds if the chain holds the rule. -/
theorem isOk_delete_iff (hrules : m.rules table chain = some rules) (text : String)
    (unforced : .delete ∉ m.failing) :
    (m.answer ⟨table, chain, .delete text⟩).1.isOk = true ↔ Text.normalise text ∈ rules := by
  constructor
  · intro done
    cases hanswer : (m.answer ⟨table, chain, .delete text⟩).1 with
    | error e =>
      rw [hanswer] at done
      cases done
    | ok value =>
      obtain ⟨own, hown, hmem⟩ := truthful.told (b := backend) hanswer
      cases hown.symm.trans hrules
      exact hmem
  · intro hmem
    have hown : (m.table table).get? chain = some rules := hrules
    have done := (m.table table).perform_delete chain (Text.normalise text)
    rw [hown, Option.elim_some, if_pos hmem] at done
    rw [answer_of_perform (c := ⟨table, chain, .delete text⟩) unforced done]
    rfl

/-- **Every copy is accounted for.** After any requests: every stored rule is its own normal form.  A
chain that is there holds as many copies of a rule as the successful commands put in, less those that
they took out, since the chain was last left empty; both count whatever has the same normal form.
However a rule is spelled, a question for it that is not made to fail is answered by whether there is a
copy, and a deletion that is not made to fail succeeds exactly if there is one. -/
theorem copies_through (requests : List Request) :
    (∀ table rule, Chains.Holds (through requests).rules table rule →
      Text.normalise rule = rule) ∧
    ∀ table chain rules, (through requests).rules table chain = some rules → ∀ text,
      let commands := sinceCleared table chain (fresh.carried requests)
      let copies := rules.count (Text.normalise text)
      copies + tally Action.deleted? table chain (Text.normalise text) commands =
          tally Action.added? table chain (Text.normalise text) commands ∧
        (.check ∉ (through requests).failing →
          ((through requests).answer ⟨table, chain, .check text⟩).1 = .ok (decide (0 < copies))) ∧
        (.delete ∉ (through requests).failing →
          (((through requests).answer ⟨table, chain, .delete text⟩).1.isOk = true ↔
            0 < copies)) := by
  refine ⟨?_, ?_⟩
  · intro table rule hholds
    exact (reachable_through requests).normal hholds
  · intro table chain rules hrules text commands copies
    have held : 0 < copies ↔ Text.normalise text ∈ rules := List.count_pos_iff
    refine ⟨balanced_through requests table chain rules hrules _, ?_, ?_⟩
    · intro unforced
      rw [answer_check hrules text unforced, decide_eq_decide.2 held]
    · intro unforced
      rw [isOk_delete_iff hrules text unforced, held]

/-- A rule is put in twice, at either end and with other blanks, and once more while that is made to
fail; a copy is taken out, so one is left of the two. -/
theorem copies_through_respelled :
    let chain : Action → Request := fun action => .command ⟨natTable, "CUSTOM", action⟩
    let requests := [chain .create, chain (.append "-j ACCEPT"), chain .flush,
      chain (.append "-p  tcp -j ACCEPT"), chain (.insert 1 " -p tcp -j  ACCEPT "),
      .setFailing .append true, chain (.append "-p tcp -j ACCEPT"),
      chain (.delete "-p tcp  -j ACCEPT")]
    (through requests).rules natTable "CUSTOM" = some ["-p tcp -j ACCEPT"] ∧
      ((through requests).answer ⟨natTable, "CUSTOM", .check "-p tcp -j   ACCEPT"⟩).1 = .ok true ∧
      tally Action.added? natTable "CUSTOM" "-p tcp -j ACCEPT"
        (sinceCleared natTable "CUSTOM" (fresh.carried requests)) = 2 := by
  intro chain requests
  have stored : (through requests).rules natTable "CUSTOM" = some ["-p tcp -j ACCEPT"] := by
    decide +kernel
  have unforced : Op.check ∉ (through requests).failing := by decide +kernel
  have spelled : Text.normalise "-p tcp -j   ACCEPT" = "-p tcp -j ACCEPT" := by decide +kernel
  obtain ⟨hbalanced, hcheck, -⟩ :=
    (copies_through requests).2 natTable "CUSTOM" _ stored "-p tcp -j   ACCEPT"
  rw [spelled] at hbalanced
  have taken : tally Action.deleted? natTable "CUSTOM" "-p tcp -j ACCEPT"
      (sinceCleared natTable "CUSTOM" (fresh.carried requests)) = 1 := by decide +kernel
  refine ⟨stored, ?_, ?_⟩
  · rw [hcheck unforced, spelled]
    rfl
  · rw [← hbalanced, taken]
    rfl

end Memory

end Divert
