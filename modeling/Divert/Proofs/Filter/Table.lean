/-
# Divert.Proofs.Filter.Table — what each action does to a table, and its effect on the chains.

The filter carries out an action in steps on its whole state.  What the steps come to for the table of
the action is said here without the state: `perform` gives the table afterwards or the reason for the
refusal.  An action depends on the rules of its own chain, and a removal also on whether any chain jumps
to the one that is removed.  The closed forms say which, so that two tables that agree there can be seen
to answer alike.  When an action is carried out, `Action.effect` says what becomes of the rules of its
chain; every other chain keeps its rules (`get?_perform`).
-/
import Divert.Filter.Table
import Divert.Text.Words
import Mathlib.Tactic.SplitIfs

namespace Divert

/-- What an action, once it is carried out, makes of the rules of its chain. -/
def Action.effect : Action → Option (List String) → Option (List String)
  | .probe, rules | .check _, rules => rules
  | .create, _ | .flush, _ => some []
  | .remove, _ => none
  | .insert position rule, rules => rules.map fun l => l.insertIdx (position - 1).toNat rule
  | .append rule, rules => rules.map fun l => l ++ [rule]
  | .delete rule, rules => rules.map fun l => l.erase rule

namespace Filter.Table

variable (t : Table) (chain : String)

/-! ## Actions on a table -/

/-- The rules of a chain that has to exist. -/
def rulesOf : Except Refusal (List String) :=
  match t.get? chain with
  | some rules => .ok rules
  | none => .error .noSuchChain

/-- Refuse a rule whose target is neither a standard one nor a chain of the table. -/
def checkTarget (rule : String) : Except Refusal Unit :=
  match jumpTarget? (Text.words rule) with
  | none => .ok ()
  | some none => .error .missingTarget
  | some (some target) =>
    if target ∈ standardTargets ∨ t.contains target = true then .ok ()
    else .error (.unknownTarget target)

/-- The answer to an action on a chain and the table afterwards, or the reason for its refusal. -/
def perform : Action → Except Refusal (Bool × Table)
  | .probe => .ok (t.contains chain, t)
  | .create => if t.contains chain then .error .chainExists else .ok (true, t.put chain [])
  | .flush => do
    let _ ← t.rulesOf chain
    return (true, t.put chain [])
  | .remove => do
    if chain ∈ builtinChains then throw .builtinChain
    if (← t.rulesOf chain) ≠ [] then throw .chainNotEmpty
    if t.holdsRule (Rule.jumpTo chain) then throw .chainInUse
    return (true, t.erase chain)
  | .insert position rule => do
    t.checkTarget rule
    let rules ← t.rulesOf chain
    if position < 1 ∨ rules.length + 1 < position then throw .positionTooBig
    return (true, t.put chain (rules.insertIdx (position - 1).toNat rule))
  | .append rule => do
    t.checkTarget rule
    let rules ← t.rulesOf chain
    return (true, t.put chain (rules ++ [rule]))
  | .delete rule => do
    let rules ← t.rulesOf chain
    if rule ∉ rules then throw .noSuchRule
    return (true, t.put chain (rules.erase rule))
  | .check rule => do
    let rules ← t.rulesOf chain
    return (decide (rule ∈ rules), t)

/-! ## Looking up chains and rules -/

theorem rulesOf_eq : t.rulesOf chain = (t.get? chain).elim (.error .noSuchChain) .ok := by
  rw [rulesOf]
  cases t.get? chain <;> rfl

/-- The table that nobody has changed has the built-in chains, all of them empty. -/
theorem get?_builtin (name : String) :
    builtin.get? name = if name ∈ builtinChains then some [] else none := by
  by_cases h : name ∈ builtinChains
  · rw [if_pos h, Keyed.get?_eq_some_iff]
    exact List.mem_map.2 ⟨name, h, rfl⟩
  · rw [if_neg h, Keyed.get?_eq_none_iff]
    exact h

/-- A table holds a rule if one of its chains does. -/
theorem holdsRule_iff {rule : String} :
    t.holdsRule rule = true ↔ ∃ chain rules, t.get? chain = some rules ∧ rule ∈ rules := by
  simp only [holdsRule, List.any_eq_true, decide_eq_true_eq, Keyed.get?_eq_some_iff]
  constructor
  · rintro ⟨⟨chain, rules⟩, hmem, hrule⟩
    exact ⟨chain, rules, hmem, hrule⟩
  · rintro ⟨chain, rules, hmem, hrule⟩
    exact ⟨⟨chain, rules⟩, hmem, hrule⟩

/-! ## Actions in closed form -/

theorem perform_probe : t.perform chain .probe = .ok (t.contains chain, t) := rfl

theorem perform_create :
    t.perform chain .create =
      if t.contains chain then .error .chainExists else .ok (true, t.put chain []) :=
  rfl

theorem perform_flush :
    t.perform chain .flush =
      (t.get? chain).elim (.error .noSuchChain) fun _ => .ok (true, t.put chain []) := by
  rw [perform, rulesOf_eq]
  cases t.get? chain <;> rfl

theorem perform_remove (custom : chain ∉ builtinChains) :
    t.perform chain .remove =
      (t.get? chain).elim (.error .noSuchChain) fun rules =>
        if rules ≠ [] then .error .chainNotEmpty
        else if t.holdsRule (Rule.jumpTo chain) then .error .chainInUse
        else .ok (true, t.erase chain) := by
  rw [perform, rulesOf_eq]
  cases t.get? chain with
  | none => simp only [custom, if_false]; rfl
  | some rules =>
    simp only [custom, if_false, Option.elim_some, bind, Except.bind]
    by_cases hempty : rules = []
    · by_cases hused : t.holdsRule (Rule.jumpTo chain) = true
      · simp only [hempty, hused, ne_eq, not_true_eq_false, if_false, if_true]
        rfl
      · simp only [hempty, hused, ne_eq, not_true_eq_false, if_false]
        rfl
    · simp only [hempty, ne_eq, not_false_eq_true, if_true]
      rfl

theorem perform_insert {rule : String} (target : t.checkTarget rule = .ok ()) (position : Int) :
    t.perform chain (.insert position rule) =
      (t.get? chain).elim (.error .noSuchChain) fun rules =>
        if position < 1 ∨ rules.length + 1 < position then .error .positionTooBig
        else .ok (true, t.put chain (rules.insertIdx (position - 1).toNat rule)) := by
  rw [perform, rulesOf_eq, target]
  cases t.get? chain with
  | none => rfl
  | some rules =>
    simp only [Option.elim_some, bind, Except.bind]
    by_cases hposition : position < 1 ∨ rules.length + 1 < position
    · rw [if_pos hposition, if_pos hposition]
      rfl
    · rw [if_neg hposition, if_neg hposition]
      rfl

theorem perform_append {rule : String} (target : t.checkTarget rule = .ok ()) :
    t.perform chain (.append rule) =
      (t.get? chain).elim (.error .noSuchChain) fun rules =>
        .ok (true, t.put chain (rules ++ [rule])) := by
  rw [perform, rulesOf_eq, target]
  cases t.get? chain <;> rfl

theorem perform_delete (rule : String) :
    t.perform chain (.delete rule) =
      (t.get? chain).elim (.error .noSuchChain) fun rules =>
        if rule ∈ rules then .ok (true, t.put chain (rules.erase rule))
        else .error .noSuchRule := by
  rw [perform, rulesOf_eq]
  cases t.get? chain with
  | none => rfl
  | some rules =>
    simp only [Option.elim_some, bind, Except.bind]
    by_cases hrule : rule ∈ rules
    · simp only [hrule, not_true_eq_false, if_false, if_true]
      rfl
    · simp only [hrule, not_false_eq_true, if_true, if_false]
      rfl

theorem perform_check (rule : String) :
    t.perform chain (.check rule) =
      (t.get? chain).elim (.error .noSuchChain) fun rules => .ok (decide (rule ∈ rules), t) := by
  rw [perform, rulesOf_eq]
  cases t.get? chain <;> rfl

/-! ## Actions that are refused at once -/

theorem perform_remove_builtin (builtin : chain ∈ builtinChains) :
    t.perform chain .remove = .error .builtinChain := by
  rw [perform]
  simp only [builtin, if_true]
  rfl

theorem perform_insert_of_refused {rule : String} {reason : Refusal}
    (target : t.checkTarget rule = .error reason) (position : Int) :
    t.perform chain (.insert position rule) = .error reason := by
  rw [perform, target]
  rfl

theorem perform_append_of_refused {rule : String} {reason : Refusal}
    (target : t.checkTarget rule = .error reason) :
    t.perform chain (.append rule) = .error reason := by
  rw [perform, target]
  rfl

/-! ## The effect on the chains -/

/-- A chain that has to exist does exist if the action on it is carried out. -/
theorem exists_of_elim_eq_ok {ε α β : Type} {found : Option α} {reason : ε} {f : α → Except ε β}
    {result : β} (h : found.elim (.error reason) f = .ok result) :
    ∃ value, found = some value ∧ f value = .ok result := by
  cases found with
  | none => cases h
  | some value => exact ⟨value, rfl, h⟩

variable {t chain}

/-- **Effect of an action.** An action that is carried out changes the rules of its own chain as its
kind says, and no other chain. -/
theorem get?_perform {action : Action} {value : Bool} {after : Table}
    (h : t.perform chain action = .ok (value, after)) (other : String) :
    after.get? other = if other = chain then action.effect (t.get? chain) else t.get? other := by
  -- A question leaves the table as it is; of the changes, a removal erases and the others put.
  have unchanged : after = t →
      after.get? other = if other = chain then t.get? chain else t.get? other := by
    rintro rfl
    split
    · next heq => rw [heq]
    · rfl
  cases action with
  | probe =>
    rw [perform_probe] at h
    exact unchanged (Prod.mk.inj (Except.ok.inj h)).2.symm
  | create =>
    rw [perform_create] at h
    split_ifs at h
    cases h
    exact Keyed.get?_put t chain other []
  | flush =>
    rw [perform_flush] at h
    obtain ⟨rules, -, h⟩ := exists_of_elim_eq_ok h
    cases h
    exact Keyed.get?_put t chain other []
  | remove =>
    by_cases builtin : chain ∈ builtinChains
    · rw [perform_remove_builtin t chain builtin] at h
      cases h
    rw [perform_remove t chain builtin] at h
    obtain ⟨rules, -, h⟩ := exists_of_elim_eq_ok h
    split_ifs at h
    cases h
    exact Keyed.get?_erase t chain other
  | insert position rule =>
    cases target : t.checkTarget rule with
    | error reason =>
      rw [perform_insert_of_refused t chain target] at h
      cases h
    | ok _ =>
      rw [perform_insert t chain target] at h
      obtain ⟨rules, hrules, h⟩ := exists_of_elim_eq_ok h
      split_ifs at h
      cases h
      rw [hrules]
      exact Keyed.get?_put t chain other _
  | append rule =>
    cases target : t.checkTarget rule with
    | error reason =>
      rw [perform_append_of_refused t chain target] at h
      cases h
    | ok _ =>
      rw [perform_append t chain target] at h
      obtain ⟨rules, hrules, h⟩ := exists_of_elim_eq_ok h
      cases h
      rw [hrules]
      exact Keyed.get?_put t chain other _
  | delete rule =>
    rw [perform_delete] at h
    obtain ⟨rules, hrules, h⟩ := exists_of_elim_eq_ok h
    split_ifs at h
    cases h
    rw [hrules]
    exact Keyed.get?_put t chain other _
  | check rule =>
    rw [perform_check] at h
    obtain ⟨rules, -, h⟩ := exists_of_elim_eq_ok h
    exact unchanged (Prod.mk.inj (Except.ok.inj h)).2.symm

end Filter.Table

end Divert
