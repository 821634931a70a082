/-
# Divert.Proofs.Filter.Naming — a name of our own stands for its chain and nothing else.

Three lists say which names mean something to a filter: those that a name of our own must not be, the
chains that every table has, and the targets that are no chains.  A valid name is in none of them, and it
is a single word, so a jump to it is read as written: the filter looks for a chain of that name, and
whether the chain is there is all that decides.
-/
import Divert.Proofs.Config.Valid
import Divert.Proofs.Filter.Jumps

namespace Divert

namespace Rule

/-- A jump is two words: the option and the name. -/
theorem words_jump (chain : ChainName) : Text.words (jump chain) = ["-j", chain.text] := by
  rw [(spaced_jump chain).words]
  simp [jumpWords]

end Rule

namespace Memory

variable {m : Memory} {table name : String} {rules : List String}

/-! ## Adding a jump -/

/-- An action that puts a rule among the rules of a chain, at a place that the chain has. -/
def Adds (rule : String) (rules : List String) (a : Action) : Prop :=
  a = .append rule ∨
    ∃ position : Int, 1 ≤ position ∧ position ≤ rules.length + 1 ∧ a = .insert position rule

theorem mapRule_of_adds {rule : String} {a : Action} (normal : Text.normalise rule = rule)
    (adds : Adds rule rules a) : a.mapRule Text.normalise = a := by
  rcases adds with rfl | ⟨position, -, -, rfl⟩
  · exact congrArg Action.append normal
  · exact congrArg (Action.insert position) normal

/-- A rule whose target is accepted can be added to every chain that is there. -/
theorem perform_of_adds {t : Filter.Table} {rule : String} {a : Action}
    (adds : Adds rule rules a) (hrules : t.get? name = some rules)
    (target : t.checkTarget rule = .ok ()) : ∃ after, t.perform name a = .ok (true, after) := by
  rcases adds with rfl | ⟨position, first, last, rfl⟩
  · have done := t.perform_append name target
    rw [hrules, Option.elim_some] at done
    exact ⟨_, done⟩
  · have done := t.perform_insert name target position
    rw [hrules, Option.elim_some, if_neg (by omega)] at done
    exact ⟨_, done⟩

/-- **Adding a jump.** Where nothing is made to fail, a jump to a chain of our own can be added to a
chain that is there exactly if the table has the chain it jumps to. -/
theorem isOk_add_jump_iff (unforced : m.failing = []) (hrules : m.rules table name = some rules)
    (chain : ChainName) {a : Action} (adds : Adds (Rule.jump chain) rules a) :
    (m.answer ⟨table, name, a⟩).1.isOk = true ↔ (m.rules table chain.text).isSome = true := by
  have normal := mapRule_of_adds (Rule.normalise_jump chain) adds
  have target := (m.table table).checkTarget_jump chain
  constructor
  · intro done
    cases hanswer : (m.answer ⟨table, name, a⟩).1 with
    | error e =>
      rw [hanswer] at done
      cases done
    | ok value =>
      obtain ⟨-, after, hperform⟩ := perform_of_answer hanswer
      rw [normal] at hperform
      have accepted : (m.table table).checkTarget (Rule.jump chain) = .ok () := by
        apply Filter.Table.accepted_of_perform hperform
        exact adds.imp id fun ⟨position, _, _, h⟩ => ⟨position, h⟩
      rw [target] at accepted
      split at accepted
      · next present => exact present
      · cases accepted
  · intro present
    have found : (m.table table).contains chain.text = true := present
    rw [found, if_pos rfl] at target
    obtain ⟨after, hperform⟩ := perform_of_adds adds hrules target
    rw [← normal] at hperform
    have free : (a.mapRule Text.normalise).op ∉ m.failing := by
      rw [unforced]
      exact List.not_mem_nil
    rw [answer_of_perform (c := ⟨table, name, a⟩) free hperform]
    rfl

/-! ## Creating and removing a chain -/

theorem isOk_create_iff (unforced : m.failing = []) :
    (m.answer ⟨table, name, .create⟩).1.isOk = true ↔ m.rules table name = none := by
  have shows : m.Shows m.rules := ⟨unforced, rfl⟩
  cases own : m.rules table name with
  | none =>
    obtain ⟨after, hanswer, -⟩ := shows.create own
    rw [hanswer]
    exact ⟨fun _ => rfl, fun _ => rfl⟩
  | some rules =>
    have present : (m.table table).contains name = true := Option.isSome_of_eq_some own
    have refused := (m.table table).perform_create name
    rw [present, if_pos rfl] at refused
    obtain ⟨after, hanswer, -⟩ := shows.refuse rfl refused
    rw [hanswer]
    constructor
    · intro done
      cases done
    · intro absent
      cases absent

/-- The removal of a chain that is not built in is never refused as that of a built-in one, whatever the
filter holds and whatever is made to fail. -/
theorem reason_ne_builtin (custom : name ∉ Filter.builtinChains) {e : RuleError}
    (refused : (m.answer ⟨table, name, .remove⟩).1 = .error e) :
    e.reason ≠ Filter.Refusal.builtinChain.message := by
  cases hperform : m.perform ⟨table, name, .remove⟩ with
  | ok result =>
    rw [(answer_of_ok (c := ⟨table, name, .remove⟩) hperform).1] at refused
    cases refused
  | error refusal =>
    rw [(answer_of_error (c := ⟨table, name, .remove⟩) hperform).1] at refused
    cases refused
    have reasons : refusal = .simulated ∨ refusal = .noSuchChain ∨ refusal = .chainNotEmpty ∨
        refusal = .chainInUse := by
      simp only [perform, Filter.Table.perform_remove _ _ custom] at hperform
      cases own : (m.table table).get? name with
      | none =>
        rw [own, Option.elim_none] at hperform
        split_ifs at hperform <;> cases hperform <;> simp
      | some rules =>
        rw [own, Option.elim_some] at hperform
        split_ifs at hperform <;> cases hperform <;> simp
    show refusal.message ≠ Filter.Refusal.builtinChain.message
    rcases reasons with rfl | rfl | rfl | rfl <;> decide

/-! ## Every valid name -/

/-- **A name stands for its chain.** Take any name that is accepted.  The words of its jump are the option
and the name, and the jump is its own normal form.  The name is neither a target that is no chain nor the
name of a built-in chain.  In any state of the filter where nothing is made to fail, the jump can be
added to a chain that is there, at its end or at any place it has, exactly if the table has a chain of
that name, and such a chain can be created exactly if there is none.  Its removal is never refused as
that of a built-in chain. -/
theorem name_stands_for_chain {name : String} {chain : ChainName}
    (accepted : ChainName.check name = .ok chain) :
    Text.words (Rule.jump chain) = ["-j", name] ∧
    Text.normalise (Rule.jump chain) = Rule.jump chain ∧
    name ∉ Filter.standardTargets ∧ name ∉ Filter.builtinChains ∧
    (∀ m : Memory, m.failing = [] → ∀ table,
      (∀ other rules, m.rules table other = some rules →
        ((m.answer ⟨table, other, .append (Rule.jump chain)⟩).1.isOk = true ↔
          (m.rules table name).isSome = true) ∧
        ∀ position : Int, 1 ≤ position → position ≤ rules.length + 1 →
          ((m.answer ⟨table, other, .insert position (Rule.jump chain)⟩).1.isOk = true ↔
            (m.rules table name).isSome = true)) ∧
      ((m.answer ⟨table, name, .create⟩).1.isOk = true ↔ m.rules table name = none)) ∧
    ∀ (m : Memory) table e, (m.answer ⟨table, name, .remove⟩).1 = .error e →
      e.reason ≠ Filter.Refusal.builtinChain.message := by
  obtain rfl := ChainName.check_eq_ok_iff.1 accepted
  refine ⟨Rule.words_jump chain, Rule.normalise_jump chain, chain.text_notMem_standardTargets,
    chain.text_notMem_builtinChains, ?_, ?_⟩
  · intro m unforced table
    refine ⟨?_, isOk_create_iff unforced⟩
    intro other rules hrules
    constructor
    · exact isOk_add_jump_iff unforced hrules chain (.inl rfl)
    · intro position first last
      exact isOk_add_jump_iff unforced hrules chain (.inr ⟨position, first, last, rfl⟩)
  · intro m table e refused
    exact reason_ne_builtin chain.text_notMem_builtinChains refused

/-- A name that looks like a target in small letters, before and after its chain is created. -/
theorem name_stands_for_chain_created :
    ∃ chain, ChainName.check "accept" = .ok chain ∧
      Text.words (Rule.jump chain) = ["-j", "accept"] ∧
      (fresh.answer ⟨natTable, "OUTPUT", .append (Rule.jump chain)⟩).1.isOk = false ∧
      (fresh.answer ⟨natTable, "accept", .create⟩).1.isOk = true ∧
      ((fresh.answer ⟨natTable, "accept", .create⟩).2.answer
        ⟨natTable, "OUTPUT", .insert 1 (Rule.jump chain)⟩).1.isOk = true := by
  let chain : ChainName := ⟨"accept", by decide⟩
  have accepted : ChainName.check "accept" = .ok chain := ChainName.check_eq_ok_iff.2 rfl
  obtain ⟨words, -, -, -, standing, -⟩ := name_stands_for_chain accepted
  have absent : fresh.rules natTable "accept" = none := by decide
  refine ⟨chain, accepted, words, ?_, ?_, ?_⟩
  · rw [Bool.eq_false_iff]
    intro done
    have present := (((standing fresh rfl natTable).1 "OUTPUT" [] (by decide)).1).1 done
    rw [absent] at present
    cases present
  · exact (standing fresh rfl natTable).2.2 absent
  · refine (((standing _ rfl natTable).1 "OUTPUT" [] ?_).2 1 (by decide) (by decide)).2 ?_
    · decide
    · decide

end Memory

end Divert
