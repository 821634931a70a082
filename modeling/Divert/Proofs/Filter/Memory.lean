/-
# Divert.Proofs.Filter.Memory — the rules of a filter, before and after a command.

What matters of a filter is which rules stand in which chains.  A filter is *faithful* if a command
that it refuses changes none of them, and one that it carries out changes those of its chain as the
action says.  The filter in memory is faithful, and so is any faithful filter some of whose calls are
lost.  A filter in memory that nothing is made to fail *shows* its rules: it answers from them alone,
and the second half of this module gives the answer to each kind of command.
-/
import Divert.Faults
import Divert.Proofs.Filter.Steps
import Divert.Proofs.Rule.Texts

namespace Divert

/-! ## Rules by table and chain -/

/-- The rules of every chain of every table. -/
abbrev Chains := String → String → Option (List String)

/-- The same rules but for one chain. -/
def Chains.set (view : Chains) (table chain : String) (rules : Option (List String)) : Chains :=
  fun t c => if t = table ∧ c = chain then rules else view t c

namespace Chains

variable (view : Chains) (table chain : String) (rules : Option (List String))

@[simp] theorem set_self : view.set table chain rules table chain = rules := by simp [set]

theorem set_of_ne {other : String} (h : other ≠ chain) :
    view.set table chain rules table other = view table other := by
  simp [set, h]

theorem set_set (more : Option (List String)) :
    (view.set table chain rules).set table chain more = view.set table chain more := by
  funext t c
  simp only [set]
  split <;> rfl

theorem set_eq_self (h : view table chain = rules) : view.set table chain rules = view := by
  funext t c
  simp only [set]
  split
  · next heq => rw [heq.1, heq.2, h]
  · rfl

end Chains

/-! ## Faithful filters -/

/-- Every answer of the filter tells what became of its rules: nothing if the command was refused,
and the effect of its action on its chain if it was carried out. -/
structure Backend.Faithful {σ : Type} (b : Backend σ) (rules : σ → Chains) : Prop where
  refused : ∀ {s : σ} {c : Command} {e : RuleError},
    (b.answer s c).1 = .error e → rules (b.answer s c).2 = rules s
  done : ∀ {s : σ} {c : Command} {value : Bool}, (b.answer s c).1 = .ok value →
    rules (b.answer s c).2 = (rules s).set c.table c.chain
      ((c.action.mapRule Text.normalise).effect (rules s c.table c.chain))

namespace Backend.Faithful

variable {σ : Type} {b : Backend σ} {rules : σ → Chains} {s : σ} {c : Command}

theorem kept (h : b.Faithful rules) {e : RuleError} {after : σ}
    (hanswer : b.answer s c = (.error e, after)) : rules after = rules s := by
  have refused := h.refused (congrArg Prod.fst hanswer)
  rwa [hanswer] at refused

/-- A command that is carried out has the effect of its action on its chain. -/
theorem own (h : b.Faithful rules) {value : Bool} (done : (b.answer s c).1 = .ok value) :
    rules (b.answer s c).2 c.table c.chain =
      (c.action.mapRule Text.normalise).effect (rules s c.table c.chain) := by
  rw [h.done done, Chains.set_self]

/-- No command touches another chain, or another table, than its own. -/
theorem outside (h : b.Faithful rules) {table name : String}
    (hne : ¬ (table = c.table ∧ name = c.chain)) :
    rules (b.answer s c).2 table name = rules s table name := by
  cases hanswer : (b.answer s c).1 with
  | error e => rw [h.refused hanswer]
  | ok value => rw [h.done hanswer, Chains.set, if_neg hne]

theorem elsewhere (h : b.Faithful rules) {table name : String} (hne : name ≠ c.chain) :
    rules (b.answer s c).2 table name = rules s table name :=
  h.outside fun heq => hne heq.2

/-- A question changes no rule, whatever its answer is. -/
theorem asked (h : b.Faithful rules)
    (question : ∀ own, (c.action.mapRule Text.normalise).effect own = own) :
    rules (b.answer s c).2 = rules s := by
  cases hanswer : (b.answer s c).1 with
  | error e => exact h.refused hanswer
  | ok value =>
    rw [h.done hanswer, question]
    exact Chains.set_eq_self _ _ _ _ rfl

end Backend.Faithful

namespace Memory

/-- The answer to a command does not change what is made to fail. -/
@[simp] theorem failing_answer (m : Memory) (c : Command) : (m.answer c).2.failing = m.failing := by
  rw [answer_eq]
  exact (settle_keeps m _ _).1

theorem answer_of_error {m : Memory} {c : Command} {refusal : Filter.Refusal}
    (h : m.perform (c.mapRule Text.normalise) = .error refusal) :
    (m.answer c).1 = .error ((c.mapRule Text.normalise).refused refusal.message) ∧
      (m.answer c).2.rules = m.rules := by
  rw [answer_eq, h]
  refine ⟨rfl, ?_⟩
  funext table chain
  rw [Memory.rules, Memory.rules, table_settle_error]

theorem answer_of_ok {m : Memory} {c : Command} {value : Bool} {t : Filter.Table}
    (h : m.perform (c.mapRule Text.normalise) = .ok (value, t)) :
    (m.answer c).1 = .ok value ∧ (m.answer c).2.rules = Chains.set m.rules c.table c.chain
      ((c.action.mapRule Text.normalise).effect (m.rules c.table c.chain)) := by
  have effect : ∀ chain, t.get? chain = if chain = c.chain then
      (c.action.mapRule Text.normalise).effect (m.rules c.table c.chain)
      else m.rules c.table chain := by
    intro chain
    simp only [perform] at h
    split at h
    · cases h
    · exact Filter.Table.get?_perform h chain
  rw [answer_eq, h]
  refine ⟨rfl, ?_⟩
  funext table chain
  rw [Memory.rules, table_settle_ok]
  show (if table = c.table then t else m.table table).get? chain = _
  by_cases htable : table = c.table
  · subst htable
    simp [Chains.set, effect]
  · simp [Chains.set, htable, Memory.rules]

/-- The filter in memory is faithful. -/
theorem faithful : backend.Faithful rules where
  refused {m c e} h := by
    cases hperform : m.perform (c.mapRule Text.normalise) with
    | error refusal => exact (answer_of_error hperform).2
    | ok result =>
      have accepted : (backend.answer m c).1 = .ok result.1 := (answer_of_ok hperform).1
      rw [accepted] at h
      cases h
  done {m c value} h := by
    cases hperform : m.perform (c.mapRule Text.normalise) with
    | error refusal =>
      have rejected : (backend.answer m c).1 = _ := (answer_of_error hperform).1
      rw [rejected] at h
      cases h
    | ok result => exact (answer_of_ok hperform).2

end Memory

/-- A faithful filter stays faithful when some of its calls are lost. -/
theorem Faulty.faithful {σ : Type} {inner : Backend σ} {rules : σ → Chains}
    (h : inner.Faithful rules) : (Faulty.backend inner).Faithful fun f => rules f.inner where
  refused {f c e} he := by
    simp only [Faulty.backend] at he ⊢
    split at he
    · rfl
    · exact h.refused he
  done {f c value} hv := by
    simp only [Faulty.backend] at hv ⊢
    split at hv
    · cases hv
    · exact h.done hv

/-! ## A filter in memory that nothing is made to fail -/

namespace Rule

/-- A rule in normal form whose target every table accepts. -/
def Plain (rule : String) : Prop :=
  Text.normalise rule = rule ∧ ∀ t : Filter.Table, t.checkTarget rule = .ok ()

theorem plain_loopback : Plain loopback :=
  ⟨normalise_loopback, Filter.Table.checkTarget_loopback⟩

theorem plain_redirect (key : Key) (port : UInt16) : Plain (redirect key port) :=
  ⟨normalise_redirect key port, fun t => t.checkTarget_redirect key port⟩

end Rule

namespace Memory

/-- No kind of command is made to fail, and the rules are those of the view. -/
structure Shows (m : Memory) (view : Chains) : Prop where
  failing : m.failing = []
  rules : m.rules = view

namespace Shows

variable {m : Memory} {view : Chains} {table chain : String} {rules : List String}

/-- A command that its table carries out is carried out. -/
theorem accept {a : Action} {value : Bool} {t : Filter.Table} {own : Option (List String)}
    (h : m.Shows view) (normal : a.mapRule Text.normalise = a)
    (effect : a.effect (view table chain) = own)
    (done : (m.table table).perform chain a = .ok (value, t)) :
    ∃ after, m.answer ⟨table, chain, a⟩ = (.ok value, after) ∧
      after.Shows (view.set table chain own) := by
  have hperform :
      m.perform ((⟨table, chain, a⟩ : Command).mapRule Text.normalise) = .ok (value, t) := by
    simp only [perform, h.failing, List.not_mem_nil, if_false, Command.mapRule, normal, done]
  obtain ⟨hvalue, hrules⟩ := answer_of_ok hperform
  refine ⟨_, Prod.ext hvalue rfl, (failing_answer m _).trans h.failing, ?_⟩
  simpa only [normal, h.rules, effect] using hrules

/-- A command that its table refuses is refused. -/
theorem refuse {a : Action} {refusal : Filter.Refusal} (h : m.Shows view)
    (normal : a.mapRule Text.normalise = a)
    (refused : (m.table table).perform chain a = .error refusal) :
    ∃ after, m.answer ⟨table, chain, a⟩ =
        (.error ((⟨table, chain, a⟩ : Command).refused refusal.message), after) ∧
      after.Shows view := by
  have hperform : m.perform ((⟨table, chain, a⟩ : Command).mapRule Text.normalise) =
      .error refusal := by
    simp only [perform, h.failing, List.not_mem_nil, if_false, Command.mapRule, normal, refused]
  obtain ⟨hvalue, hrules⟩ := answer_of_error hperform
  simp only [Command.mapRule, normal] at hvalue
  exact ⟨_, Prod.ext hvalue rfl, (failing_answer m _).trans h.failing, hrules.trans h.rules⟩

theorem get? (h : m.Shows view) (table chain : String) :
    (m.table table).get? chain = view table chain :=
  congrFun (congrFun h.rules table) chain

/-! ### Questions -/

theorem probe (h : m.Shows view) (table chain : String) :
    ∃ after, m.answer ⟨table, chain, .probe⟩ = (.ok (view table chain).isSome, after) ∧
      after.Shows view := by
  have effect : Action.probe.effect (view table chain) = view table chain := rfl
  obtain ⟨after, hanswer, hshows⟩ := h.accept rfl effect ((m.table table).perform_probe chain)
  rw [Keyed.contains, h.get?] at hanswer
  rw [Chains.set_eq_self view _ _ _ rfl] at hshows
  exact ⟨after, hanswer, hshows⟩

theorem check (h : m.Shows view) (hrules : view table chain = some rules) {rule : String}
    (normal : Text.normalise rule = rule) :
    ∃ after, m.answer ⟨table, chain, .check rule⟩ = (.ok (decide (rule ∈ rules)), after) ∧
      after.Shows view := by
  have done := (m.table table).perform_check chain rule
  rw [h.get?, hrules] at done
  have effect : (Action.check rule).effect (view table chain) = view table chain := rfl
  have same : (Action.check rule).mapRule Text.normalise = .check rule :=
    congrArg Action.check normal
  obtain ⟨after, hanswer, hshows⟩ := h.accept same effect done
  rw [Chains.set_eq_self view _ _ _ rfl] at hshows
  exact ⟨after, hanswer, hshows⟩

/-! ### Changes of a chain -/

theorem create (h : m.Shows view) (absent : view table chain = none) :
    ∃ after, m.answer ⟨table, chain, .create⟩ = (.ok true, after) ∧
      after.Shows (view.set table chain (some [])) := by
  refine h.accept rfl rfl (t := (m.table table).put chain []) ?_
  rw [Filter.Table.perform_create, Keyed.contains, h.get?, absent]
  rfl

theorem flush (h : m.Shows view) (hrules : view table chain = some rules) :
    ∃ after, m.answer ⟨table, chain, .flush⟩ = (.ok true, after) ∧
      after.Shows (view.set table chain (some [])) := by
  refine h.accept rfl rfl (t := (m.table table).put chain []) ?_
  rw [Filter.Table.perform_flush, h.get?, hrules]
  rfl

theorem flush_missing (h : m.Shows view) (absent : view table chain = none) :
    ∃ after, m.answer ⟨table, chain, .flush⟩ = (.error ((⟨table, chain, .flush⟩ : Command).refused
        Filter.Refusal.noSuchChain.message), after) ∧ after.Shows view := by
  refine h.refuse rfl ?_
  rw [Filter.Table.perform_flush, h.get?, absent]
  rfl

/-- An empty chain of our own that no rule jumps to can be removed. -/
theorem remove (h : m.Shows view) (custom : chain ∉ Filter.builtinChains)
    (hrules : view table chain = some [])
    (unused : ∀ other more, view table other = some more → Rule.jumpTo chain ∉ more) :
    ∃ after, m.answer ⟨table, chain, .remove⟩ = (.ok true, after) ∧
      after.Shows (view.set table chain none) := by
  refine h.accept rfl rfl (t := (m.table table).erase chain) ?_
  have notHeld : ¬ (m.table table).holdsRule (Rule.jumpTo chain) = true := by
    rw [Filter.Table.holdsRule_iff]
    rintro ⟨other, more, hother, hmem⟩
    exact unused other more ((h.get? table other).symm.trans hother) hmem
  rw [Filter.Table.perform_remove _ _ custom, h.get?, hrules]
  simp [notHeld]

theorem remove_missing (h : m.Shows view) (custom : chain ∉ Filter.builtinChains)
    (absent : view table chain = none) :
    ∃ after, m.answer ⟨table, chain, .remove⟩ = (.error ((⟨table, chain, .remove⟩ : Command).refused
        Filter.Refusal.noSuchChain.message), after) ∧ after.Shows view := by
  refine h.refuse rfl ?_
  rw [Filter.Table.perform_remove _ _ custom, h.get?, absent]
  rfl

/-- A chain that some rule jumps to cannot be removed. -/
theorem remove_used (h : m.Shows view) (custom : chain ∉ Filter.builtinChains)
    (hrules : view table chain = some []) {other : String} {more : List String}
    (hmore : view table other = some more) (used : Rule.jumpTo chain ∈ more) :
    ∃ after, m.answer ⟨table, chain, .remove⟩ = (.error ((⟨table, chain, .remove⟩ : Command).refused
        Filter.Refusal.chainInUse.message), after) ∧ after.Shows view := by
  refine h.refuse rfl ?_
  have held : (m.table table).holdsRule (Rule.jumpTo chain) = true :=
    (Filter.Table.holdsRule_iff _).2 ⟨other, more, (h.get? table other).trans hmore, used⟩
  rw [Filter.Table.perform_remove _ _ custom, h.get?, hrules]
  simp [held]

/-! ### Changes of a rule -/

/-- A jump to a chain of the table can be put in front of any chain. -/
theorem hook (h : m.Shows view) {target : ChainName}
    (present : (view table target.text).isSome = true) (hrules : view table chain = some rules) :
    ∃ after, m.answer ⟨table, chain, .insert 1 (Rule.jump target)⟩ = (.ok true, after) ∧
      after.Shows (view.set table chain (some (Rule.jump target :: rules))) := by
  have accepted : (m.table table).checkTarget (Rule.jump target) = .ok () := by
    rw [Filter.Table.checkTarget_jump, Keyed.contains, h.get?, present]
    rfl
  have done := (m.table table).perform_insert chain accepted 1
  rw [h.get?, hrules, Option.elim_some, if_neg (by omega)] at done
  have effect : (Action.insert 1 (Rule.jump target)).effect (view table chain) =
      some (Rule.jump target :: rules) := by
    rw [hrules]
    rfl
  exact h.accept (congrArg (Action.insert 1) (Rule.normalise_jump target)) effect done

theorem append (h : m.Shows view) (hrules : view table chain = some rules) {rule : String}
    (plain : Rule.Plain rule) :
    ∃ after, m.answer ⟨table, chain, .append rule⟩ = (.ok true, after) ∧
      after.Shows (view.set table chain (some (rules ++ [rule]))) := by
  have done := (m.table table).perform_append chain (plain.2 _)
  rw [h.get?, hrules] at done
  have effect : (Action.append rule).effect (view table chain) = some (rules ++ [rule]) := by
    rw [hrules]
    rfl
  exact h.accept (congrArg Action.append plain.1) effect done

theorem append_missing (h : m.Shows view) (absent : view table chain = none) {rule : String}
    (plain : Rule.Plain rule) :
    ∃ after, m.answer ⟨table, chain, .append rule⟩ =
        (.error ((⟨table, chain, .append rule⟩ : Command).refused
          Filter.Refusal.noSuchChain.message), after) ∧
      after.Shows view := by
  refine h.refuse (congrArg Action.append plain.1) ?_
  rw [Filter.Table.perform_append _ _ (plain.2 _), h.get?, absent]
  rfl

theorem delete (h : m.Shows view) (hrules : view table chain = some rules) {rule : String}
    (normal : Text.normalise rule = rule) (hrule : rule ∈ rules) :
    ∃ after, m.answer ⟨table, chain, .delete rule⟩ = (.ok true, after) ∧
      after.Shows (view.set table chain (some (rules.erase rule))) := by
  have done := (m.table table).perform_delete chain rule
  rw [h.get?, hrules, Option.elim_some, if_pos hrule] at done
  have effect : (Action.delete rule).effect (view table chain) = some (rules.erase rule) := by
    rw [hrules]
    rfl
  exact h.accept (congrArg Action.delete normal) effect done

theorem delete_missing (h : m.Shows view) (hrules : view table chain = some rules) {rule : String}
    (normal : Text.normalise rule = rule) (hrule : rule ∉ rules) :
    ∃ after, m.answer ⟨table, chain, .delete rule⟩ =
        (.error ((⟨table, chain, .delete rule⟩ : Command).refused
          Filter.Refusal.noSuchRule.message), after) ∧
      after.Shows view := by
  refine h.refuse (congrArg Action.delete normal) ?_
  rw [Filter.Table.perform_delete, h.get?, hrules, Option.elim_some, if_neg hrule]

end Shows

/-! ## Every state of the filter -/

theorem rules_fresh (table chain : String) :
    fresh.rules table chain = if chain ∈ Filter.builtinChains then some [] else none :=
  Filter.Table.get?_builtin chain

/-- The states of the filter: what commands, made failures and cleared histories lead to. -/
inductive Reachable : Memory → Prop
  | fresh : Reachable fresh
  | answer {m : Memory} (c : Command) : Reachable m → Reachable (m.answer c).2
  | setFailing {m : Memory} (op : Op) (failing : Bool) :
      Reachable m → Reachable (m.setFailing op failing)
  | clearHistory {m : Memory} : Reachable m → Reachable m.clearHistory

/-- What can be done to a filter: a command is issued, or a kind of command is made to fail from now on
or no longer. -/
inductive Request where
  | command (c : Command)
  | setFailing (op : Op) (failing : Bool)

/-- The filter after a request. -/
def react (m : Memory) : Request → Memory
  | .command c => (m.answer c).2
  | .setFailing op failing => m.setFailing op failing

/-- The filter after some requests, from the start on. -/
def through (requests : List Request) : Memory := requests.foldl react fresh

theorem through_concat (requests : List Request) (request : Request) :
    through (requests ++ [request]) = (through requests).react request := by
  rw [through, List.foldl_append]
  rfl

theorem reachable_through (requests : List Request) : (through requests).Reachable := by
  have run (m : Memory) (h : m.Reachable) : (requests.foldl react m).Reachable := by
    induction requests generalizing m with
    | nil => exact h
    | cons request rest ih =>
      apply ih
      cases request with
      | command c => exact h.answer c
      | setFailing op failing => exact h.setFailing op failing
  exact run fresh .fresh

/-- Once carried out, an action leaves a built-in chain in its place. -/
theorem isSome_effect_of_builtin {m : Memory} {table chain : String} {a : Action}
    {result : Bool × Filter.Table} (builtin : chain ∈ Filter.builtinChains)
    (done : m.perform ⟨table, chain, a⟩ = .ok result) (rules : List String) :
    (a.effect (some rules)).isSome = true := by
  cases a with
  | remove =>
    simp only [perform, Filter.Table.perform_remove_builtin _ _ builtin] at done
    split at done <;> cases done
  | _ => rfl

/-- No command takes a built-in chain away: only a removal takes chains away, and no table carries out
that of a built-in one. -/
theorem isSome_answer_of_builtin {m : Memory} (c : Command) {table chain : String}
    (builtin : chain ∈ Filter.builtinChains) (present : (m.rules table chain).isSome = true) :
    ((m.answer c).2.rules table chain).isSome = true := by
  cases hperform : m.perform (c.mapRule Text.normalise) with
  | error refusal => rw [(answer_of_error hperform).2, present]
  | ok result =>
    rw [(answer_of_ok hperform).2, Chains.set]
    split
    · next heq =>
      rw [heq.1, heq.2] at present
      obtain ⟨rules, hrules⟩ := Option.isSome_iff_exists.1 present
      rw [hrules]
      exact isSome_effect_of_builtin (heq.2 ▸ builtin) hperform rules
    · exact present

/-- **Built-in chains.** Every table has them in every state of the filter. -/
theorem Reachable.builtin {m : Memory} (h : m.Reachable) (table : String) {chain : String}
    (builtin : chain ∈ Filter.builtinChains) : (m.rules table chain).isSome = true := by
  induction h with
  | fresh =>
    rw [rules_fresh, if_pos builtin]
    rfl
  | answer c _ ih => exact isSome_answer_of_builtin c builtin ih
  | setFailing op failing _ ih => exact ih
  | clearHistory _ ih => exact ih

end Memory

end Divert
