/-
# Divert.Proofs.Filter.Steps — what the steps of a command come to.

The filter carries out a command step by step, and nothing is rolled back: where a step refuses, the
filter is as the steps before have left it.  That a refused command changes no table is therefore not a
matter of its type.  It holds since every command puts its table down last, after all of its checks, and
since the tables that are put down on the way read as they did before.

Each kind of step has an equation for its run, and each kind of command one for its answer and the filter
afterwards.  `answer_eq` puts them together: the answer is what the command comes to for its table
(`Memory.perform`), and the filter afterwards depends on it only by the table that is put down.  All other
modules take it from there and look at no step.
-/
import Divert.Filter.Memory
import Divert.Proofs.Filter.Table

namespace Divert

theorem Action.op_mapRule (a : Action) (f : String → String) : (a.mapRule f).op = a.op := by
  cases a <;> rfl

/-- Whether a refusal comes before anybody has asked for the table. -/
def Filter.Refusal.early : Filter.Refusal → Bool
  | simulated | builtinChain | missingTarget => true
  | chainExists | noSuchChain | chainNotEmpty | chainInUse | positionTooBig | noSuchRule
  | unknownTarget _ => false

namespace Memory

open Divert.Filter

variable {m : Memory}

/-! ## What can be read of a filter -/

/-- The first filter reads as the second: it has the same tables, fails the same commands and remembers
the same changes.  Only which tables have been put down may differ. -/
structure ReadsAs (m n : Memory) : Prop where
  table : ∀ name, m.table name = n.table name
  failing : m.failing = n.failing
  history : m.history = n.history

/-- The filter with other chains in a table. -/
def stored (m : Memory) (name : String) (t : Table) : Memory :=
  { m with tables := m.tables.put name t }

/-- The filter that remembers one more command. -/
def recorded (m : Memory) (c : Command) : Memory := { m with history := m.history ++ [c] }

@[simp] theorem table_recorded (c : Command) (name : String) :
    (m.recorded c).table name = m.table name :=
  rfl

@[simp] theorem failing_recorded (c : Command) : (m.recorded c).failing = m.failing := rfl

/-- The filter that remembers a command if it is a change. -/
def asked (m : Memory) (c : Command) : Memory :=
  if isQuestion c.action.op then m else m.recorded c

@[simp] theorem table_asked (c : Command) (name : String) : (m.asked c).table name = m.table name := by
  unfold asked
  split <;> rfl

@[simp] theorem failing_asked (c : Command) : (m.asked c).failing = m.failing := by
  unfold asked
  split <;> rfl

@[simp] theorem table_stored (name other : String) (t : Table) :
    (m.stored name t).table other = if other = name then t else m.table other := by
  simp only [table, stored, Keyed.get?_put]
  split <;> rfl

theorem opened_eq_self {name : String} (present : m.tables.contains name = true) :
    m.opened name = m := by
  rw [opened, if_pos present]

theorem opened_eq_stored {name : String} (absent : ¬ m.tables.contains name = true) :
    m.opened name = m.stored name Table.builtin := by
  rw [opened, if_neg absent, stored]

/-- A table that is put down for the first time is as it was taken to be. -/
@[simp] theorem table_opened (m : Memory) (name other : String) :
    (m.opened name).table other = m.table other := by
  by_cases present : m.tables.contains name = true
  · rw [opened_eq_self present]
  · have none : m.tables.get? name = none := Option.not_isSome_iff_eq_none.1 present
    rw [opened_eq_stored present, table_stored]
    split
    · next heq =>
      rw [heq, table, none]
      rfl
    · rfl

theorem readsAs_opened (m : Memory) (name : String) : (m.opened name).ReadsAs m :=
  ⟨table_opened m name, rfl, rfl⟩

theorem contains_opened (m : Memory) (name : String) :
    (m.opened name).tables.contains name = true := by
  by_cases present : m.tables.contains name = true
  · rw [opened_eq_self present, present]
  · rw [opened_eq_stored present]
    exact Option.isSome_of_eq_some (Keyed.get?_put_self ..)

@[simp] theorem opened_opened (name : String) : (m.opened name).opened name = m.opened name :=
  opened_eq_self (m.contains_opened name)

/-- Once a table is put down, putting it down as it is changes nothing. -/
theorem stored_opened (m : Memory) (name : String) :
    (m.opened name).stored name (m.table name) = m.opened name := by
  obtain ⟨t, ht⟩ := Option.isSome_iff_exists.1 (m.contains_opened name)
  have same : t = m.table name := by
    rw [← table_opened m name, table, ht]
    rfl
  rw [stored, Keyed.put_eq_self (same ▸ ht)]

/-! ## Steps -/

section Runs

open Step

variable {ε α : Type}

@[simp] theorem run_ite (P : Prop) [Decidable P] (x y : Step ε α) :
    EStateM.run (if P then x else y) m = if P then x.run m else y.run m := by
  split <;> rfl

@[simp] theorem run_map {β : Type} (f : α → β) (x : Step ε α) :
    (f <$> x).run m = match x.run m with
      | .ok value n => .ok (f value) n
      | .error e n => .error e n := by
  rw [map_eq_pure_bind, EStateM.run_bind]
  cases x.run m <;> rfl

@[simp] theorem run_refusedAs (error : String → RuleError) (x : Step Refusal α) :
    (refusedAs error x).run m = match x.run m with
      | .ok value n => .ok value n
      | .error refusal n => .error (error refusal.message) n := by
  rw [refusedAs, EStateM.run_adaptExcept]
  cases x.run m <;> rfl

@[simp] theorem run_record (c : Command) :
    (record c).run m = .ok () (m.recorded c) :=
  rfl

@[simp] theorem run_failIfForced (op : Op) :
    (failIfForced op).run m = if op ∈ m.failing then .error .simulated m else .ok () m := by
  simp only [failIfForced, EStateM.run_bind, EStateM.run_get, run_ite, EStateM.run_throw,
    EStateM.run_pure]

@[simp] theorem run_openTable (name : String) :
    (openTable name).run m = .ok (m.table name) (m.opened name) :=
  rfl

@[simp] theorem run_store (name : String) (t : Table) :
    (store name t).run m = .ok () (m.stored name t) :=
  rfl

@[simp] theorem run_rulesOf (t : Table) (chain : String) :
    (rulesOf t chain).run m = match t.get? chain with
      | some rules => .ok rules m
      | none => .error .noSuchChain m := by
  unfold Step.rulesOf
  cases t.get? chain <;> rfl

/-- A target that is accepted has been looked up in the table, or need not be. -/
theorem run_checkTarget_of_ok {table rule : String}
    (accepted : (m.table table).checkTarget rule = .ok ()) :
    ∃ n, (checkTarget table rule).run m = .ok () n ∧ n.table table = m.table table ∧
      n.opened table = m.opened table := by
  unfold Table.checkTarget at accepted
  unfold Step.checkTarget
  generalize Table.jumpTarget? (Text.words rule) = jump at accepted ⊢
  rcases jump with _ | _ | target
  · exact ⟨m, rfl, rfl, rfl⟩
  · cases accepted
  · by_cases standard : target ∈ standardTargets
    · exact ⟨m, by simp [standard], rfl, rfl⟩
    · have present : (m.table table).contains target = true := by simpa [standard] using accepted
      exact ⟨m.opened table, by simp [standard, present], by simp, by simp⟩

/-- A target that is refused has been looked up in the table, unless the rule has none. -/
theorem run_checkTarget_of_error {table rule : String} {refusal : Refusal}
    (refused : (m.table table).checkTarget rule = .error refusal) :
    (checkTarget table rule).run m =
      .error refusal (if refusal.early then m else m.opened table) := by
  unfold Table.checkTarget at refused
  unfold Step.checkTarget
  generalize Table.jumpTarget? (Text.words rule) = jump at refused ⊢
  rcases jump with _ | _ | target
  · cases refused
  · cases refused
    rfl
  · dsimp only at refused
    split_ifs at refused with known
    cases refused
    rw [not_or] at known
    simp [known, Refusal.early]

end Runs

/-! ## Commands -/

/-- What a command whose rule is in normal form comes to for its table. -/
def perform (m : Memory) (c : Command) : Except Refusal (Bool × Table) :=
  if c.action.op ∈ m.failing then .error .simulated else (m.table c.table).perform c.chain c.action

/-- The answer to a command and the filter afterwards, by what the command comes to for its table.  The
table is put down in any case, unless the command is refused before anybody has asked for it. -/
def settle (m : Memory) (c : Command) : Except Refusal (Bool × Table) → Answer × Memory
  | .error refusal => (.error (c.refused refusal.message),
      if refusal.early then m.asked c else (m.asked c).opened c.table)
  | .ok (value, t) => (.ok value, ((m.asked c).opened c.table).stored c.table t)

/-! ### The filter afterwards -/

section Settled

variable (m : Memory) (c : Command)

theorem table_settle_error (refusal : Refusal) (name : String) :
    (m.settle c (.error refusal)).2.table name = m.table name := by
  unfold settle
  dsimp only
  split <;> simp

theorem table_settle_ok (value : Bool) (t : Table) (name : String) :
    (m.settle c (.ok (value, t))).2.table name = if name = c.table then t else m.table name := by
  simp [settle]

/-- What is made to fail stays so, and of the commands only the changes are remembered. -/
theorem settle_keeps (outcome : Except Refusal (Bool × Table)) :
    (m.settle c outcome).2.failing = m.failing ∧
      (m.settle c outcome).2.history = (m.asked c).history := by
  have kept : (m.asked c).failing = m.failing := failing_asked c
  cases outcome with
  | error refusal =>
    unfold settle
    dsimp only
    split <;> exact ⟨kept, rfl⟩
  | ok result => exact ⟨kept, rfl⟩

end Settled

/-! ### One kind of command at a time -/

variable {table chain : String}

/-- A command of a kind that is made to fail is only remembered. -/
theorem forced_settles {c : Command} (forced : c.action.op ∈ m.failing) :
    m.answer c = m.settle (c.mapRule Text.normalise) (.error .simulated) := by
  obtain ⟨table, chain, a⟩ := c
  -- All eight kinds ask for this first, the changes right after they are remembered.
  cases a <;>
  · simp only [Action.op] at forced
    simp [answer, carryOut, probe, create, flush, remove, insert, append, delete, check, forced]
    rfl

theorem probe_settles (free : .probe ∉ m.failing) :
    m.answer ⟨table, chain, .probe⟩ =
      m.settle ⟨table, chain, .probe⟩ ((m.table table).perform chain .probe) := by
  rw [Table.perform_probe]
  -- A question stores nothing, and `settle` stores the table as it was opened.
  simp [answer, carryOut, probe, free, settle, asked, isQuestion, Action.op, stored_opened]

theorem create_settles (free : .create ∉ m.failing) :
    m.answer ⟨table, chain, .create⟩ =
      m.settle ⟨table, chain, .create⟩ ((m.table table).perform chain .create) := by
  rw [Table.perform_create]
  by_cases present : (m.table table).contains chain = true
  · simp [answer, carryOut, create, free, present]
    rfl
  · simp [answer, carryOut, create, free, present]
    rfl

theorem flush_settles (free : .flush ∉ m.failing) :
    m.answer ⟨table, chain, .flush⟩ =
      m.settle ⟨table, chain, .flush⟩ ((m.table table).perform chain .flush) := by
  rw [Table.perform_flush]
  cases own : (m.table table).get? chain with
  | none =>
    simp [answer, carryOut, flush, free, own]
    rfl
  | some rules =>
    simp [answer, carryOut, flush, free, own]
    rfl

theorem remove_settles (free : .remove ∉ m.failing) :
    m.answer ⟨table, chain, .remove⟩ =
      m.settle ⟨table, chain, .remove⟩ ((m.table table).perform chain .remove) := by
  by_cases builtin : chain ∈ builtinChains
  · rw [Table.perform_remove_builtin _ _ builtin]
    simp [answer, carryOut, remove, free, builtin]
    rfl
  rw [Table.perform_remove _ _ builtin]
  cases own : (m.table table).get? chain with
  | none =>
    simp [answer, carryOut, remove, free, builtin, own]
    rfl
  | some rules =>
    simp [answer, carryOut, remove, free, builtin, own]
    split_ifs <;> rfl

theorem insert_settles (free : .insert ∉ m.failing) (position : Int) (text : String) :
    m.answer ⟨table, chain, .insert position text⟩ =
      m.settle ⟨table, chain, .insert position (Text.normalise text)⟩
        ((m.table table).perform chain (.insert position (Text.normalise text))) := by
  cases target : (m.table table).checkTarget (Text.normalise text) with
  | error refusal =>
    have looked := run_checkTarget_of_error
      (m := m.recorded ⟨table, chain, .insert position (Text.normalise text)⟩) target
    rw [Table.perform_insert_of_refused _ _ target]
    simp [answer, carryOut, insert, free, looked]
    rfl
  | ok _ =>
    -- The check may have put the table down or not; after it is opened, both come to the same.
    obtain ⟨n, hrun, hown, hopened⟩ := run_checkTarget_of_ok
      (m := m.recorded ⟨table, chain, .insert position (Text.normalise text)⟩) target
    rw [Table.perform_insert _ _ target]
    cases own : (m.table table).get? chain with
    | none =>
      simp [answer, carryOut, insert, free, hrun, hown, hopened, own]
      rfl
    | some rules =>
      by_cases misplaced : position < 1 ∨ rules.length + 1 < position
      · simp [answer, carryOut, insert, free, hrun, hown, hopened, own, misplaced]
        rfl
      · simp [answer, carryOut, insert, free, hrun, hown, hopened, own, misplaced]
        rfl

theorem append_settles (free : .append ∉ m.failing) (text : String) :
    m.answer ⟨table, chain, .append text⟩ =
      m.settle ⟨table, chain, .append (Text.normalise text)⟩
        ((m.table table).perform chain (.append (Text.normalise text))) := by
  cases target : (m.table table).checkTarget (Text.normalise text) with
  | error refusal =>
    have looked := run_checkTarget_of_error
      (m := m.recorded ⟨table, chain, .append (Text.normalise text)⟩) target
    rw [Table.perform_append_of_refused _ _ target]
    simp [answer, carryOut, append, free, looked]
    rfl
  | ok _ =>
    obtain ⟨n, hrun, hown, hopened⟩ := run_checkTarget_of_ok
      (m := m.recorded ⟨table, chain, .append (Text.normalise text)⟩) target
    rw [Table.perform_append _ _ target]
    cases own : (m.table table).get? chain with
    | none =>
      simp [answer, carryOut, append, free, hrun, hown, hopened, own]
      rfl
    | some rules =>
      simp [answer, carryOut, append, free, hrun, hown, hopened, own]
      rfl

theorem delete_settles (free : .delete ∉ m.failing) (text : String) :
    m.answer ⟨table, chain, .delete text⟩ =
      m.settle ⟨table, chain, .delete (Text.normalise text)⟩
        ((m.table table).perform chain (.delete (Text.normalise text))) := by
  rw [Table.perform_delete]
  cases own : (m.table table).get? chain with
  | none =>
    simp [answer, carryOut, delete, free, own]
    rfl
  | some rules =>
    by_cases held : Text.normalise text ∈ rules
    · simp [answer, carryOut, delete, free, own, held]
      rfl
    · simp [answer, carryOut, delete, free, own, held]
      rfl

theorem check_settles (free : .check ∉ m.failing) (text : String) :
    m.answer ⟨table, chain, .check text⟩ =
      m.settle ⟨table, chain, .check (Text.normalise text)⟩
        ((m.table table).perform chain (.check (Text.normalise text))) := by
  rw [Table.perform_check]
  cases own : (m.table table).get? chain with
  | none =>
    simp [answer, carryOut, check, free, own]
    rfl
  | some rules =>
    simp [answer, carryOut, check, free, own, settle, asked, isQuestion, Action.op, stored_opened]

/-- **Commands in closed form.** The answer to a command is what it comes to for its table, and so is the
filter afterwards. -/
theorem answer_eq (m : Memory) (c : Command) :
    m.answer c =
      m.settle (c.mapRule Text.normalise) (m.perform (c.mapRule Text.normalise)) := by
  have same : (c.mapRule Text.normalise).action.op = c.action.op := c.action.op_mapRule _
  rw [perform, same]
  split
  · next forced => exact forced_settles forced
  · next free =>
    obtain ⟨table, chain, a⟩ := c
    cases a with
    | probe => exact probe_settles free
    | create => exact create_settles free
    | flush => exact flush_settles free
    | remove => exact remove_settles free
    | insert position text => exact insert_settles free position text
    | append text => exact append_settles free text
    | delete text => exact delete_settles free text
    | check text => exact check_settles free text

/-- A refused command leaves its traces: it is remembered, and its table is put down. -/
example :
    let (answer, after) := fresh.answer ⟨natTable, "A", .flush⟩
    answer.isOk = false ∧ after.history.length = 1 ∧ after.tables.contains natTable = true := by
  decide

end Memory

end Divert
