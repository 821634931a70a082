/-
# Divert.Proofs.Filter.Frame — what a command leaves alone.

A command can be turned down at several points: because its kind is made to fail, for the target or the
place of its rule, for what its chain holds or lacks.  By then it may have been remembered, and its table
may have been put down, for nothing is rolled back.  Yet no rule of any chain has changed, and the refusal
names the command as it was understood, with its rule in normal form.  A command that is carried out has
its effect on its own chain, and every other chain of every table is left alone.  All of this holds in any
state of the filter, also in one that no commands lead to.

A question may put its table down, too.  The filter reads as before, and filters that read alike cannot be
told apart by any command (`ReadsAs.answer`).
-/
import Divert.Proofs.Filter.Jumps

namespace Divert

namespace Memory

variable {m : Memory} {c : Command}

/-! ## Refusals -/

/-- A refusal names the command, with its rule in normal form. -/
theorem names_of_refused {e : RuleError} (h : (m.answer c).1 = .error e) :
    e.op = c.action.op ∧ e.table = c.table ∧ e.chain = c.chain ∧
      e.rule = c.action.rule?.map Text.normalise := by
  cases hperform : m.perform (c.mapRule Text.normalise) with
  | error refusal =>
    rw [(answer_of_error hperform).1] at h
    cases h
    exact ⟨c.action.op_mapRule _, rfl, rfl, c.action.rule?_mapRule _⟩
  | ok result =>
    rw [(answer_of_ok hperform).1] at h
    cases h

/-! ## Questions -/

theorem isQuestion_iff {op : Op} : isQuestion op = true ↔ op = .probe ∨ op = .check := by
  simp [isQuestion]

/-- What a question comes to leaves its table as it is. -/
theorem table_of_question {value : Bool} {t : Filter.Table} (h : isQuestion c.action.op = true)
    (done : m.perform c = .ok (value, t)) : t = m.table c.table := by
  unfold perform at done
  split at done
  · cases done
  obtain ⟨table, chain, a⟩ := c
  cases a with
  | probe =>
    cases done
    rfl
  | check rule =>
    rw [Filter.Table.perform_check] at done
    obtain ⟨rules, -, done⟩ := Filter.Table.exists_of_elim_eq_ok done
    cases done
    rfl
  | _ => cases h

/-- A question puts its table down at most, whatever its answer. -/
theorem answer_of_question (h : isQuestion c.action.op = true) :
    (m.answer c).2 = m ∨ (m.answer c).2 = m.opened c.table := by
  have question : isQuestion (c.mapRule Text.normalise).action.op = true := by
    show isQuestion (c.action.mapRule Text.normalise).op = true
    rw [c.action.op_mapRule, h]
  have unasked : m.asked (c.mapRule Text.normalise) = m := if_pos question
  rw [answer_eq]
  cases hperform : m.perform (c.mapRule Text.normalise) with
  | error refusal =>
    simp only [settle, unasked]
    split
    · exact .inl rfl
    · exact .inr rfl
  | ok result =>
    have same : result.2 = m.table c.table :=
      table_of_question (c := c.mapRule Text.normalise) question hperform
    simp only [settle, unasked, same]
    exact .inr (m.stored_opened c.table)

/-- After a question everything reads as before. -/
theorem readsAs_of_question (h : isQuestion c.action.op = true) : (m.answer c).2.ReadsAs m := by
  rcases answer_of_question (m := m) h with same | same
  · rw [same]
    exact ⟨fun _ => rfl, rfl, rfl⟩
  · rw [same]
    exact m.readsAs_opened c.table

/-- **Filters that read alike cannot be told apart.** They answer every command alike, and afterwards they
still read alike. -/
theorem ReadsAs.answer {n : Memory} (h : m.ReadsAs n) (c : Command) :
    (m.answer c).1 = (n.answer c).1 ∧ (m.answer c).2.ReadsAs (n.answer c).2 := by
  have same : m.perform (c.mapRule Text.normalise) = n.perform (c.mapRule Text.normalise) := by
    rw [perform, perform, h.failing, h.table]
  have asked : (m.asked (c.mapRule Text.normalise)).history =
      (n.asked (c.mapRule Text.normalise)).history := by
    unfold Memory.asked
    split
    · exact h.history
    · exact congrArg (· ++ [_]) h.history
  rw [answer_eq, answer_eq, same]
  generalize n.perform (c.mapRule Text.normalise) = outcome
  obtain ⟨failing, history⟩ := settle_keeps m (c.mapRule Text.normalise) outcome
  obtain ⟨failing', history'⟩ := settle_keeps n (c.mapRule Text.normalise) outcome
  have keeps (tables : ∀ name, (m.settle (c.mapRule Text.normalise) outcome).2.table name =
      (n.settle (c.mapRule Text.normalise) outcome).2.table name) :
      (m.settle (c.mapRule Text.normalise) outcome).2.ReadsAs
        (n.settle (c.mapRule Text.normalise) outcome).2 :=
    ⟨tables, failing.trans (h.failing.trans failing'.symm), history.trans (asked.trans history'.symm)⟩
  cases outcome with
  | error refusal =>
    refine ⟨rfl, keeps fun name => ?_⟩
    rw [table_settle_error, table_settle_error, h.table]
  | ok result =>
    refine ⟨rfl, keeps fun name => ?_⟩
    rw [table_settle_ok, table_settle_ok, h.table]

/-! ## Every command -/

/-- **Commands are atomic and local.** Whatever the filter holds, and whatever is made to fail: a
command that is refused changes no rule, and its refusal names its kind, its table, its chain and its
rule in normal form, if it has one.  A command that is carried out has its effect on its own chain and
on no other chain of any table.  After a question everything reads as before, and no command takes a
built-in chain away. -/
theorem atomic_and_local (m : Memory) (c : Command) :
    (∀ e, (m.answer c).1 = .error e →
      (∀ table chain, (m.answer c).2.rules table chain = m.rules table chain) ∧
        e.op = c.action.op ∧ e.table = c.table ∧ e.chain = c.chain ∧
        e.rule = c.action.rule?.map Text.normalise) ∧
    (∀ value, (m.answer c).1 = .ok value →
      (m.answer c).2.rules c.table c.chain =
          (c.action.mapRule Text.normalise).effect (m.rules c.table c.chain) ∧
        ∀ table chain, ¬ (table = c.table ∧ chain = c.chain) →
          (m.answer c).2.rules table chain = m.rules table chain) ∧
    (c.action.op = .probe ∨ c.action.op = .check → (m.answer c).2.ReadsAs m) ∧
    ∀ table, ∀ chain ∈ Filter.builtinChains, (m.rules table chain).isSome = true →
      ((m.answer c).2.rules table chain).isSome = true := by
  refine ⟨?_, ?_, ?_, ?_⟩
  · intro e refused
    have same : (m.answer c).2.rules = m.rules := faithful.refused (b := backend) refused
    exact ⟨fun table chain => congrFun (congrFun same table) chain, names_of_refused refused⟩
  · intro value done
    refine ⟨faithful.own (b := backend) done, ?_⟩
    intro table chain apart
    exact faithful.outside (b := backend) (s := m) apart
  · intro asks
    exact readsAs_of_question (isQuestion_iff.2 asks)
  · intro table chain builtin present
    exact isSome_answer_of_builtin c builtin present

/-- A jump whose target is there, put at a place that its chain does not have. -/
theorem atomic_and_local_misplaced :
    let m : Memory := ⟨Keyed.empty.put natTable
      ((Filter.Table.builtin.put "A" [Rule.loopback]).put "OUTPUT" ["-p udp"]), [.create], []⟩
    let c : Command := ⟨natTable, "OUTPUT", .insert 3 " -j\tA "⟩
    let e : RuleError := ⟨.insert, natTable, "OUTPUT", some "-j A", "Index of insertion too big."⟩
    (m.answer c).1 = .error e ∧ (m.answer c).2.rules natTable "OUTPUT" = some ["-p udp"] ∧
      ((m.answer ⟨natTable, "OUTPUT", .remove⟩).2.rules natTable "OUTPUT").isSome = true := by
  intro m c e
  have refused : (m.answer c).1 = .error e := rfl
  have before : m.rules natTable "OUTPUT" = some ["-p udp"] := rfl
  refine ⟨refused, ?_, ?_⟩
  · rw [((atomic_and_local m c).1 e refused).1 natTable "OUTPUT", before]
  · apply (atomic_and_local m ⟨natTable, "OUTPUT", .remove⟩).2.2.2 natTable "OUTPUT" (by decide)
    rw [before]
    rfl

end Memory

end Divert
