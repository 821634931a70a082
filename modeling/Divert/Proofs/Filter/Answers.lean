/-
# Divert.Proofs.Filter.Answers — what an answer says about the rules.

A faithful filter changes its rules as its answers say.  A *truthful* one also has a reason for every
success: a rule that was deleted was there, a chain that was removed was empty and no rule jumped to it,
a hook that was inserted has a chain to jump to.  The filter in memory is truthful, and losing some of
its calls leaves it so, as a lost call succeeds in nothing.  No such thing holds of a refusal, which can
always be made; only where nothing is made to fail is it that the filter would have refused anyway, and
`Faulty.answer_of_unforced` says this.
-/
import Divert.Proofs.Filter.Memory
import Divert.Proofs.Script.Calls

namespace Divert

/-! ## What a success says -/

/-- What the success of an action on a chain says about the rules of the table before it. -/
def Action.Tells (view : String → Option (List String)) (chain : String) (value : Bool) :
    Action → Prop
  | .probe => value = (view chain).isSome
  | .create => view chain = none
  | .flush => (view chain).isSome = true
  | .remove => view chain = some [] ∧
      ∀ name rules, view name = some rules → Rule.jumpTo chain ∉ rules
  | .insert _ rule | .append rule => (view chain).isSome = true ∧
      ∀ target : ChainName, rule = Rule.jump target → (view target.text).isSome = true
  | .delete rule => ∃ rules, view chain = some rules ∧ rule ∈ rules
  | .check rule => ∃ rules, view chain = some rules ∧ value = decide (rule ∈ rules)

namespace Filter.Table

variable {t : Table} {chain : String}

theorem isSome_of_elim_eq_ok {ε α β : Type} {found : Option α} {reason : ε} {f : α → Except ε β}
    {result : β} (h : found.elim (.error reason) f = .ok result) : found.isSome = true := by
  obtain ⟨value, rfl, -⟩ := exists_of_elim_eq_ok h
  rfl

/-- A jump whose target a table accepts has a chain to go to. -/
theorem target_of_checkTarget {rule : String} (h : t.checkTarget rule = .ok ()) (target : ChainName)
    (hrule : rule = Rule.jump target) : (t.get? target.text).isSome = true := by
  rw [hrule, checkTarget_jump] at h
  split at h
  · next present => exact present
  · cases h

/-- **Successes of a table.** An action that is carried out had what it takes. -/
theorem tells_of_perform {action : Action} {value : Bool} {after : Table}
    (h : t.perform chain action = .ok (value, after)) : action.Tells t.get? chain value := by
  cases action with
  | probe =>
    rw [perform_probe] at h
    exact (Prod.mk.inj (Except.ok.inj h)).1.symm
  | create =>
    rw [perform_create] at h
    split at h
    · cases h
    · next absent => exact Option.not_isSome_iff_eq_none.1 absent
  | flush =>
    rw [perform_flush] at h
    exact isSome_of_elim_eq_ok h
  | remove =>
    by_cases builtin : chain ∈ builtinChains
    · rw [perform_remove_builtin t chain builtin] at h
      cases h
    rw [perform_remove t chain builtin] at h
    obtain ⟨rules, hrules, h⟩ := exists_of_elim_eq_ok h
    split_ifs at h with hempty hused
    refine ⟨hrules.trans (congrArg some (Classical.not_not.1 hempty)), ?_⟩
    intro name more hmore hmem
    exact hused ((t.holdsRule_iff).2 ⟨name, more, hmore, hmem⟩)
  | insert position rule =>
    cases target : t.checkTarget rule with
    | error reason =>
      rw [perform_insert_of_refused t chain target] at h
      cases h
    | ok _ =>
      rw [perform_insert t chain target] at h
      exact ⟨isSome_of_elim_eq_ok h, target_of_checkTarget target⟩
  | append rule =>
    cases target : t.checkTarget rule with
    | error reason =>
      rw [perform_append_of_refused t chain target] at h
      cases h
    | ok _ =>
      rw [perform_append t chain target] at h
      exact ⟨isSome_of_elim_eq_ok h, target_of_checkTarget target⟩
  | delete rule =>
    rw [perform_delete] at h
    obtain ⟨rules, hrules, h⟩ := exists_of_elim_eq_ok h
    split_ifs at h with hmem
    exact ⟨rules, hrules, hmem⟩
  | check rule =>
    rw [perform_check] at h
    obtain ⟨rules, hrules, h⟩ := exists_of_elim_eq_ok h
    cases h
    exact ⟨rules, hrules, rfl⟩

end Filter.Table

/-! ## Truthful filters -/

/-- A faithful filter that succeeds in a command only if the rules admit it. -/
structure Backend.Truthful {σ : Type} (b : Backend σ) (rules : σ → Chains) : Prop
    extends b.Faithful rules where
  told : ∀ {s : σ} {c : Command} {value : Bool}, (b.answer s c).1 = .ok value →
    (c.action.mapRule Text.normalise).Tells (rules s c.table) c.chain value

/-- The filter in memory is truthful. -/
theorem Memory.truthful : backend.Truthful rules where
  toFaithful := faithful
  told {m c value} h := by
    cases hperform : m.perform (c.mapRule Text.normalise) with
    | error refusal =>
      have rejected : (backend.answer m c).1 = _ := (answer_of_error hperform).1
      rw [rejected] at h
      cases h
    | ok result =>
      have accepted : (backend.answer m c).1 = .ok result.1 := (answer_of_ok hperform).1
      rw [accepted] at h
      cases h
      simp only [perform] at hperform
      split at hperform
      · cases hperform
      · exact Filter.Table.tells_of_perform hperform

/-- A truthful filter stays truthful when some of its calls are lost. -/
theorem Faulty.truthful {σ : Type} {inner : Backend σ} {rules : σ → Chains}
    (h : inner.Truthful rules) : (Faulty.backend inner).Truthful fun f => rules f.inner where
  toFaithful := Faulty.faithful h.toFaithful
  told {f c value} hv := by
    simp only [Faulty.backend] at hv
    split at hv
    · cases hv
    · exact h.told hv

/-! ## Calls that are not made to fail -/

/-- The same rules, and nothing is made to fail. -/
def Memory.unhindered (m : Memory) : Memory := { m with failing := [] }

theorem Memory.shows_unhindered (m : Memory) : m.unhindered.Shows m.rules := ⟨rfl, rfl⟩

/-- What a command comes to leaves its mark whether or not other commands are made to fail. -/
theorem Memory.settle_unhindered (m : Memory) (c : Command)
    (outcome : Except Filter.Refusal (Bool × Filter.Table)) :
    m.unhindered.settle c outcome =
      ((m.settle c outcome).1, (m.settle c outcome).2.unhindered) := by
  have asked : m.unhindered.asked c = (m.asked c).unhindered := by
    unfold Memory.asked
    split <;> rfl
  cases outcome with
  | error refusal =>
    simp only [settle, asked]
    split <;> rfl
  | ok result =>
    simp only [settle, asked]
    rfl

/-- Without what is made to fail, a command of another kind has the same answer and effect. -/
theorem Memory.answer_unhindered {m : Memory} {c : Command} (h : c.action.op ∉ m.failing) :
    m.unhindered.answer c = ((m.answer c).1, (m.answer c).2.unhindered) := by
  have same : (c.mapRule Text.normalise).action.op = c.action.op := c.action.op_mapRule _
  have hperform : m.unhindered.perform (c.mapRule Text.normalise) =
      m.perform (c.mapRule Text.normalise) := by
    rw [perform, perform, same, if_neg h, if_neg (by simp [unhindered])]
    rfl
  rw [answer_eq, answer_eq, hperform, settle_unhindered]

namespace Faulty

/-- The filter in memory some of whose calls are lost. -/
def memory : Backend (Faulty Memory) := backend Memory.backend

/-- Neither the kind of the command nor this very call is made to fail. -/
def Unforced (call : Call (Faulty Memory)) : Prop :=
  call.command.action.op ∉ call.state.inner.failing ∧
    call.state.lost? call.command.action.op = none

/-- A call that is not made to fail is answered as if nothing were. -/
theorem answer_of_unforced {f : Faulty Memory} {c : Command} (h : Unforced ⟨f, c⟩) :
    f.inner.unhindered.answer c =
      ((memory.answer f c).1, (memory.answer f c).2.inner.unhindered) := by
  have kept : f.lost? c.action.op = none := h.2
  rw [Memory.answer_unhindered h.1]
  simp only [memory, backend, kept]
  rfl

theorem memory_truthful : memory.Truthful fun f => f.inner.rules := truthful Memory.truthful

/-- A lost call leaves the filter behind the schedule as it is. -/
theorem reachable_answer {f : Faulty Memory} (h : f.inner.Reachable) (c : Command) :
    (memory.answer f c).2.inner.Reachable := by
  simp only [memory, backend]
  split
  · exact h
  · exact h.answer c

end Faulty

open Script

variable {α : Type}

/-- **Runs that nothing is made to fail in.** They have the value and the rules that they have on the
filter in memory. -/
theorem eval_of_unforced (x : Script α) {f : Faulty Memory}
    (h : ∀ call ∈ x.calls Faulty.memory f, Faulty.Unforced call) :
    x.eval Memory.backend f.inner.unhindered =
      ((x.eval Faulty.memory f).1, (x.eval Faulty.memory f).2.inner.unhindered) := by
  induction x generalizing f with
  | done value => rfl
  | note notice rest ih => exact ih h
  | call command next ih =>
    have hanswer : Memory.backend.answer f.inner.unhindered command = _ :=
      Faulty.answer_of_unforced (h _ List.mem_cons_self)
    rw [eval_call, eval_call, hanswer]
    exact ih _ fun call hcall => h call (List.mem_cons_of_mem _ hcall)

/-- The calls of such a run are those of the run on the filter in memory. -/
theorem calls_of_unforced (x : Script α) {f : Faulty Memory}
    (h : ∀ call ∈ x.calls Faulty.memory f, Faulty.Unforced call) :
    x.calls Memory.backend f.inner.unhindered =
      (x.calls Faulty.memory f).map fun call => ⟨call.state.inner.unhindered, call.command⟩ := by
  induction x generalizing f with
  | done value => rfl
  | note notice rest ih => exact ih h
  | call command next ih =>
    have hanswer : Memory.backend.answer f.inner.unhindered command = _ :=
      Faulty.answer_of_unforced (h _ List.mem_cons_self)
    have rest := ih (Faulty.memory.answer f command).1 (f := (Faulty.memory.answer f command).2)
      fun call hcall => h call (List.mem_cons_of_mem _ hcall)
    simp only [calls, hanswer, List.map_cons]
    exact congrArg _ rest

/-- What the rules satisfy after every call on the filter in memory they satisfy after every call of
such a run. -/
theorem rules_of_unforced {x : Script α} {f : Faulty Memory} {P : Chains → Prop}
    (h : ∀ call ∈ x.calls Faulty.memory f, Faulty.Unforced call)
    (settled : ∀ call ∈ x.calls Memory.backend f.inner.unhindered,
      P (call.after Memory.backend).rules) :
    ∀ call ∈ x.calls Faulty.memory f, P (call.after Faulty.memory).inner.rules := by
  intro call hcall
  have hanswer : Memory.backend.answer call.state.inner.unhindered call.command = _ :=
    Faulty.answer_of_unforced (h call hcall)
  rw [calls_of_unforced x h] at settled
  have after := settled _ (List.mem_map_of_mem hcall)
  rwa [Call.after, hanswer] at after

end Divert
