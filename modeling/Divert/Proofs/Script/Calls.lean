/-
# Divert.Proofs.Script.Calls — the commands of a run, one by one.

What a run leaves behind says nothing about the states on the way.  `calls` lists the commands that a
run issues, each with the state in which it is issued, so that a law can speak of the state right after
every single command.  The calls of two scripts in a row are those of the first and then those of the
second, from where the first one ended.
-/
import Divert.Proofs.Script.Run

namespace Divert

/-- A command of a run, and the state of the filter in which it is issued. -/
structure Call (σ : Type) where
  state : σ
  command : Command

namespace Call

variable {σ : Type} (b : Backend σ) (call : Call σ)

/-- What the filter says to the command. -/
def answer : Answer := (b.answer call.state call.command).1

/-- The state of the filter right after the command. -/
def after : σ := (b.answer call.state call.command).2

end Call

namespace Script

variable {σ α β : Type}

/-- The commands that a run issues, in order. -/
def calls (b : Backend σ) : Script α → σ → List (Call σ)
  | done _, _ => []
  | note _ rest, s => rest.calls b s
  | call command next, s =>
    let reply := b.answer s command
    ⟨s, command⟩ :: (next reply.1).calls b reply.2

/-- The errors of the calls that the filter refused, in order. -/
def refusals (b : Backend σ) (calls : List (Call σ)) : List RuleError :=
  calls.filterMap fun call =>
    match call.answer b with
    | .ok _ => none
    | .error e => some e

@[simp] theorem refusals_nil (b : Backend σ) : refusals b [] = [] := rfl

@[simp] theorem refusals_append (b : Backend σ) (calls more : List (Call σ)) :
    refusals b (calls ++ more) = refusals b calls ++ refusals b more :=
  List.filterMap_append

theorem refusals_of_ok {b : Backend σ} {call : Call σ} {value : Bool}
    (h : call.answer b = .ok value) : refusals b [call] = [] := by
  simp [refusals, h]

theorem refusals_of_error {b : Backend σ} {call : Call σ} {e : RuleError}
    (h : call.answer b = .error e) : refusals b [call] = [e] := by
  simp [refusals, h]

/-! ## Calls of scripts in a row -/

@[simp] theorem calls_pure (b : Backend σ) (value : α) (s : σ) :
    (pure value : Script α).calls b s = [] :=
  rfl

@[simp] theorem calls_log (b : Backend σ) (notice : Notice) (s : σ) : (log notice).calls b s = [] :=
  rfl

@[simp] theorem calls_issue (b : Backend σ) (command : Command) (s : σ) :
    (issue command).calls b s = [⟨s, command⟩] :=
  rfl

theorem calls_bind (b : Backend σ) (x : Script α) (f : α → Script β) (s : σ) :
    (x >>= f).calls b s = x.calls b s ++ (f (x.eval b s).1).calls b (x.eval b s).2 := by
  induction x generalizing s with
  | done value => rfl
  | note notice rest ih => exact ih s
  | call command next ih =>
    have rest := ih (b.answer s command).1 (b.answer s command).2
    exact congrArg (List.cons (⟨s, command⟩ : Call σ)) rest

theorem calls_bind_of {b : Backend σ} {x : Script α} {s s' : σ} {value : α}
    (h : x.eval b s = (value, s')) (f : α → Script β) :
    (x >>= f).calls b s = x.calls b s ++ (f value).calls b s' := by
  rw [calls_bind, h]

@[simp] theorem calls_attempt (b : Backend σ) (report : Report) (command : Command) (s : σ) :
    (attempt report command).calls b s = [⟨s, command⟩] := by
  rw [attempt, calls_bind, calls_issue, eval_issue]
  cases (b.answer s command).1 <;> rfl

/-! ## What holds of every call -/

section Within

variable {P : Command → Prop} {Q : α → Prop} {b : Backend σ} {x : Script α} {s : σ}

/-- A run issues only commands that its script may issue. -/
theorem Within.of_mem_calls (hx : x.Within P Q) {call : Call σ} (h : call ∈ x.calls b s) :
    P call.command := by
  induction x generalizing s with
  | done value => exact absurd h List.not_mem_nil
  | note notice rest ih => exact ih hx h
  | call command next ih =>
    rcases List.mem_cons.1 h with rfl | hrest
    · exact hx.1
    · exact ih _ (hx.2 _) hrest

/-- **Invariants at every call.** What every command of a script keeps holds before and after each
single command of its run. -/
theorem Within.calls_keep (hx : x.Within P Q) {I : σ → Prop}
    (keeps : ∀ s command, P command → I s → I (b.answer s command).2) (hs : I s) :
    ∀ call ∈ x.calls b s, I call.state ∧ I (call.after b) := by
  induction x generalizing s with
  | done value =>
    intro call h
    exact absurd h List.not_mem_nil
  | note notice rest ih => exact ih hx hs
  | call command next ih =>
    have now : I (b.answer s command).2 := keeps s command hx.1 hs
    intro call h
    rcases List.mem_cons.1 h with rfl | hrest
    · exact ⟨hs, now⟩
    · exact ih _ (hx.2 _) now call hrest

theorem Within.calls_after (hx : x.Within P Q) {I : σ → Prop}
    (keeps : ∀ s command, P command → I s → I (b.answer s command).2) (hs : I s) :
    ∀ call ∈ x.calls b s, I (call.after b) :=
  fun call h => (hx.calls_keep keeps hs call h).2

end Within

end Script

end Divert
