/-
# Divert.Script — sequences of commands, apart from the filter that answers them.

A script says which command to issue next from the answers so far.  A filter is a state and a way to
answer a command in it.  Running a script on a filter gives the script's value, the state afterwards,
and the notices of both in order.  A law about every filter is then a law about the script.
-/
import Divert.Notice

namespace Divert

/-! ## Scripts -/

/-- A sequence of commands and notices that ends in a value. -/
inductive Script (α : Type) where
  | done (value : α)
  | note (notice : Notice) (rest : Script α)
  | call (command : Command) (next : Answer → Script α)

namespace Script

/-- Go on with the value of a script. -/
def andThen {α β : Type} : Script α → (α → Script β) → Script β
  | done value, f => f value
  | note notice rest, f => note notice (rest.andThen f)
  | call command next, f => call command fun answer => (next answer).andThen f

instance : Monad Script where
  pure := done
  bind := andThen

@[simp] theorem pure_andThen {α β : Type} (value : α) (f : α → Script β) :
    (done value).andThen f = f value :=
  rfl

theorem andThen_done {α : Type} (s : Script α) : s.andThen done = s := by
  induction s with
  | done => rfl
  | note notice rest ih => rw [andThen, ih]
  | call command next ih => rw [andThen]; exact congrArg _ (funext ih)

theorem andThen_andThen {α β γ : Type} (s : Script α) (f : α → Script β) (g : β → Script γ) :
    (s.andThen f).andThen g = s.andThen fun value => (f value).andThen g := by
  induction s with
  | done => rfl
  | note notice rest ih => rw [andThen, andThen, andThen, ih]
  | call command next ih => rw [andThen, andThen, andThen]; exact congrArg _ (funext ih)

instance : LawfulMonad Script := LawfulMonad.mk' Script andThen_done (fun _ _ => rfl) andThen_andThen

/-- Log a notice. -/
def log (notice : Notice) : Script Unit := note notice (done ())

/-- Issue a command and take its answer. -/
def issue (command : Command) : Script Answer := call command done

/-- Issue a command as a step of a report, log its failure, and give the value of its success. -/
def attempt (report : Report) (command : Command) : Script (Option Bool × Report) := do
  let answer ← issue command
  if let .error e := answer then
    log (.stepFailed report.operation e)
  return (answer.toOption, report.step answer)

end Script

/-! ## Filters that answer commands -/

/-- A way to carry out commands in a state, and to log them. -/
structure Backend (σ : Type) where
  answer : σ → Command → Answer × σ
  notices : σ → Command → List Notice

/-- What a script leaves behind. -/
structure Run (σ α : Type) where
  value : α
  state : σ
  notices : List Notice

/-- Run a script on a filter. -/
def Script.run {σ α : Type} (b : Backend σ) : Script α → σ → Run σ α
  | .done value, s => ⟨value, s, []⟩
  | .note notice rest, s =>
    let run := rest.run b s
    { run with notices := notice :: run.notices }
  | .call command next, s =>
    let reply := b.answer s command
    let run := (next reply.1).run b reply.2
    { run with notices := b.notices s command ++ run.notices }

end Divert
