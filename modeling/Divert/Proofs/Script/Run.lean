/-
# Divert.Proofs.Script.Run — what can be said of a script before a filter is chosen.

A script is a tree of commands, so what it may issue and what it may yield can be read off the tree,
whatever the answers are: `Within P Q` says that every command satisfies `P` and every value `Q`.  A
fact about single commands then lifts to runs.  An invariant that the commands of a script keep is
kept by the run (`eval_keeps`), and two filters that answer those commands alike give the same value
(`eval_alike`).
-/
import Divert.Proofs.Report
import Divert.Script

namespace Divert.Script

variable {σ τ α β : Type}

/-! ## Value and state -/

/-- The value of a script and the state that its run leaves behind, without the notices. -/
def eval (b : Backend σ) (x : Script α) (s : σ) : α × σ := ((x.run b s).value, (x.run b s).state)

@[simp] theorem eval_pure (b : Backend σ) (value : α) (s : σ) :
    (pure value : Script α).eval b s = (value, s) :=
  rfl

@[simp] theorem eval_log (b : Backend σ) (notice : Notice) (s : σ) :
    (log notice).eval b s = ((), s) :=
  rfl

@[simp] theorem eval_issue (b : Backend σ) (command : Command) (s : σ) :
    (issue command).eval b s = b.answer s command :=
  rfl

theorem eval_call (b : Backend σ) (command : Command) (next : Answer → Script α) (s : σ) :
    (call command next).eval b s =
      (next (b.answer s command).1).eval b (b.answer s command).2 :=
  rfl

theorem eval_bind (b : Backend σ) (x : Script α) (f : α → Script β) (s : σ) :
    (x >>= f).eval b s = (f (x.eval b s).1).eval b (x.eval b s).2 := by
  induction x generalizing s with
  | done value => rfl
  | note notice rest ih => exact ih s
  | call command next ih => exact ih (b.answer s command).1 (b.answer s command).2

/-- The first part of a script hands its value and its state to the second. -/
theorem eval_bind_of {b : Backend σ} {x : Script α} {s s' : σ} {value : α}
    (h : x.eval b s = (value, s')) (f : α → Script β) :
    (x >>= f).eval b s = (f value).eval b s' := by
  rw [eval_bind, h]

/-- A left fold of scripts hands value and state from one item to the next. -/
theorem eval_foldlM {γ : Type} (b : Backend σ) (f : α → γ → Script α) (items : List γ) (value : α)
    (s : σ) : (items.foldlM f value).eval b s =
      items.foldl (fun outcome item => (f outcome.1 item).eval b outcome.2) (value, s) := by
  induction items generalizing value s with
  | nil => rfl
  | cons item rest ih => rw [List.foldlM_cons, eval_bind, ih, List.foldl_cons]

theorem eval_attempt (b : Backend σ) (report : Report) (command : Command) (s : σ) :
    (attempt report command).eval b s =
      (((b.answer s command).1.toOption, report.step (b.answer s command).1),
        (b.answer s command).2) := by
  rw [attempt, eval_bind, eval_issue]
  cases (b.answer s command).1 <;> rfl

theorem eval_attempt_of {b : Backend σ} {command : Command} {s s' : σ} {answer : Answer}
    (h : b.answer s command = (answer, s')) (report : Report) :
    (attempt report command).eval b s = ((answer.toOption, report.step answer), s') := by
  rw [eval_attempt, h]

/-- A step that was carried out counts in the report. -/
theorem eval_attempt_ok {b : Backend σ} {command : Command} {s s' : σ} {value : Bool}
    (h : b.answer s command = (.ok value, s')) (report : Report) :
    (attempt report command).eval b s = ((some value, report.plus 1 []), s') := by
  rw [eval_attempt, h, Report.step_ok]
  rfl

/-- A step that was refused counts in the report and leaves its error there. -/
theorem eval_attempt_error {b : Backend σ} {command : Command} {s s' : σ} {e : RuleError}
    (h : b.answer s command = (.error e, s')) (report : Report) :
    (attempt report command).eval b s = ((none, report.plus 1 [e]), s') := by
  rw [eval_attempt, h, Report.step_error]
  rfl

/-! ## What a script may issue and yield -/

/-- Whatever the answers are, every command that is issued satisfies `P` and the value satisfies
`Q`. -/
def Within (P : Command → Prop) (Q : α → Prop) : Script α → Prop
  | done value => Q value
  | note _ rest => rest.Within P Q
  | call command next => P command ∧ ∀ answer, (next answer).Within P Q

section Within

variable {P : Command → Prop} {Q : α → Prop}

theorem within_issue {command : Command} (h : P command) :
    (issue command).Within P fun _ => True :=
  ⟨h, fun _ => trivial⟩

theorem Within.bind {x : Script α} {f : α → Script β} {R : β → Prop} (hx : x.Within P Q)
    (hf : ∀ value, Q value → (f value).Within P R) : (x >>= f).Within P R := by
  induction x with
  | done value => exact hf value hx
  | note notice rest ih => exact ih hx
  | call command next ih => exact ⟨hx.1, fun answer => ih answer (hx.2 answer)⟩

theorem Within.mono {P' : Command → Prop} {Q' : α → Prop} {x : Script α}
    (hP : ∀ c, P c → P' c) (hQ : ∀ value, Q value → Q' value) (h : x.Within P Q) :
    x.Within P' Q' := by
  induction x with
  | done value => exact hQ value h
  | note notice rest ih => exact ih h
  | call command next ih => exact ⟨hP command h.1, fun answer => ih answer (h.2 answer)⟩

theorem within_attempt {command : Command} (h : P command) (report : Report) :
    (attempt report command).Within P fun _ => True := by
  refine (within_issue h).bind fun answer _ => ?_
  cases answer <;> trivial

/-- A left fold of scripts stays within what each of its steps stays within. -/
theorem within_foldlM {γ : Type} {f : α → γ → Script α} (items : List γ)
    (hf : ∀ value, ∀ item ∈ items, Q value → (f value item).Within P Q) {value : α}
    (h : Q value) : (items.foldlM f value).Within P Q := by
  induction items generalizing value with
  | nil => exact h
  | cons item rest ih =>
    rw [List.foldlM_cons]
    apply (hf value item List.mem_cons_self h).bind
    intro next hnext
    exact ih (fun v i hi => hf v i (List.mem_cons_of_mem item hi)) hnext

/-- **Invariants of runs.** What every command of a script keeps is kept by its run, and the run
yields one of the values that the script may yield. -/
theorem Within.eval_keeps {x : Script α} (hx : x.Within P Q) {b : Backend σ} {I : σ → Prop}
    (keeps : ∀ s command, P command → I s → I (b.answer s command).2) {s : σ} (hs : I s) :
    Q (x.eval b s).1 ∧ I (x.eval b s).2 := by
  induction x generalizing s with
  | done value => exact ⟨hx, hs⟩
  | note notice rest ih => exact ih hx hs
  | call command next ih => exact ih _ (hx.2 _) (keeps s command hx.1 hs)

theorem Within.eval_value {x : Script α} (hx : x.Within P Q) (b : Backend σ) (s : σ) :
    Q (x.eval b s).1 :=
  (hx.eval_keeps (b := b) (I := fun _ => True) (fun _ _ _ _ => trivial) (s := s) trivial).1

/-- **Runs on two filters.** If two filters in related states answer the commands of a script alike
and stay related, the script has the same value on both, and leaves them related. -/
theorem Within.eval_alike {x : Script α} (hx : x.Within P Q) {b : Backend σ} {d : Backend τ}
    {R : σ → τ → Prop}
    (alike : ∀ s t command, P command → R s t →
      (b.answer s command).1 = (d.answer t command).1 ∧
        R (b.answer s command).2 (d.answer t command).2)
    {s : σ} {t : τ} (hst : R s t) :
    (x.eval b s).1 = (x.eval d t).1 ∧ R (x.eval b s).2 (x.eval d t).2 := by
  induction x generalizing s t with
  | done value => exact ⟨rfl, hst⟩
  | note notice rest ih => exact ih hx hst
  | call command next ih =>
    obtain ⟨same, related⟩ := alike s t command hx.1 hst
    rw [eval_call, eval_call, same]
    exact ih _ (hx.2 _) related

end Within

end Divert.Script
