/-
# Divert.Proofs.Report.Account — reports that take in other reports.

A report starts under a name, grows by steps, and takes in whole reports that came about in the same
way, with steps before and after.  However this is nested, the report comes to the same as the steps one
after the other, from left to right, under the outermost name.  As long as 64 bits hold the number of
steps, the failures are never more than the steps that are counted, so that their difference counts the
successes: no operation on reports checks it.  Beyond that the count wraps around, and a report may keep
a failure and count nothing (`count_falls_behind`).
-/
import Divert.Proofs.Report

namespace Divert.Report

/-! ## Outcomes -/

/-- The failure of a step, if it failed. -/
def failure? : Except RuleError Unit → Option RuleError
  | .ok _ => none
  | .error e => some e

/-- The failures among the outcomes of some steps, in order. -/
def failed (steps : List (Except RuleError Unit)) : List RuleError := steps.filterMap failure?

variable {steps : List (Except RuleError Unit)} {e : RuleError}

@[simp] theorem failed_append (steps more : List (Except RuleError Unit)) :
    failed (steps ++ more) = failed steps ++ failed more :=
  List.filterMap_append

/-- How a report came about. -/
inductive Account : Type 1 where
  /-- Nothing has been done yet. -/
  | start (operation : String)
  /-- One more step was made, for a value of some type. -/
  | step {α : Type} (earlier : Account) (outcome : Except RuleError α)
  /-- The steps of another report were added. -/
  | merge (earlier other : Account)

namespace Account

/-- The report that came about. -/
def report : Account → Report
  | start operation => .start operation
  | step earlier outcome => earlier.report.step outcome
  | merge earlier other => earlier.report.merge other.report

/-- The name under which the outermost report started. -/
def operation : Account → String
  | start operation => operation
  | step earlier _ => earlier.operation
  | merge earlier _ => earlier.operation

/-- The outcomes of all steps, from left to right. -/
def outcomes : Account → List (Except RuleError Unit)
  | start _ => []
  | step earlier outcome => earlier.outcomes ++ [outcome.map fun _ => ()]
  | merge earlier other => earlier.outcomes ++ other.outcomes

/-- A report comes to the sum of its steps. -/
theorem report_eq_plus (a : Account) :
    a.report = (Report.start a.operation).plus a.outcomes.length (failed a.outcomes) := by
  induction a with
  | start operation => rfl
  | step earlier outcome ih =>
    have one : (earlier.step outcome).outcomes.length = earlier.outcomes.length + 1 :=
      List.length_append
    cases outcome with
    | ok value =>
      rw [report, ih, step_ok, plus_plus, one, outcomes, failed_append]
      rfl
    | error e =>
      rw [report, ih, step_error, plus_plus, one, outcomes, failed_append]
      rfl
  | merge earlier other ihearlier ihother =>
    rw [report, ihearlier, ihother, merge_plus, merge_start, plus_plus, outcomes, List.length_append,
      failed_append]
    rfl

end Account

/-! ## Merging -/

namespace Account

/-- As many steps as a power of two, all of which succeeded: a report that takes in itself again and
again. -/
def doubled : Nat → Account
  | 0 => .step (.start "") (.ok () : Except RuleError Unit)
  | n + 1 => (doubled n).merge (doubled n)

/-- A failure, and steps that succeeded, together as many as a power of two. -/
def trailed (e : RuleError) : Nat → Account
  | 0 => .step (.start "") (.error e : Except RuleError Unit)
  | n + 1 => (trailed e n).merge (doubled n)

theorem outcomes_doubled (n : Nat) :
    (doubled n).outcomes.length = 2 ^ n ∧ failed (doubled n).outcomes = [] := by
  induction n with
  | zero => exact ⟨rfl, rfl⟩
  | succ n ih =>
    rw [doubled, outcomes, List.length_append, failed_append, ih.1, ih.2, Nat.pow_succ, Nat.mul_two]
    exact ⟨rfl, rfl⟩

theorem outcomes_trailed (e : RuleError) (n : Nat) :
    (trailed e n).outcomes.length = 2 ^ n ∧ failed (trailed e n).outcomes = [e] := by
  induction n with
  | zero => exact ⟨rfl, rfl⟩
  | succ n ih =>
    obtain ⟨length, none⟩ := outcomes_doubled n
    rw [trailed, outcomes, List.length_append, failed_append, ih.1, ih.2, length, none, Nat.pow_succ,
      Nat.mul_two]
    exact ⟨rfl, rfl⟩

end Account

/-- **The count can fall behind the failures.** After 64 merges a report keeps a failure and counts
nothing. -/
theorem count_falls_behind (e : RuleError) :
    (Account.trailed e 64).report.attempted = 0 ∧ (Account.trailed e 64).report.failures = [e] := by
  obtain ⟨length, failures⟩ := Account.outcomes_trailed e 64
  rw [Account.report_eq_plus, start_plus, length, failures]
  exact ⟨(attempted_ofNat ..).trans (Nat.mod_self _), rfl⟩

end Divert.Report
