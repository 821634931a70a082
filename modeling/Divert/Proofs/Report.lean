/-
# Divert.Proofs.Report — reports as sums of steps.

A report grows by steps, some of which failed.  Single steps and merged reports both add a number of
steps and a list of failures to it, and adding twice is adding the sums.  A failure that is in a report
stays there, so a report that is clean in the end has been clean all the time.
-/
import Divert.Report
import Mathlib.Algebra.Group.Nat.Defs

namespace Divert.Report

/-- The report after more steps, some of which failed. -/
def plus (r : Report) (steps : Nat) (failed : List RuleError) : Report :=
  { r with count := r.count + .ofNat steps, failures := r.failures ++ failed }

theorem step_ok {α : Type} (r : Report) (value : α) : r.step (.ok value) = r.plus 1 [] := by
  simp [step, plus]

theorem step_error {α : Type} (r : Report) (e : RuleError) :
    r.step (.error e : Except RuleError α) = r.plus 1 [e] :=
  rfl

theorem merge_eq_plus (r other : Report) :
    r.merge other = r.plus other.attempted other.failures := by
  rw [merge, plus, attempted, UInt64.ofNat_toNat]

@[simp] theorem merge_start (r : Report) (operation : String) : r.merge (start operation) = r := by
  simp [merge, start]

theorem merge_plus (r other : Report) (steps : Nat) (failed : List RuleError) :
    r.merge (other.plus steps failed) = (r.merge other).plus steps failed := by
  simp [merge, plus, UInt64.add_assoc]

theorem start_plus (operation : String) (steps : Nat) (failed : List RuleError) :
    (start operation).plus steps failed = ⟨operation, .ofNat steps, failed⟩ := by
  simp [start, plus]

@[simp] theorem plus_zero (r : Report) : r.plus 0 [] = r := by simp [plus]

@[simp] theorem plus_plus (r : Report) (m n : Nat) (es fs : List RuleError) :
    (r.plus m es).plus n fs = r.plus (m + n) (es ++ fs) := by
  simp [plus, UInt64.ofNat_add, UInt64.add_assoc]

/-- The count is that of the steps up to the multiples of 2 ^ 64. -/
theorem attempted_ofNat (operation : String) (steps : Nat) (failed : List RuleError) :
    attempted ⟨operation, .ofNat steps, failed⟩ = steps % 2 ^ 64 :=
  UInt64.toNat_ofNat'

/-- Fewer than 2 ^ 64 steps are counted as they are. -/
theorem attempted_of_lt {operation : String} {steps : Nat} {failed : List RuleError}
    (h : steps < 2 ^ 64) : attempted ⟨operation, .ofNat steps, failed⟩ = steps := by
  rw [attempted_ofNat, Nat.mod_eq_of_lt h]

/-- A step leaves a report clean if it was carried out. -/
theorem isClean_step {α : Type} {r : Report} {answer : Except RuleError α} :
    (r.step answer).isClean = true ↔ r.isClean = true ∧ ∃ value, answer = .ok value := by
  cases answer with
  | ok value => simp [step, isClean]
  | error e => simp [step, isClean]

theorem not_isClean_step (α : Type) (r : Report) (e : RuleError) :
    ¬ (r.step (.error e : Except RuleError α)).isClean = true := by
  intro h
  obtain ⟨-, value, h⟩ := isClean_step.1 h
  cases h

end Divert.Report
