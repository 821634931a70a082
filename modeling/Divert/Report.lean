/-
# Divert.Report — the outcome of a sequence that never stops half-way.

Every step of a sequence is attempted whatever became of the earlier ones.  A report counts the steps
and keeps the failures in order, so that a sequence with failures stays observable.  The count is a
machine word of 64 bits that wraps around without notice, and so does the difference that the words of
the report give.
-/
import Divert.Command

namespace Divert

/-- How many steps a named sequence attempted, and which of them failed. -/
structure Report where
  operation : String
  /-- The number of steps, as far as 64 bits hold it. -/
  count : UInt64
  failures : List RuleError
  deriving DecidableEq, Repr

namespace Report

/-! ## Building a report -/

/-- The report of a sequence that has not started. -/
def start (operation : String) : Report := ⟨operation, 0, []⟩

/-- Count one step and keep its failure. -/
def step {α : Type} (r : Report) (outcome : Except RuleError α) : Report :=
  match outcome with
  | .ok _ => { r with count := r.count + 1 }
  | .error e => { r with count := r.count + 1, failures := r.failures ++ [e] }

/-- Add the steps of another report to this one. -/
def merge (r other : Report) : Report :=
  { r with count := r.count + other.count, failures := r.failures ++ other.failures }

/-! ## Reading a report -/

/-- How many steps were attempted. -/
def attempted (r : Report) : Nat := r.count.toNat

/-- Whether every step succeeded. -/
def isClean (r : Report) : Bool := r.failures.isEmpty

/-- The first failure, if there is one. -/
def result (r : Report) : Except RuleError Unit :=
  match r.failures with
  | [] => .ok ()
  | e :: _ => .error e

/-- How many of the steps succeeded, in words. -/
def summary (r : Report) : String :=
  s!"{r.operation}: {r.count - .ofNat r.failures.length}/{r.count} commands succeeded"

instance : ToString Report := ⟨summary⟩

end Report

end Divert
