/-
# Divert.Faults — a filter some of whose calls are lost.

A schedule names calls by their kind and their number, counted from one within the kind, and gives a
reason.  A call that is named never reaches the filter behind; it is refused with that reason, and the
refusal carries the rule as the caller wrote it.  Lost calls are counted like any other.
-/
import Divert.Script

namespace Divert

/-- The call number `nth` of a kind of command is lost. -/
structure Fault where
  op : Op
  nth : Nat
  reason : String
  deriving DecidableEq, Repr

/-- A filter behind a schedule of lost calls. -/
structure Faulty (σ : Type) where
  inner : σ
  schedule : List Fault
  /-- The kinds of the calls so far. -/
  calls : List Op

namespace Faulty

variable {σ : Type}

/-- The number of the next call of a kind. -/
def nextCall (f : Faulty σ) (op : Op) : Nat := f.calls.count op + 1

/-- The reason for which the next call of a kind is lost; of several entries the first counts. -/
def lost? (f : Faulty σ) (op : Op) : Option String :=
  (f.schedule.find? fun fault => decide (fault.op = op ∧ fault.nth = f.nextCall op)).map Fault.reason

/-- The filter behind the schedule as a backend. -/
def backend (inner : Backend σ) : Backend (Faulty σ) where
  answer f command :=
    let counted := { f with calls := command.action.op :: f.calls }
    match f.lost? command.action.op with
    | some reason => (.error (command.refused reason), counted)
    | none =>
      let (answer, state) := inner.answer f.inner command
      (answer, { counted with inner := state })
  notices f command :=
    match f.lost? command.action.op with
    | some _ => []
    | none => inner.notices f.inner command

end Faulty

end Divert
