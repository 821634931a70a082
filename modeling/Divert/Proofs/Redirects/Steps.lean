/-
# Divert.Proofs.Redirects.Steps — what becomes of a key, by the answers.

Clearing a key takes one command and forwarding it at most two: the deletion of the recorded rule and
the addition of the new one.  Whatever the filter is, its answers to these decide the report and the
record.  A refused deletion keeps the key, and a refused addition leaves it without a record.  If the
filter is faithful, they decide what becomes of the rules of our chain as well.
-/
import Divert.Proofs.Filter.Memory
import Divert.Proofs.Redirects.Record
import Divert.Proofs.Script.Run

namespace Divert.Redirects

open Script

variable {σ : Type} {b : Backend σ} {chain : ChainName} {r dropped : Redirects} {key : Key}
  {port : UInt16} {s between after : σ} {e : RuleError} {value : Bool} {report : Report}

/-! ## Dropping a key -/

theorem drop_of_none (h : r.get? key = none) (report : Report) :
    r.drop chain key report = pure (report, r) := by
  rw [drop, h]

theorem drop_refused (hrecord : r.get? key = some port)
    (h : b.answer s (command chain key port .delete) = (.error e, after)) (report : Report) :
    (r.drop chain key report).eval b s = ((report.plus 1 [e], r), after) := by
  simp only [drop, hrecord]
  rw [eval_bind_of (eval_attempt_error h report)]
  rfl

theorem drop_deleted (hrecord : r.get? key = some port)
    (h : b.answer s (command chain key port .delete) = (.ok value, after)) (report : Report) :
    (r.drop chain key report).eval b s = ((report.plus 1 [], ⟨r.ports.erase key⟩), after) := by
  simp only [drop, hrecord]
  rw [eval_bind_of (eval_attempt_ok h report)]
  rfl

/-! ## Forwarding a key -/

section Dropped

variable (hdrop : (r.drop chain key (.start "forward")).eval b s = ((report, dropped), between))

include hdrop

/-- A key that could not be dropped is left as it is. -/
theorem forward_kept (hkept : (dropped.get? key).isSome = true) (port : UInt16) :
    (r.forward chain key port).eval b s = ((report, dropped), between) := by
  rw [forward, eval_bind_of hdrop]
  simp only [hkept, if_true]
  rfl

theorem forward_refused (hnone : dropped.get? key = none)
    (h : b.answer between (command chain key port .append) = (.error e, after)) :
    (r.forward chain key port).eval b s = ((report.plus 1 [e], dropped), after) := by
  rw [forward, eval_bind_of hdrop]
  simp only [hnone, Option.isSome_none, Bool.false_eq_true, if_false]
  rw [eval_bind_of (eval_attempt_error h report)]
  rfl

theorem forward_added (hnone : dropped.get? key = none)
    (h : b.answer between (command chain key port .append) = (.ok value, after)) :
    (r.forward chain key port).eval b s =
      ((report.plus 1 [], ⟨dropped.ports.put key port⟩), after) := by
  rw [forward, eval_bind_of hdrop]
  simp only [hnone, Option.isSome_none, Bool.false_eq_true, if_false]
  rw [eval_bind_of (eval_attempt_ok h report)]
  rfl

end Dropped

/-! ## The rules of our chain -/

section Faithful

variable {rules : σ → Chains}

theorem rules_of_deleted (faithful : b.Faithful rules)
    (h : b.answer s (command chain key port .delete) = (.ok value, after)) :
    rules after natTable chain.text =
      (rules s natTable chain.text).map fun own => own.erase (Rule.redirect key port) := by
  have effect := faithful.own (congrArg Prod.fst h)
  rw [h] at effect
  simp only [command, Action.mapRule, Rule.normalise_redirect] at effect
  exact effect

theorem rules_of_added (faithful : b.Faithful rules)
    (h : b.answer s (command chain key port .append) = (.ok value, after)) :
    rules after natTable chain.text =
      (rules s natTable chain.text).map fun own => own ++ [Rule.redirect key port] := by
  have effect := faithful.own (congrArg Prod.fst h)
  rw [h] at effect
  simp only [command, Action.mapRule, Rule.normalise_redirect] at effect
  exact effect

end Faithful

end Divert.Redirects
