/-
# Divert.Proofs.Lifecycle.Copies — how many copies of a hook a removal takes away.

Removing the hook from a hook point takes away the first copies of it, up to the given number of
rounds, each of them a step of the report.  If copies are left, one more step fails.  This is the loop
of the lifecycle, on a filter in memory that nothing is made to fail.
-/
import Divert.Lifecycle
import Divert.Proofs.Filter.Memory
import Divert.Proofs.Script.Run

namespace Divert

/-! ## The first copies of a rule -/

/-- The rules without the first `n` copies of one of them. -/
def eraseCopies (rule : String) : Nat → List String → List String
  | 0, rules => rules
  | n + 1, rules => eraseCopies rule n (rules.erase rule)

theorem eraseCopies_of_notMem {rule : String} {rules : List String} (h : rule ∉ rules) (n : Nat) :
    eraseCopies rule n rules = rules := by
  induction n with
  | zero => rfl
  | succ n ih => rw [eraseCopies, List.erase_of_not_mem h, ih]

theorem count_eraseCopies (rule : String) (n : Nat) (rules : List String) :
    (eraseCopies rule n rules).count rule = rules.count rule - n := by
  induction n generalizing rules with
  | zero => rfl
  | succ n ih =>
    rw [eraseCopies, ih, List.count_erase_self]
    omega

theorem eraseCopies_add (rule : String) (m n : Nat) (rules : List String) :
    eraseCopies rule (m + n) rules = eraseCopies rule n (eraseCopies rule m rules) := by
  induction m generalizing rules with
  | zero => rw [Nat.zero_add, eraseCopies]
  | succ m ih => rw [Nat.succ_add, eraseCopies, ih, eraseCopies]

/-- No more copies go than there are. -/
theorem eraseCopies_min (rule : String) (n : Nat) (rules : List String) :
    eraseCopies rule (min (rules.count rule) n) rules = eraseCopies rule n rules := by
  by_cases h : rules.count rule ≤ n
  · have gone : rule ∉ eraseCopies rule (rules.count rule) rules := by
      rw [← List.count_eq_zero, count_eraseCopies, Nat.sub_self]
    obtain ⟨more, rfl⟩ := Nat.exists_eq_add_of_le h
    rw [Nat.min_eq_left h, eraseCopies_add, eraseCopies_of_notMem gone]
  · rw [Nat.min_eq_right (Nat.le_of_not_le h)]

theorem eraseCopies_cons_of_ne {rule other : String} (h : other ≠ rule) (n : Nat)
    (rules : List String) :
    eraseCopies rule n (other :: rules) = other :: eraseCopies rule n rules := by
  induction n generalizing rules with
  | zero => rfl
  | succ n ih => rw [eraseCopies, List.erase_cons_tail (by simpa using h), ih, eraseCopies]

/-- The copies in front go first: those of a first part go, and what follows it stays. -/
theorem eraseCopies_append (rule : String) (first rest : List String) :
    eraseCopies rule (first.count rule) (first ++ rest) =
      (first.filter fun other => decide (other ≠ rule)) ++ rest := by
  induction first with
  | nil => rfl
  | cons other first ih =>
    by_cases h : other = rule
    · subst h
      rw [List.count_cons_self, eraseCopies, List.cons_append, List.erase_cons_head, ih]
      simp
    · rw [List.count_cons_of_ne h, List.cons_append, eraseCopies_cons_of_ne h, ih]
      simp [h]

namespace Lifecycle

open Script

/-- What the removal of `found` copies of a hook in at most `rounds` rounds adds to a report. -/
def reportCopies (chain : ChainName) (hook : Hook) (rounds found : Nat) (report : Report) : Report :=
  if rounds < found then report.plus (rounds + 1) [tooManyCopies chain hook]
  else report.plus found []

theorem reportCopies_zero (chain : ChainName) (hook : Hook) (rounds : Nat) (report : Report) :
    reportCopies chain hook rounds 0 report = report := by
  simp [reportCopies]

/-- One copy removed is one step done and one round less. -/
theorem reportCopies_succ (chain : ChainName) (hook : Hook) (rounds found : Nat) (report : Report) :
    reportCopies chain hook rounds found (report.plus 1 []) =
      reportCopies chain hook (rounds + 1) (found + 1) report := by
  simp only [reportCopies, Nat.add_lt_add_iff_right, Report.plus_plus, List.nil_append]
  rw [Nat.add_comm 1 found, Nat.add_comm 1 (rounds + 1)]

/-- **Removal of copies.** At most `rounds` copies go, the first ones first, and the report counts
them; a copy that is left makes one more step fail. -/
theorem removeCopies_eval {m : Memory} {view : Chains} (h : m.Shows view) (chain : ChainName)
    {hook : Hook} {rules : List String} (hrules : view natTable hook.chain = some rules)
    (rounds : Nat) (report : Report) :
    ∃ after, (removeCopies chain hook rounds report).eval Memory.backend m =
        (reportCopies chain hook rounds (rules.count (Rule.jump chain)) report, after) ∧
      after.Shows (view.set natTable hook.chain
        (some (eraseCopies (Rule.jump chain) rounds rules))) := by
  -- Each round deletes the first copy, so the rules change from round to round.
  induction rounds generalizing m view rules report with
  | zero =>
    obtain ⟨after, hcheck, hafter⟩ := h.check hrules (Rule.normalise_jump chain)
    have hask : (issue (hookCommand chain hook .check)).eval Memory.backend m = _ := hcheck
    rw [removeCopies, eval_bind_of hask]
    refine ⟨after, ?_, ?_⟩
    -- The rounds are used up: a copy that is still found is the failure.
    · by_cases hmem : Rule.jump chain ∈ rules
      · have hcount : 0 < rules.count (Rule.jump chain) := List.count_pos_iff.2 hmem
        simp only [hmem, decide_true, reportCopies, hcount, if_true]
        rfl
      · simp only [hmem, decide_false, List.count_eq_zero.2 hmem, reportCopies_zero]
        rfl
    · rwa [eraseCopies, Chains.set_eq_self _ _ _ _ hrules]
  | succ rounds ih =>
    obtain ⟨checked, hcheck, hchecked⟩ := h.check hrules (Rule.normalise_jump chain)
    have hask : (issue (hookCommand chain hook .check)).eval Memory.backend m = _ := hcheck
    rw [removeCopies, eval_bind_of hask]
    by_cases hmem : Rule.jump chain ∈ rules
    · obtain ⟨deleted, hdelete, hdeleted⟩ :=
        hchecked.delete hrules (Rule.normalise_jump chain) hmem
      have hstep : (attempt report (hookCommand chain hook .delete)).eval Memory.backend checked =
          ((some true, report.plus 1 []), deleted) := eval_attempt_ok hdelete report
      obtain ⟨after, hrest, hafter⟩ := ih hdeleted (Chains.set_self ..) (report.plus 1 [])
      refine ⟨after, ?_, ?_⟩
      · have hcount : rules.count (Rule.jump chain) =
            (rules.erase (Rule.jump chain)).count (Rule.jump chain) + 1 := by
          have hpos := List.count_pos_iff.2 hmem
          rw [List.count_erase_self]
          omega
        simp only [hmem, decide_true]
        rw [eval_bind_of hstep, hcount, ← reportCopies_succ, ← hrest]
        rfl
      · rwa [Chains.set_set] at hafter
    · refine ⟨checked, ?_, ?_⟩
      · simp only [hmem, decide_false, List.count_eq_zero.2 hmem, reportCopies_zero]
        rfl
      · rwa [eraseCopies_of_notMem hmem, Chains.set_eq_self _ _ _ _ hrules]

end Lifecycle

end Divert
