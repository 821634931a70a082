/-
# Divert.Proofs.Lifecycle.Course — the course of the two sequences on any filter.

Nothing is known of the filter here: it may refuse every command, and it may contradict itself.  Still
both sequences run to their end.  The hooks are removed from one hook point and then from the other, in
a bounded number of calls each, and of the commands after that none is left out because an earlier one
was refused.  `Removal` says what a removal from one hook point comes to, with one lemma for each way in
which it can go on or end.

A report keeps to itself two kinds of errors: those of the checks for a rule, and those of the deletes
that are tried after a check that failed.  Every other error of a call is in it, in the order of the
calls, and one more for each hook point at which the deletes did not come to an end.
-/
import Divert.Proofs.Lifecycle.Parts
import Mathlib.Data.List.Basic

namespace Divert

open Script

namespace Lifecycle

variable {σ : Type} {b : Backend σ} {chain : ChainName} {hook : Hook} {rounds : Nat}

/-! ## The errors that a report owes -/

/-- Whether a call checks for a rule. -/
def checks (made : Call σ) : Bool := decide (made.command.action.op = .check)

/-- Whether a call deletes a rule. -/
def deletes (made : Call σ) : Bool := decide (made.command.action.op = .delete)

/-- Whether the filter carried out what a call asks for. -/
def succeeds (b : Backend σ) (made : Call σ) : Bool := (made.answer b).isOk

/-- The errors of some calls in a row, in order, but not those of the checks and of the deletes that
come right after a check that failed.  `blind` says whether such a check came just before. -/
def disclosed (b : Backend σ) (blind : Bool) : List (Call σ) → List RuleError
  | [] => []
  | made :: rest =>
    (if checks made || blind && deletes made then [] else refusals b [made]) ++
      disclosed b (checks made && !succeeds b made) rest

/-- As many deletes as there are rounds were carried out, and the last check did not say that the hook
is gone. -/
def Exhausted (b : Backend σ) (rounds : Nat) (calls : List (Call σ)) : Prop :=
  (calls.countP fun made => deletes made && succeeds b made) = rounds ∧
    (calls.filter checks).getLast?.map (Call.answer b) ≠ some (.ok false)

instance (b : Backend σ) (rounds : Nat) (calls : List (Call σ)) :
    Decidable (Exhausted b rounds calls) :=
  inferInstanceAs (Decidable (_ ∧ _))

/-- The failures that the removal of the hook from a hook point puts into its report: the errors of its
calls, and one more if its rounds were not enough. -/
def removalFailures (b : Backend σ) (chain : ChainName) (hook : Hook) (rounds : Nat)
    (calls : List (Call σ)) : List RuleError :=
  disclosed b false calls ++ if Exhausted b rounds calls then [tooManyCopies chain hook] else []

/-! ## The failures of a removal -/

section Failures

variable (chain hook) in
/-- The check for the hook. -/
def checkAt (s : σ) : Call σ := ⟨s, hookCommand chain hook .check⟩

variable (chain hook) in
/-- The delete of the hook. -/
def deleteAt (s : σ) : Call σ := ⟨s, hookCommand chain hook .delete⟩

variable {s between : σ} {e : RuleError} {value : Bool} {rest : List (Call σ)}

theorem succeeds_of_ok {made : Call σ} (h : made.answer b = .ok value) : succeeds b made = true := by
  rw [succeeds, h]
  rfl

theorem succeeds_of_error {made : Call σ} (h : made.answer b = .error e) :
    succeeds b made = false := by
  rw [succeeds, h]
  rfl

theorem disclosed_checkAt (blind : Bool) (s : σ) (rest : List (Call σ)) :
    disclosed b blind (checkAt chain hook s :: rest) =
      disclosed b (!succeeds b (checkAt chain hook s)) rest :=
  rfl

theorem disclosed_deleteAt (blind : Bool) (s : σ) (rest : List (Call σ)) :
    disclosed b blind (deleteAt chain hook s :: rest) =
      (if blind then [] else refusals b [deleteAt chain hook s]) ++ disclosed b false rest := by
  cases blind <;> rfl

/-- The successful deletes of a round and what comes after it. -/
theorem countP_round :
    ((checkAt chain hook s :: deleteAt chain hook between :: rest).countP fun made =>
        deletes made && succeeds b made) =
      (rest.countP fun made => deletes made && succeeds b made) +
        if succeeds b (deleteAt chain hook between) then 1 else 0 := by
  rw [List.countP_cons, List.countP_cons]
  rfl

/-- The removal ends with a check that does not find the hook. -/
theorem removalFailures_gone (rounds : Nat) (hcheck : (checkAt chain hook s).answer b = .ok false) :
    removalFailures b chain hook rounds [checkAt chain hook s] = [] := by
  have ended : ¬ Exhausted b rounds [checkAt chain hook s] := by
    rintro ⟨-, unsaid⟩
    exact unsaid (congrArg some hcheck)
  rw [removalFailures, disclosed_checkAt, if_neg ended]
  rfl

/-- The rounds are over, and the check does not say that the hook is gone. -/
theorem removalFailures_left (hcheck : (checkAt chain hook s).answer b ≠ .ok false) :
    removalFailures b chain hook 0 [checkAt chain hook s] = [tooManyCopies chain hook] := by
  have exhausted : Exhausted b 0 [checkAt chain hook s] :=
    ⟨rfl, fun said => hcheck (Option.some.inj said)⟩
  rw [removalFailures, disclosed_checkAt, if_pos exhausted]
  rfl

/-- The removal ends with a delete that is refused.  It has a round left for that, so this failure is
the only one, and without a check there is none. -/
theorem removalFailures_refused (hdelete : (deleteAt chain hook between).answer b = .error e) :
    removalFailures b chain hook (rounds + 1) [checkAt chain hook s, deleteAt chain hook between] =
      if succeeds b (checkAt chain hook s) then [e] else [] := by
  have left : ¬ Exhausted b (rounds + 1) [checkAt chain hook s, deleteAt chain hook between] := by
    rintro ⟨all, -⟩
    rw [countP_round, succeeds_of_error hdelete] at all
    cases all
  rw [removalFailures, disclosed_checkAt, disclosed_deleteAt, refusals_of_error hdelete, if_neg left]
  cases succeeds b (checkAt chain hook s) <;> rfl

/-- A round whose delete is carried out leaves every failure to the rounds after it. -/
theorem removalFailures_round (hdelete : (deleteAt chain hook between).answer b = .ok value)
    (opens : rest.head?.map Call.command = some (hookCommand chain hook .check)) :
    removalFailures b chain hook (rounds + 1)
        (checkAt chain hook s :: deleteAt chain hook between :: rest) =
      removalFailures b chain hook rounds rest := by
  have errors : disclosed b false (checkAt chain hook s :: deleteAt chain hook between :: rest) =
      disclosed b false rest := by
    rw [disclosed_checkAt, disclosed_deleteAt, refusals_of_ok hdelete, ite_self, List.nil_append]
  -- What comes after begins with a check of its own, so the last check is the same.
  have last : ((checkAt chain hook s :: deleteAt chain hook between :: rest).filter checks).getLast? =
      (rest.filter checks).getLast? := by
    obtain ⟨first, hfirst, hcommand⟩ := Option.map_eq_some_iff.1 opens
    obtain ⟨tail, rfl⟩ := List.head?_eq_some_iff.1 hfirst
    have checked : checks first = true := by
      rw [checks, hcommand]
      rfl
    have found : checks (checkAt chain hook s) = true := rfl
    have skipped : ¬ checks (deleteAt chain hook between) = true := Bool.false_ne_true
    rw [List.filter_cons_of_pos found, List.filter_cons_of_neg skipped,
      List.filter_cons_of_pos checked, List.getLast?_cons_cons]
  have exhausted : Exhausted b (rounds + 1)
      (checkAt chain hook s :: deleteAt chain hook between :: rest) ↔ Exhausted b rounds rest := by
    rw [Exhausted, Exhausted, last, countP_round, succeeds_of_ok hdelete, if_pos rfl,
      Nat.add_right_cancel_iff]
  rw [removalFailures, removalFailures, errors, if_congr exhausted rfl rfl]

end Failures

/-! ## Removals -/

/-- The calls of a removal of the hook from one hook point, in some rounds. -/
structure Removal (chain : ChainName) (hook : Hook) (rounds : Nat) (calls : List (Call σ)) :
    Prop where
  unhooks : ∀ made ∈ calls, Unhooks chain hook made.command
  length_le : calls.length ≤ 2 * rounds + 1
  deletes_le : calls.countP deletes ≤ rounds

namespace Removal

variable {calls : List (Call σ)}

theorem nothing (chain : ChainName) (hook : Hook) (rounds : Nat) :
    Removal chain hook rounds ([] : List (Call σ)) :=
  ⟨fun _ h => absurd h List.not_mem_nil, Nat.zero_le _, Nat.zero_le _⟩

/-- A removal may consist of a single check. -/
theorem check (chain : ChainName) (hook : Hook) (rounds : Nat) (s : σ) :
    Removal chain hook rounds [checkAt chain hook s] where
  unhooks _ h := List.mem_singleton.1 h ▸ .check
  length_le := Nat.le_add_left 1 _
  deletes_le := Nat.zero_le _

/-- A check and a delete take one round. -/
theorem round (h : Removal chain hook rounds calls) (s between : σ) :
    Removal chain hook (rounds + 1)
      (checkAt chain hook s :: deleteAt chain hook between :: calls) where
  unhooks made hmade := by
    rcases List.mem_cons.1 hmade with rfl | hmade
    · exact .check
    rcases List.mem_cons.1 hmade with rfl | hmade
    · exact .delete
    · exact h.unhooks made hmade
  length_le := by
    have rest := h.length_le
    rw [List.length_cons, List.length_cons]
    omega
  deletes_le := by
    have skipped : ¬ deletes (checkAt chain hook s) = true := Bool.false_ne_true
    have counted : deletes (deleteAt chain hook between) = true := rfl
    rw [List.countP_cons_of_neg skipped, List.countP_cons_of_pos counted]
    exact Nat.succ_le_succ h.deletes_le

end Removal

/-- A removal begins with a check, whatever its report is. -/
theorem removeCopies_opens (chain : ChainName) (hook : Hook) (rounds : Nat) (report : Report) (s : σ) :
    ((removeCopies chain hook rounds report).calls b s).head?.map Call.command =
      some (hookCommand chain hook .check) := by
  cases rounds <;> rfl

/-- **The course of a removal.** Whatever the answers are, a removal stays within its rounds, and its
report gets the failures that are due. -/
theorem removeCopies_course (b : Backend σ) (chain : ChainName) (hook : Hook) (rounds : Nat)
    (report : Report) (s : σ) :
    Removal chain hook rounds ((removeCopies chain hook rounds report).calls b s) ∧
      ((removeCopies chain hook rounds report).eval b s).1.failures = report.failures ++
        removalFailures b chain hook rounds ((removeCopies chain hook rounds report).calls b s) := by
  induction rounds generalizing report s with
  | zero =>
    rcases hcheck : b.answer s (hookCommand chain hook .check) with ⟨answer, s₁⟩
    have hask : (issue (hookCommand chain hook .check)).eval b s = (answer, s₁) := hcheck
    have said : (checkAt chain hook s).answer b = answer := congrArg Prod.fst hcheck
    rw [removeCopies, eval_bind_of hask, calls_bind_of hask, calls_issue]
    rcases answer with e | ⟨_ | _⟩
    case ok.false =>
      refine ⟨.check chain hook 0 s, ?_⟩
      exact (List.append_nil _).symm.trans (congrArg _ (removalFailures_gone 0 said).symm)
    all_goals
      refine ⟨.check chain hook 0 s, ?_⟩
      exact congrArg _ (removalFailures_left (by simp [said])).symm
  | succ rounds ih =>
    rcases hcheck : b.answer s (hookCommand chain hook .check) with ⟨answer, s₁⟩
    rcases hdelete : b.answer s₁ (hookCommand chain hook .delete) with ⟨deleted, s₂⟩
    have hask : (issue (hookCommand chain hook .check)).eval b s = (answer, s₁) := hcheck
    have said : (checkAt chain hook s).answer b = answer := congrArg Prod.fst hcheck
    have done : (deleteAt chain hook s₁).answer b = deleted := congrArg Prod.fst hdelete
    have again (report : Report) := removeCopies_opens (b := b) chain hook rounds report s₂
    rw [removeCopies, eval_bind_of hask, calls_bind_of hask, calls_issue]
    rcases answer with e | ⟨_ | _⟩
    case ok.false =>
      refine ⟨.check chain hook _ s, ?_⟩
      exact (List.append_nil _).symm.trans (congrArg _ (removalFailures_gone _ said).symm)
    -- A delete after a check that found the hook is a step of the report.
    case ok.true =>
      have hstep := eval_attempt_of hdelete report
      dsimp only
      rw [eval_bind_of hstep, calls_bind_of hstep, calls_attempt]
      cases deleted with
      | error e =>
        refine ⟨(Removal.nothing chain hook rounds).round s s₁, ?_⟩
        show report.failures ++ [e] = report.failures ++ removalFailures b chain hook (rounds + 1)
          [checkAt chain hook s, deleteAt chain hook s₁]
        rw [removalFailures_refused done, succeeds_of_ok said, if_pos rfl]
      | ok value =>
        obtain ⟨within, failures⟩ := ih (report.step (.ok value : Answer)) s₂
        refine ⟨within.round s s₁, failures.trans ?_⟩
        exact congrArg _ (removalFailures_round done (again _)).symm
    -- A delete after a check that failed is none, and its error is dropped.
    case error =>
      have hstep : (issue (hookCommand chain hook .delete)).eval b s₁ = (deleted, s₂) := hdelete
      dsimp only
      rw [eval_bind, eval_log, eval_bind_of hstep, calls_bind, calls_log, eval_log, List.nil_append,
        calls_bind_of hstep, calls_issue]
      cases deleted with
      | error e' =>
        refine ⟨(Removal.nothing chain hook rounds).round s s₁, ?_⟩
        show report.failures = report.failures ++ removalFailures b chain hook (rounds + 1)
          [checkAt chain hook s, deleteAt chain hook s₁]
        rw [removalFailures_refused done, succeeds_of_error said, if_neg Bool.false_ne_true,
          List.append_nil]
      | ok value =>
        obtain ⟨within, failures⟩ := ih report s₂
        refine ⟨within.round s s₁, failures.trans ?_⟩
        exact congrArg _ (removalFailures_round done (again _)).symm

/-! ## The commands after the removals -/

/-- Attempt some commands one after the other, whatever becomes of them. -/
def attemptAll (report : Report) (commands : List Command) : Script Report :=
  commands.foldlM (fun report command => do
    let (_, report) ← attempt report command
    return report) report

theorem enable_eq_attemptAll (chain : ChainName) :
    enable chain = (do
      let report ← removeHooks chain (.start "enable")
      let report ← ensureChain chain report
      let report ← attemptAll report
        [chainCommand chain .flush, chainCommand chain (.append Rule.loopback),
          hookCommand chain .output (.insert 1), hookCommand chain .prerouting (.insert 1)]
      log (.chainEnabled chain report)
      return report) := by
  simp only [enable_eq, fill, insertHooks_eq, insertHook, attemptAll, List.foldlM_cons,
    List.foldlM_nil, bind_assoc, pure_bind]

theorem disable_eq_attemptAll (chain : ChainName) :
    disable chain = (do
      let report ← removeHooks chain (.start "disable")
      let report ← attemptAll report [chainCommand chain .flush, chainCommand chain .remove]
      log (.chainDisabled chain report)
      return report) := by
  simp only [disable_eq, dismantle, attemptAll, List.foldlM_cons, List.foldlM_nil, bind_assoc,
    pure_bind]

theorem failures_step (b : Backend σ) (made : Call σ) (report : Report) :
    (report.step (made.answer b)).failures = report.failures ++ refusals b [made] := by
  cases h : made.answer b with
  | ok value => rw [refusals_of_ok h, List.append_nil]; rfl
  | error e => rw [refusals_of_error h]; rfl

/-- Every one of the commands is issued, and its error is reported. -/
theorem attemptAll_course (b : Backend σ) (report : Report) (commands : List Command) (s : σ) :
    ((attemptAll report commands).calls b s).map Call.command = commands ∧
      ((attemptAll report commands).eval b s).1.failures =
        report.failures ++ refusals b ((attemptAll report commands).calls b s) := by
  induction commands generalizing report s with
  | nil => exact ⟨rfl, (List.append_nil _).symm⟩
  | cons command rest ih =>
    have made : attemptAll report (command :: rest) = (do
        let (_, report) ← attempt report command
        attemptAll report rest) := by
      simp only [attemptAll, List.foldlM_cons, bind_assoc, pure_bind]
    obtain ⟨commands, failures⟩ := ih (report.step (b.answer s command).1) (b.answer s command).2
    rw [made, eval_bind, eval_attempt, calls_bind, eval_attempt, calls_attempt]
    dsimp only
    refine ⟨congrArg (command :: ·) commands, ?_⟩
    rw [failures, refusals_append, ← List.append_assoc]
    exact congrArg (· ++ _) (failures_step b ⟨s, command⟩ report)

/-- The chain is asked for, and created unless the answer is that it exists. -/
theorem ensureChain_course (b : Backend σ) (chain : ChainName) (report : Report) (s : σ) :
    ∃ asked created, (ensureChain chain report).calls b s = asked :: created ∧
      asked.command = chainCommand chain .probe ∧
      created.map Call.command =
        (if asked.answer b = .ok true then [] else [chainCommand chain .create]) ∧
      ((ensureChain chain report).eval b s).1.failures =
        report.failures ++ refusals b (asked :: created) := by
  rcases hprobe : b.answer s (chainCommand chain .probe) with ⟨answer, s₁⟩
  have hstep := eval_attempt_of hprobe report
  have said : Call.answer b ⟨s, chainCommand chain .probe⟩ = answer := congrArg Prod.fst hprobe
  have probed := failures_step b ⟨s, chainCommand chain .probe⟩ report
  have created := failures_step b ⟨s₁, chainCommand chain .create⟩ (report.step answer)
  rw [said] at probed
  rw [ensureChain, eval_bind_of hstep, calls_bind_of hstep, calls_attempt]
  dsimp only
  by_cases hfound : answer = .ok true
  · subst hfound
    exact ⟨⟨s, _⟩, [], rfl, rfl, (if_pos said).symm, probed⟩
  · have missing : answer.toOption ≠ some true := by
      cases answer with
      | error e => exact nofun
      | ok value => exact fun h => hfound (congrArg Except.ok (Option.some.inj h))
    rw [if_neg missing, eval_bind, calls_bind, calls_attempt, eval_attempt]
    refine ⟨⟨s, _⟩, [⟨s₁, chainCommand chain .create⟩], rfl, rfl, ?_, ?_⟩
    · exact (if_neg (said.trans_ne hfound)).symm
    · rw [← List.singleton_append, refusals_append, ← List.append_assoc, ← probed]
      exact created

/-! ## The sequences -/

/-- The hooks are removed from one hook point after the other. -/
theorem removeHooks_course (b : Backend σ) (chain : ChainName) (report : Report) (s : σ) :
    ∃ output prerouting, (removeHooks chain report).calls b s = output ++ prerouting ∧
      Removal chain .output 16 output ∧ Removal chain .prerouting 16 prerouting ∧
      ((removeHooks chain report).eval b s).1.failures = report.failures ++
        (removalFailures b chain .output 16 output ++
          removalFailures b chain .prerouting 16 prerouting) := by
  rcases hfirst : (removeCopies chain .output maxHookCopies report).eval b s with ⟨r₁, s₁⟩
  obtain ⟨output, failuresOutput⟩ := removeCopies_course b chain .output maxHookCopies report s
  obtain ⟨prerouting, failuresPrerouting⟩ :=
    removeCopies_course b chain .prerouting maxHookCopies r₁ s₁
  rw [hfirst] at failuresOutput
  rw [removeHooks_eq, calls_bind_of hfirst, eval_bind_of hfirst]
  refine ⟨_, _, rfl, output, prerouting, ?_⟩
  rw [failuresPrerouting, failuresOutput, List.append_assoc]
  rfl

/-- The course of enabling: the calls and the failures that are reported.  The hooks are removed from
both hook points; then the chain is asked for, created unless the answer is that it exists, emptied and
filled, and the hooks are put in front.  Every error of a call after the removals is reported. -/
def Enables (b : Backend σ) (chain : ChainName) (calls : List (Call σ)) (failures : List RuleError) :
    Prop :=
  ∃ output prerouting asked others, calls = output ++ prerouting ++ asked :: others ∧
    Removal chain .output 16 output ∧ Removal chain .prerouting 16 prerouting ∧
    asked.command = chainCommand chain .probe ∧
    others.map Call.command =
      (if asked.answer b = .ok true then [] else [chainCommand chain .create]) ++
        [chainCommand chain .flush, chainCommand chain (.append Rule.loopback),
          hookCommand chain .output (.insert 1), hookCommand chain .prerouting (.insert 1)] ∧
    failures = removalFailures b chain .output 16 output ++
      removalFailures b chain .prerouting 16 prerouting ++ refusals b (asked :: others)

/-- The course of disabling.  After the same removals, the chain is emptied and deleted. -/
def Disables (b : Backend σ) (chain : ChainName) (calls : List (Call σ)) (failures : List RuleError) :
    Prop :=
  ∃ output prerouting others, calls = output ++ prerouting ++ others ∧
    Removal chain .output 16 output ∧ Removal chain .prerouting 16 prerouting ∧
    others.map Call.command = [chainCommand chain .flush, chainCommand chain .remove] ∧
    failures = removalFailures b chain .output 16 output ++
      removalFailures b chain .prerouting 16 prerouting ++ refusals b others

theorem enable_course (b : Backend σ) (chain : ChainName) (s : σ) :
    Enables b chain ((enable chain).calls b s) ((enable chain).eval b s).1.failures := by
  rcases hremove : (removeHooks chain (.start "enable")).eval b s with ⟨r₁, s₁⟩
  rcases hensure : (ensureChain chain r₁).eval b s₁ with ⟨r₂, s₂⟩
  obtain ⟨output, prerouting, calls, houtput, hprerouting, failures⟩ :=
    removeHooks_course b chain (.start "enable") s
  obtain ⟨asked, created, callsEnsure, probe, create, failuresEnsure⟩ :=
    ensureChain_course b chain r₁ s₁
  obtain ⟨commands, failuresAttempts⟩ := attemptAll_course b r₂
    [chainCommand chain .flush, chainCommand chain (.append Rule.loopback),
      hookCommand chain .output (.insert 1), hookCommand chain .prerouting (.insert 1)] s₂
  rw [hremove] at failures
  rw [hensure] at failuresEnsure
  rw [enable_eq_attemptAll, calls_bind_of hremove, calls_bind_of hensure, calls_bind, calls_bind,
    calls_log, calls_pure, calls, callsEnsure, eval_bind_of hremove, eval_bind_of hensure, eval_bind]
  generalize (attemptAll r₂ _).calls b s₂ = issued at commands failuresAttempts ⊢
  refine ⟨output, prerouting, asked, created ++ issued, ?_, houtput, hprerouting, probe, ?_, ?_⟩
  · simp only [List.append_nil, List.cons_append]
  · rw [List.map_append, create, commands]
  · refine failuresAttempts.trans ?_
    rw [failuresEnsure, failures, ← List.cons_append, refusals_append]
    simp only [Report.start, List.nil_append, List.append_assoc]

theorem disable_course (b : Backend σ) (chain : ChainName) (s : σ) :
    Disables b chain ((disable chain).calls b s) ((disable chain).eval b s).1.failures := by
  rcases hremove : (removeHooks chain (.start "disable")).eval b s with ⟨r₁, s₁⟩
  obtain ⟨output, prerouting, calls, houtput, hprerouting, failures⟩ :=
    removeHooks_course b chain (.start "disable") s
  obtain ⟨commands, failuresAttempts⟩ := attemptAll_course b r₁
    [chainCommand chain .flush, chainCommand chain .remove] s₁
  rw [hremove] at failures
  rw [disable_eq_attemptAll, calls_bind_of hremove, calls_bind, calls_bind, calls_log, calls_pure,
    calls, eval_bind_of hremove, eval_bind]
  generalize (attemptAll r₁ _).calls b s₁ = issued at commands failuresAttempts ⊢
  refine ⟨output, prerouting, issued, ?_, houtput, hprerouting, commands, ?_⟩
  · simp only [List.append_nil]
  · refine failuresAttempts.trans ?_
    rw [failures]
    rfl

section Bounds

variable {calls : List (Call σ)} {failures : List RuleError}

/-- A removal from a hook point takes thirty-three calls at most. -/
theorem Enables.length_le (h : Enables b chain calls failures) : calls.length ≤ 72 := by
  obtain ⟨output, prerouting, asked, others, rfl, houtput, hprerouting, -, commands, -⟩ := h
  have first := houtput.length_le
  have second := hprerouting.length_le
  have steps : others.length ≤ 5 := by
    rw [← List.length_map Call.command, commands, List.length_append]
    split <;> simp
  simp only [List.length_append, List.length_cons]
  omega

theorem Disables.length_le (h : Disables b chain calls failures) : calls.length ≤ 68 := by
  obtain ⟨output, prerouting, others, rfl, houtput, hprerouting, commands, -⟩ := h
  have first := houtput.length_le
  have second := hprerouting.length_le
  have steps : others.length = 2 := by
    rw [← List.length_map Call.command, commands]
    rfl
  simp only [List.length_append]
  omega

/-- Disabling creates nothing and adds no rule. -/
theorem Disables.takes_away (h : Disables b chain calls failures) {made : Call σ}
    (hmade : made ∈ calls) : made.command.action.op ∉ [.create, .append, .insert] := by
  obtain ⟨output, prerouting, others, rfl, houtput, hprerouting, commands, -⟩ := h
  have unhooking {hook : Hook} (issued : Unhooks chain hook made.command) :
      made.command.action.op ∉ [.create, .append, .insert] := by
    generalize made.command = c at issued
    cases issued with
    | check => exact (by decide : Op.check ∉ [.create, .append, .insert])
    | delete => exact (by decide : Op.delete ∉ [.create, .append, .insert])
  rcases List.mem_append.1 hmade with hmade | hmade
  · rcases List.mem_append.1 hmade with hmade | hmade
    · exact unhooking (houtput.unhooks made hmade)
    · exact unhooking (hprerouting.unhooks made hmade)
  · have issued := List.mem_map_of_mem (f := Call.command) hmade
    rw [commands] at issued
    rcases List.mem_cons.1 issued with hcommand | issued
    · rw [hcommand]
      exact (by decide : Op.flush ∉ [.create, .append, .insert])
    · rw [List.mem_singleton.1 issued]
      exact (by decide : Op.remove ∉ [.create, .append, .insert])

end Bounds

/-- **The sequences run their course.** On any filter whatsoever, whatever it answers: enabling issues
the commands of its course, and reports the failures that are due, in at most 72 calls; disabling does
so in at most 68, and neither creates a chain nor adds a rule. -/
theorem runs_full_course (b : Backend σ) (chain : ChainName) (s : σ) :
    Enables b chain ((enable chain).calls b s) ((enable chain).eval b s).1.failures ∧
      ((enable chain).calls b s).length ≤ 72 ∧
      Disables b chain ((disable chain).calls b s) ((disable chain).eval b s).1.failures ∧
      ((disable chain).calls b s).length ≤ 68 ∧
      ∀ made ∈ (disable chain).calls b s,
        made.command.action.op ∉ [.create, .append, .insert] := by
  have enables := enable_course b chain s
  have disables := disable_course b chain s
  exact ⟨enables, enables.length_le, disables, disables.length_le, fun _ => disables.takes_away⟩

/-- A filter that finds every rule however often it is deleted, and cannot say which chains it has. -/
def stubborn : Backend Unit where
  answer _ c := (if c.action.op = .probe then .error (c.refused "busy") else .ok true, ())
  notices _ _ := []

/-- On such a filter every round is used up at both hook points, and enabling takes all of its calls. -/
theorem runs_full_course_stubborn :
    let chain : ChainName := ⟨"A", by decide⟩
    let calls := (enable chain).calls stubborn ()
    let failures := [tooManyCopies chain .output, tooManyCopies chain .prerouting,
      (chainCommand chain .probe).refused "busy"]
    calls.length = 72 ∧ Enables stubborn chain calls failures ∧
      ∃ made ∈ (disable chain).calls stubborn (), made.command = chainCommand chain .remove ∧
        made.command.action.op ∉ [.create, .append, .insert] := by
  intro chain calls failures
  have reported : ((enable chain).eval stubborn ()).1.failures = failures := by decide +kernel
  have issued : chainCommand chain .remove ∈
      ((disable chain).calls stubborn ()).map Call.command := by decide +kernel
  obtain ⟨made, hmade, hcommand⟩ := List.mem_map.1 issued
  obtain ⟨enables, -, -, -, takesAway⟩ := runs_full_course stubborn chain ()
  exact ⟨by decide +kernel, reported ▸ enables, made, hmade, hcommand, takesAway made hmade⟩

end Lifecycle

end Divert
