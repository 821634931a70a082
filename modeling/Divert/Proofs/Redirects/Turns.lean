/-
# Divert.Proofs.Redirects.Turns — for each key, additions and deletions take turns.

Nothing is known of the filter here: it may answer every command as it likes, so the rules of the chain
say nothing.  What can be told is which commands it acknowledged.  For each key these are additions and
deletions in turn, each deletion with the port of the addition before it, and the record holds the port
of the addition that has not been deleted yet.  So the record is right about a filter that does what it
acknowledges, whatever else it refuses.
-/
import Divert.Iptables
import Divert.Proofs.Redirects.Steps
import Divert.Proofs.Rule.Ports
import Divert.Proofs.Script.Calls

namespace Divert

open Script

/-! ## Commands about a key -/

/-- Whether a command is about the rule of a redirect for the key. -/
def Command.concerns (key : Key) (c : Command) : Bool :=
  (c.action.rule?.bind (Rule.port? key)).isSome

theorem Command.concerns_iff {key : Key} {c : Command} :
    c.concerns key = true ↔ ∃ port, c.action.rule? = some (Rule.redirect key port) := by
  unfold concerns
  rw [Option.isSome_iff_exists]
  simp only [Option.bind_eq_some_iff, Rule.port?_eq_some_iff]
  constructor
  · rintro ⟨port, rule, hrule, rfl⟩
    exact ⟨port, hrule⟩
  · rintro ⟨port, hrule⟩
    exact ⟨port, _, hrule, rfl⟩

namespace Redirects

variable {σ : Type} {b : Backend σ} {chain : ChainName} {r : Redirects} {key other : Key}
  {port : UInt16} {s : σ}

/-- A command on the rule of a redirect is about the key of the redirect and no other. -/
theorem concerns_command {action : String → Action} (hrule : ∀ rule, (action rule).rule? = some rule) :
    (command chain key port action).concerns other = decide (key = other) := by
  rw [Bool.eq_iff_iff, decide_eq_true_iff, Command.concerns_iff]
  simp only [command, hrule, Option.some.injEq, Rule.redirect_inj]
  constructor
  · rintro ⟨port, hkey, -⟩
    exact hkey
  · intro hkey
    exact ⟨port, hkey, rfl⟩

/-- The commands about a key that the filter acknowledged, in order. -/
def acknowledged (b : Backend σ) (key : Key) (calls : List (Call σ)) : List Command :=
  (calls.filter fun call => call.command.concerns key && (call.answer b).isOk).map Call.command

@[simp] theorem acknowledged_nil (b : Backend σ) (key : Key) : acknowledged b key [] = [] := rfl

@[simp] theorem acknowledged_append (b : Backend σ) (key : Key) (calls more : List (Call σ)) :
    acknowledged b key (calls ++ more) = acknowledged b key calls ++ acknowledged b key more := by
  simp [acknowledged]

theorem acknowledged_of_error {call : Call σ} {e : RuleError} (h : call.answer b = .error e)
    (key : Key) : acknowledged b key [call] = [] := by
  simp [acknowledged, h, Except.isOk, Except.toBool]

theorem acknowledged_of_ok {call : Call σ} {value : Bool} (h : call.answer b = .ok value)
    (key : Key) :
    acknowledged b key [call] = if call.command.concerns key then [call.command] else [] := by
  cases hconcerns : call.command.concerns key <;>
    simp [acknowledged, h, hconcerns, Except.isOk, Except.toBool]

/-! ## Turns -/

/-- The addition of a rule for a key and the deletion of that very rule. -/
def turn (chain : ChainName) (key : Key) (port : UInt16) : List Command :=
  [command chain key port .append, command chain key port .delete]

/-- The commands add and delete rules for a key in turn, beginning with an addition, and leave the
standing port, if there is one, as the one whose rule is added and not deleted. -/
def Turns (chain : ChainName) (key : Key) (standing : Option UInt16) (commands : List Command) :
    Prop :=
  ∃ earlier : List UInt16, commands = earlier.flatMap (turn chain key) ++
    standing.toList.map fun port => command chain key port .append

namespace Turns

variable {commands : List Command} {standing : Option UInt16}

theorem nothing (chain : ChainName) (key : Key) : Turns chain key none [] := ⟨[], rfl⟩

theorem add (h : Turns chain key none commands) (port : UInt16) :
    Turns chain key (some port) (commands ++ [command chain key port .append]) := by
  obtain ⟨earlier, rfl⟩ := h
  exact ⟨earlier, by simp⟩

theorem delete (h : Turns chain key (some port) commands) :
    Turns chain key none (commands ++ [command chain key port .delete]) := by
  obtain ⟨earlier, rfl⟩ := h
  exact ⟨earlier ++ [port], by simp [turn]⟩

/-- A port stands exactly if the last command is the addition of its rule. -/
theorem standing_iff (h : Turns chain key standing commands) :
    standing = some port ↔ commands.getLast? = some (command chain key port .append) := by
  obtain ⟨earlier, rfl⟩ := h
  cases standing with
  | some old =>
    simp [command, Rule.redirect_inj]
  | none =>
    rcases List.eq_nil_or_concat' earlier with rfl | ⟨before, last, rfl⟩
    · simp
    · simp [turn, command]

end Turns

/-! ## Records that follow the answers -/

/-- The calls lead from one record to another as the filter acknowledged them: the turns of every key
go on with them. -/
def Follows (b : Backend σ) (chain : ChainName) (r r' : Redirects) (calls : List (Call σ)) : Prop :=
  ∀ key commands, Turns chain key (r.get? key) commands →
    Turns chain key (r'.get? key) (commands ++ acknowledged b key calls)

namespace Follows

variable {r' r'' : Redirects} {calls more : List (Call σ)} {call : Call σ} {value : Bool}
  {e : RuleError}

theorem refl (b : Backend σ) (chain : ChainName) (r : Redirects) : Follows b chain r r [] := by
  intro key commands h
  rwa [acknowledged_nil, List.append_nil]

theorem trans (h : Follows b chain r r' calls) (h' : Follows b chain r' r'' more) :
    Follows b chain r r'' (calls ++ more) := by
  intro key commands hturns
  rw [acknowledged_append, ← List.append_assoc]
  exact h' key _ (h key commands hturns)

/-- A refused call changes no record. -/
theorem refused (hanswer : call.answer b = .error e) : Follows b chain r r [call] := by
  intro key commands h
  rwa [acknowledged_of_error hanswer, List.append_nil]

/-- The deletion of the recorded rule ends the turn of its key. -/
theorem deleted (hrecord : r.get? key = some port)
    (hanswer : Call.answer b ⟨s, command chain key port .delete⟩ = .ok value) :
    Follows b chain r ⟨r.ports.erase key⟩ [⟨s, command chain key port .delete⟩] := by
  intro other commands h
  rw [acknowledged_of_ok hanswer, concerns_command fun _ => rfl]
  by_cases hkey : key = other
  · subst hkey
    rw [hrecord] at h
    simp only [get?, Keyed.get?_erase_self, decide_true, if_true]
    exact h.delete
  · have same : Redirects.get? ⟨r.ports.erase key⟩ other = r.get? other :=
      r.ports.get?_erase_of_ne (Ne.symm hkey)
    simpa [hkey, same] using h

/-- The addition of a rule begins the turn of a key without a record. -/
theorem added (hnone : r.get? key = none)
    (hanswer : Call.answer b ⟨s, command chain key port .append⟩ = .ok value) :
    Follows b chain r ⟨r.ports.put key port⟩ [⟨s, command chain key port .append⟩] := by
  intro other commands h
  rw [acknowledged_of_ok hanswer, concerns_command fun _ => rfl]
  by_cases hkey : key = other
  · subst hkey
    rw [hnone] at h
    simp only [get?, Keyed.get?_put_self, decide_true, if_true]
    exact h.add port
  · have same : Redirects.get? ⟨r.ports.put key port⟩ other = r.get? other :=
      r.ports.get?_put_of_ne port (Ne.symm hkey)
    simpa [hkey, same] using h

end Follows

/-! ## One change -/

theorem drop_calls_of_none (h : r.get? key = none) (report : Report) :
    (r.drop chain key report).calls b s = [] := by
  rw [drop_of_none h, calls_pure]

/-- Dropping a key takes one command at most: the deletion of its recorded rule. -/
theorem drop_calls_of_some (h : r.get? key = some port) (report : Report) :
    (r.drop chain key report).calls b s = [⟨s, command chain key port .delete⟩] := by
  simp only [drop, h]
  rw [calls_bind, calls_attempt, eval_attempt]
  dsimp only
  split <;> rfl

section Dropped

variable {dropped : Redirects} {between : σ} {report : Report}
  (hdrop : (r.drop chain key (.start "forward")).eval b s = ((report, dropped), between))

include hdrop

/-- **Commands of a forward.** After the drop of the key, the addition is issued exactly if the key has
no record. -/
theorem forward_calls (port : UInt16) :
    (r.forward chain key port).calls b s =
      (r.drop chain key (.start "forward")).calls b s ++
        if (dropped.get? key).isSome then []
        else [⟨between, command chain key port .append⟩] := by
  rw [forward, calls_bind_of hdrop]
  congr 1
  dsimp only
  split
  · rfl
  · rw [calls_bind, calls_attempt, eval_attempt]
    dsimp only
    split <;> rfl

end Dropped

/-- Dropping a key reports what it issues, and the record follows the answers. -/
theorem drop_follows {report out : Report} {r' : Redirects} {after : σ}
    (hdrop : (r.drop chain key report).eval b s = ((out, r'), after)) :
    out = report.plus ((r.drop chain key report).calls b s).length
        (refusals b ((r.drop chain key report).calls b s)) ∧
      Follows b chain r r' ((r.drop chain key report).calls b s) := by
  cases hrecord : r.get? key with
  | none =>
    rw [drop_of_none hrecord] at hdrop
    rw [drop_calls_of_none hrecord]
    cases hdrop
    exact ⟨(Report.plus_zero report).symm, .refl b chain r⟩
  | some port =>
    rw [drop_calls_of_some hrecord]
    rcases hdelete : b.answer s (command chain key port .delete) with ⟨answer, between⟩
    have hanswer : Call.answer b ⟨s, command chain key port .delete⟩ = answer :=
      congrArg Prod.fst hdelete
    cases answer with
    | error e =>
      rw [drop_refused hrecord hdelete] at hdrop
      cases hdrop
      rw [refusals_of_error hanswer]
      exact ⟨rfl, .refused hanswer⟩
    | ok value =>
      rw [drop_deleted hrecord hdelete] at hdrop
      cases hdrop
      rw [refusals_of_ok hanswer]
      exact ⟨rfl, .deleted hrecord hanswer⟩

/-- Forwarding a key reports what it issues, and the record follows the answers. -/
theorem forward_follows {out : Report} {r' : Redirects} {after : σ}
    (hforward : (r.forward chain key port).eval b s = ((out, r'), after)) :
    out = (Report.start "forward").plus ((r.forward chain key port).calls b s).length
        (refusals b ((r.forward chain key port).calls b s)) ∧
      Follows b chain r r' ((r.forward chain key port).calls b s) := by
  rcases hdrop : (r.drop chain key (.start "forward")).eval b s with ⟨⟨report, dropped⟩, between⟩
  obtain ⟨hreport, hfollows⟩ := drop_follows hdrop
  rw [forward_calls hdrop]
  cases hrecord : dropped.get? key with
  | some old =>
    rw [forward_kept hdrop (Option.isSome_of_eq_some hrecord)] at hforward
    cases hforward
    rw [Option.isSome_some, if_pos rfl, List.append_nil]
    exact ⟨hreport, hfollows⟩
  | none =>
    rw [Option.isSome_none, if_neg Bool.false_ne_true, List.length_append, refusals_append,
      List.length_singleton]
    rcases happend : b.answer between (command chain key port .append) with ⟨answer, last⟩
    have hanswer : Call.answer b ⟨between, command chain key port .append⟩ = answer :=
      congrArg Prod.fst happend
    cases answer with
    | error e =>
      rw [forward_refused hdrop hrecord happend] at hforward
      cases hforward
      rw [refusals_of_error hanswer, ← Report.plus_plus, ← hreport]
      exact ⟨rfl, hfollows.trans (.refused hanswer)⟩
    | ok value =>
      rw [forward_added hdrop hrecord happend] at hforward
      cases hforward
      rw [refusals_of_ok hanswer, ← Report.plus_plus, ← hreport]
      exact ⟨rfl, hfollows.trans (.added hrecord hanswer)⟩

/-! ## Lengths -/

theorem length_drop_calls (b : Backend σ) (r : Redirects) (chain : ChainName) (key : Key)
    (report : Report) (s : σ) : ((r.drop chain key report).calls b s).length ≤ 1 := by
  cases hrecord : r.get? key with
  | none => simp [drop_calls_of_none hrecord]
  | some port => simp [drop_calls_of_some hrecord]

theorem length_forward_calls (b : Backend σ) (r : Redirects) (chain : ChainName) (key : Key)
    (port : UInt16) (s : σ) : ((r.forward chain key port).calls b s).length ≤ 2 := by
  have dropped := length_drop_calls b r chain key (.start "forward") s
  rw [forward_calls rfl, List.length_append]
  split
  · exact Nat.le_succ_of_le dropped
  · exact Nat.succ_le_succ dropped

/-! ## Runs -/

/-- What can be asked of the redirects of a chain. -/
inductive Change where
  | forward (key : Key) (port : UInt16)
  | clear (key : Key)
  deriving DecidableEq, Repr

/-- A change as a script that ends in its report and the record afterwards. -/
def change (r : Redirects) (chain : ChainName) : Change → Script (Report × Redirects)
  | .forward key port => r.forward chain key port
  | .clear key => r.clear chain key

/-- The record after a change. -/
def advance (chain : ChainName) (r : Redirects) (asked : Change) : Script Redirects := do
  let (_, r) ← r.change chain asked
  return r

/-- Changes one after the other. -/
def changeAll (r : Redirects) (chain : ChainName) (changes : List Change) : Script Redirects :=
  changes.foldlM (advance chain) r

theorem changeAll_cons (r : Redirects) (chain : ChainName) (asked : Change) (rest : List Change) :
    r.changeAll chain (asked :: rest) =
      advance chain r asked >>= fun next => next.changeAll chain rest := by
  rw [changeAll, List.foldlM_cons]
  rfl

/-- Every change reports what it issues, and the record follows the answers. -/
theorem change_follows (b : Backend σ) (r : Redirects) (chain : ChainName) (asked : Change) (s : σ) :
    let calls := (r.change chain asked).calls b s
    let outcome := ((r.change chain asked).eval b s).1
    (outcome.1.attempted = calls.length ∧ outcome.1.failures = refusals b calls) ∧
      Follows b chain r outcome.2 calls := by
  have accounts {operation : String} {calls : List (Call σ)} {out : Report}
      (h : out = (Report.start operation).plus calls.length (refusals b calls))
      (few : calls.length ≤ 2) :
      out.attempted = calls.length ∧ out.failures = refusals b calls := by
    rw [h, Report.start_plus]
    exact ⟨Report.attempted_of_lt (by omega), rfl⟩
  cases asked with
  | forward key port =>
    have heval : (r.forward chain key port).eval b s = ((_, _), _) := rfl
    have h := forward_follows heval
    exact ⟨accounts h.1 (length_forward_calls b r chain key port s), h.2⟩
  | clear key =>
    have heval : (r.drop chain key (.start "clear")).eval b s = ((_, _), _) := rfl
    have h := drop_follows heval
    have few := length_drop_calls b r chain key (.start "clear") s
    exact ⟨accounts h.1 (Nat.le_succ_of_le few), h.2⟩

theorem advance_follows (b : Backend σ) (r : Redirects) (chain : ChainName) (asked : Change)
    (s : σ) :
    Follows b chain r ((advance chain r asked).eval b s).1 ((advance chain r asked).calls b s) := by
  have hfollows := (change_follows b r chain asked s).2
  unfold advance
  rw [eval_bind, calls_bind, calls_pure, List.append_nil]
  exact hfollows

/-- The record follows the answers to any number of changes. -/
theorem changeAll_follows (b : Backend σ) (r : Redirects) (chain : ChainName)
    (changes : List Change) (s : σ) :
    Follows b chain r ((r.changeAll chain changes).eval b s).1
      ((r.changeAll chain changes).calls b s) := by
  induction changes generalizing r s with
  | nil => exact .refl b chain r
  | cons asked rest ih =>
    rw [changeAll_cons, eval_bind, calls_bind]
    exact (advance_follows b r chain asked s).trans (ih _ _)

/-- **Additions and deletions take turns.** On any filter whatsoever, after any changes: the commands
that were acknowledged for a key are an addition, the deletion of that very rule, the next addition,
and so on, and a port is on record exactly if the last of them is the addition of its rule.  The next
change reports as many steps as it issues commands and, in order, the refusals of these.  A forward
adds its rule exactly if its key has no record after the drop, and clearing a key without a record
issues nothing. -/
theorem take_turns (b : Backend σ) (chain : ChainName) (s : σ) (changes : List Change) :
    let run := empty.changeAll chain changes
    let r := (run.eval b s).1
    let now := (run.eval b s).2
    (∀ key, Turns chain key (r.get? key) (acknowledged b key (run.calls b s)) ∧
      ∀ port, r.get? key = some port ↔
        (acknowledged b key (run.calls b s)).getLast? = some (command chain key port .append)) ∧
    (∀ asked,
      ((r.change chain asked).eval b now).1.1.attempted =
          ((r.change chain asked).calls b now).length ∧
        ((r.change chain asked).eval b now).1.1.failures =
          refusals b ((r.change chain asked).calls b now)) ∧
    (∀ key port,
      let drop := r.drop chain key (.start "forward")
      (r.forward chain key port).calls b now = drop.calls b now ++
        if ((drop.eval b now).1.2.get? key).isSome then []
        else [⟨(drop.eval b now).2, command chain key port .append⟩]) ∧
    ∀ key, r.get? key = none → (r.clear chain key).calls b now = [] := by
  intro run r now
  have turns (key : Key) : Turns chain key (r.get? key) (acknowledged b key (run.calls b s)) :=
    changeAll_follows b empty chain changes s key [] (.nothing chain key)
  refine ⟨?_, ?_, ?_, ?_⟩
  · intro key
    exact ⟨turns key, fun port => (turns key).standing_iff⟩
  · intro asked
    exact (change_follows b r chain asked now).1
  · intro key port
    exact forward_calls rfl port
  · intro key hnone
    exact drop_calls_of_none hnone _

/-- Four changes of one key.  The deletion for the second is refused, so its port never stands. -/
theorem take_turns_refused :
    let chain : ChainName := ⟨"A", by decide⟩
    let key : Key := ⟨.tcp, ⟨10, 0, 0, 1⟩⟩
    let x : Iptables := ⟨true, "v1.8.7", [.exited 0 "", .exited 4 "busy"], []⟩
    let changes : List Change := [.forward key 80, .forward key 81, .clear key, .forward key 82]
    let run := empty.changeAll chain changes
    (run.calls Iptables.backend x).length = 4 ∧
      (run.eval Iptables.backend x).1.get? key = some 82 ∧
      Turns chain key (some 82) (acknowledged Iptables.backend key (run.calls Iptables.backend x)) ∧
      (acknowledged Iptables.backend key (run.calls Iptables.backend x)).getLast? =
        some (command chain key 82 .append) := by
  intro chain key x changes run
  have recorded : (run.eval Iptables.backend x).1.get? key = some 82 := by decide +kernel
  have turns := (take_turns Iptables.backend chain x changes).1 key
  refine ⟨by decide +kernel, recorded, recorded ▸ turns.1, (turns.2 82).1 recorded⟩

end Redirects

end Divert
