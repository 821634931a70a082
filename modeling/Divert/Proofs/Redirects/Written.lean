/-
# Divert.Proofs.Redirects.Written — the record and the chain, whatever fails.

A chain starts with any rules that are no redirects, and only its redirects are worked on.  Commands are
lost or made to fail at any moment, so a request may stop between its two commands.  Still the rules of
the chain are always those it started with, followed by one rule for each recorded redirect: a refused
deletion leaves rule and record as they were, and a refused addition comes after both are gone.  So
there is nothing to repair, and once commands work again, every key can be forwarded and cleared.
-/
import Divert.Lifecycle
import Divert.Proofs.Filter.Answers
import Divert.Proofs.Redirects.Installed

namespace Divert

open Script
open Redirect (keys without written mem_written erase_written written_append)

namespace Redirects

/-- The rules of the chain are some base rules and after them one rule for each of the redirects `l`,
and these are the recorded ones. -/
structure Written (r : Redirects) (base : List String) (l : List Redirect)
    (own : Option (List String)) : Prop where
  rules : own = some (written base l)
  distinct : (keys l).Nodup
  recorded : ∀ key port, ⟨key, port⟩ ∈ l ↔ r.get? key = some port

/-- The rules of the record stand in the order in which they were recorded. -/
theorem written_listed {r : Redirects} {base : List String} {own : Option (List String)}
    (h : own = some (written base r.listed)) : r.Written base r.listed own :=
  ⟨h, r.nodup_keys_listed, fun _ _ => mem_listed⟩

theorem get?_erase_self (r : Redirects) (key : Key) :
    (⟨r.ports.erase key⟩ : Redirects).get? key = none :=
  r.ports.get?_erase_self key

/-! ## One request -/

section Faithful

variable {σ : Type} {b : Backend σ} {rules : σ → Chains} {chain : ChainName} {r : Redirects}
  {base : List String} {key : Key} {port : UInt16} {s after : σ} {value : Bool}

/-- Where the recorded rule is deleted, the rules of the other redirects stay. -/
theorem written_deleted (faithful : b.Faithful rules)
    (foreign : ∀ key port, Rule.redirect key port ∉ base)
    (h : rules s natTable chain.text = some (written base r.listed))
    (hrecord : r.get? key = some port)
    (hdelete : b.answer s (command chain key port .delete) = (.ok value, after)) :
    rules after natTable chain.text =
      some (written base (⟨r.ports.erase key⟩ : Redirects).listed) := by
  rw [rules_of_deleted faithful hdelete, h, Option.map_some, listed_erase,
    erase_written (foreign key port) r.nodup_keys_listed (mem_listed.2 hrecord)]

/-- Where a rule is added for a key without a record, it comes after all others. -/
theorem written_added (faithful : b.Faithful rules)
    (h : rules s natTable chain.text = some (written base r.listed)) (hnone : r.get? key = none)
    (happend : b.answer s (command chain key port .append) = (.ok value, after)) :
    rules after natTable chain.text =
      some (written base (⟨r.ports.put key port⟩ : Redirects).listed) := by
  rw [rules_of_added faithful happend, h, Option.map_some, listed_put hnone, written_append]

theorem drop_written (faithful : b.Faithful rules)
    (foreign : ∀ key port, Rule.redirect key port ∉ base)
    (h : rules s natTable chain.text = some (written base r.listed)) {report out : Report}
    {r' : Redirects} (hdrop : (r.drop chain key report).eval b s = ((out, r'), after)) :
    rules after natTable chain.text = some (written base r'.listed) := by
  cases hrecord : r.get? key with
  | none =>
    rw [drop_of_none hrecord] at hdrop
    cases hdrop
    exact h
  | some port =>
    rcases hdelete : b.answer s (command chain key port .delete) with ⟨answer, between⟩
    cases answer with
    | error e =>
      rw [drop_refused hrecord hdelete] at hdrop
      cases hdrop
      rwa [faithful.kept hdelete]
    | ok value =>
      rw [drop_deleted hrecord hdelete] at hdrop
      cases hdrop
      exact written_deleted faithful foreign h hrecord hdelete

theorem forward_written (faithful : b.Faithful rules)
    (foreign : ∀ key port, Rule.redirect key port ∉ base)
    (h : rules s natTable chain.text = some (written base r.listed)) {out : Report}
    {r' : Redirects} (hforward : (r.forward chain key port).eval b s = ((out, r'), after)) :
    rules after natTable chain.text = some (written base r'.listed) := by
  rcases hdrop : (r.drop chain key (.start "forward")).eval b s with ⟨⟨report, dropped⟩, between⟩
  have hbetween := drop_written faithful foreign h hdrop
  cases hrecord : dropped.get? key with
  | some old =>
    rw [forward_kept hdrop (Option.isSome_of_eq_some hrecord)] at hforward
    cases hforward
    exact hbetween
  | none =>
    rcases happend : b.answer between (command chain key port .append) with ⟨answer, last⟩
    cases answer with
    | error e =>
      rw [forward_refused hdrop hrecord happend] at hforward
      cases hforward
      rwa [faithful.kept happend]
    | ok value =>
      rw [forward_added hdrop hrecord happend] at hforward
      cases hforward
      exact written_added faithful hbetween hrecord happend

/-- A forward whose deletion is refused changes nothing. -/
theorem forward_keeps (faithful : b.Faithful rules) {old : UInt16} {e : RuleError}
    (hrecord : r.get? key = some old)
    (hdelete : b.answer s (command chain key old .delete) = (.error e, after)) (port : UInt16) :
    (r.forward chain key port).eval b s = ((⟨"forward", 1, [e]⟩, r), after) ∧
      rules after = rules s := by
  have hdrop := drop_refused hrecord hdelete (.start "forward")
  rw [forward_kept hdrop (Option.isSome_of_eq_some hrecord), Report.start_plus]
  exact ⟨rfl, faithful.kept hdelete⟩

/-- A forward whose addition is refused after the deletion leaves its key without rule and record. -/
theorem forward_loses (faithful : b.Faithful rules)
    (foreign : ∀ key port, Rule.redirect key port ∉ base)
    (h : rules s natTable chain.text = some (written base r.listed)) {old : UInt16} {between : σ}
    {e : RuleError} (hrecord : r.get? key = some old)
    (hdelete : b.answer s (command chain key old .delete) = (.ok value, between))
    (happend : b.answer between (command chain key port .append) = (.error e, after)) :
    ∃ r', (r.forward chain key port).eval b s = ((⟨"forward", 2, [e]⟩, r'), after) ∧
      r'.Written base (without key r.listed) (rules after natTable chain.text) := by
  have hdrop := drop_deleted hrecord hdelete (.start "forward")
  refine ⟨⟨r.ports.erase key⟩, ?_, ?_⟩
  · rw [forward_refused hdrop (get?_erase_self r key) happend, Report.plus_plus, Report.start_plus]
    rfl
  · rw [← listed_erase, faithful.kept happend]
    exact written_listed (written_deleted faithful foreign h hrecord hdelete)

end Faithful

/-! ## Requests where nothing is made to fail -/

section Settled

variable {m : Memory} {view : Chains} {chain : ChainName} {r : Redirects} {base : List String}
  {key : Key}

theorem Installed.written {l : List Redirect} (h : Installed chain base view l r m) :
    r.Written base l (m.rules natTable chain.text) :=
  ⟨h.rules, h.distinct, h.recorded⟩

theorem clear_settled (h : m.Shows view) (foreign : ∀ key port, Rule.redirect key port ∉ base)
    (hown : view natTable chain.text = some (written base r.listed)) (key : Key) :
    ∃ r' after, (r.clear chain key).eval Memory.backend m =
        ((⟨"clear", if key ∈ keys r.listed then 1 else 0, []⟩, r'), after) ∧
      r'.Written base (without key r.listed) (after.rules natTable chain.text) := by
  obtain ⟨r', after, heval, hafter⟩ := (Installed.of_listed h hown).clear foreign key
  exact ⟨r', after, heval, hafter.written⟩

theorem forward_settled (h : m.Shows view) (foreign : ∀ key port, Rule.redirect key port ∉ base)
    (hown : view natTable chain.text = some (written base r.listed)) (key : Key) (port : UInt16) :
    ∃ r' after, (r.forward chain key port).eval Memory.backend m =
        ((⟨"forward", if key ∈ keys r.listed then 2 else 1, []⟩, r'), after) ∧
      r'.Written base (without key r.listed ++ [⟨key, port⟩]) (after.rules natTable chain.text) := by
  obtain ⟨r', after, heval, hafter⟩ := (Installed.of_listed h hown).forward foreign key port
  exact ⟨r', after, heval, hafter.written⟩

end Settled

/-! ## Runs -/

/-- What can be asked of the redirects of a chain, and a kind of command that is made to fail from now
on or no longer. -/
inductive Request where
  | forward (key : Key) (port : UInt16)
  | clear (key : Key)
  | setFailing (kind : Op) (failing : Bool)

def react (chain : ChainName) (outcome : Redirects × Faulty Memory) :
    Request → Redirects × Faulty Memory
  | .forward key port =>
    let next := (outcome.1.forward chain key port).eval Faulty.memory outcome.2
    (next.1.2, next.2)
  | .clear key =>
    let next := (outcome.1.clear chain key).eval Faulty.memory outcome.2
    (next.1.2, next.2)
  | .setFailing kind failing =>
    (outcome.1, { outcome.2 with inner := outcome.2.inner.setFailing kind failing })

/-- New redirects and the filter they are installed in, after some requests. -/
def through (chain : ChainName) (f : Faulty Memory) (requests : List Request) :
    Redirects × Faulty Memory :=
  requests.foldl (react chain) (.empty, f)

section Runs

variable {chain : ChainName} {base : List String} {outcome : Redirects × Faulty Memory}

/-- **One request.** The rules are those of the record before it and after it. -/
theorem react_written (foreign : ∀ key port, Rule.redirect key port ∉ base)
    (h : outcome.2.inner.rules natTable chain.text = some (written base outcome.1.listed))
    (request : Request) :
    (react chain outcome request).2.inner.rules natTable chain.text =
      some (written base (react chain outcome request).1.listed) := by
  have faithful := Faulty.memory_truthful.toFaithful
  cases request with
  | forward key port => exact forward_written faithful foreign h rfl
  | clear key => exact drop_written faithful foreign h rfl
  | setFailing kind failing => exact h

theorem foldl_written (foreign : ∀ key port, Rule.redirect key port ∉ base)
    (outcome : Redirects × Faulty Memory)
    (h : outcome.2.inner.rules natTable chain.text = some (written base outcome.1.listed))
    (requests : List Request) :
    (requests.foldl (react chain) outcome).2.inner.rules natTable chain.text =
      some (written base (requests.foldl (react chain) outcome).1.listed) := by
  induction requests generalizing outcome with
  | nil => exact h
  | cons request rest ih => exact ih _ (react_written foreign h request)

end Runs

/-- **Redirects under failures.** A chain holds any rules that are no redirects.  Its redirects are
forwarded and cleared, and commands are lost or made to fail at any moment.  Then the rules of the chain
are those from before and one rule for each recorded redirect.  A forward whose deletion is refused
changes nothing, one whose addition is refused leaves its key without rule and record, and once nothing
is made to fail, every key can be forwarded and cleared, with no effect on any other. -/
theorem written_through {chain : ChainName} {f : Faulty Memory} {base : List String}
    (hbase : f.inner.rules natTable chain.text = some base)
    (foreign : ∀ key port, Rule.redirect key port ∉ base) (requests : List Request) :
    let r := (through chain f requests).1
    let s := (through chain f requests).2
    ∃ l, r.Written base l (s.inner.rules natTable chain.text) ∧
      (∀ key port old e after, r.get? key = some old →
        Faulty.memory.answer s (command chain key old .delete) = (.error e, after) →
          (r.forward chain key port).eval Faulty.memory s = ((⟨"forward", 1, [e]⟩, r), after) ∧
          after.inner.rules = s.inner.rules) ∧
      (∀ key port old value between e after, r.get? key = some old →
        Faulty.memory.answer s (command chain key old .delete) = (.ok value, between) →
        Faulty.memory.answer between (command chain key port .append) = (.error e, after) →
          ∃ r', (r.forward chain key port).eval Faulty.memory s =
              ((⟨"forward", 2, [e]⟩, r'), after) ∧
            r'.Written base (without key l) (after.inner.rules natTable chain.text)) ∧
      (∀ key port, ∃ r' after, (r.forward chain key port).eval Memory.backend s.inner.unhindered =
          ((⟨"forward", if key ∈ keys l then 2 else 1, []⟩, r'), after) ∧
        r'.Written base (without key l ++ [⟨key, port⟩]) (after.rules natTable chain.text)) ∧
      (∀ key, ∃ r' after, (r.clear chain key).eval Memory.backend s.inner.unhindered =
          ((⟨"clear", if key ∈ keys l then 1 else 0, []⟩, r'), after) ∧
        r'.Written base (without key l) (after.rules natTable chain.text)) := by
  intro r s
  have faithful := Faulty.memory_truthful.toFaithful
  have start : f.inner.rules natTable chain.text = some (written base empty.listed) := by
    rw [hbase, listed_empty, written, List.map_nil, List.append_nil]
  have own : s.inner.rules natTable chain.text = some (written base r.listed) :=
    foldl_written foreign (empty, f) start requests
  have settled := s.inner.shows_unhindered
  refine ⟨r.listed, written_listed own, ?_, ?_, ?_, ?_⟩
  · intro key port old e after hrecord hdelete
    exact forward_keeps faithful hrecord hdelete port
  · intro key port old value between e after hrecord hdelete happend
    exact forward_loses faithful foreign own hrecord hdelete happend
  · exact forward_settled settled foreign own
  · exact clear_settled settled foreign own

/-- A key that is forwarded three times.  The deletion for the second time is lost, and the addition for
the third time fails. -/
theorem written_through_thrice :
    let chain : ChainName := ⟨"A", by decide⟩
    let key : Key := ⟨.tcp, ⟨10, 0, 0, 1⟩⟩
    let f : Faulty Memory :=
      ⟨((Lifecycle.enable chain).eval Memory.backend .fresh).2, [⟨.delete, 1, "lost"⟩], []⟩
    let requests : List Request :=
      [.forward key 80, .forward key 81, .setFailing .append true, .forward key 82]
    f.inner.rules natTable chain.text = some [Rule.loopback] ∧
      (∀ key port, Rule.redirect key port ∉ [Rule.loopback]) ∧
      ∃ l, (through chain f requests).1.Written [Rule.loopback] l
        ((through chain f requests).2.inner.rules natTable chain.text) := by
  intro chain key f requests
  have enabled : f.inner.rules natTable chain.text = some [Rule.loopback] := by decide +kernel
  obtain ⟨l, hwritten, -⟩ := written_through enabled Redirect.foreign_loopback requests
  exact ⟨enabled, Redirect.foreign_loopback, l, hwritten⟩

end Redirects

end Divert
