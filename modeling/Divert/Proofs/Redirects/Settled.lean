/-
# Divert.Proofs.Redirects.Settled — redirects on a filter that nothing is made to fail.

Dropping and forwarding a key have three outcomes.  The key may have no record, its recorded rule may
be in our chain, or the rule may be gone although it is recorded.  In the last case the key stays as it
is: the one command that is issued, the deletion, is refused.  Otherwise the rule goes, and a new one
comes to the end of our chain; `Redirect.written` is how a chain looks that is worked on like this.
-/
import Divert.Proofs.Filter.Memory
import Divert.Proofs.Redirects.Steps

namespace Divert

/-- The rule of a redirect. -/
def Redirect.rule (r : Redirect) : String := Rule.redirect r.key r.port

theorem Redirect.rule_mk (key : Key) (port : UInt16) :
    Redirect.rule ⟨key, port⟩ = Rule.redirect key port :=
  rfl

theorem Redirect.rule_injective : Function.Injective Redirect.rule := by
  intro x y h
  obtain ⟨hkey, hport⟩ := Rule.redirect_inj.1 h
  cases x
  cases y
  simp_all

/-! ## Rules of redirects after other rules -/

namespace Redirect

variable {base : List String} {l : List Redirect} {key : Key} {port : UInt16}

/-- Some rules, and after them the rules of some redirects. -/
def written (base : List String) (l : List Redirect) : List String := base ++ l.map rule

/-- The loopback exemption is no redirect rule. -/
theorem foreign_loopback (key : Key) (port : UInt16) :
    Rule.redirect key port ∉ [Rule.loopback] := by
  intro hmem
  exact Rule.redirect_ne_loopback key port (List.mem_singleton.1 hmem)

theorem mem_written (foreign : Rule.redirect key port ∉ base) :
    Rule.redirect key port ∈ written base l ↔ ⟨key, port⟩ ∈ l := by
  rw [written, List.mem_append, or_iff_right foreign, ← rule_mk,
    List.mem_map_of_injective rule_injective]

/-- Deleting the rule of one redirect leaves the rules of the others. -/
theorem erase_written (foreign : Rule.redirect key port ∉ base) (distinct : (keys l).Nodup)
    (hmem : ⟨key, port⟩ ∈ l) :
    (written base l).erase (Rule.redirect key port) = written base (without key l) := by
  rw [written, List.erase_append_right _ foreign, ← erase_eq_without distinct hmem, written,
    List.map_erase rule_injective, rule_mk]

theorem written_append (base : List String) (l : List Redirect) (key : Key) (port : UInt16) :
    written base (l ++ [⟨key, port⟩]) = written base l ++ [Rule.redirect key port] := by
  rw [written, List.map_append, ← List.append_assoc]
  rfl

end Redirect

namespace Redirects

open Script

variable {m : Memory} {view : Chains} {chain : ChainName} {rules : List String}
  {r : Redirects} {key : Key} {port : UInt16}

/-! ## Dropping a key -/

/-- A recorded rule that is in our chain is deleted, and its key with it. -/
theorem drop_eval (h : m.Shows view) (hrules : view natTable chain.text = some rules)
    (hrecord : r.get? key = some port) (hmem : Rule.redirect key port ∈ rules) (report : Report) :
    ∃ after, (r.drop chain key report).eval Memory.backend m =
        ((report.plus 1 [], ⟨r.ports.erase key⟩), after) ∧
      after.Shows (view.set natTable chain.text
        (some (rules.erase (Rule.redirect key port)))) := by
  obtain ⟨after, hdelete, hafter⟩ := h.delete hrules (Rule.normalise_redirect key port) hmem
  exact ⟨after, drop_deleted hrecord hdelete report, hafter⟩

/-- The refusal to delete a rule that is not in our chain. -/
def noRule (chain : ChainName) (key : Key) (port : UInt16) : RuleError :=
  (command chain key port .delete).refused Filter.Refusal.noSuchRule.message

/-- A recorded rule that our chain does not have keeps its key. -/
theorem drop_eval_gone (h : m.Shows view) (hrules : view natTable chain.text = some rules)
    (hrecord : r.get? key = some port) (hmem : Rule.redirect key port ∉ rules) (report : Report) :
    ∃ after, (r.drop chain key report).eval Memory.backend m =
        ((report.plus 1 [noRule chain key port], r), after) ∧ after.Shows view := by
  obtain ⟨after, hdelete, hafter⟩ :=
    h.delete_missing hrules (Rule.normalise_redirect key port) hmem
  exact ⟨after, drop_refused hrecord hdelete report, hafter⟩

/-- Forgetting the record touches no rule, whatever the filter is. -/
theorem forget_eval {σ : Type} (b : Backend σ) (r : Redirects) (s : σ) :
    r.forget.eval b s = (empty, s) := by
  rw [forget]
  split <;> rfl

/-! ## Forwarding a key -/

/-- After its drop, a key without a record gets the new rule at the end of our chain. -/
theorem forward_eval_of_dropped {dropped : Redirects} {between : Memory} {report : Report}
    (hdrop : (r.drop chain key (.start "forward")).eval Memory.backend m =
      ((report, dropped), between))
    (hnone : dropped.get? key = none) (h : between.Shows view)
    (hrules : view natTable chain.text = some rules) (port : UInt16) :
    ∃ after, (r.forward chain key port).eval Memory.backend m =
        ((report.plus 1 [], ⟨dropped.ports.put key port⟩), after) ∧
      after.Shows (view.set natTable chain.text
        (some (rules ++ [Rule.redirect key port]))) := by
  obtain ⟨after, happend, hafter⟩ := h.append hrules (Rule.plain_redirect key port)
  exact ⟨after, forward_added hdrop hnone happend, hafter⟩

/-- The refusal to append a rule to our chain when the chain is not there. -/
def noChain (chain : ChainName) (key : Key) (port : UInt16) : RuleError :=
  (command chain key port .append).refused Filter.Refusal.noSuchChain.message

/-- Without our chain nothing is installed and nothing is recorded. -/
theorem forward_eval_missing (h : m.Shows view) (absent : view natTable chain.text = none)
    (hnone : r.get? key = none) (port : UInt16) :
    ∃ after, (r.forward chain key port).eval Memory.backend m =
        (((Report.start "forward").plus 1 [noChain chain key port], r), after) ∧
      after.Shows view := by
  obtain ⟨after, happend, hafter⟩ := h.append_missing absent (Rule.plain_redirect key port)
  have hdrop : (r.drop chain key (.start "forward")).eval Memory.backend m = _ :=
    congrArg (eval Memory.backend · m) (drop_of_none hnone _)
  exact ⟨after, forward_refused hdrop hnone happend, hafter⟩

/-- A key whose recorded rule is gone is not forwarded. -/
theorem forward_eval_gone (h : m.Shows view) (hrules : view natTable chain.text = some rules)
    {recorded : UInt16} (hrecord : r.get? key = some recorded)
    (hmem : Rule.redirect key recorded ∉ rules) (port : UInt16) :
    ∃ after, (r.forward chain key port).eval Memory.backend m =
        (((Report.start "forward").plus 1 [noRule chain key recorded], r), after) ∧
      after.Shows view := by
  obtain ⟨after, hdrop, hafter⟩ := drop_eval_gone h hrules hrecord hmem (.start "forward")
  exact ⟨after, forward_kept hdrop (Option.isSome_of_eq_some hrecord) port, hafter⟩

/-! ## Keys whose rules are on record -/

section Recorded

open Redirect (keys without written mem_written erase_written written_append)

variable {base : List String} {l : List Redirect}

/-- Our chain holds the rules of some redirects, and the key has those of them on record that are its
own.  Dropping the key then takes out its rule, if it has one, and its record. -/
theorem drop_recorded (h : m.Shows view) (foreign : ∀ key port, Rule.redirect key port ∉ base)
    (hown : view natTable chain.text = some (written base l)) (distinct : (keys l).Nodup)
    (recorded : ∀ port, ⟨key, port⟩ ∈ l ↔ r.get? key = some port) (report : Report) :
    ∃ after, (r.drop chain key report).eval Memory.backend m =
        ((report.plus (if key ∈ keys l then 1 else 0) [], ⟨r.ports.erase key⟩), after) ∧
      after.Shows (view.set natTable chain.text (some (written base (without key l)))) := by
  cases hrecord : r.get? key with
  | none =>
    have absent : key ∉ keys l := by
      rintro hkey
      obtain ⟨port, hport⟩ := Redirect.mem_keys.1 hkey
      cases hrecord.symm.trans ((recorded port).1 hport)
    refine ⟨m, ?_, ?_⟩
    · rw [drop_of_none hrecord, erase_of_none hrecord, if_neg absent, Report.plus_zero]
      rfl
    · rwa [Redirect.without_of_notMem absent, Chains.set_eq_self view _ _ _ hown]
  | some port =>
    have live : ⟨key, port⟩ ∈ l := (recorded port).2 hrecord
    obtain ⟨after, heval, hafter⟩ :=
      drop_eval h hown hrecord ((mem_written (foreign key port)).2 live) report
    rw [erase_written (foreign key port) distinct live] at hafter
    refine ⟨after, ?_, hafter⟩
    rw [heval, if_pos (Redirect.mem_keys.2 ⟨port, live⟩)]

/-- Forwarding such a key takes out its rule, if it has one, and puts the new one at the end. -/
theorem forward_recorded (h : m.Shows view) (foreign : ∀ key port, Rule.redirect key port ∉ base)
    (hown : view natTable chain.text = some (written base l)) (distinct : (keys l).Nodup)
    (recorded : ∀ port, ⟨key, port⟩ ∈ l ↔ r.get? key = some port) (port : UInt16) :
    ∃ after, (r.forward chain key port).eval Memory.backend m =
        ((⟨"forward", if key ∈ keys l then 2 else 1, []⟩, ⟨(r.ports.erase key).put key port⟩),
          after) ∧
      after.Shows (view.set natTable chain.text
        (some (written base (without key l ++ [⟨key, port⟩])))) := by
  obtain ⟨between, hdrop, hbetween⟩ :=
    drop_recorded h foreign hown distinct recorded (.start "forward")
  -- The key has no record now, whether it had one before or not.
  have hnone : (⟨r.ports.erase key⟩ : Redirects).get? key = none := r.ports.get?_erase_self key
  obtain ⟨after, heval, hafter⟩ :=
    forward_eval_of_dropped hdrop hnone hbetween (Chains.set_self ..) port
  rw [Chains.set_set, ← written_append] at hafter
  refine ⟨after, ?_, hafter⟩
  rw [heval, Report.start_plus, Report.plus]
  split <;> rfl

end Recorded

end Redirects

end Divert
