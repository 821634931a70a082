/-
# Divert.Proofs.Filter.Identity — a rule of ours is found and deleted by its text.

A command names a rule by its text, so the text has to say which rule is meant.  A rule of ours sends
traffic into a chain of ours, lets loopback traffic through, or redirects a key to a port.  Each of these
is written in one way, no two are written alike, and a filter stores the writing as it is.  So a question
with the text is a question for that rule, and a deletion takes one copy of it and nothing else.  A rule
that was put into a chain stays there, whatever is done with others, until the chain is emptied or the
rule itself is deleted.
-/
import Divert.Proofs.Commands
import Divert.Proofs.Filter.Frame
import Divert.Proofs.Filter.Ledger

namespace Divert

/-! ## What a rule of ours stands for -/

namespace Rule

/-- What a rule of ours stands for. -/
inductive Sense where
  /-- Traffic goes on into a chain of ours. -/
  | jump (chain : ChainName)
  /-- Loopback traffic is let through as it is. -/
  | loopback
  /-- The traffic for the key is delivered to the port. -/
  | redirect (key : Key) (port : UInt16)
  deriving DecidableEq

namespace Sense

/-- The rule as it is written. -/
def text : Sense → String
  | jump chain => Rule.jump chain
  | loopback => Rule.loopback
  | redirect key port => Rule.redirect key port

@[simp] theorem normalise_text (s : Sense) : Text.normalise s.text = s.text := by
  cases s with
  | jump chain => exact normalise_jump chain
  | loopback => exact normalise_loopback
  | redirect key port => exact normalise_redirect key port

/-- **Texts tell rules apart.** No two rules of ours are written alike, whether of one shape or of
two. -/
theorem text_injective : Function.Injective text := by
  intro s t h
  cases s with
  | jump chain =>
    cases t with
    | jump other => rw [jump_inj.1 h]
    | loopback => exact absurd h.symm (loopback_ne_jump chain)
    | redirect key port => exact absurd h.symm (redirect_ne_jump key port chain)
  | loopback =>
    cases t with
    | jump chain => exact absurd h (loopback_ne_jump chain)
    | loopback => rfl
    | redirect key port => exact absurd h.symm (redirect_ne_loopback key port)
  | redirect key port =>
    cases t with
    | jump chain => exact absurd h (redirect_ne_jump key port chain)
    | loopback => exact absurd h (redirect_ne_loopback key port)
    | redirect other more =>
      obtain ⟨rfl, rfl⟩ := redirect_inj.1 h
      rfl

end Sense

end Rule

open Rule (Sense)

/-- A translator names no rules but ours. -/
theorem Translator.Issues.sense {chain : ChainName} {c : Command} (issued : Issues chain c)
    {rule : String} (hrule : c.action.rule? = some rule) : ∃ s : Sense, s.text = rule := by
  cases issued with
  | append key port | delete key port => exact ⟨.redirect key port, Option.some.inj hrule⟩
  | lifecycle issued =>
    cases issued with
    | checkHook hook | deleteHook hook | insertHook hook =>
      exact ⟨.jump chain, Option.some.inj hrule⟩
    | exempt => exact ⟨.loopback, Option.some.inj hrule⟩
    | probe | create | flush | remove => cases hrule

/-! ## Questions and deletions -/

namespace Action

variable {a : Action} {rule : String}

/-- An action that puts a rule into its chain does nothing else. -/
theorem added_only (h : a.added? = some rule) :
    a.rule? = some rule ∧ a.deleted? = none ∧ a.clears = false ∧ a ≠ .remove := by
  cases a with
  | insert _ _ | append _ => exact ⟨h, rfl, rfl, Action.noConfusion⟩
  | _ => cases h

theorem rule?_of_deleted (h : a.deleted? = some rule) : a.rule? = some rule := by
  cases a with
  | delete _ => exact h
  | _ => cases h

end Action

namespace Memory

variable {m : Memory} {c : Command} {table chain rule : String} {rules : List String}

/-- The rule stands between others in the chain.  A question for it finds it, and a deletion takes this
copy, the first one, and nothing else. -/
structure Stands (m : Memory) (table chain rule : String) (before after : List String) : Prop where
  rules : m.rules table chain = some (before ++ rule :: after)
  first : rule ∉ before
  found : .check ∉ m.failing → m.answer ⟨table, chain, .check rule⟩ = (.ok true, m)
  deleted : .delete ∉ m.failing →
    (m.answer ⟨table, chain, .delete rule⟩).1 = .ok true ∧
      (m.answer ⟨table, chain, .delete rule⟩).2.rules =
        Chains.set m.rules table chain (some (before ++ after))

/-- The rule is not in the chain.  A question for it does not find it, and puts down the table at most;
a deletion is refused and takes nothing. -/
structure Lacks (m : Memory) (table chain rule : String) : Prop where
  missed : .check ∉ m.failing → m.answer ⟨table, chain, .check rule⟩ = (.ok false, m.opened table)
  refused : (m.answer ⟨table, chain, .delete rule⟩).1.isOk = false
  kept : (m.answer ⟨table, chain, .delete rule⟩).2.rules = m.rules

/-- A question for a rule in normal form is answered by whether the chain holds the very text. -/
theorem answer_check_normal (hrules : m.rules table chain = some rules)
    (normal : Text.normalise rule = rule) (unforced : .check ∉ m.failing) :
    m.answer ⟨table, chain, .check rule⟩ = (.ok (decide (rule ∈ rules)), m.opened table) := by
  have own : (m.table table).get? chain = some rules := hrules
  rw [check_settles unforced, normal, Filter.Table.perform_check, own]
  exact Prod.ext rfl (m.stored_opened table)

/-- A table that holds a rule has been put down, as at the start there are no rules. -/
theorem contains_of_mem (hrules : m.rules table chain = some rules) (present : rule ∈ rules) :
    m.tables.contains table = true := by
  by_contra absent
  have none : m.tables.get? table = none := Option.not_isSome_iff_eq_none.1 absent
  rw [Memory.rules, Memory.table, none, Option.getD_none, Filter.Table.get?_builtin] at hrules
  split at hrules
  · cases hrules
    exact absurd present List.not_mem_nil
  · cases hrules

/-- A deletion goes by the first copy, which splits the chain into what is before it and after it. -/
theorem stands_of_mem (hrules : m.rules table chain = some rules)
    (normal : Text.normalise rule = rule) (present : rule ∈ rules) :
    ∃ before after, m.Stands table chain rule before after := by
  obtain ⟨before, after, first, rfl, herase⟩ := List.exists_erase_eq present
  refine ⟨before, after, hrules, first, ?_, ?_⟩
  · intro unforced
    rw [answer_check_normal hrules normal unforced, decide_eq_true present,
      opened_eq_self (contains_of_mem hrules present)]
  · intro unforced
    obtain ⟨rest, hanswer, hrest⟩ := m.shows_unhindered.delete hrules normal present
    rw [answer_unhindered unforced] at hanswer
    obtain ⟨hvalue, rfl⟩ := Prod.mk.inj hanswer
    rw [herase] at hrest
    exact ⟨hvalue, hrest.rules⟩

theorem lacks_of_notMem (hrules : m.rules table chain = some rules)
    (normal : Text.normalise rule = rule) (absent : rule ∉ rules) : m.Lacks table chain rule := by
  have refused : ∃ e, (m.answer ⟨table, chain, .delete rule⟩).1 = .error e := by
    cases hanswer : (m.answer ⟨table, chain, .delete rule⟩).1 with
    | error e => exact ⟨e, rfl⟩
    | ok value =>
      obtain ⟨own, hown, hmem⟩ := truthful.told (b := backend) hanswer
      rw [normal] at hmem
      cases hown.symm.trans hrules
      exact absurd hmem absent
  obtain ⟨e, hanswer⟩ := refused
  refine ⟨?_, ?_, faithful.refused (b := backend) hanswer⟩
  · intro unforced
    rw [answer_check_normal hrules normal unforced, decide_eq_false absent]
  · rw [hanswer]
    rfl

/-! ## Rules that are left alone -/

/-- The request has nothing to do with the rule in the chain: it does not empty the chain, and what it
puts in or takes out there is another rule. -/
def Request.Bypasses (table chain rule : String) : Request → Prop
  | .setFailing _ _ => True
  | .command c => c.table = table → c.chain = chain → c.action ≠ .flush ∧
      ∀ text, c.action.added? = some text ∨ c.action.deleted? = some text →
        Text.normalise text ≠ rule

/-- A command on one rule of ours has nothing to do with another. -/
theorem bypasses_of_ne {s t : Sense} (hne : t ≠ s) (hrule : c.action.rule? = some t.text)
    (table chain : String) : (Request.command c).Bypasses table chain s.text := by
  intro _ _
  constructor
  · intro hflush
    rw [hflush] at hrule
    cases hrule
  · intro text hedit
    have named : c.action.rule? = some text :=
      hedit.elim (fun h => (Action.added_only h).1) Action.rule?_of_deleted
    obtain rfl : t.text = text := Option.some.inj (hrule.symm.trans named)
    rw [Sense.normalise_text]
    exact fun heq => hne (Sense.text_injective heq)

/-- Of the commands that are carried out on a chain with rules, only a flush takes them all away. -/
theorem keeps_of_answer {value : Bool} (done : (m.answer c).1 = .ok value)
    (hrules : m.rules c.table c.chain = some rules) (present : rule ∈ rules)
    (hflush : c.action ≠ .flush) : c.action.clears = false ∧ c.action ≠ .remove := by
  have told := truthful.told (b := backend) done
  obtain ⟨table, chain, a⟩ := c
  cases a with
  | flush => exact absurd rfl hflush
  | create => cases told.symm.trans hrules
  | remove =>
    cases told.1.symm.trans hrules
    exact absurd present List.not_mem_nil
  | _ => exact ⟨rfl, Action.noConfusion⟩

/-- A chain that is not taken away is there afterwards. -/
theorem exists_rules_answer {value : Bool} (done : (m.answer c).1 = .ok value)
    (hrules : m.rules c.table c.chain = some rules) (hremove : c.action ≠ .remove) :
    ∃ more, (m.answer c).2.rules c.table c.chain = some more := by
  have own : (m.answer c).2.rules c.table c.chain = _ := faithful.own (b := backend) done
  rw [own, ← Option.isSome_iff_exists]
  exact Action.isSome_effect (mt Action.mapRule_eq_remove.1 hremove) (Option.isSome_of_eq_some hrules)

/-- A request that has nothing to do with a rule leaves all copies of it in the chain. -/
theorem count_react {request : Request} (hrules : m.rules table chain = some rules)
    (present : rule ∈ rules) (bypasses : request.Bypasses table chain rule) :
    ∃ more, (m.react request).rules table chain = some more ∧
      more.count rule = rules.count rule := by
  cases request with
  | setFailing op failing => exact ⟨rules, hrules, rfl⟩
  | command c =>
    show ∃ more, (m.answer c).2.rules table chain = some more ∧ _
    cases hanswer : (m.answer c).1 with
    | error e =>
      have same : (m.answer c).2.rules = m.rules := faithful.refused (b := backend) hanswer
      exact ⟨rules, same ▸ hrules, rfl⟩
    | ok value =>
      by_cases hplace : table = c.table ∧ chain = c.chain
      · obtain ⟨rfl, rfl⟩ := hplace
        obtain ⟨hflush, others⟩ := bypasses rfl rfl
        obtain ⟨keeps, hremove⟩ := keeps_of_answer hanswer hrules present hflush
        obtain ⟨more, hmore⟩ := exists_rules_answer hanswer hrules hremove
        obtain ⟨old, hold, hcount⟩ := count_of_answer hanswer keeps hmore
        cases hold.symm.trans hrules
        refine ⟨more, hmore, ?_⟩
        -- The entry that the command makes is for another rule, or it makes none.
        have apart (counted : Option String) (h : ∀ text, counted = some text →
            Text.normalise text ≠ rule) : counted.map Text.normalise ≠ some rule := by
          intro heq
          obtain ⟨text, htext, hnormal⟩ := Option.map_eq_some_iff.1 heq
          exact h text htext hnormal
        have entry := hcount rule
        rwa [if_neg (apart _ fun text h => others text (.inr h)),
          if_neg (apart _ fun text h => others text (.inl h))] at entry
      · have same : (m.answer c).2.rules table chain = _ :=
          faithful.outside (b := backend) (s := m) (c := c) hplace
        exact ⟨rules, same.trans hrules, rfl⟩

/-- Requests that have nothing to do with a rule leave all copies of it in the chain. -/
theorem count_run {requests : List Request} (hrules : m.rules table chain = some rules)
    (present : rule ∈ rules)
    (bypasses : ∀ request ∈ requests, request.Bypasses table chain rule) :
    ∃ more, (requests.foldl react m).rules table chain = some more ∧
      more.count rule = rules.count rule := by
  -- As long as a copy is left the chain is not empty, so it can be neither removed nor created anew.
  induction requests generalizing m rules with
  | nil => exact ⟨rules, hrules, rfl⟩
  | cons request rest ih =>
    obtain ⟨next, hnext, hcount⟩ := count_react hrules present (bypasses _ List.mem_cons_self)
    have still : rule ∈ next := by
      rw [← List.count_pos_iff, hcount]
      exact List.count_pos_iff.2 present
    obtain ⟨more, hmore, hmores⟩ :=
      ih hnext still fun other hother => bypasses other (List.mem_cons_of_mem _ hother)
    exact ⟨more, hmore, hmores.trans hcount⟩

/-- A command that puts a rule into a chain adds one copy of it. -/
theorem count_added {a : Action} (hrules : m.rules table chain = some rules)
    (normal : Text.normalise rule = rule) (adds : a.added? = some rule)
    (done : (m.answer ⟨table, chain, a⟩).1.isOk = true) :
    ∃ more, (m.answer ⟨table, chain, a⟩).2.rules table chain = some more ∧
      more.count rule = rules.count rule + 1 := by
  cases hanswer : (m.answer ⟨table, chain, a⟩).1 with
  | error e =>
    rw [hanswer] at done
    cases done
  | ok value =>
    obtain ⟨-, deletes, keeps, hremove⟩ := Action.added_only adds
    obtain ⟨more, hmore⟩ := exists_rules_answer hanswer hrules hremove
    obtain ⟨old, hold, hcount⟩ := count_of_answer hanswer keeps hmore
    cases hold.symm.trans hrules
    refine ⟨more, hmore, ?_⟩
    have entry := hcount rule
    simpa [adds, deletes, normal] using entry

/-- **An installed rule stays.** After a rule was put into a chain, and whatever happened that had
nothing to do with it, it stands there, beside as many other copies of it as there were before. -/
theorem stands_after {a : Action} (hrules : m.rules table chain = some rules)
    (normal : Text.normalise rule = rule) (adds : a.added? = some rule)
    (done : (m.answer ⟨table, chain, a⟩).1.isOk = true) {requests : List Request}
    (bypasses : ∀ request ∈ requests, request.Bypasses table chain rule) :
    ∃ before after,
      (requests.foldl react (m.answer ⟨table, chain, a⟩).2).Stands table chain rule before after ∧
        (before ++ after).count rule = rules.count rule := by
  obtain ⟨added, hadded, hone⟩ := count_added hrules normal adds done
  have present : rule ∈ added := by
    rw [← List.count_pos_iff, hone]
    exact Nat.succ_pos _
  obtain ⟨more, hmore, hcount⟩ := count_run hadded present bypasses
  have still : rule ∈ more := by
    rw [← List.count_pos_iff, hcount]
    exact List.count_pos_iff.2 present
  obtain ⟨before, after, stands⟩ := stands_of_mem hmore normal still
  refine ⟨before, after, stands, ?_⟩
  cases stands.rules.symm.trans hmore
  rw [List.count_append, List.count_cons_self, hone] at hcount
  rw [List.count_append]
  omega

/-! ## Texts and rules -/

/-- **A rule is known by its text.** A redirect rule says which key and which port it is for, a jump says
which chain it goes to, and redirects, jumps and the loopback exemption are never written alike.  Every
such text is its own normal form, and the commands of a translator name no other rules.  So take any state
of a filter, any chain that is there, and any rule of ours.  If the chain holds the rule, then a question
with its text finds it and a deletion takes the first copy and nothing else; otherwise neither finds
anything.  A command on another rule of ours has nothing to do with it.  A rule that was put into the chain
stands there after any requests that have nothing to do with it, with as many other copies as before. -/
theorem known_by_its_text :
    (∀ k l p q, Rule.redirect k p = Rule.redirect l q → k = l ∧ p = q) ∧
    (∀ c d, Rule.jump c = Rule.jump d → c = d) ∧
    (∀ key port chain, Rule.redirect key port ≠ Rule.jump chain ∧
      Rule.redirect key port ≠ Rule.loopback ∧ Rule.jump chain ≠ Rule.loopback) ∧
    (∀ s : Sense, Text.normalise s.text = s.text) ∧
    (∀ (t : Translator) operation, (t.perform operation).Within
      (fun c => ∀ rule, c.action.rule? = some rule → ∃ s : Sense, s.text = rule) fun _ => True) ∧
    ∀ (m : Memory) table chain rules, m.rules table chain = some rules → ∀ s : Sense,
      (s.text ∈ rules → ∃ before after, m.Stands table chain s.text before after) ∧
      (s.text ∉ rules → m.Lacks table chain s.text) ∧
      (∀ t : Sense, t ≠ s → ∀ action, action.rule? = some t.text →
        (Request.command ⟨table, chain, action⟩).Bypasses table chain s.text) ∧
      ∀ action, action.added? = some s.text →
        (m.answer ⟨table, chain, action⟩).1.isOk = true →
        ∀ requests : List Request,
          (∀ request ∈ requests, request.Bypasses table chain s.text) →
          ∃ before after,
            (requests.foldl react (m.answer ⟨table, chain, action⟩).2).Stands
                table chain s.text before after ∧
              (before ++ after).count s.text = rules.count s.text := by
  refine ⟨?_, ?_, ?_, Sense.normalise_text, ?_, ?_⟩
  · intro k l p q h
    exact Rule.redirect_inj.1 h
  · intro c d h
    exact Rule.jump_inj.1 h
  · intro key port chain
    exact ⟨Rule.redirect_ne_jump key port chain, Rule.redirect_ne_loopback key port,
      (Rule.loopback_ne_jump chain).symm⟩
  · intro t operation
    refine (t.perform_within operation).mono ?_ fun _ _ => trivial
    intro c issued rule hrule
    exact issued.sense hrule
  · intro m table chain rules hrules s
    have normal := s.normalise_text
    refine ⟨stands_of_mem hrules normal, lacks_of_notMem hrules normal, ?_, ?_⟩
    · intro t hne action hrule
      exact bypasses_of_ne hne hrule table chain
    · intro action adds done requests bypasses
      exact stands_after hrules normal adds done bypasses

/-- Ports whose digits begin alike: the one rule stays while another is put in, a third is refused, and
a fourth, which was never there, is to be deleted. -/
theorem known_by_its_text_prolonged :
    let rule : UInt16 → String := Rule.redirect ⟨.tcp, ⟨10, 0, 0, 1⟩⟩
    let on : Action → Command := fun action => ⟨natTable, "A", action⟩
    let m : Memory :=
      ⟨Keyed.empty.put natTable (Filter.Table.builtin.put "A" [Rule.loopback]), [], []⟩
    let requests : List Request := [.command (on (.append (rule 8080))), .setFailing .append true,
      .command (on (.append (rule 80))), .command (on (.delete (rule 8)))]
    let n := requests.foldl react (m.answer (on (.append (rule 808)))).2
    rule 808 ≠ rule 8080 ∧
      n.rules natTable "A" = some [Rule.loopback, rule 808, rule 8080] ∧
      n.answer (on (.check (rule 808))) = (.ok true, n) ∧
      (n.answer (on (.delete (rule 808)))).2.rules natTable "A" =
        some [Rule.loopback, rule 8080] := by
  intro rule on m requests n
  obtain ⟨redirects, -, -, -, -, filters⟩ := known_by_its_text
  have start : m.rules natTable "A" = some [Rule.loopback] := by decide +kernel
  obtain ⟨stored, failing⟩ :
      n.rules natTable "A" = some [Rule.loopback, rule 808, rule 8080] ∧ n.failing = [.append] := by
    decide +kernel
  obtain ⟨-, -, others, installed⟩ :=
    filters m natTable "A" _ start (.redirect ⟨.tcp, ⟨10, 0, 0, 1⟩⟩ 808)
  have bypasses : ∀ request ∈ requests, request.Bypasses natTable "A" (rule 808) := by
    have other (port : UInt16) (hport : port ≠ 808) {action : Action}
        (haction : action.rule? = some (rule port)) :
        (Request.command (on action)).Bypasses natTable "A" (rule 808) :=
      others (.redirect _ port) (by simpa using hport) action haction
    intro request hrequest
    simp only [requests, List.mem_cons, List.not_mem_nil, or_false] at hrequest
    rcases hrequest with rfl | rfl | rfl | rfl
    · exact other 8080 (by decide) rfl
    · trivial
    · exact other 80 (by decide) rfl
    · exact other 8 (by decide) rfl
  obtain ⟨first, last, hstands, -⟩ :=
    installed (.append (rule 808)) rfl (by decide +kernel) requests bypasses
  have stands : n.Stands natTable "A" (rule 808) first last := hstands
  refine ⟨?_, stored, stands.found (by rw [failing]; decide), ?_⟩
  · intro heq
    exact absurd (redirects _ _ _ _ heq).2 (by decide)
  · have whole : first ++ rule 808 :: last = [Rule.loopback, rule 808, rule 8080] :=
      Option.some.inj (stands.rules.symm.trans stored)
    have rest : first ++ last = [Rule.loopback, rule 808, rule 8080].erase (rule 808) := by
      rw [← whole, List.erase_append_right _ stands.first, List.erase_cons_head]
    rw [(stands.deleted (by rw [failing]; decide)).2, Chains.set_self, rest]
    decide +kernel

end Memory

end Divert
