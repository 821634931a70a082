/-
# Divert.Proofs.Redirects.Reordering — changes of different keys in another order.

Two runs make the same changes, and those of each key in the same order; between keys, the order is
free.  The rules then come to stand in different places of our chain, and nothing else differs.  To see
this, a run is looked at through one key: what is in the chain for it, and what its changes report,
depends on its own changes only (`only_foldl_apply`, `filter_outcomes`).  Lists that agree for every key
have the same members, each as often.
-/
import Divert.Proofs.Redirects.Installed
import Divert.Proofs.Redirects.Turns

namespace Divert

open Script
open Redirect (keys without replace written)

/-! ## Lists through one key -/

/-- Lists that have the same part for every key are permutations of each other. -/
theorem perm_of_filter_eq {α κ : Type} [DecidableEq α] [DecidableEq κ] {f : α → κ} {l more : List α}
    (h : ∀ key, l.filter (fun x => decide (f x = key)) = more.filter fun x => decide (f x = key)) :
    l.Perm more := by
  apply List.perm_iff_count.2
  intro x
  have own : decide (f x = f x) = true := decide_eq_true rfl
  calc l.count x = (l.filter fun y => decide (f y = f x)).count x :=
        (List.count_filter (p := fun y => decide (f y = f x)) own).symm
    _ = (more.filter fun y => decide (f y = f x)).count x := by rw [h]
    _ = more.count x := List.count_filter (p := fun y => decide (f y = f x)) own

namespace Redirect

variable {key : Key} {l : List Redirect}

/-- The redirects of one key. -/
def only (key : Key) (l : List Redirect) : List Redirect := l.filter fun x => decide (x.key = key)

@[simp] theorem mem_keys_only : key ∈ keys (only key l) ↔ key ∈ keys l := by
  simp [only]

theorem only_without_self (key : Key) (l : List Redirect) :
    only key (without key l) = without key (only key l) :=
  List.filter_comm _ _ l

theorem only_without_of_ne {other : Key} (h : other ≠ key) (l : List Redirect) :
    only key (without other l) = only key l := by
  rw [only, only, without, List.filter_filter]
  apply List.filter_congr
  intro x _
  by_cases hkey : x.key = key
  · simp [hkey, Ne.symm h]
  · simp [hkey]

end Redirect

namespace Redirects

open Redirect (only only_without_self only_without_of_ne)

/-! ## One change -/

namespace Change

/-- The key of a change. -/
def key : Change → Key
  | .forward key _ | .clear key => key

/-- What a change makes of the redirects of our chain. -/
def apply (l : List Redirect) : Change → List Redirect
  | .forward key port => replace l ⟨key, port⟩
  | .clear key => without key l

/-- What a change of these redirects reports where nothing is made to fail. -/
def report (l : List Redirect) : Change → Report
  | .forward key _ => ⟨"forward", if key ∈ keys l then 2 else 1, []⟩
  | .clear key => ⟨"clear", if key ∈ keys l then 1 else 0, []⟩

variable (l : List Redirect) (asked : Change)

theorem only_apply_self : only asked.key (apply l asked) = apply (only asked.key l) asked := by
  cases asked with
  | clear key => exact only_without_self key l
  | forward key port =>
    show only key (without key l ++ [⟨key, port⟩]) = without key (only key l) ++ [⟨key, port⟩]
    rw [← only_without_self, only, List.filter_append]
    simp [only]

theorem only_apply_of_ne {key : Key} (h : asked.key ≠ key) :
    only key (apply l asked) = only key l := by
  cases asked with
  | clear other => exact only_without_of_ne h l
  | forward other port =>
    have hother : other ≠ key := h
    show only key (without other l ++ [⟨other, port⟩]) = only key l
    rw [← only_without_of_ne hother l, only, List.filter_append]
    simp [only, hother]

/-- A change reports what its own key gives reason to. -/
theorem report_only : report (only asked.key l) asked = report l asked := by
  cases asked with
  | forward key port => simp only [report, Change.key, Redirect.mem_keys_only]
  | clear key => simp only [report, Change.key, Redirect.mem_keys_only]

theorem isClean_report : (report l asked).isClean = true := by
  cases asked <;> rfl

end Change

/-- A change of redirects that are installed. -/
theorem Installed.change {chain : ChainName} {base : List String} {view : Chains}
    {l : List Redirect} {r : Redirects} {m : Memory} (h : Installed chain base view l r m)
    (foreign : ∀ key port, Rule.redirect key port ∉ base) (asked : Change) :
    ∃ r' after, (r.change chain asked).eval Memory.backend m = ((asked.report l, r'), after) ∧
      Installed chain base view (asked.apply l) r' after := by
  cases asked with
  | forward key port => exact h.forward foreign key port
  | clear key => exact h.clear foreign key

/-! ## Runs -/

/-- The changes of a run, each with its report. -/
def reports {σ : Type} (b : Backend σ) (chain : ChainName) (r : Redirects) (s : σ) :
    List Change → List (Change × Report)
  | [] => []
  | asked :: rest =>
    let outcome := (r.change chain asked).eval b s
    (asked, outcome.1.1) :: reports b chain outcome.1.2 outcome.2 rest

/-- The changes of a run that starts with some redirects, each with what it reports where nothing is
made to fail. -/
def outcomes (l : List Redirect) : List Change → List (Change × Report)
  | [] => []
  | asked :: rest => (asked, asked.report l) :: outcomes (asked.apply l) rest

/-- **A run on installed redirects.** It does what its changes make of them, and every change reports
what it would on them. -/
theorem Installed.run {chain : ChainName} {base : List String} {view : Chains}
    {l : List Redirect} {r : Redirects} {m : Memory} (h : Installed chain base view l r m)
    (foreign : ∀ key port, Rule.redirect key port ∉ base) (changes : List Change) :
    (∃ r' after, (r.changeAll chain changes).eval Memory.backend m = (r', after) ∧
      Installed chain base view (changes.foldl Change.apply l) r' after) ∧
    reports Memory.backend chain r m changes = outcomes l changes := by
  induction changes generalizing l r m with
  | nil => exact ⟨⟨r, m, rfl, h⟩, rfl⟩
  | cons asked rest ih =>
    obtain ⟨r', after, heval, hafter⟩ := h.change foreign asked
    obtain ⟨hrun, hreports⟩ := ih hafter
    have hadvance : (advance chain r asked).eval Memory.backend m = (r', after) := by
      unfold advance
      rw [eval_bind_of heval]
      rfl
    refine ⟨?_, ?_⟩
    · rw [changeAll_cons, eval_bind_of hadvance]
      exact hrun
    · rw [outcomes, ← hreports, reports, heval]

/-- The redirects of a key after a run are what its own changes make of its own redirects. -/
theorem only_foldl_apply (key : Key) (changes : List Change) (l : List Redirect) :
    only key (changes.foldl Change.apply l) =
      (changes.filter fun asked => decide (asked.key = key)).foldl Change.apply (only key l) := by
  induction changes generalizing l with
  | nil => rfl
  | cons asked rest ih =>
    rw [List.foldl_cons, ih]
    by_cases hkey : asked.key = key
    · subst hkey
      rw [List.filter_cons_of_pos (by simp), List.foldl_cons, Change.only_apply_self]
    · rw [List.filter_cons_of_neg (by simpa using hkey), Change.only_apply_of_ne l asked hkey]

/-- What the changes of a key report is what they would report without all the others. -/
theorem filter_outcomes (key : Key) (changes : List Change) (l : List Redirect) :
    (outcomes l changes).filter (fun entry => decide (entry.1.key = key)) =
      outcomes (only key l) (changes.filter fun asked => decide (asked.key = key)) := by
  induction changes generalizing l with
  | nil => rfl
  | cons asked rest ih =>
    rw [outcomes]
    by_cases hkey : asked.key = key
    · subst hkey
      rw [List.filter_cons_of_pos (by simp), List.filter_cons_of_pos (by simp), ih,
        Change.only_apply_self]
      rw [outcomes, Change.report_only]
    · rw [List.filter_cons_of_neg (by simpa using hkey),
        List.filter_cons_of_neg (by simpa using hkey), ih, Change.only_apply_of_ne l asked hkey]

theorem isClean_of_mem_outcomes {changes : List Change} {l : List Redirect}
    {entry : Change × Report} (h : entry ∈ outcomes l changes) : entry.2.isClean = true := by
  induction changes generalizing l with
  | nil => cases h
  | cons asked rest ih =>
    rcases List.mem_cons.1 h with rfl | hrest
    · exact Change.isClean_report l asked
    · exact ih hrest

/-! ## Two runs -/

/-- Two runs have the same changes, those of each key in the same order. -/
def Reordered (xs ys : List Change) : Prop :=
  ∀ key, xs.filter (fun asked => decide (asked.key = key)) =
    ys.filter fun asked => decide (asked.key = key)

theorem Reordered.perm {xs ys : List Change} (h : Reordered xs ys) : xs.Perm ys :=
  perm_of_filter_eq h

theorem Reordered.foldl_apply_perm {xs ys : List Change} (h : Reordered xs ys) (l : List Redirect) :
    (xs.foldl Change.apply l).Perm (ys.foldl Change.apply l) := by
  apply perm_of_filter_eq (f := Redirect.key)
  intro key
  show only key _ = only key _
  rw [only_foldl_apply, only_foldl_apply, h key]

/-- **Changes of different keys commute.** In a filter that nothing is made to fail, our chain holds any
rules that are no redirects, and nothing is on record.  Two runs make the same changes, those of each
key in the same order.  Then they end with the same mappings and the same rules in our chain, each as
often, though not in the same order; the changes of each key report the same in both runs, one after
the other, and no change of either run has a command refused. -/
theorem different_keys_commute {chain : ChainName} {m : Memory} {base : List String}
    (unforced : m.failing = []) (hbase : m.rules natTable chain.text = some base)
    (foreign : ∀ key port, Rule.redirect key port ∉ base) {xs ys : List Change}
    (h : Reordered xs ys) :
    let left := (empty.changeAll chain xs).eval Memory.backend m
    let right := (empty.changeAll chain ys).eval Memory.backend m
    let leftReports := reports Memory.backend chain empty m xs
    let rightReports := reports Memory.backend chain empty m ys
    left.1.mappings = right.1.mappings ∧
      (∃ rules more, left.2.rules natTable chain.text = some rules ∧
        right.2.rules natTable chain.text = some more ∧ rules.Perm more) ∧
      (∀ key, leftReports.filter (fun entry => decide (entry.1.key = key)) =
        rightReports.filter fun entry => decide (entry.1.key = key)) ∧
      ∀ entry ∈ leftReports ++ rightReports, entry.2.isClean = true := by
  intro left right leftReports rightReports
  have start : Installed chain base m.rules [] empty m :=
    .of_listed ⟨unforced, rfl⟩ (by rw [hbase, listed_empty, written, List.map_nil, List.append_nil])
  obtain ⟨⟨r, after, hleft, hinstalled⟩, hleftReports⟩ := start.run foreign xs
  obtain ⟨⟨r', after', hright, hinstalled'⟩, hrightReports⟩ := start.run foreign ys
  have perm := h.foldl_apply_perm []
  refine ⟨?_, ?_, ?_, ?_⟩
  · simp only [left, right, hleft, hright]
    rw [mappings_eq_mergeSort (hinstalled.listed_perm.trans perm),
      mappings_eq_mergeSort hinstalled'.listed_perm]
  · simp only [left, right, hleft, hright]
    exact ⟨_, _, hinstalled.rules, hinstalled'.rules, (perm.map Redirect.rule).append_left base⟩
  · intro key
    simp only [leftReports, rightReports, hleftReports, hrightReports]
    rw [filter_outcomes, filter_outcomes, h key]
  · intro entry hentry
    simp only [leftReports, rightReports, hleftReports, hrightReports] at hentry
    rcases List.mem_append.1 hentry with hentry | hentry
    · exact isClean_of_mem_outcomes hentry
    · exact isClean_of_mem_outcomes hentry

/-- A key that is cleared and then forwarded, and one that is forwarded after that or before. -/
theorem different_keys_commute_swapped :
    let chain : ChainName := ⟨"A", by decide⟩
    let key (last : UInt8) : Key := ⟨.tcp, ⟨10, 0, 0, last⟩⟩
    let m : Memory :=
      ⟨Keyed.empty.put natTable (Filter.Table.builtin.put "A" [Rule.loopback]), [], []⟩
    let xs : List Change := [.clear (key 1), .forward (key 1) 80, .forward (key 2) 81]
    let ys : List Change := [.forward (key 2) 81, .clear (key 1), .forward (key 1) 80]
    let left := (empty.changeAll chain xs).eval Memory.backend m
    let right := (empty.changeAll chain ys).eval Memory.backend m
    Reordered xs ys ∧ left.2.rules natTable "A" ≠ right.2.rules natTable "A" ∧
      left.1.mappings = right.1.mappings := by
  intro chain key m xs ys left right
  have reordered : Reordered xs ys := by
    intro other
    by_cases hfirst : key 1 = other
    · subst hfirst
      rfl
    · simp [xs, ys, Change.key, List.filter_cons, hfirst]
  have hbase : m.rules natTable chain.text = some [Rule.loopback] := by decide +kernel
  have commute := different_keys_commute rfl hbase Redirect.foreign_loopback reordered
  exact ⟨reordered, by decide +kernel, commute.1⟩

end Redirects

end Divert
