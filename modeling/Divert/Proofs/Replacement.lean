/-
# Divert.Proofs.Replacement — a list of redirects, applied to a chain that is in order.

The list may name a key any number of times, and keys that are redirected already.  Each entry takes out
the rule that its key has and puts a new one last, so the last entry of a key decides on its port and on
the place of its rule.  The redirects that the list does not name keep their places in front.  Nothing
of this depends on what the chain held for the keys of the list, which is why applying the list once
more changes nothing, however many rules it takes out and puts in again.
-/
import Divert.Proofs.Deployment
import Divert.Proofs.Redirects.Installed
import Mathlib.Data.List.Dedup

namespace Divert

/-! ## What is left of a list -/

namespace Redirect

variable {l rs : List Redirect} {key : Key} {port : UInt16}

/-- The redirects that no later one has the key of, in their order: the last one of each key. -/
def latest : List Redirect → List Redirect
  | [] => []
  | x :: rest => if x.key ∈ keys rest then latest rest else x :: latest rest

/-- How many redirects of a list have a key that is among the earlier ones, or one of those in `l`. -/
def replacements (l rs : List Redirect) : Nat :=
  rs.zipIdx.countP fun (x, i) => decide (x.key ∈ keys l ∨ x.key ∈ keys (rs.take i))

theorem keys_cons (x : Redirect) (rest : List Redirect) :
    keys (x :: rest) = x.key :: keys rest :=
  rfl

theorem latest_cons (x : Redirect) (rest : List Redirect) :
    latest (x :: rest) = if x.key ∈ keys rest then latest rest else x :: latest rest :=
  rfl

theorem keys_latest (rs : List Redirect) : keys (latest rs) = (keys rs).dedup := by
  induction rs with
  | nil => rfl
  | cons x rest ih =>
    rw [latest_cons, keys_cons]
    by_cases later : x.key ∈ keys rest
    · rw [if_pos later, List.dedup_cons_of_mem later, ih]
    · rw [if_neg later, List.dedup_cons_of_notMem later, keys_cons, ih]

theorem portOf?_append (key : Key) (l more : List Redirect) :
    portOf? key (l ++ more) = (portOf? key l).or (portOf? key more) := by
  rw [portOf?, List.find?_append, Option.map_or]
  rfl

theorem portOf?_singleton (key : Key) (x : Redirect) :
    portOf? key [x] = if x.key = key then some x.port else none := by
  by_cases hkey : x.key = key <;> simp [portOf?, hkey]

theorem portOf?_reverse_eq_none_iff : portOf? key rs.reverse = none ↔ key ∉ keys rs := by
  rw [portOf?_eq_none_iff, keys, List.map_reverse, List.mem_reverse]
  rfl

/-- The last redirect of a key is the first one from the end. -/
theorem mem_latest : ⟨key, port⟩ ∈ latest rs ↔ portOf? key rs.reverse = some port := by
  induction rs with
  | nil => simp [latest, portOf?]
  | cons x rest ih =>
    obtain ⟨first, old⟩ := x
    rw [List.reverse_cons, portOf?_append, portOf?_singleton, latest_cons]
    by_cases hkey : first = key
    · subst hkey
      by_cases later : first ∈ keys rest
      · have present := mt portOf?_reverse_eq_none_iff.1 (not_not_intro later)
        obtain ⟨found, hfound⟩ := Option.ne_none_iff_exists'.1 present
        rw [if_pos later, ih, hfound]
        rfl
      · have none_later := portOf?_reverse_eq_none_iff.2 later
        rw [none_later] at ih
        rw [if_neg later, none_later, List.mem_cons, ih]
        simp [eq_comm]
    · have other : (⟨key, port⟩ : Redirect) ≠ ⟨first, old⟩ := fun heq =>
        hkey (congrArg Redirect.key heq).symm
      rw [if_neg hkey, Option.or_none, ← ih]
      split
      · rfl
      · rw [List.mem_cons, or_iff_right other]

/-- **What a list leaves.** The redirects that it does not name, and then the last one of each key. -/
theorem foldl_replace (rs l : List Redirect) :
    rs.foldl replace l = (l.filter fun x => decide (x.key ∉ keys rs)) ++ latest rs := by
  induction rs generalizing l with
  | nil => simp [keys, latest]
  | cons x rest ih =>
    rw [List.foldl_cons, ih, replace, List.filter_append, List.append_assoc]
    have named : (without x.key l).filter (fun y => decide (y.key ∉ keys rest)) =
        l.filter fun y => decide (y.key ∉ keys (x :: rest)) := by
      rw [without, List.filter_filter]
      apply List.filter_congr
      intro y _
      simp only [keys_cons, List.mem_cons, not_or, Bool.decide_and, ne_eq, Bool.and_comm]
    rw [named, latest_cons]
    congr 1
    by_cases later : x.key ∈ keys rest
    · rw [if_pos later, List.filter_cons_of_neg (by simpa using later)]
      rfl
    · rw [if_neg later, List.filter_cons_of_pos (by simpa using later)]
      rfl

/-- Where a list has been applied, it leaves everything as it is. -/
theorem foldl_replace_again (rs l : List Redirect) :
    rs.foldl replace (rs.foldl replace l) = rs.foldl replace l := by
  have replaced : (latest rs).filter (fun x => decide (x.key ∉ keys rs)) = [] := by
    rw [List.filter_eq_nil_iff]
    intro x hx
    have named : x.key ∈ keys rs := by
      rw [← List.mem_dedup, ← keys_latest]
      exact List.mem_map_of_mem hx
    simpa using named
  rw [foldl_replace rs (rs.foldl replace l), foldl_replace rs l, List.filter_append, replaced,
    List.append_nil, List.filter_filter]
  simp

theorem replacements_cons (l : List Redirect) (x : Redirect) (rest : List Redirect) :
    replacements l (x :: rest) =
      (if x.key ∈ keys l then 1 else 0) + replacements (replace l x) rest := by
  unfold replacements
  rw [List.zipIdx_cons, List.countP_cons, List.zipIdx_succ, List.countP_map, Nat.add_comm]
  congr 1
  · simp [keys]
  · apply List.countP_congr
    rintro ⟨y, i⟩ -
    simp only [Function.comp_apply, List.take_succ_cons, keys_cons, List.mem_cons,
      mem_keys_replace, or_assoc]

end Redirect

open Redirect (keys replace latest replacements portOf?)
open Redirects (Installed)

/-! ## Applying a list -/

section Installed

variable {chain : ChainName} {base : List String} {view : Chains} {l : List Redirect}
  {r : Redirects} {m : Memory}

theorem foldl_serveNext (h : Installed chain base view l r m)
    (foreign : ∀ key port, Rule.redirect key port ∉ base) (report : Report) (rs : List Redirect) :
    ∃ r' after, rs.foldl (Deployment.serveNext Memory.backend) (report, ⟨⟨chain, r⟩, m⟩) =
        (report.plus (rs.length + replacements l rs) [], ⟨⟨chain, r'⟩, after⟩) ∧
      Installed chain base view (rs.foldl replace l) r' after := by
  induction rs generalizing l r m report with
  | nil => exact ⟨r, m, by rw [replacements]; simp, h⟩
  | cons x rest ih =>
    obtain ⟨key, port⟩ := x
    obtain ⟨dropped, between, heval, hbetween⟩ := h.forward foreign key port
    have hserve := Deployment.serve_forward_of_eval (d := ⟨⟨chain, r⟩, m⟩) heval
    obtain ⟨r', after, hrest, hafter⟩ :=
      ih hbetween (report.plus (if key ∈ keys l then 2 else 1) [])
    have merged : report.merge ⟨"forward", if key ∈ keys l then 2 else 1, []⟩ =
        report.plus (if key ∈ keys l then 2 else 1) [] := by
      split <;> rfl
    refine ⟨r', after, ?_, hafter⟩
    rw [List.foldl_cons, Deployment.serveNext, hserve, merged, hrest, Report.plus_plus,
      Redirect.replacements_cons, List.length_cons]
    congr 2
    split <;> omega

/-- Applying a list reports one command for each of its redirects, and one more for each rule that has
to go first. -/
theorem serve_applyAll_installed (h : Installed chain base view l r m)
    (foreign : ∀ key port, Rule.redirect key port ∉ base) (rs : List Redirect) :
    ∃ r' after, Deployment.serve Memory.backend ⟨⟨chain, r⟩, m⟩ (.applyAll rs) =
        (⟨"apply_redirects", .ofNat (rs.length + replacements l rs), []⟩, ⟨⟨chain, r'⟩, after⟩) ∧
      Installed chain base view (rs.foldl replace l) r' after := by
  obtain ⟨r', after, hfold, hafter⟩ :=
    foldl_serveNext h foreign (.start "apply_redirects") rs
  refine ⟨r', after, ?_, hafter⟩
  rw [Deployment.serve_applyAll, hfold, Report.start_plus]

/-- The same redirects in the chain, the same mappings. -/
theorem Redirects.Installed.mappings_eq (h : Installed chain base view l r m) {r' : Redirects}
    {after : Memory} (h' : Installed chain base view l r' after) : r'.mappings = r.mappings := by
  rw [Redirects.mappings_eq_mergeSort h'.listed_perm, Redirects.mappings_eq_mergeSort h.listed_perm]

/-- The last redirect of a list decides, and the record from before where the list has none. -/
theorem Redirects.Installed.get?_foldl_replace (h : Installed chain base view l r m)
    {rs : List Redirect} {r' : Redirects} {after : Memory}
    (h' : Installed chain base view (rs.foldl replace l) r' after) (key : Key) :
    r'.get? key = (portOf? key rs.reverse).or (r.get? key) := by
  apply Option.ext
  intro port
  rw [← h'.recorded, Redirect.foldl_replace, List.mem_append, Redirect.mem_latest, List.mem_filter,
    h.recorded, decide_eq_true_eq]
  cases hlast : portOf? key rs.reverse with
  | none =>
    have absent : key ∉ keys rs := Redirect.portOf?_reverse_eq_none_iff.1 hlast
    simp only [absent, not_false_eq_true, and_true, reduceCtorEq, or_false, Option.none_or]
  | some last =>
    have named : key ∈ keys rs := by
      by_contra absent
      rw [Redirect.portOf?_reverse_eq_none_iff.2 absent] at hlast
      cases hlast
    simp only [named, not_true_eq_false, and_false, false_or, Option.some_or]

end Installed

/-- **Last entries win.** Our chain holds the loopback exemption and the rules of some redirects, which
are the recorded ones, and nothing is made to fail.  Then any list can be applied: no command is
refused, and there is one for each entry and one more for each entry whose key is redirected already or
came earlier, which is what the report counts as far as 64 bits hold it.  Afterwards every key has the
port of its last entry, or the one from before.  In the chain, the redirects without an entry keep their
order, and the last entries come after them in theirs; no other chain has changed.  Applying the list
again leaves every rule and the mappings as they are. -/
theorem last_entries_win {d : Deployment Memory} {l : List Redirect}
    (unforced : d.filter.failing = []) (distinct : l.Nodup)
    (hchain : d.filter.rules natTable d.translator.chain.text =
      some (Rule.loopback :: l.map Redirect.rule))
    (recorded : ∀ key port, ⟨key, port⟩ ∈ l ↔ d.translator.redirects.get? key = some port)
    (rs : List Redirect) :
    let first := d.serve Memory.backend (.applyAll rs)
    let again := first.2.serve Memory.backend (.applyAll rs)
    first.1 = ⟨"apply_redirects", .ofNat (rs.length + replacements l rs), []⟩ ∧
      (rs.length + replacements l rs < 2 ^ 64 →
        first.1.attempted = rs.length + replacements l rs) ∧
      (∀ key, first.2.translator.redirects.get? key =
        (portOf? key rs.reverse).or (d.translator.redirects.get? key)) ∧
      first.2.filter.rules = Chains.set d.filter.rules natTable d.translator.chain.text
        (some (Rule.loopback ::
          ((l.filter fun x => decide (x.key ∉ keys rs)) ++ latest rs).map Redirect.rule)) ∧
      again.2.filter.rules = first.2.filter.rules ∧
      again.2.translator.mappings = first.2.translator.mappings := by
  obtain ⟨⟨chain, r⟩, m⟩ := d
  have start : Installed chain [Rule.loopback] m.rules l r m := by
    refine ⟨⟨unforced, ?_⟩, ?_, recorded⟩
    · exact (Chains.set_eq_self m.rules _ _ _ hchain).symm
    · -- A key has one port on record, so no two of the redirects share their key.
      apply (List.nodup_map_iff_inj_on distinct).2
      rintro ⟨key, port⟩ hport ⟨_, other⟩ hother rfl
      rw [recorded] at hport hother
      rw [Option.some.inj (hport.symm.trans hother)]
  obtain ⟨r', after, hfirst, hafter⟩ := serve_applyAll_installed start Redirect.foreign_loopback rs
  obtain ⟨r'', later, hagain, hlater⟩ :=
    serve_applyAll_installed hafter Redirect.foreign_loopback rs
  rw [Redirect.foldl_replace_again] at hlater
  simp only [hfirst, hagain]
  refine ⟨trivial, Report.attempted_of_lt, start.get?_foldl_replace hafter, ?_, ?_,
    hafter.mappings_eq hlater⟩
  · rw [hafter.shows.rules, Redirect.foldl_replace]
    rfl
  · rw [hlater.shows.rules, hafter.shows.rules]

/-- A list of three entries for two keys, one of which is redirected already. -/
theorem last_entries_win_repeated :
    let chain : ChainName := ⟨"A", by decide⟩
    let key (last : UInt8) : Key := ⟨.tcp, ⟨10, 0, 0, last⟩⟩
    let table : Filter.Table := Filter.Table.builtin.put "A"
      [Rule.loopback, Rule.redirect (key 1) 80, Rule.redirect (key 2) 81]
    let d : Deployment Memory := ⟨⟨chain, ⟨(Keyed.empty.put (key 1) 80).put (key 2) 81⟩⟩,
      ⟨Keyed.empty.put natTable table, [], []⟩⟩
    let first := d.serve Memory.backend
      (.applyAll [⟨key 1, 82⟩, ⟨key 3, 83⟩, ⟨key 1, 84⟩])
    first.1 = ⟨"apply_redirects", 5, []⟩ ∧ first.1.attempted = 5 ∧
      first.2.translator.redirects.get? (key 1) = some 84 ∧
      first.2.filter.rules natTable "A" = some [Rule.loopback, Rule.redirect (key 2) 81,
        Rule.redirect (key 3) 83, Rule.redirect (key 1) 84] := by
  intro chain key table d first
  have recorded (other : Key) (port : UInt16) : ⟨other, port⟩ ∈ d.translator.redirects.listed ↔
      d.translator.redirects.get? other = some port := Redirects.mem_listed
  have unforced : d.filter.failing = [] := rfl
  have installed : d.filter.rules natTable d.translator.chain.text =
      some (Rule.loopback :: d.translator.redirects.listed.map Redirect.rule) := by decide +kernel
  obtain ⟨hreport, hcount, hport, hrules, -⟩ := last_entries_win unforced
    (List.Nodup.of_map _ d.translator.redirects.nodup_keys_listed) installed recorded
    [⟨key 1, 82⟩, ⟨key 3, 83⟩, ⟨key 1, 84⟩]
  refine ⟨?_, ?_, ?_, ?_⟩
  · rw [hreport]
    decide +kernel
  · exact (hcount (by decide +kernel)).trans (by decide +kernel)
  · rw [hport]
    rfl
  · rw [hrules]
    decide +kernel

end Divert
