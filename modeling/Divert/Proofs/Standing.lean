/-
# Divert.Proofs.Standing — what a translator leaves standing on a filter that works.

On a filter that nothing is made to fail, a translator is an abstract machine.  Its chain is absent, or
it is present with some redirects that are *live*: recorded, and with a rule in the chain.  A record can
also be *gone*: enabling a chain that is there empties it, while the record is kept, and from then on
the rule that is recorded cannot be deleted.  `Standing.serve` is that machine with its reports, and
`Describes` ties it to the translator and the filter, over any rules that were there before.
-/
import Divert.Proofs.Deployment
import Divert.Proofs.Lifecycle.Vacant
import Divert.Proofs.Redirects.Settled

namespace Divert

/-! ## The machine -/

/-- Our chain and the record. -/
inductive Standing where
  | absent
  /-- The live redirects in the order of their rules, and the recorded ones whose rules are gone. -/
  | present (live gone : List Redirect)

namespace Standing

open Redirect (keys without portOf?)

variable (chain : ChainName)

def enable : Standing → Report × Standing
  | absent => (⟨"enable", 6, []⟩, present [] [])
  | present live gone => (⟨"enable", 7, []⟩, present [] (live ++ gone))

def disable : Standing → Report × Standing
  | absent => (⟨"disable", 2, Lifecycle.notInstalled chain⟩, absent)
  | present _ _ => (⟨"disable", 4, []⟩, absent)

def clear (key : Key) : Standing → Report × Standing
  | absent => (⟨"clear", 0, []⟩, absent)
  | present live gone =>
    match portOf? key gone with
    | some port => (⟨"clear", 1, [Redirects.noRule chain key port]⟩, present live gone)
    | none => (⟨"clear", if key ∈ keys live then 1 else 0, []⟩, present (without key live) gone)

def forward (key : Key) (port : UInt16) : Standing → Report × Standing
  | absent => (⟨"forward", 1, [Redirects.noChain chain key port]⟩, absent)
  | present live gone =>
    match portOf? key gone with
    | some old => (⟨"forward", 1, [Redirects.noRule chain key old]⟩, present live gone)
    | none => (⟨"forward", if key ∈ keys live then 2 else 1, []⟩,
        present (without key live ++ [⟨key, port⟩]) gone)

/-- Forward one redirect within a report. -/
def forwardNext (outcome : Report × Standing) (r : Redirect) : Report × Standing :=
  let next := outcome.2.forward chain r.key r.port
  (outcome.1.merge next.1, next.2)

/-- The report of an operation and the machine afterwards. -/
def serve (s : Standing) : Operation → Report × Standing
  | .enable => s.enable
  | .disable => s.disable chain
  | .forward key port => s.forward chain key port
  | .clear key => s.clear chain key
  | .applyAll redirects => redirects.foldl (forwardNext chain) (.start "apply_redirects", s)

def after (s : Standing) (ops : List Operation) : Standing :=
  ops.foldl (fun s op => (s.serve chain op).2) s

def reports (s : Standing) : List Operation → List Report
  | [] => []
  | op :: ops => (s.serve chain op).1 :: reports (s.serve chain op).2 ops

/-! ## What the machine says of the rules and the record -/

/-- The rules of a chain with live redirects. -/
def rules (live : List Redirect) : List String := Rule.loopback :: live.map Redirect.rule

/-- The rules of the whole filter, given those that were there before. -/
def view (base : Chains) : Standing → Chains
  | absent => base
  | present live _ => base.arrange chain (some (rules live)) (Rule.jump chain :: ·)

/-- The redirects on record. -/
def recorded : Standing → List Redirect
  | absent => []
  | present live gone => live ++ gone

end Standing

/-- The machine describes a translator for the chain and its filter. -/
structure Describes (chain : ChainName) (base : Chains) (s : Standing) (d : Deployment Memory) :
    Prop where
  owner : d.translator.chain = chain
  record : d.translator.redirects.listed.Perm s.recorded
  filter : d.filter.Shows (s.view chain base)

/-! ## Rules of live redirects -/

namespace Standing

open Redirect (keys without portOf?)

variable {live gone : List Redirect} {key : Key} {port : UInt16}

theorem mem_rules : Rule.redirect key port ∈ rules live ↔ ⟨key, port⟩ ∈ live :=
  Redirect.mem_written (Redirect.foreign_loopback key port)

theorem nodup_rules (distinct : (keys live).Nodup) : (rules live).Nodup := by
  refine List.nodup_cons.2 ⟨?_, ?_⟩
  · intro hmem
    obtain ⟨r, -, hr⟩ := List.mem_map.1 hmem
    exact Rule.redirect_ne_loopback r.key r.port hr
  · exact (List.Nodup.of_map Redirect.key distinct).map Redirect.rule_injective

end Standing

/-! ## One operation -/

namespace Describes

open Redirect (keys without portOf?)

variable {chain : ChainName} {base : Chains} {d : Deployment Memory} {s : Standing}
  {live gone : List Redirect} {key : Key} {port : UInt16}

theorem nodup (h : Describes chain base s d) : (keys s.recorded).Nodup :=
  (h.record.map Redirect.key).nodup_iff.1 d.translator.redirects.nodup_keys_listed

theorem nodup_live (h : Describes chain base (.present live gone) d) : (keys live).Nodup := by
  have all := h.nodup
  simp only [Standing.recorded, keys, List.map_append] at all
  exact all.of_append_left

theorem get?_of_mem (h : Describes chain base s d) (hmem : ⟨key, port⟩ ∈ s.recorded) :
    d.translator.redirects.get? key = some port :=
  Redirects.mem_listed.1 (h.record.mem_iff.2 hmem)

theorem get?_eq_none (h : Describes chain base s d) (hkey : key ∉ keys s.recorded) :
    d.translator.redirects.get? key = none := by
  rw [Redirects.get?_eq_none_iff]
  intro hmem
  exact hkey ((h.record.map Redirect.key).mem_iff.1 hmem)

theorem serve_enable (h : Describes chain base s d) (vacant : base.Vacant chain) :
    ∃ after, d.serve Memory.backend .enable = (s.enable.1, after) ∧
      Describes chain base s.enable.2 after := by
  obtain ⟨⟨c, r⟩, m⟩ := d
  obtain rfl : c = chain := h.owner
  cases s with
  | absent =>
    obtain ⟨after, heval, hafter⟩ := Lifecycle.enable_vacant h.filter vacant
    exact ⟨⟨⟨c, r⟩, after⟩, Deployment.serve_enable_of_eval heval, rfl, h.record, hafter⟩
  | present live gone =>
    -- The record is kept as it is, so what was live is gone now.
    obtain ⟨after, heval, hafter⟩ := Lifecycle.enable_again vacant h.filter
    exact ⟨⟨⟨c, r⟩, after⟩, Deployment.serve_enable_of_eval heval, rfl, h.record, hafter⟩

theorem serve_disable (h : Describes chain base s d) (vacant : base.Vacant chain) :
    ∃ after, d.serve Memory.backend .disable = ((s.disable chain).1, after) ∧
      Describes chain base (s.disable chain).2 after := by
  obtain ⟨⟨c, r⟩, m⟩ := d
  obtain rfl : c = chain := h.owner
  cases s with
  | absent =>
    obtain ⟨after, heval, hafter⟩ := Lifecycle.disable_vacant h.filter vacant
    exact ⟨⟨⟨c, .empty⟩, after⟩, Deployment.serve_disable_of_eval heval, rfl, List.Perm.nil, hafter⟩
  | present live gone =>
    obtain ⟨after, heval, hafter⟩ := Lifecycle.disable_installed vacant h.filter
    exact ⟨⟨⟨c, .empty⟩, after⟩, Deployment.serve_disable_of_eval heval, rfl, List.Perm.nil, hafter⟩

/-- A key that is not among those gone is on record as it is live. -/
theorem recorded_live (h : Describes chain base (.present live gone) d) (hgone : key ∉ keys gone)
    (port : UInt16) :
    ⟨key, port⟩ ∈ live ↔ d.translator.redirects.get? key = some port := by
  rw [← Redirects.mem_listed, h.record.mem_iff, Standing.recorded, List.mem_append, or_iff_left]
  intro hmem
  exact hgone (Redirect.mem_keys.2 ⟨port, hmem⟩)

/-- Without such a key, the record has what else is live, and what is gone. -/
theorem listed_erase_perm (h : Describes chain base (.present live gone) d)
    (hgone : key ∉ keys gone) :
    (⟨d.translator.redirects.ports.erase key⟩ : Redirects).listed.Perm
      (without key live ++ gone) := by
  rw [Redirects.listed_erase]
  have perm := h.record.filter fun r => decide (r.key ≠ key)
  have same : without key gone = gone := Redirect.without_of_notMem hgone
  rw [Standing.recorded, List.filter_append] at perm
  exact same ▸ perm

/-- A redirect that is gone has a record and no rule. -/
theorem of_mem_gone (h : Describes chain base (.present live gone) d) (hgone : ⟨key, port⟩ ∈ gone) :
    d.translator.redirects.get? key = some port ∧
      Rule.redirect key port ∉ Standing.rules live := by
  refine ⟨h.get?_of_mem (List.mem_append_right live hgone), ?_⟩
  intro hrule
  have all := h.nodup
  simp only [Standing.recorded, keys, List.map_append] at all
  have hlive : key ∈ live.map Redirect.key := Redirect.mem_keys.2 ⟨port, Standing.mem_rules.1 hrule⟩
  have hkey : key ∈ gone.map Redirect.key := Redirect.mem_keys.2 ⟨port, hgone⟩
  exact (List.nodup_append.1 all).2.2 key hlive key hkey rfl

theorem serve_clear (h : Describes chain base s d) (key : Key) :
    ∃ after, d.serve Memory.backend (.clear key) = ((s.clear chain key).1, after) ∧
      Describes chain base (s.clear chain key).2 after := by
  obtain ⟨⟨c, r⟩, m⟩ := d
  obtain rfl : c = chain := h.owner
  cases s with
  | absent =>
    have hnone : r.get? key = none := h.get?_eq_none List.not_mem_nil
    have heval : (r.clear c key).eval Memory.backend m = ((.start "clear", r), m) := by
      rw [Redirects.clear, Redirects.drop_of_none hnone]
      rfl
    exact ⟨⟨⟨c, r⟩, m⟩, Deployment.serve_clear_of_eval heval, rfl, h.record, h.filter⟩
  | present live gone =>
    have hrules : (Standing.present live gone).view c base natTable c.text =
        some (Standing.rules live) := Chains.arrange_own ..
    cases hport : portOf? key gone with
    | some port =>
      obtain ⟨hrecord, hrule⟩ := h.of_mem_gone (Redirect.mem_of_portOf? hport)
      obtain ⟨after, heval, hafter⟩ :=
        Redirects.drop_eval_gone h.filter hrules hrecord hrule (.start "clear")
      simp only [Standing.clear, hport]
      exact ⟨⟨⟨c, r⟩, after⟩, Deployment.serve_clear_of_eval heval, rfl, h.record, hafter⟩
    | none =>
      have hgone := Redirect.portOf?_eq_none_iff.1 hport
      obtain ⟨after, heval, hafter⟩ := Redirects.drop_recorded h.filter Redirect.foreign_loopback
        hrules h.nodup_live (h.recorded_live hgone) (.start "clear")
      rw [Report.start_plus, apply_ite UInt64.ofNat] at heval
      rw [Standing.view, Chains.set_own_arrange] at hafter
      simp only [Standing.clear, hport]
      exact ⟨⟨⟨c, ⟨r.ports.erase key⟩⟩, after⟩, Deployment.serve_clear_of_eval heval, rfl,
        h.listed_erase_perm hgone, hafter⟩

theorem serve_forward (h : Describes chain base s d) (vacant : base.Vacant chain) (key : Key)
    (port : UInt16) :
    ∃ after, d.serve Memory.backend (.forward key port) = ((s.forward chain key port).1, after) ∧
      Describes chain base (s.forward chain key port).2 after := by
  obtain ⟨⟨c, r⟩, m⟩ := d
  obtain rfl : c = chain := h.owner
  cases s with
  | absent =>
    obtain ⟨after, heval, hafter⟩ := Redirects.forward_eval_missing h.filter
      vacant.absent (h.get?_eq_none List.not_mem_nil) port
    exact ⟨⟨⟨c, r⟩, after⟩, Deployment.serve_forward_of_eval heval, rfl, h.record, hafter⟩
  | present live gone =>
    have hrules : (Standing.present live gone).view c base natTable c.text =
        some (Standing.rules live) := Chains.arrange_own ..
    cases hport : portOf? key gone with
    | some old =>
      obtain ⟨hrecord, hrule⟩ := h.of_mem_gone (Redirect.mem_of_portOf? hport)
      obtain ⟨after, heval, hafter⟩ :=
        Redirects.forward_eval_gone h.filter hrules hrecord hrule port
      simp only [Standing.forward, hport]
      exact ⟨⟨⟨c, r⟩, after⟩, Deployment.serve_forward_of_eval heval, rfl, h.record, hafter⟩
    | none =>
      have hgone := Redirect.portOf?_eq_none_iff.1 hport
      obtain ⟨after, heval, hafter⟩ := Redirects.forward_recorded h.filter Redirect.foreign_loopback
        hrules h.nodup_live (h.recorded_live hgone) port
      rw [Standing.view, Chains.set_own_arrange] at hafter
      simp only [Standing.forward, hport]
      refine ⟨⟨⟨c, ⟨(r.ports.erase key).put key port⟩⟩, after⟩,
        Deployment.serve_forward_of_eval heval, rfl, ?_, hafter⟩
      -- The new redirect goes to the end of the record, but before what is gone in the machine.
      show (⟨(r.ports.erase key).put key port⟩ : Redirects).listed.Perm _
      rw [Redirects.listed_put (r := ⟨r.ports.erase key⟩) (r.ports.get?_erase_self key)]
      refine ((h.listed_erase_perm hgone).append_right [⟨key, port⟩]).trans ?_
      simp only [Standing.recorded, List.append_assoc]
      exact List.Perm.append_left _ List.perm_append_comm

/-- Forwards within one report are the machine's forwards within that report. -/
theorem foldl_forward (h : Describes chain base s d) (vacant : base.Vacant chain)
    (redirects : List Redirect) (report : Report) :
    ∃ after, redirects.foldl (Deployment.serveNext Memory.backend) (report, d) =
        ((redirects.foldl (Standing.forwardNext chain) (report, s)).1, after) ∧
      Describes chain base (redirects.foldl (Standing.forwardNext chain) (report, s)).2 after := by
  induction redirects generalizing d s report with
  | nil => exact ⟨d, rfl, h⟩
  | cons r rest ih =>
    obtain ⟨between, hserve, hbetween⟩ := h.serve_forward vacant r.key r.port
    rw [List.foldl_cons, List.foldl_cons, Deployment.serveNext, hserve]
    exact ih hbetween (report.merge (s.forward chain r.key r.port).1)

/-- **One operation.** The translator reports what the machine reports, and the machine still
describes it afterwards. -/
theorem serve (h : Describes chain base s d) (vacant : base.Vacant chain) (op : Operation) :
    ∃ after, d.serve Memory.backend op = ((s.serve chain op).1, after) ∧
      Describes chain base (s.serve chain op).2 after := by
  cases op with
  | enable => exact h.serve_enable vacant
  | disable => exact h.serve_disable vacant
  | forward key port => exact h.serve_forward vacant key port
  | clear key => exact h.serve_clear key
  | applyAll redirects =>
    rw [Deployment.serve_applyAll]
    exact h.foldl_forward vacant redirects (.start "apply_redirects")

/-- **Whole runs.** The same holds of every list of operations. -/
theorem run (h : Describes chain base s d) (vacant : base.Vacant chain) (ops : List Operation) :
    d.reports Memory.backend ops = s.reports chain ops ∧
      Describes chain base (s.after chain ops) (d.after Memory.backend ops) := by
  induction ops generalizing d s with
  | nil => exact ⟨rfl, h⟩
  | cons op ops ih =>
    obtain ⟨next, hserve, hnext⟩ := h.serve vacant op
    obtain ⟨hreports, hafter⟩ := ih hnext
    rw [Deployment.reports, Deployment.after_cons, hserve, hreports]
    exact ⟨rfl, hafter⟩

end Describes

/-- A new translator on a filter that nothing is made to fail. -/
theorem describes_start {m : Memory} (hfailing : m.failing = []) (chain : ChainName) :
    Describes chain m.rules .absent (.start chain m) :=
  ⟨rfl, List.Perm.nil, hfailing, rfl⟩

/-- From the start of everything, the machine describes every run. -/
theorem describes_run (chain : ChainName) (ops : List Operation) :
    Describes chain Memory.fresh.rules (Standing.absent.after chain ops)
      ((Deployment.fresh chain).after Memory.backend ops) :=
  ((describes_start rfl chain).run (Memory.vacant_fresh chain) ops).2

/-! ## What can be seen of a deployment -/

namespace Describes

variable {chain : ChainName} {base : Chains} {d : Deployment Memory} {s : Standing}
  {live gone : List Redirect} {key : Key} {port : UInt16}

theorem chainRules_absent (h : Describes chain base .absent d) (vacant : base.Vacant chain) :
    d.chainRules Memory.rules = none := by
  rw [Deployment.chainRules, h.owner, h.filter.rules]
  exact vacant.absent

theorem chainRules_present (h : Describes chain base (.present live gone) d) :
    d.chainRules Memory.rules = some (Standing.rules live) := by
  rw [Deployment.chainRules, h.owner, h.filter.rules]
  exact Chains.arrange_own ..

/-- The mappings are the redirects on record. -/
theorem mappings_perm (h : Describes chain base s d) :
    d.translator.mappings.Perm s.recorded :=
  d.translator.redirects.mappings_perm.trans h.record

end Describes

end Divert
