/-
# Divert.Proofs.Refinement — a translator is a list of redirects that is on or off.

Where the chain is only enabled while it is not there, nothing can go missing, and a translator on a
filter that nothing is made to fail is a very small machine.  It is disabled, or it is enabled with a
list of redirects, the most recently forwarded last.  The list gives the rules of our chain and the
mappings, the hook points hold our hook before what they held at the start, everything else is as it
was, and every report is the machine's: clean, but for what cannot be done while the chain is not there.
-/
import Divert.Proofs.Standing

namespace Divert

/-! ## The machine -/

/-- Our chain is not there, or it redirects some keys. -/
inductive Phase where
  | disabled
  /-- The redirects in the order of their forwards, one for each key. -/
  | enabled (l : List Redirect)

namespace Phase

open Redirect (keys without)

variable (chain : ChainName)

def disable : Phase → Report × Phase
  | disabled => (⟨"disable", 2, Lifecycle.notInstalled chain⟩, disabled)
  | enabled _ => (⟨"disable", 4, []⟩, disabled)

def clear (key : Key) : Phase → Report × Phase
  | disabled => (⟨"clear", 0, []⟩, disabled)
  | enabled l => (⟨"clear", if key ∈ keys l then 1 else 0, []⟩, enabled (without key l))

def forward (key : Key) (port : UInt16) : Phase → Report × Phase
  | disabled => (⟨"forward", 1, [Redirects.noChain chain key port]⟩, disabled)
  | enabled l => (⟨"forward", if key ∈ keys l then 2 else 1, []⟩,
      enabled (without key l ++ [⟨key, port⟩]))

/-- Forward one redirect within a report. -/
def forwardNext (outcome : Report × Phase) (r : Redirect) : Report × Phase :=
  let next := outcome.2.forward chain r.key r.port
  (outcome.1.merge next.1, next.2)

/-- The report of an operation and the machine afterwards.  The chain is enabled from `disabled`
only. -/
def serve (p : Phase) : Operation → Report × Phase
  | .enable => (⟨"enable", 6, []⟩, enabled [])
  | .disable => p.disable chain
  | .forward key port => p.forward chain key port
  | .clear key => p.clear key
  | .applyAll redirects => redirects.foldl (forwardNext chain) (.start "apply_redirects", p)

def after (p : Phase) (ops : List Operation) : Phase :=
  ops.foldl (fun p op => (p.serve chain op).2) p

def reports (p : Phase) : List Operation → List Report
  | [] => []
  | op :: ops => (p.serve chain op).1 :: reports (p.serve chain op).2 ops

/-- What is refused: to forward keys, to empty and to delete, each while the chain is not there. -/
def refusals : Phase → Operation → List RuleError
  | disabled, .disable => Lifecycle.notInstalled chain
  | disabled, .forward key port => [Redirects.noChain chain key port]
  | disabled, .applyAll redirects => redirects.map fun r => Redirects.noChain chain r.key r.port
  | _, _ => []

/-- What is refused in the course of a run, operation by operation. -/
def refused (p : Phase) : List Operation → List (List RuleError)
  | [] => []
  | op :: ops => p.refusals chain op :: refused (p.serve chain op).2 ops

theorem foldl_forward_disabled (redirects : List Redirect) (report : Report) :
    redirects.foldl (forwardNext chain) (report, disabled) =
      (report.plus redirects.length
        (redirects.map fun r => Redirects.noChain chain r.key r.port), disabled) := by
  induction redirects generalizing report with
  | nil =>
    rw [List.foldl_nil, List.length_nil, List.map_nil, Report.plus_zero]
  | cons r rest ih =>
    rw [List.foldl_cons, forwardNext, forward, ih, Report.merge_eq_plus, Report.plus_plus,
      List.length_cons, List.map_cons, Nat.add_comm rest.length 1]
    rfl

theorem failures_foldl_forward_enabled (redirects : List Redirect) (report : Report)
    (l : List Redirect) :
    (redirects.foldl (forwardNext chain) (report, enabled l)).1.failures = report.failures := by
  induction redirects generalizing report l with
  | nil => rfl
  | cons r rest ih =>
    rw [List.foldl_cons, forwardNext, forward, ih]
    exact List.append_nil _

/-- Every report of the machine is clean but for its refusals. -/
theorem failures_serve (p : Phase) (op : Operation) :
    (p.serve chain op).1.failures = p.refusals chain op := by
  cases op with
  | applyAll redirects =>
    cases p with
    | disabled =>
      show (redirects.foldl (forwardNext chain) (.start "apply_redirects", disabled)).1.failures = _
      rw [foldl_forward_disabled]
      rfl
    | enabled l => exact failures_foldl_forward_enabled chain redirects _ l
  | _ => cases p <;> rfl

theorem failures_reports (p : Phase) (ops : List Operation) :
    (p.reports chain ops).map Report.failures = p.refused chain ops := by
  induction ops generalizing p with
  | nil => rfl
  | cons op ops ih => rw [reports, refused, List.map_cons, failures_serve, ih]

/-! ## What the machine says of the filter and the mappings -/

def redirects : Phase → List Redirect
  | disabled => []
  | enabled l => l

/-- The rules of our chain. -/
def rules : Phase → Option (List String)
  | disabled => none
  | enabled l => some (Rule.loopback :: l.map Redirect.rule)

/-- The rules of a hook point, given those at the start. -/
def hooked : Phase → List String → List String
  | disabled, rules => rules
  | enabled _, rules => Rule.jump chain :: rules

end Phase

/-- A deployment is what the machine says, over the rules that were there at the start. -/
structure Refines (chain : ChainName) (base : Chains) (p : Phase) (d : Deployment Memory) :
    Prop where
  distinct : (Redirect.keys p.redirects).Nodup
  own : d.filter.rules natTable chain.text = p.rules
  hook : ∀ hook : Hook, d.filter.rules natTable hook.chain =
    (base natTable hook.chain).map (p.hooked chain)
  elsewhere : ∀ table name,
    (table = natTable → name ≠ chain.text ∧ ∀ hook : Hook, name ≠ hook.chain) →
      d.filter.rules table name = base table name
  mappings : d.translator.mappings = p.redirects.mergeSort fun x y => x.key.le y.key

/-- The chain is enabled only while it is not there. -/
def Deployment.Disciplined (d : Deployment Memory) (ops : List Operation) : Prop :=
  ∀ before since, ops = before ++ .enable :: since →
    (d.after Memory.backend before).chainRules Memory.rules = none

theorem Deployment.disciplined_nil (d : Deployment Memory) : d.Disciplined [] := by
  intro before since heq
  simp at heq

theorem Deployment.disciplined_cons {d : Deployment Memory} {op : Operation}
    {ops : List Operation} (now : op = .enable → d.chainRules Memory.rules = none)
    (later : (d.serve Memory.backend op).2.Disciplined ops) : d.Disciplined (op :: ops) := by
  intro before since heq
  cases before with
  | nil => exact now (List.cons.inj heq).1
  | cons first before =>
    obtain ⟨rfl, htail⟩ := List.cons.inj heq
    exact later before since htail

theorem Deployment.Disciplined.tail {d : Deployment Memory} {op : Operation} {ops : List Operation}
    (h : d.Disciplined (op :: ops)) : (d.serve Memory.backend op).2.Disciplined ops := by
  rintro before since rfl
  exact h (op :: before) since rfl

/-! ## Nothing goes missing -/

namespace Phase

/-- The same machine among those that may lose their rules. -/
def standing : Phase → Standing
  | disabled => .absent
  | enabled l => .present l []

variable (chain : ChainName)

theorem forward_standing (p : Phase) (key : Key) (port : UInt16) :
    p.standing.forward chain key port =
      ((p.forward chain key port).1, (p.forward chain key port).2.standing) := by
  cases p <;> rfl

theorem foldl_forward_standing (redirects : List Redirect) (report : Report) (p : Phase) :
    redirects.foldl (Standing.forwardNext chain) (report, p.standing) =
      ((redirects.foldl (forwardNext chain) (report, p)).1,
        (redirects.foldl (forwardNext chain) (report, p)).2.standing) := by
  induction redirects generalizing report p with
  | nil => rfl
  | cons r rest ih =>
    rw [List.foldl_cons, List.foldl_cons, Standing.forwardNext, forward_standing]
    exact ih _ _

theorem serve_standing (p : Phase) (op : Operation) (h : op = .enable → p = disabled) :
    p.standing.serve chain op = ((p.serve chain op).1, (p.serve chain op).2.standing) := by
  cases op with
  | enable =>
    obtain rfl := h rfl
    rfl
  | disable => cases p <;> rfl
  | forward key port => exact p.forward_standing chain key port
  | clear key => cases p <;> rfl
  | applyAll redirects => exact foldl_forward_standing chain redirects _ p

end Phase

namespace Describes

variable {chain : ChainName} {base : Chains} {d : Deployment Memory} {p : Phase}

/-- A deployment without losses is what the small machine says. -/
theorem refines (h : Describes chain base p.standing d) (vacant : base.Vacant chain) :
    Refines chain base p d := by
  have recorded : p.standing.recorded = p.redirects := by
    cases p with
    | disabled => rfl
    | enabled l => exact List.append_nil l
  refine ⟨recorded ▸ h.nodup, ?_, ?_, ?_, ?_⟩
  · rw [h.filter.rules]
    cases p with
    | disabled => exact vacant.absent
    | enabled l => exact Chains.arrange_own ..
  · intro hook
    rw [h.filter.rules]
    cases p with
    | disabled => exact (congrFun Option.map_id _).symm
    | enabled l => exact Chains.arrange_hook ..
  · intro table name hname
    rw [h.filter.rules]
    cases p with
    | disabled => rfl
    | enabled l => exact Chains.arrange_other _ _ _ _ hname
  · exact Redirects.mappings_eq_mergeSort (recorded ▸ h.record)

/-- **Disciplined runs.** As long as the chain is only enabled while it is not there, the small machine
gives the reports of a deployment and goes on to describe it. -/
theorem run_disciplined (h : Describes chain base p.standing d) (vacant : base.Vacant chain)
    {ops : List Operation} (disciplined : d.Disciplined ops) :
    d.reports Memory.backend ops = p.reports chain ops ∧
      Describes chain base (p.after chain ops).standing (d.after Memory.backend ops) := by
  induction ops generalizing d p with
  | nil => exact ⟨rfl, h⟩
  | cons op ops ih =>
    -- The one operation that could lose rules is an enable of a chain that is there.
    have off : op = .enable → p = .disabled := by
      rintro rfl
      have absent := disciplined [] ops rfl
      cases p with
      | disabled => rfl
      | enabled l =>
        rw [Deployment.after_nil, h.chainRules_present] at absent
        cases absent
    obtain ⟨next, hserve, hnext⟩ := h.serve vacant op
    rw [Phase.serve_standing chain p op off] at hserve hnext
    have tail := disciplined.tail
    rw [hserve] at tail
    obtain ⟨hreports, hafter⟩ := ih hnext tail
    rw [Deployment.reports, Deployment.after_cons, hserve, hreports]
    exact ⟨rfl, hafter⟩

end Describes

/-- **Lifecycle refinement.** Take any state of the filter in memory that nothing is made to fail, and
that has neither our chain nor a rule that jumps to it, and any run of a new translator in which the
chain is only enabled while it is not there.  Its reports are those of the small machine, which have no
failures but the machine's refusals, and after it the deployment is what the machine says. -/
theorem run_refines {m : Memory} (reachable : m.Reachable) (hfailing : m.failing = [])
    {chain : ChainName} (absent : m.rules natTable chain.text = none)
    (unused : ∀ name rules, m.rules natTable name = some rules → Rule.jump chain ∉ rules)
    {ops : List Operation} (disciplined : (Deployment.start chain m).Disciplined ops) :
    (Deployment.start chain m).reports Memory.backend ops = Phase.disabled.reports chain ops ∧
      ((Deployment.start chain m).reports Memory.backend ops).map Report.failures =
        Phase.disabled.refused chain ops ∧
      Refines chain m.rules (Phase.disabled.after chain ops)
        ((Deployment.start chain m).after Memory.backend ops) := by
  have vacant := reachable.vacant absent fun hrules => unused _ _ hrules
  have described : Describes chain m.rules Phase.disabled.standing (.start chain m) :=
    describes_start hfailing chain
  obtain ⟨hreports, hafter⟩ := described.run_disciplined vacant disciplined
  refine ⟨hreports, ?_, hafter.refines vacant⟩
  rw [hreports]
  exact Phase.disabled.failures_reports chain ops

/-- The refinement of a chain that is taken away and put back among the rules of others, who have some at
both hook points and a chain of their own. -/
theorem run_refines_restarted :
    let others : List Command := [⟨natTable, "B", .create⟩,
      ⟨natTable, "B", .append "-p udp -j ACCEPT"⟩, ⟨natTable, Hook.output.chain, .append "-j B"⟩,
      ⟨natTable, Hook.prerouting.chain, .append "-p tcp -j RETURN"⟩]
    let m := Memory.through (others.map .command)
    let chain : ChainName := ⟨"A", by decide⟩
    let d := Deployment.start chain m
    let ops := [.enable, .forward ⟨.tcp, ⟨10, 0, 0, 1⟩⟩ 80, .disable, .enable]
    d.Disciplined ops ∧ (d.reports Memory.backend ops).map Report.attempted = [6, 1, 4, 6] ∧
      Refines chain m.rules (.enabled []) (d.after Memory.backend ops) ∧
      m.rules natTable "B" = some ["-p udp -j ACCEPT"] ∧
      (d.after Memory.backend ops).filter.rules natTable Hook.output.chain = some ["-j A", "-j B"] ∧
      (d.after Memory.backend ops).filter.rules natTable Hook.prerouting.chain =
        some ["-j A", "-p tcp -j RETURN"] := by
  intro others m chain d ops
  have reachable : m.Reachable := Memory.reachable_through _
  obtain ⟨failing, jumpless, absent, foreign, output, prerouting⟩ : m.failing = [] ∧
      (m.table natTable).holdsRule (Rule.jump chain) = false ∧ m.rules natTable chain.text = none ∧
      m.rules natTable "B" = some ["-p udp -j ACCEPT"] ∧
      m.rules natTable Hook.output.chain = some ["-j B"] ∧
      m.rules natTable Hook.prerouting.chain = some ["-p tcp -j RETURN"] := by
    decide +kernel
  have unused : ∀ name rules, m.rules natTable name = some rules → Rule.jump chain ∉ rules := by
    intro name rules hrules hmem
    rw [(Filter.Table.holdsRule_iff _).2 ⟨name, rules, hrules, hmem⟩] at jumpless
    cases jumpless
  have vacant : Chains.Vacant m.rules chain :=
    reachable.vacant absent fun hrules => unused _ _ hrules
  have disciplined : d.Disciplined ops := by
    have described := ((describes_start failing chain).run vacant (ops.take 3)).2
    refine Deployment.disciplined_cons (fun _ => absent) ?_
    refine Deployment.disciplined_cons (fun h => by cases h) ?_
    refine Deployment.disciplined_cons (fun h => by cases h) ?_
    exact Deployment.disciplined_cons (fun _ => described.chainRules_absent vacant)
      (Deployment.disciplined_nil _)
  obtain ⟨hreports, -, hrefines⟩ := run_refines reachable failing absent unused disciplined
  refine ⟨disciplined, congrArg (List.map Report.attempted) hreports, hrefines, foreign, ?_, ?_⟩
  · rw [hrefines.hook .output, output]
    decide
  · rw [hrefines.hook .prerouting, prerouting]
    decide

end Divert
