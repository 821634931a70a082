/-
# Divert.Proofs.Recovery — what a restart repairs.

Record and filter may have come apart in any way: hooks that were left over, rules without a record,
records without a rule, other chains that jump to ours.  Disabling does not repair all of this, and its
report may say so, but it forgets the record and, where nothing is made to fail, changes nothing that
enabling cannot work from.  After that the chain is the loopback exemption, record and chain agree, and
every forward and every clear keeps them so.  Nothing is assumed of the state before, except that the
filter has its hook points.
-/
import Divert.Proofs.HookWindow
import Divert.Proofs.Lifecycle.Settled
import Divert.Proofs.Redirects.Turns
import Divert.Proofs.Redirects.Written
import Divert.Proofs.SingleRule

namespace Divert

open Script

/-! ## Disabling and enabling -/

namespace Lifecycle

variable {m : Memory} {view : Chains}

/-- Commands on our chain decide what becomes of it, and of nothing else. -/
theorem shows_of_prepares {α : Type} {Q : α → Prop} {chain : ChainName} {x : Script α}
    (hx : x.Within (Prepares chain) Q) (h : m.Shows view) :
    ∃ own, (x.eval Memory.backend m).2.Shows (view.set natTable chain.text own) := by
  refine (hx.eval_keeps (b := Memory.backend)
    (I := fun m => ∃ own, m.Shows (view.set natTable chain.text own)) ?_ ?_).2
  · rintro s c prepares ⟨own, hs⟩
    have place : c.table = natTable ∧ c.chain = chain.text := by
      cases prepares <;> exact ⟨rfl, rfl⟩
    have failing : (Memory.backend.answer s c).2.failing = [] :=
      (Memory.failing_answer s c).trans hs.failing
    cases hanswer : (Memory.backend.answer s c).1 with
    | error e => exact ⟨own, failing, (Memory.faithful.refused hanswer).trans hs.rules⟩
    | ok value =>
      have done := Memory.faithful.done hanswer
      rw [hs.rules, place.1, place.2, Chains.set_set] at done
      exact ⟨_, failing, done⟩
  · refine ⟨view natTable chain.text, ?_⟩
    rwa [Chains.set_eq_self _ _ _ _ rfl]

/-- Disabling takes copies of the hook from the hook points and touches our chain.  Whether the chain is
gone afterwards is not said. -/
theorem disable_settled (h : m.Shows view) (hooks : view.HasHooks) (chain : ChainName) :
    ∃ own, ((disable chain).eval Memory.backend m).2.Shows
      (view.arrange chain own (unhooked chain)) := by
  obtain ⟨between, hremove, hbetween⟩ := removeHooks_eval h hooks chain (.start "disable")
  obtain ⟨own, hafter⟩ := shows_of_prepares
    (dismantle_within chain (reportHooks chain view (.start "disable"))) hbetween
  rw [Chains.set_own_arrange] at hafter
  refine ⟨own, ?_⟩
  rw [disable_eq, eval_bind_of hremove, eval_bind]
  exact hafter

end Lifecycle

namespace Deployment

/-- **Restart.** Whatever the record and the rules were, nothing is on record afterwards, our chain is
the loopback exemption, and the hook stands in front of what is left of both hook points. -/
theorem restart_settled {d : Deployment Memory} {view : Chains} (h : d.filter.Shows view)
    (hooks : view.HasHooks) :
    (d.after Memory.backend [.disable, .enable]).translator = .start d.translator.chain ∧
      ∃ f : List String → List String, (d.after Memory.backend [.disable, .enable]).filter.Shows
        (view.arrange d.translator.chain (some [Rule.loopback])
          fun rules => Rule.jump d.translator.chain :: f rules) := by
  obtain ⟨own, hdisabled⟩ := Lifecycle.disable_settled h hooks d.translator.chain
  obtain ⟨after, henable, hafter⟩ :=
    Lifecycle.enable_eval hdisabled hooks.arrange d.translator.chain
  rw [Chains.arrange_arrange] at hafter
  have hdisable := serve_disable_of_eval (d := d) (b := Memory.backend) rfl
  have henable' := serve_enable_of_eval
    (d := ⟨.start d.translator.chain, ((Lifecycle.disable d.translator.chain).eval _ d.filter).2⟩)
    henable
  have restarted : d.after Memory.backend [.disable, .enable] =
      ⟨.start d.translator.chain, after⟩ := by
    rw [after_cons, hdisable, after_cons]
    exact congrArg Prod.snd henable'
  rw [restarted]
  exact ⟨rfl, _, hafter⟩

end Deployment

/-! ## Forwarding and clearing from there on -/

/-- A change of the redirects as an operation of the translator. -/
def Redirects.Change.operation : Redirects.Change → Operation
  | .forward key port => .forward key port
  | .clear key => .clear key

/-- No kind of command is made to fail, and the chain is the loopback exemption and one rule for each
redirect on record. -/
structure Orderly (d : Deployment Memory) : Prop where
  failing : d.filter.failing = []
  rules : d.chainRules Memory.rules =
    some (Redirect.written [Rule.loopback] d.translator.redirects.listed)

namespace Orderly

variable {d : Deployment Memory}

/-- **One change.** Its report is clean, and the chain is still as the record says. -/
theorem serve (h : Orderly d) (asked : Redirects.Change) :
    (d.serve Memory.backend asked.operation).1.isClean = true ∧
      Orderly (d.serve Memory.backend asked.operation).2 := by
  have failing : (d.serve Memory.backend asked.operation).2.filter.failing = [] :=
    ((d.translator.perform_within asked.operation).eval_keeps (b := Memory.backend)
      (I := fun m => m.failing = [])
      (fun m c _ hm => (Memory.failing_answer m c).trans hm) h.failing).2
  have shows : d.filter.Shows d.filter.rules := ⟨h.failing, rfl⟩
  have foreign := Redirect.foreign_loopback
  cases asked with
  | forward key port =>
    obtain ⟨r, after, heval, -⟩ := Redirects.forward_settled shows foreign h.rules key port
    have hserve := Deployment.serve_forward_of_eval heval
    have hrules := Redirects.forward_written Memory.faithful foreign h.rules heval
    unfold Redirects.Change.operation at failing ⊢
    rw [hserve] at failing ⊢
    exact ⟨rfl, failing, hrules⟩
  | clear key =>
    obtain ⟨r, after, heval, -⟩ := Redirects.clear_settled shows foreign h.rules key
    have hserve := Deployment.serve_clear_of_eval heval
    have hrules := Redirects.drop_written Memory.faithful foreign h.rules heval
    unfold Redirects.Change.operation at failing ⊢
    rw [hserve] at failing ⊢
    exact ⟨rfl, failing, hrules⟩

/-- **Any changes.** Their reports are clean, and the chain is still as the record says. -/
theorem run (h : Orderly d) (changes : List Redirects.Change) :
    (∀ report ∈ d.reports Memory.backend (changes.map Redirects.Change.operation),
        report.isClean = true) ∧
      Orderly (d.after Memory.backend (changes.map Redirects.Change.operation)) := by
  induction changes generalizing d with
  | nil => exact ⟨fun _ hreport => absurd hreport List.not_mem_nil, h⟩
  | cons asked rest ih =>
    obtain ⟨clean, next⟩ := h.serve asked
    obtain ⟨allClean, last⟩ := ih next
    refine ⟨?_, last⟩
    intro report hreport
    rcases List.mem_cons.1 hreport with rfl | hrest
    · exact clean
    · exact allClean report hrest

end Orderly

/-! ## Runs that nothing is made to fail in -/

namespace Deployment

/-- The commands of some operations, in order. -/
def calls {σ : Type} (b : Backend σ) (d : Deployment σ) : List Operation → List (Call σ)
  | [] => []
  | op :: ops => (d.translator.perform op).calls b d.filter ++ calls b (d.serve b op).2 ops

/-- No command of the operations is made to fail. -/
def Unforced (d : Deployment (Faulty Memory)) (ops : List Operation) : Prop :=
  ∀ call ∈ d.calls Faulty.memory ops, Faulty.Unforced call

variable {d : Deployment (Faulty Memory)}

@[simp] theorem translator_unhindered : d.unhindered.translator = d.translator := rfl

@[simp] theorem rules_unhindered : d.unhindered.filter.rules = d.filter.inner.rules := rfl

/-- On a filter that makes nothing fail, no operations have a command that is made to fail. -/
theorem quiet_run (h : Crew.Quiet d.filter) (ops : List Operation) :
    d.Unforced ops ∧ Crew.Quiet (d.after Faulty.memory ops).filter := by
  induction ops generalizing d with
  | nil => exact ⟨fun _ hcall => absurd hcall List.not_mem_nil, h⟩
  | cons op rest ih =>
    have keeps (f : Faulty Memory) (c : Command) (_ : Translator.Issues d.translator.chain c)
        (hf : Crew.Quiet f) : Crew.Quiet (Faulty.memory.answer f c).2 := hf.answer c
    have within := d.translator.perform_within op
    have next : Crew.Quiet (d.serve Faulty.memory op).2.filter := (within.eval_keeps keeps h).2
    obtain ⟨others, last⟩ := ih next
    refine ⟨List.forall_mem_append.2 ⟨?_, others⟩, last⟩
    intro call hcall
    exact (within.calls_keep keeps h call hcall).1.unforced

/-- Operations none of whose commands is made to fail come to the same on the filter that makes nothing
fail. -/
theorem run_of_unforced {ops : List Operation} (h : d.Unforced ops) :
    d.unhindered.reports Memory.backend ops = d.reports Faulty.memory ops ∧
      d.unhindered.after Memory.backend ops = (d.after Faulty.memory ops).unhindered := by
  induction ops generalizing d with
  | nil => exact ⟨rfl, rfl⟩
  | cons op rest ih =>
    obtain ⟨first, others⟩ := List.forall_mem_append.1 h
    have heval := eval_of_unforced (d.translator.perform op) first
    have hserve : d.unhindered.serve Memory.backend op =
        ((d.serve Faulty.memory op).1, (d.serve Faulty.memory op).2.unhindered) :=
      serve_of_eval heval
    obtain ⟨sameReports, sameAfter⟩ := ih others
    simp only [reports, after_cons, hserve]
    exact ⟨congrArg _ sameReports, sameAfter⟩

end Deployment

/-! ## Recovery -/

/-- A restart in which no command is made to fail. -/
theorem restart_of_unforced {d : Deployment (Faulty Memory)}
    (hooks : Chains.HasHooks d.filter.inner.rules) (unforced : d.Unforced [.disable, .enable]) :
    let restarted := d.after Faulty.memory [.disable, .enable]
    restarted.translator = .start d.translator.chain ∧
      ∃ f : List String → List String, restarted.filter.inner.rules =
        Chains.arrange d.filter.inner.rules d.translator.chain (some [Rule.loopback])
          fun rules => Rule.jump d.translator.chain :: f rules := by
  intro restarted
  have settled : d.unhindered.filter.Shows d.filter.inner.rules := ⟨rfl, rfl⟩
  obtain ⟨htranslator, f, hfilter⟩ := Deployment.restart_settled settled hooks
  have rulesAre := hfilter.rules
  have same := (Deployment.run_of_unforced unforced).2
  simp only [same, Deployment.translator_unhindered, Deployment.rules_unhindered]
    at htranslator rulesAre
  exact ⟨htranslator, f, rulesAre⟩

/-- From an orderly state on, changes of which no command is made to fail are clean and keep it. -/
theorem Orderly.run_of_unforced {d : Deployment (Faulty Memory)} (h : Orderly d.unhindered)
    {changes : List Redirects.Change}
    (unforced : d.Unforced (changes.map Redirects.Change.operation)) :
    let later := d.after Faulty.memory (changes.map Redirects.Change.operation)
    (∀ report ∈ d.reports Faulty.memory (changes.map Redirects.Change.operation),
        report.isClean = true) ∧
      ∃ l, l.Perm later.translator.mappings ∧
        later.ownRules = some (Redirect.written [Rule.loopback] l) := by
  intro later
  obtain ⟨clean, last⟩ := h.run changes
  obtain ⟨sameReports, sameAfter⟩ := Deployment.run_of_unforced unforced
  rw [sameReports] at clean
  rw [sameAfter] at last
  exact ⟨clean, later.translator.redirects.listed,
    later.translator.redirects.mappings_perm.symm, last.rules⟩

/-- **Recovery by restart.** The filter is in any state with its hook points, and anything is on record.
If no command of the restart is made to fail, then afterwards the chain is the loopback exemption,
nothing is on record, and both hook points begin with the hook.  After that, as long as no command is
made to fail, every forward and every clear is clean, and the chain is the loopback exemption and one
rule for each mapping. -/
theorem restart_recovers {d : Deployment (Faulty Memory)}
    (hooks : Chains.HasHooks d.filter.inner.rules) (unforced : d.Unforced [.disable, .enable]) :
    let restarted := d.after Faulty.memory [.disable, .enable]
    restarted.ownRules = some [Rule.loopback] ∧
      restarted.translator.mappings = [] ∧
      (∀ hook : Hook, ∃ rest, restarted.filter.inner.rules natTable hook.chain =
        some (Rule.jump d.translator.chain :: rest)) ∧
      ∀ changes : List Redirects.Change,
        restarted.Unforced (changes.map Redirects.Change.operation) →
          let later := restarted.after Faulty.memory (changes.map Redirects.Change.operation)
          (∀ report ∈ restarted.reports Faulty.memory (changes.map Redirects.Change.operation),
              report.isClean = true) ∧
            ∃ l, l.Perm later.translator.mappings ∧
              later.ownRules = some (Redirect.written [Rule.loopback] l) := by
  intro restarted
  obtain ⟨translatorIs, f, rulesAre⟩ : restarted.translator = _ ∧
      ∃ f : List String → List String, restarted.filter.inner.rules = _ :=
    restart_of_unforced hooks unforced
  -- Nothing but this is needed of the restart.
  clear_value restarted
  have own : restarted.ownRules = some [Rule.loopback] := by
    show restarted.filter.inner.rules natTable restarted.translator.chain.text = _
    rw [translatorIs, rulesAre]
    exact Chains.arrange_own ..
  have recorded : restarted.translator.redirects.listed = [] := by
    rw [translatorIs]
    rfl
  refine ⟨own, ?_, ?_, ?_⟩
  · have perm := restarted.translator.redirects.mappings_perm
    rw [recorded] at perm
    exact perm.eq_nil
  · intro hook
    obtain ⟨rules, hrules⟩ := Option.isSome_iff_exists.1 (hooks hook)
    refine ⟨f rules, ?_⟩
    rw [rulesAre, Chains.arrange_hook, hrules]
    rfl
  · intro changes laterUnforced
    have orderly : Orderly restarted.unhindered := by
      refine ⟨rfl, own.trans ?_⟩
      show _ = some (Redirect.written _ restarted.translator.redirects.listed)
      rw [recorded]
      rfl
    exact orderly.run_of_unforced laterUnforced

/-- A filter with a redirect in a chain, more hooks at one hook point than a removal takes away, and
another chain that jumps to the first. -/
def Memory.tangled (chain other : ChainName) (r : Redirect) : Memory :=
  let commands : List Command :=
    [Lifecycle.chainCommand chain .create, Redirects.command chain r.key r.port .append,
      Lifecycle.chainCommand other .create,
      Lifecycle.chainCommand other (.append (Rule.jump chain))] ++
    List.replicate (Lifecycle.maxHookCopies + 1)
      (Lifecycle.hookCommand chain .output (.insert 1))
  through (commands.map .command)

theorem Memory.reachable_tangled (chain other : ChainName) (r : Redirect) :
    (tangled chain other r).Reachable :=
  reachable_through _

/-- Another port is on record than the one whose rule stands, and disabling reports failures, as the
last hook is left and the chain cannot be deleted. -/
theorem restart_recovers_tangled :
    let chain : ChainName := ⟨"A", by decide⟩
    let key : Key := ⟨.tcp, ⟨10, 0, 0, 1⟩⟩
    let m : Memory := .tangled chain ⟨"B", by decide⟩ ⟨key, 80⟩
    let d : Deployment (Faulty Memory) := ⟨⟨chain, ⟨Keyed.empty.put key 81⟩⟩, ⟨m, [], []⟩⟩
    let restarted := d.after Faulty.memory [.disable, .enable]
    let later := restarted.after Faulty.memory [.forward key 80, .forward key 81]
    (d.serve Faulty.memory .disable).1.isClean = false ∧
      restarted.ownRules = some [Rule.loopback] ∧ restarted.translator.mappings = [] ∧
      ∃ l, l.Perm later.translator.mappings ∧
        later.ownRules = some (Redirect.written [Rule.loopback] l) := by
  intro chain key m d restarted later
  have reachable : m.Reachable := Memory.reachable_tangled chain _ _
  have hooks : Chains.HasHooks d.filter.inner.rules := by
    dsimp only [d]
    exact reachable.hooks
  have quiet : Crew.Quiet d.filter := ⟨rfl, by decide +kernel⟩
  obtain ⟨unforced, quietAfter⟩ := Deployment.quiet_run quiet [.disable, .enable]
  obtain ⟨own, mappings, -, changes⟩ := restart_recovers hooks unforced
  have refused : (d.serve Faulty.memory .disable).1.isClean = false := by decide +kernel
  have forwarded := changes [.forward key 80, .forward key 81]
    (Deployment.quiet_run quietAfter [.forward key 80, .forward key 81]).1
  exact ⟨refused, own, mappings, forwarded.2⟩

end Divert
