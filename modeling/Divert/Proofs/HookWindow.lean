/-
# Divert.Proofs.HookWindow — where a hook leads, after every single command.

Enabling takes the hooks away, fills the chain and puts the hooks back, and disabling takes them away
before it empties the chain.  So at no moment, also not between two commands of an operation, does a
hook lead to a chain that is missing or not headed by the loopback exemption.  That the chain exists
holds whatever fails, since the filter itself accepts no jump to a missing chain and deletes no chain
that is jumped to.  That the exemption heads it is a matter of the order of the commands, and holds as
long as none of them is made to fail.
-/
import Divert.Proofs.Lifecycle.Calm
import Mathlib.Logic.Function.Basic

namespace Divert

open Script

/-! ## Operations -/

namespace Translator

variable {σ : Type} (b : Backend σ) (t : Translator) (s : σ)

theorem calls_enable :
    (t.perform .enable).calls b s = (Lifecycle.enable t.chain).calls b s := by
  unfold perform enable
  rw [calls_bind, calls_pure, List.append_nil]

theorem state_enable :
    ((t.perform .enable).eval b s).2 = ((Lifecycle.enable t.chain).eval b s).2 := by
  unfold perform enable
  rw [eval_bind]
  rfl

/-- Forgetting the redirects issues no command. -/
theorem calls_disable :
    (t.perform .disable).calls b s = (Lifecycle.disable t.chain).calls b s := by
  have forget : t.redirects.forget.calls b ((Lifecycle.disable t.chain).eval b s).2 = [] := by
    rw [Redirects.forget]
    split <;> rfl
  unfold perform disable
  rw [calls_bind, calls_bind, forget, calls_pure, List.append_nil, List.append_nil]

theorem state_disable :
    ((t.perform .disable).eval b s).2 = ((Lifecycle.disable t.chain).eval b s).2 := by
  unfold perform disable
  rw [eval_bind, eval_bind, Redirects.forget_eval]
  rfl

end Translator

namespace Faulty

variable {f : Faulty Memory} {chain : ChainName}

/-- A sequence that keeps calm where nothing is made to fail does so where nothing was. -/
theorem calm_of_unforced {x : Script Report}
    (settled : (∀ call ∈ x.calls Memory.backend f.inner.unhindered,
        Chains.Guarded (call.after Memory.backend).rules chain) ∧
      Chains.Calm (x.eval Memory.backend f.inner.unhindered).2.rules chain)
    (unforced : ∀ call ∈ x.calls memory f, Unforced call) :
    (∀ call ∈ x.calls memory f, Chains.Guarded (call.after memory).inner.rules chain) ∧
      Chains.Calm (x.eval memory f).2.inner.rules chain := by
  refine ⟨rules_of_unforced (P := fun view => view.Guarded chain) unforced settled.1, ?_⟩
  have final := settled.2
  rwa [eval_of_unforced x unforced] at final

/-- What keeps calm at every command is guarded after every command. -/
theorem calm_of_within {α : Type} {P : Command → Prop} {Q : α → Prop} {x : Script α}
    (hx : x.Within P Q)
    (keeps : ∀ (f : Faulty Memory) c, P c → Chains.Calm f.inner.rules chain →
      Chains.Calm (memory.answer f c).2.inner.rules chain)
    (calm : Chains.Calm f.inner.rules chain) :
    (∀ call ∈ x.calls memory f, Chains.Guarded (call.after memory).inner.rules chain) ∧
      Chains.Calm (x.eval memory f).2.inner.rules chain := by
  let I : Faulty Memory → Prop := fun f => Chains.Calm f.inner.rules chain
  refine ⟨?_, (hx.eval_keeps (I := I) keeps calm).2⟩
  intro call hcall
  exact (hx.calls_after (I := I) keeps calm call hcall).guarded

/-- **One operation.** Where none of its commands is made to fail, an operation of any translator keeps
the filter guarded at every command, and calm. -/
theorem perform_calm (t : Translator) (op : Operation) (reachable : f.inner.Reachable)
    (calm : Chains.Calm f.inner.rules chain)
    (unforced : ∀ call ∈ (t.perform op).calls memory f, Unforced call) :
    (∀ call ∈ (t.perform op).calls memory f,
        Chains.Guarded (call.after memory).inner.rules chain) ∧
      Chains.Calm ((t.perform op).eval memory f).2.inner.rules chain := by
  have faithful := memory_truthful.toFaithful
  by_cases hchain : t.chain = chain
  swap
  · refine calm_of_within (t.perform_within op) ?_ calm
    intro f c issued calm
    exact calm.answer_other faithful issued hchain
  subst hchain
  have shows := f.inner.shows_unhindered
  -- Our own redirects keep calm at every command; our own lifecycle keeps it in its order only.
  have redirects {α : Type} {Q : α → Prop} {x : Script α}
      (hx : x.Within (Redirects.Issues t.chain) Q) :=
    calm_of_within hx (fun f c issued calm => calm.answer_redirects faithful issued) calm
  cases op with
  | enable =>
    rw [t.calls_enable] at unforced ⊢
    rw [t.state_enable]
    exact calm_of_unforced (Lifecycle.enable_guarded shows reachable.hooks calm) unforced
  | disable =>
    rw [t.calls_disable] at unforced ⊢
    rw [t.state_disable]
    exact calm_of_unforced (Lifecycle.disable_guarded shows reachable.hooks calm) unforced
  | forward key port => exact redirects (t.forward_within key port)
  | clear key => exact redirects (t.clear_within key)
  | applyAll list => exact redirects (t.applyAll_within list)

end Faulty

/-! ## Runs -/

/-- Translators that share a filter in memory some of whose calls will be lost. -/
structure Crew (ι : Type) where
  translators : ι → Translator
  filter : Faulty Memory

namespace Crew

variable {ι : Type}

/-- One translator is asked for an operation or whether it is enabled, or a kind of command is made to
fail from now on or no longer. -/
inductive Event (ι : Type) where
  | ask (i : ι) (op : Operation)
  | inquire (i : ι)
  | setFailing (kind : Op) (failing : Bool)

/-- New translators on the filter at its start. -/
def fresh (names : ι → ChainName) (schedule : List Fault) : Crew ι :=
  ⟨fun i => .start (names i), ⟨.fresh, schedule, []⟩⟩

/-- The commands that an event makes the translators issue. -/
def callsOf (c : Crew ι) : Event ι → List (Call (Faulty Memory))
  | .ask i op => ((c.translators i).perform op).calls Faulty.memory c.filter
  | .inquire i => (c.translators i).isEnabled.calls Faulty.memory c.filter
  | .setFailing _ _ => []

variable [DecidableEq ι]

def react (c : Crew ι) : Event ι → Crew ι
  | .ask i op =>
    let outcome := ((c.translators i).perform op).eval Faulty.memory c.filter
    ⟨Function.update c.translators i outcome.1.2, outcome.2⟩
  | .inquire i => { c with filter := ((c.translators i).isEnabled.eval Faulty.memory c.filter).2 }
  | .setFailing kind failing =>
    { c with filter := { c.filter with inner := c.filter.inner.setFailing kind failing } }

/-- The commands of a run, in order. -/
def calls (c : Crew ι) : List (Event ι) → List (Call (Faulty Memory))
  | [] => []
  | event :: events => c.callsOf event ++ (c.react event).calls events

/-- **Invariants of runs.** What every event keeps, and what it ensures of each of its commands as long
as these are as given, holds of every command of a run. -/
theorem calls_keep {I : Faulty Memory → Prop} (Given : Call (Faulty Memory) → Prop)
    {Ensured : Call (Faulty Memory) → Prop} (events : List (Event ι))
    (step : ∀ (c : Crew ι), ∀ event ∈ events, I c.filter → (∀ call ∈ c.callsOf event, Given call) →
      (∀ call ∈ c.callsOf event, Ensured call) ∧ I (c.react event).filter)
    {c : Crew ι} (hc : I c.filter) (given : ∀ call ∈ c.calls events, Given call) :
    ∀ call ∈ c.calls events, Ensured call := by
  induction events generalizing c with
  | nil =>
    intro call h
    exact absurd h List.not_mem_nil
  | cons event events ih =>
    obtain ⟨now, next⟩ := step c event List.mem_cons_self hc
      fun call h => given call (List.mem_append_left _ h)
    have later := ih (fun c event h => step c event (List.mem_cons_of_mem _ h)) next
      fun call h => given call (List.mem_append_right _ h)
    intro call h
    rcases List.mem_append.1 h with h | h
    · exact now call h
    · exact later call h

/-- What every command of a translator keeps holds before and after every command of an event. -/
theorem step_of_answer {I : Faulty Memory → Prop}
    (keeps : ∀ owner f command, Translator.Issues owner command → I f →
      I (Faulty.memory.answer f command).2)
    {c : Crew ι} {event : Event ι}
    (toggle : ∀ kind failing, event = .setFailing kind failing → I (c.react event).filter)
    (h : I c.filter) :
    (∀ call ∈ c.callsOf event, I call.state ∧ I (call.after Faulty.memory)) ∧
      I (c.react event).filter := by
  have script {α : Type} {Q : α → Prop} {x : Script α} {owner : ChainName}
      (hx : x.Within (Translator.Issues owner) Q) :
      (∀ call ∈ x.calls Faulty.memory c.filter, I call.state ∧ I (call.after Faulty.memory)) ∧
        I (x.eval Faulty.memory c.filter).2 :=
    ⟨hx.calls_keep (keeps owner) h, (hx.eval_keeps (keeps owner) h).2⟩
  cases event with
  | ask i op => exact script ((c.translators i).perform_within op)
  | inquire i =>
    exact script ((Lifecycle.isInstalled_within (c.translators i).chain).mono
      (fun _ => Translator.Issues.lifecycle) fun _ h => h)
  | setFailing kind failing =>
    exact ⟨fun call hcall => absurd hcall List.not_mem_nil, toggle kind failing rfl⟩

/-! ### Backing -/

/-- Every hook leads to a chain. -/
def Backed (f : Faulty Memory) : Prop := ∀ chain, Chains.Backed f.inner.rules chain

omit [DecidableEq ι] in
theorem backed_fresh (names : ι → ChainName) (schedule : List Fault) :
    Backed (fresh names schedule).filter :=
  fun chain hooked => absurd hooked (Chains.not_hooked_fresh chain)

/-- Whatever a command of a translator is answered, every hook still leads to a chain. -/
theorem backed_answer {owner : ChainName} {f : Faulty Memory} {command : Command}
    (issued : Translator.Issues owner command) (h : Backed f) :
    Backed (Faulty.memory.answer f command).2 :=
  fun chain => (h chain).answer Faulty.memory_truthful issued

theorem backed_step (c : Crew ι) (event : Event ι) (h : Backed c.filter) :
    (∀ call ∈ c.callsOf event, Backed (call.after Faulty.memory)) ∧
      Backed (c.react event).filter := by
  have toggle kind failing (hevent : event = .setFailing kind failing) :
      Backed (c.react event).filter := by
    rw [hevent]
    exact h
  have keeps owner f command (issued : Translator.Issues owner command) (hf : Backed f) :
      Backed (Faulty.memory.answer f command).2 := backed_answer issued hf
  obtain ⟨each, final⟩ := step_of_answer keeps toggle h
  exact ⟨fun call hcall => (each call hcall).2, final⟩

/-! ### Guarding -/

/-- The filter is in one of its states, and calm for every chain. -/
structure Calm (f : Faulty Memory) : Prop where
  reachable : f.inner.Reachable
  calm : ∀ chain, Chains.Calm f.inner.rules chain

omit [DecidableEq ι] in
theorem calm_fresh (names : ι → ChainName) (schedule : List Fault) :
    Calm (fresh names schedule).filter :=
  ⟨.fresh, fun chain => Chains.calm_of_not_hooked (Chains.not_hooked_fresh chain)⟩

/-- A filter that is asked for a chain keeps its rules. -/
theorem rules_inquire (t : Translator) (f : Faulty Memory) :
    ((t.isEnabled.eval Faulty.memory f).2).inner.rules = f.inner.rules := by
  rw [Translator.isEnabled, Lifecycle.isInstalled, eval_bind, eval_issue]
  exact Faulty.memory_truthful.asked fun _ => rfl

theorem calm_step (c : Crew ι) (event : Event ι) (h : Calm c.filter)
    (unforced : ∀ call ∈ c.callsOf event, Faulty.Unforced call) :
    (∀ call ∈ c.callsOf event, ∀ chain,
        Chains.Guarded (call.after Faulty.memory).inner.rules chain) ∧
      Calm (c.react event).filter := by
  have toggle kind failing (hevent : event = .setFailing kind failing) :
      (c.react event).filter.inner.Reachable := by
    rw [hevent]
    exact h.reachable.setFailing kind failing
  have reachable := (step_of_answer (I := fun f => f.inner.Reachable)
    (fun _ f command _ hf => Faulty.reachable_answer hf command) toggle h.reachable).2
  cases event with
  | ask i op =>
    have step chain := Faulty.perform_calm (c.translators i) op h.reachable (h.calm chain) unforced
    exact ⟨fun call hcall chain => (step chain).1 call hcall, reachable, fun chain => (step chain).2⟩
  -- A question changes no rule, so what was calm before it is calm after it.
  | inquire i =>
    have calm chain : Chains.Calm (c.react (.inquire i)).filter.inner.rules chain := by
      have same : (c.react (.inquire i)).filter.inner.rules = c.filter.inner.rules :=
        rules_inquire (c.translators i) c.filter
      rw [same]
      exact h.calm chain
    refine ⟨?_, reachable, calm⟩
    intro call hcall chain
    obtain rfl := List.mem_singleton.1 hcall
    exact (calm chain).guarded
  | setFailing kind failing =>
    exact ⟨fun call hcall => absurd hcall List.not_mem_nil, reachable, h.calm⟩

/-! ### Every command of every run -/

/-- **No unsafe hook.** Any number of translators share a filter in memory.  After every single command
of a run, whatever is made to fail and whatever call is lost, a hook stands only where its chain exists;
and if no command of the run is made to fail, only where its chain begins with the loopback
exemption. -/
theorem hooks_safe (names : ι → ChainName) (schedule : List Fault) (events : List (Event ι)) :
    (∀ call ∈ (fresh names schedule).calls events, ∀ chain,
        Chains.Backed (call.after Faulty.memory).inner.rules chain) ∧
      ((∀ call ∈ (fresh names schedule).calls events, Faulty.Unforced call) →
        ∀ call ∈ (fresh names schedule).calls events, ∀ chain,
          Chains.Guarded (call.after Faulty.memory).inner.rules chain) := by
  constructor
  · exact calls_keep (fun _ => True) events (fun c event _ h _ => backed_step c event h)
      (backed_fresh names schedule) fun _ _ => trivial
  · exact calls_keep Faulty.Unforced events (fun c event _ => calm_step c event)
      (calm_fresh names schedule)

/-! ### Runs that nothing is made to fail in -/

/-- No kind of command is made to fail, and no call will be lost. -/
structure Quiet (f : Faulty Memory) : Prop where
  schedule : f.schedule = []
  failing : f.inner.failing = []

theorem Quiet.lost? {f : Faulty Memory} (h : Quiet f) (op : Op) : f.lost? op = none := by
  rw [Faulty.lost?, h.schedule]
  rfl

theorem Quiet.unforced {call : Call (Faulty Memory)} (h : Quiet call.state) :
    Faulty.Unforced call :=
  ⟨h.failing ▸ List.not_mem_nil, h.lost? _⟩

theorem Quiet.answer {f : Faulty Memory} (h : Quiet f) (command : Command) :
    Quiet (Faulty.memory.answer f command).2 := by
  simp only [Faulty.memory, Faulty.backend, h.lost?]
  exact ⟨h.schedule, (Memory.failing_answer _ _).trans h.failing⟩

/-- Without lost calls and without kinds of command that are made to fail, no command is. -/
theorem unforced_of_quiet (names : ι → ChainName) {events : List (Event ι)}
    (quiet : ∀ kind failing, Event.setFailing kind failing ∉ events) :
    ∀ call ∈ (fresh names []).calls events, Faulty.Unforced call := by
  refine calls_keep (I := Quiet) (fun _ => True) events ?_ ⟨rfl, rfl⟩ fun _ _ => trivial
  intro c event hevent h _
  have toggle kind failing (heq : event = .setFailing kind failing) : Quiet (c.react event).filter :=
    absurd (heq ▸ hevent) (quiet kind failing)
  obtain ⟨each, final⟩ :=
    step_of_answer (I := Quiet) (fun _ _ command _ hf => hf.answer command) toggle h
  exact ⟨fun call hcall => (each call hcall).1.unforced, final⟩

/-- The hooks of two translators of one chain, which is enabled, used, enabled again and disabled. -/
theorem hooks_safe_of_two :
    let names : Bool → ChainName := fun _ => ⟨"A", by decide⟩
    let events : List (Event Bool) := [.ask true .enable,
      .ask true (.forward ⟨.udp, ⟨10, 0, 0, 1⟩⟩ 53), .inquire false, .ask false .enable,
      .ask true (.clear ⟨.udp, ⟨10, 0, 0, 1⟩⟩), .ask false .disable]
    (∀ call ∈ (fresh names []).calls events, Faulty.Unforced call) ∧
      ∀ call ∈ (fresh names []).calls events, ∀ chain,
        Chains.Guarded (call.after Faulty.memory).inner.rules chain := by
  intro names events
  have unforced : ∀ call ∈ (fresh names []).calls events, Faulty.Unforced call :=
    unforced_of_quiet names fun kind failing => by simp [events]
  exact ⟨unforced, (hooks_safe names [] events).2 unforced⟩

end Crew

end Divert
