/-
# Divert.Proofs.Isolation — translators that share a filter do not see each other.

Any number of translators work on one filter in memory, their operations interleaved in any order, and
kinds of command are made to fail at any moment for all of them.  As long as their chains have different
names, nobody can tell whether the others are there: what a translator sees in such a run is what it
sees in the run without the operations of the others.
-/
import Divert.Proofs.Filter.Alike
import Mathlib.Logic.Function.Basic

namespace Divert

open Script

/-- Translators that share a filter in memory. -/
structure Fleet (ι : Type) where
  translators : ι → Translator
  filter : Memory

namespace Fleet

variable {ι : Type}

/-! ## Interleaved runs -/

/-- One translator is asked, or a kind of command is made to fail from now on or no longer. -/
inductive Event (ι : Type) where
  | ask (i : ι) (op : Operation)
  | setFailing (kind : Op) (failing : Bool)

/-- New translators on the filter at its start. -/
def fresh (names : ι → ChainName) : Fleet ι := ⟨fun i => .start (names i), .fresh⟩

/-- One of the translators on the filter that they share. -/
def deployment (f : Fleet ι) (i : ι) : Deployment Memory := ⟨f.translators i, f.filter⟩

variable [DecidableEq ι]

def react (f : Fleet ι) : Event ι → Fleet ι
  | .ask i op =>
    let d := ((f.deployment i).serve Memory.backend op).2
    ⟨Function.update f.translators i d.translator, d.filter⟩
  | .setFailing kind failing => { f with filter := f.filter.setFailing kind failing }

/-- The fleet after some events. -/
def through (f : Fleet ι) (events : List (Event ι)) : Fleet ι := events.foldl react f

/-- The reports that one translator gives in the course of some events. -/
def reportsOf (i : ι) (f : Fleet ι) : List (Event ι) → List Report
  | [] => []
  | .ask j op :: events =>
    let later := reportsOf i (f.react (.ask j op)) events
    if j = i then ((f.deployment j).serve Memory.backend op).1 :: later else later
  | .setFailing kind failing :: events => reportsOf i (f.react (.setFailing kind failing)) events

/-- Whether an event is no operation of another translator. -/
def concerns (i : ι) : Event ι → Bool
  | .ask j _ => decide (j = i)
  | .setFailing _ _ => true

/-! ## What one translator sees -/

/-- All that a translator can see: whether it is enabled, its mappings, the rules of its chain, and
how many copies of its hook stand at each hook point. -/
structure Sight where
  enabled : Bool
  mappings : List Redirect
  rules : Option (List String)
  copies : Hook → Nat

def sight (f : Fleet ι) (i : ι) : Sight where
  enabled := ((f.translators i).isEnabled.eval Memory.backend f.filter).1
  mappings := (f.translators i).mappings
  rules := (f.deployment i).chainRules Memory.rules
  copies := Chains.copies f.filter.rules (f.translators i).chain

/-- One translator is the same in both fleets, and it cannot tell their filters apart. -/
structure Indistinct (names : ι → ChainName) (i : ι) (f g : Fleet ι) : Prop where
  named : ∀ j, (f.translators j).chain = names j
  same : f.translators i = g.translators i
  filters : f.filter.Alike (names i) g.filter

theorem translators_ask (f : Fleet ι) (i : ι) (op : Operation) (j : ι) :
    (f.react (.ask i op)).translators j =
      if j = i then ((f.deployment i).serve Memory.backend op).2.translator
      else f.translators j :=
  Function.update_apply ..

theorem named_react {names : ι → ChainName} {f : Fleet ι}
    (h : ∀ j, (f.translators j).chain = names j) (event : Event ι) (j : ι) :
    ((f.react event).translators j).chain = names j := by
  cases event with
  | ask i op =>
    rw [translators_ask]
    split
    · next hj => rw [Deployment.serve_chain, deployment, ← hj, h j]
    · exact h j
  | setFailing kind failing => exact h j

namespace Indistinct

variable {names : ι → ChainName} {i : ι} {f g : Fleet ι}

omit [DecidableEq ι] in
theorem sight_eq (h : Indistinct names i f g) : f.sight i = g.sight i := by
  have enabled := (h.filters.eval ((Lifecycle.isInstalled_within (names i)).mono
    (fun _ => Translator.Issues.lifecycle) fun _ h => h)).1
  have own := h.filters.own
  have copies := funext h.filters.copies
  rw [sight, sight, ← h.same, Translator.isEnabled, deployment, deployment, Deployment.chainRules,
    Deployment.chainRules, ← h.same, h.named i, enabled, own, copies]

/-- **Our own operations.** The report is the same in both fleets. -/
theorem ask_self (h : Indistinct names i f g) (op : Operation) :
    ((f.deployment i).serve Memory.backend op).1 = ((g.deployment i).serve Memory.backend op).1 ∧
      Indistinct names i (f.react (.ask i op)) (g.react (.ask i op)) := by
  have within := (f.translators i).perform_within op
  rw [h.named i] at within
  obtain ⟨value, alike⟩ := h.filters.eval within
  have served : ((f.deployment i).serve Memory.backend op).1 =
        ((g.deployment i).serve Memory.backend op).1 ∧
      ((f.deployment i).serve Memory.backend op).2.translator =
        ((g.deployment i).serve Memory.backend op).2.translator := by
    rw [deployment, deployment, Deployment.serve, Deployment.serve, ← h.same, value]
    exact ⟨rfl, rfl⟩
  refine ⟨served.1, named_react h.named _, ?_, ?_⟩
  · rw [translators_ask, translators_ask, if_pos rfl, if_pos rfl, served.2]
  · have again : (g.react (.ask i op)).filter =
        (((f.translators i).perform op).eval Memory.backend g.filter).2 := by
      rw [h.same]
      rfl
    rw [again]
    exact alike

/-- **Operations of the others.** They are as good as none. -/
theorem ask_other (h : Indistinct names i f g) (distinct : Function.Injective names) {j : ι}
    (hj : j ≠ i) (op : Operation) : Indistinct names i (f.react (.ask j op)) g := by
  have within := (f.translators j).perform_within op
  rw [h.named j] at within
  refine ⟨named_react h.named _, ?_, ?_⟩
  · rw [translators_ask, if_neg hj.symm, h.same]
  · exact h.filters.eval_other (distinct.ne hj) within

theorem setFailing (h : Indistinct names i f g) (kind : Op) (failing : Bool) :
    Indistinct names i (f.react (.setFailing kind failing)) (g.react (.setFailing kind failing)) :=
  ⟨h.named, h.same, h.filters.setFailing kind failing⟩

/-- **Whole runs.** The run with the others and the run without them go on side by side. -/
theorem through (h : Indistinct names i f g) (distinct : Function.Injective names)
    (events : List (Event ι)) :
    f.reportsOf i events = g.reportsOf i (events.filter (concerns i)) ∧
      Indistinct names i (f.through events) (g.through (events.filter (concerns i))) := by
  induction events generalizing f g with
  | nil => exact ⟨rfl, h⟩
  | cons event events ih =>
    cases event with
    | setFailing kind failing => exact ih (h.setFailing kind failing)
    | ask j op =>
      by_cases hj : j = i
      -- Both runs take the step.
      · subst hj
        obtain ⟨report, next⟩ := h.ask_self op
        obtain ⟨reports, after⟩ := ih next
        rw [List.filter_cons_of_pos (by simp [concerns]), reportsOf, reportsOf, if_pos rfl,
          if_pos rfl, report, reports]
        exact ⟨rfl, after⟩
      -- Only the run with the others takes it.
      · obtain ⟨reports, after⟩ := ih (h.ask_other distinct hj op)
        rw [List.filter_cons_of_neg (by simp [concerns, hj]), reportsOf, if_neg hj]
        exact ⟨reports, after⟩

end Indistinct

omit [DecidableEq ι] in
theorem indistinct_fresh (names : ι → ChainName) (i : ι) :
    Indistinct names i (fresh names) (fresh names) :=
  ⟨fun _ => rfl, rfl, Memory.alike_fresh (names i)⟩

/-- **Isolation.** Translators with different chains share a filter in memory.  Whatever operations are
asked of them, in any order, and whatever is made to fail in between: each gives the same reports, and
sees the same afterwards, as in the run without the operations of the others. -/
theorem isolated {names : ι → ChainName} (distinct : Function.Injective names)
    (events : List (Event ι)) (i : ι) :
    (fresh names).reportsOf i events = (fresh names).reportsOf i (events.filter (concerns i)) ∧
      ((fresh names).through events).sight i =
        ((fresh names).through (events.filter (concerns i))).sight i := by
  obtain ⟨reports, after⟩ := (indistinct_fresh names i).through distinct events
  exact ⟨reports, after.sight_eq⟩

/-- The isolation of one of two translators when flushing fails for both. -/
theorem isolated_of_two :
    let names : Bool → ChainName := fun i => if i then ⟨"A", by decide⟩ else ⟨"B", by decide⟩
    let events : List (Event Bool) := [.ask true .enable, .ask false .enable,
      .ask false (.forward ⟨.udp, ⟨10, 0, 0, 1⟩⟩ 53), .setFailing .flush true,
      .ask false .disable, .ask true .disable]
    let alone : List (Event Bool) := [.ask true .enable, .setFailing .flush true, .ask true .disable]
    Function.Injective names ∧
      (fresh names).reportsOf true events = (fresh names).reportsOf true alone ∧
      ((fresh names).through events).sight true = ((fresh names).through alone).sight true := by
  intro names events alone
  have distinct : Function.Injective names := by
    intro i j h
    cases i <;> cases j <;> first | rfl | exact absurd h (by decide)
  exact ⟨distinct, isolated distinct events true⟩

end Fleet

end Divert
