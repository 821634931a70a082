/-
# Divert.Proofs.Deployment — a translator at work on a filter.

The operations of a translator are data here, so a run is a list of them.  A deployment is a translator
together with the state of the filter that it works on; serving an operation gives its report and the
deployment afterwards.  Applying a list of redirects is serving their forwards one after the other.
-/
import Divert.Proofs.Redirects.Settled
import Divert.Translator

namespace Divert

/-! ## Operations -/

/-- What a translator can be asked to change. -/
inductive Operation where
  | enable
  | disable
  | forward (key : Key) (port : UInt16)
  | clear (key : Key)
  | applyAll (redirects : List Redirect)
  deriving DecidableEq, Repr

/-- An operation as a script that ends in its report and the translator afterwards. -/
def Translator.perform (t : Translator) : Operation → Script (Report × Translator)
  | .enable => do
    let report ← t.enable
    return (report, t)
  | .disable => t.disable
  | .forward key port => t.forward key port
  | .clear key => t.clear key
  | .applyAll redirects => t.applyAll redirects

/-! ## Runs -/

/-- A translator and the filter it works on. -/
structure Deployment (σ : Type) where
  translator : Translator
  filter : σ

namespace Deployment

variable {σ : Type} (b : Backend σ)

/-- A new translator on a filter. -/
def start (chain : ChainName) (s : σ) : Deployment σ := ⟨.start chain, s⟩

/-- A new translator on the filter in memory at its start. -/
def fresh (chain : ChainName) : Deployment Memory := start chain .fresh

/-- The report of an operation and the deployment afterwards. -/
def serve (d : Deployment σ) (op : Operation) : Report × Deployment σ :=
  let outcome := (d.translator.perform op).eval b d.filter
  (outcome.1.1, ⟨outcome.1.2, outcome.2⟩)

/-- The deployment after some operations. -/
def after (d : Deployment σ) (ops : List Operation) : Deployment σ :=
  ops.foldl (fun d op => (d.serve b op).2) d

/-- The reports of some operations. -/
def reports (d : Deployment σ) : List Operation → List Report
  | [] => []
  | op :: ops => (d.serve b op).1 :: reports (d.serve b op).2 ops

/-- The rules of the translator's chain, in what a state of the filter says of its rules. -/
def chainRules (rules : σ → Chains) (d : Deployment σ) : Option (List String) :=
  rules d.filter natTable d.translator.chain.text

@[simp] theorem after_nil (d : Deployment σ) : d.after b [] = d := rfl

@[simp] theorem after_cons (d : Deployment σ) (op : Operation) (ops : List Operation) :
    d.after b (op :: ops) = (d.serve b op).2.after b ops :=
  rfl

/-! ## What serving an operation comes to -/

variable {b} {d : Deployment σ} {report : Report} {r : Redirects} {s : σ}

theorem serve_of_eval {op : Operation} {t : Translator}
    (h : (d.translator.perform op).eval b d.filter = ((report, t), s)) :
    d.serve b op = (report, ⟨t, s⟩) := by
  rw [serve, h]

theorem serve_enable_of_eval
    (h : (Lifecycle.enable d.translator.chain).eval b d.filter = (report, s)) :
    d.serve b .enable = (report, ⟨d.translator, s⟩) := by
  apply serve_of_eval
  unfold Translator.perform Translator.enable
  rw [Script.eval_bind_of h]
  rfl

/-- Disabling forgets the record, whatever the report says. -/
theorem serve_disable_of_eval
    (h : (Lifecycle.disable d.translator.chain).eval b d.filter = (report, s)) :
    d.serve b .disable = (report, ⟨⟨d.translator.chain, .empty⟩, s⟩) := by
  apply serve_of_eval
  unfold Translator.perform Translator.disable
  rw [Script.eval_bind_of h, Script.eval_bind_of (Redirects.forget_eval b _ s)]
  rfl

theorem serve_forward_of_eval {key : Key} {port : UInt16}
    (h : (d.translator.redirects.forward d.translator.chain key port).eval b d.filter =
      ((report, r), s)) :
    d.serve b (.forward key port) = (report, ⟨⟨d.translator.chain, r⟩, s⟩) := by
  apply serve_of_eval
  unfold Translator.perform Translator.forward
  rw [Script.eval_bind_of h]
  rfl

theorem serve_clear_of_eval {key : Key}
    (h : (d.translator.redirects.clear d.translator.chain key).eval b d.filter =
      ((report, r), s)) :
    d.serve b (.clear key) = (report, ⟨⟨d.translator.chain, r⟩, s⟩) := by
  apply serve_of_eval
  unfold Translator.perform Translator.clear
  rw [Script.eval_bind_of h]
  rfl

/-! ## Applying redirects -/

/-- Serve the forward of a redirect within a report. -/
def serveNext (b : Backend σ) (outcome : Report × Deployment σ) (r : Redirect) :
    Report × Deployment σ :=
  let next := outcome.2.serve b (.forward r.key r.port)
  (outcome.1.merge next.1, next.2)

/-- **Redirects one by one.** Applying redirects is serving their forwards within one report. -/
theorem serve_applyAll (d : Deployment σ) (redirects : List Redirect) :
    d.serve b (.applyAll redirects) =
      redirects.foldl (serveNext b) (.start "apply_redirects", d) := by
  -- The two folds differ only in how report, translator and filter are paired.
  have fold : ∀ (redirects : List Redirect) (report : Report) (d : Deployment σ),
      (fun outcome : (Report × Translator) × σ => (outcome.1.1, Deployment.mk outcome.1.2 outcome.2))
        (redirects.foldl (fun outcome r => (Translator.applyNext outcome.1 r).eval b outcome.2)
          ((report, d.translator), d.filter)) =
      redirects.foldl (serveNext b) (report, d) := by
    intro redirects
    induction redirects with
    | nil =>
      intro report d
      rfl
    | cons r rest ih =>
      intro report d
      rw [List.foldl_cons, List.foldl_cons, Translator.applyNext, Script.eval_bind]
      exact ih _ (d.serve b (.forward r.key r.port)).2
  rw [serve, Translator.perform, Translator.applyAll, Script.eval_foldlM]
  exact fold redirects _ d

end Deployment

end Divert
