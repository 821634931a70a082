/-
# Divert.Proofs.DryRun — an accepted configuration installs and tears down cleanly.

A dry run works on the filter in memory at its start, which is vacant for every chain of our own.  An
accepted configuration has a valid chain name and redirects with distinct keys, so no forward ever finds
an older rule of its key to delete: every redirect takes exactly one step, in the order of the
configuration.  Tearing down gives the start of the filter back.
-/
import Divert.Engine
import Divert.Proofs.Config.Valid
import Divert.Proofs.Standing

namespace Divert

/-! ## The filter of a dry run -/

/-- On the engine of a dry run, a script does what it does on the filter in memory. -/
theorem Script.eval_memory {α : Type} (x : Script α) (m : Memory) :
    x.eval Engine.backend (.memory m) =
      ((x.eval Memory.backend m).1, .memory (x.eval Memory.backend m).2) := by
  induction x generalizing m with
  | done value => rfl
  | note notice rest ih => exact ih m
  | call command next ih => exact ih (m.answer command).1 (m.answer command).2

namespace Deployment

/-- A translator on the engine of a dry run. -/
def dry (d : Deployment Memory) : Deployment Engine := ⟨d.translator, .memory d.filter⟩

theorem serve_dry {d after : Deployment Memory} {op : Operation} {report : Report}
    (h : d.serve Memory.backend op = (report, after)) :
    d.dry.serve Engine.backend op = (report, after.dry) := by
  have hreport : ((d.translator.perform op).eval Memory.backend d.filter).1.1 = report :=
    congrArg Prod.fst h
  have hafter : Deployment.mk _ _ = after := congrArg Prod.snd h
  rw [serve, dry, Script.eval_memory, hreport, ← hafter]
  rfl

end Deployment

/-! ## Redirects with distinct keys -/

namespace Standing

open Redirect (keys without)

/-- Forwarding keys that have no redirect yet, each once, takes one step for each, and appends their
redirects in order. -/
theorem foldl_forward_distinct (chain : ChainName) (redirects live : List Redirect) (report : Report)
    (distinct : (keys (live ++ redirects)).Nodup) :
    redirects.foldl (forwardNext chain) (report, present live []) =
      (report.plus redirects.length [], present (live ++ redirects) []) := by
  induction redirects generalizing live report with
  | nil => rw [List.foldl_nil, List.length_nil, Report.plus_zero, List.append_nil]
  | cons r rest ih =>
    have new : r.key ∉ keys live := by
      rw [keys, List.map_append, List.nodup_append] at distinct
      exact fun old => distinct.2.2 r.key old r.key List.mem_cons_self rfl
    have forwarded : (present live []).forward chain r.key r.port =
        (⟨"forward", 1, []⟩, present (live ++ [r]) []) := by
      simp only [forward, Redirect.portOf?, List.find?_nil, Option.map_none, if_neg new,
        Redirect.without_of_notMem new]
    rw [← List.singleton_append, ← List.append_assoc] at distinct
    rw [List.foldl_cons, forwardNext, forwarded, ih _ _ distinct, Report.merge_eq_plus,
      Report.plus_plus, List.length_cons, List.append_assoc, Nat.add_comm rest.length 1]
    rfl

end Standing

/-! ## The run of an accepted configuration -/

/-- On a filter that is vacant for the chain, redirects with distinct keys are installed and taken away
again without a failure. -/
theorem Describes.installs {chain : ChainName} {base : Chains} {d : Deployment Memory}
    (h : Describes chain base .absent d) (vacant : base.Vacant chain) {redirects : List Redirect}
    (distinct : (Redirect.keys redirects).Nodup) :
    ∃ enabled applied disabled,
      d.serve Memory.backend .enable = (⟨"enable", 6, []⟩, enabled) ∧
      enabled.serve Memory.backend (.applyAll redirects) =
        (⟨"apply_redirects", .ofNat redirects.length, []⟩, applied) ∧
      applied.serve Memory.backend .disable = (⟨"disable", 4, []⟩, disabled) ∧
      Describes chain base (.present redirects []) applied ∧
      Describes chain base .absent disabled := by
  obtain ⟨enabled, henable, henabled⟩ := h.serve_enable vacant
  obtain ⟨applied, happly, happlied⟩ := henabled.serve vacant (.applyAll redirects)
  have machine : Standing.serve chain (.present [] []) (.applyAll redirects) =
      (⟨"apply_redirects", .ofNat redirects.length, []⟩, .present redirects []) := by
    rw [Standing.serve, Standing.foldl_forward_distinct chain redirects [] _ distinct,
      Report.start_plus, List.nil_append]
  rw [Standing.enable, machine] at happly happlied
  obtain ⟨disabled, hdisable, hdisabled⟩ := happlied.serve_disable vacant
  exact ⟨enabled, applied, disabled, henable, happly, hdisable, happlied, hdisabled⟩

/-- **Accepted configurations.** For every text that is accepted as the configuration of a dry run there
is a translator, and it enables cleanly.  Applying the configured redirects is clean, with one step for
each; our chain then holds the loopback exemption and their rules in the order of the configuration,
and the mappings are the configured redirects in the order of their keys.  Disabling is clean too, and
leaves every table with its built-in chains only, all of them empty, and no mappings. -/
theorem accepted_installs {text : String} {c : Config} (accepted : Config.loadText text = .ok c)
    (dry : c.dryRun = true) (command : Iptables) :
    ∃ t engine notices, Translator.ofConfig c command = .ok (t, engine, notices) ∧
      let enabled := Deployment.serve Engine.backend ⟨t, engine⟩ .enable
      let applied := enabled.2.serve Engine.backend (.applyAll c.redirects)
      let disabled := applied.2.serve Engine.backend .disable
      enabled.1.isClean = true ∧
        (applied.1.isClean = true ∧ applied.1.attempted = c.redirects.length ∧
          (∃ m, applied.2.filter = .memory m ∧ m.rules natTable c.chain =
            some (Rule.loopback :: c.redirects.map Redirect.rule)) ∧
          applied.2.translator.mappings.Perm c.redirects ∧
          applied.2.translator.mappings.Pairwise fun x y => x.key.rank < y.key.rank) ∧
        disabled.1.isClean = true ∧
          (∃ m, disabled.2.filter = .memory m ∧ ∀ table name, m.rules table name =
            if name ∈ Filter.builtinChains then some [] else none) ∧
          disabled.2.translator.mappings = [] := by
  obtain ⟨-, valid⟩ := Config.loadText_eq_ok_iff.1 accepted
  obtain ⟨⟨chain, hchain⟩, hredirects, -⟩ := Config.validate_eq_ok_iff.1 valid
  obtain ⟨-, distinct, -⟩ := Config.checkRedirects_eq_ok_iff.1 hredirects
  refine ⟨.start chain, .memory .fresh, [.dryRun], ?_, ?_⟩
  · rw [Translator.ofConfig, hchain, dry]
    rfl
  · obtain ⟨on, full, off, hon, hfull, hoff, describes, describesOff⟩ :=
      (describes_start rfl chain).installs (Memory.vacant_fresh chain) distinct
    have dryStart : Deployment.mk (.start chain) (.memory .fresh) =
        (Deployment.start chain .fresh).dry := rfl
    rw [dryStart]
    intro enabled applied disabled
    have henabled : enabled = (⟨"enable", 6, []⟩, on.dry) := Deployment.serve_dry hon
    have happlied : applied = (⟨"apply_redirects", .ofNat c.redirects.length, []⟩, full.dry) := by
      simp only [applied, henabled]
      exact Deployment.serve_dry hfull
    have hdisabled : disabled = (⟨"disable", 4, []⟩, off.dry) := by
      simp only [disabled, happlied]
      exact Deployment.serve_dry hoff
    have few : c.redirects.length < 2 ^ 64 :=
      Nat.lt_of_le_of_lt (Redirect.length_le_of_nodup_keys distinct) (by decide)
    rw [henabled, happlied, hdisabled]
    refine ⟨rfl, ⟨rfl, Report.attempted_of_lt few, ⟨full.filter, rfl, ?_⟩, ?_, ?_⟩, rfl,
      ⟨off.filter, rfl, ?_⟩, ?_⟩
    · rw [← ChainName.check_eq_ok_iff.1 hchain, describes.filter.rules]
      exact Chains.arrange_own ..
    · have perm := describes.mappings_perm
      rw [Standing.recorded, List.append_nil] at perm
      exact perm
    · exact full.translator.redirects.mappings_sorted
    · intro table name
      rw [describesOff.filter.rules]
      exact Memory.rules_fresh table name
    · exact describesOff.mappings_perm.eq_nil

/-- The configuration of two redirects that are not in the order of their keys. -/
theorem accepted_installs_two :
    let text := "\x7b\"dry_run\": true, \"redirects\": [" ++
      "\x7b\"protocol\": \"udp\", \"address\": \"10.0.0.1\", \"port\": 53\x7d, " ++
      "\x7b\"protocol\": \"tcp\", \"address\": \"10.0.0.2\", \"port\": 80\x7d]\x7d"
    let redirects : List Redirect := [⟨⟨.udp, ⟨10, 0, 0, 1⟩⟩, 53⟩, ⟨⟨.tcp, ⟨10, 0, 0, 2⟩⟩, 80⟩]
    let c : Config := { Config.default with dryRun := true, redirects }
    Config.loadText text = .ok c ∧
      ∃ t engine notices, Translator.ofConfig c .absent = .ok (t, engine, notices) ∧
        let enabled := Deployment.serve Engine.backend ⟨t, engine⟩ .enable
        let applied := enabled.2.serve Engine.backend (.applyAll redirects)
        applied.1.isClean = true ∧ applied.1.attempted = 2 ∧
          ∃ m, applied.2.filter = .memory m ∧ m.rules natTable "PROXY_REDIRECT" =
            some (Rule.loopback :: redirects.map Redirect.rule) := by
  intro text redirects c
  have accepted : Config.loadText text = .ok c := by decide +kernel
  have configured : c.chain = "PROXY_REDIRECT" ∧ c.redirects = redirects := ⟨rfl, rfl⟩
  obtain ⟨t, engine, notices, started, installs⟩ := accepted_installs accepted rfl .absent
  rw [configured.1, configured.2] at installs
  obtain ⟨-, ⟨clean, attempted, rules, -⟩, -⟩ := installs
  exact ⟨accepted, t, engine, notices, started, clean, attempted, rules⟩

end Divert
