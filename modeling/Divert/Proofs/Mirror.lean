/-
# Divert.Proofs.Mirror — when the record mirrors the chain.

The mappings that a translator shows should be the redirects that its chain holds.  On a filter that
nothing is made to fail, every rule in the chain is on record, and its key has no other rule there.  The
converse fails in one way only: enabling a chain that is there empties it and keeps the record, so what
was on record then is shown without a rule until the next disable.  `mirrored_iff` says that this is
all that can go wrong.
-/
import Divert.Proofs.Standing
import Mathlib.Data.List.Induction

namespace Divert

/-! ## What is gone -/

namespace Standing

/-- The redirects on record whose rules are gone. -/
def lost : Standing → List Redirect
  | absent => []
  | present _ gone => gone

variable (chain : ChainName) (s : Standing)

theorem lost_forward (key : Key) (port : UInt16) : (s.forward chain key port).2.lost = s.lost := by
  cases s with
  | absent => rfl
  | present live gone =>
    simp only [forward]
    split <;> rfl

theorem lost_clear (key : Key) : (s.clear chain key).2.lost = s.lost := by
  cases s with
  | absent => rfl
  | present live gone =>
    simp only [clear]
    split <;> rfl

theorem lost_foldl_forward (redirects : List Redirect) (report : Report) :
    (redirects.foldl (forwardNext chain) (report, s)).2.lost = s.lost := by
  induction redirects generalizing report s with
  | nil => rfl
  | cons r rest ih =>
    rw [List.foldl_cons, forwardNext, ih, lost_forward]

/-- **What one operation loses.** Enabling loses all that is on record, disabling forgets what is lost,
and nothing else touches it. -/
theorem lost_serve (op : Operation) :
    (s.serve chain op).2.lost =
      if op = .enable then s.recorded else if op = .disable then [] else s.lost := by
  cases op with
  | enable => cases s <;> rfl
  | disable => cases s <;> rfl
  | forward key port => exact s.lost_forward chain key port
  | clear key => exact s.lost_clear chain key
  | applyAll redirects => exact s.lost_foldl_forward chain redirects _

theorem after_concat (ops : List Operation) (op : Operation) :
    s.after chain (ops ++ [op]) = ((s.after chain ops).serve chain op).2 := by
  rw [after, List.foldl_append]
  rfl

theorem recorded_eq_nil_of_lost (h : s.recorded = []) : s.lost = [] := by
  cases s with
  | absent => rfl
  | present live gone => exact (List.append_eq_nil_iff.1 h).2

end Standing

/-! ## The record outlives the rules -/

/-- The chain was enabled while there were mappings, and has not been disabled since. -/
def Outdated (chain : ChainName) (ops : List Operation) : Prop :=
  ∃ before since, ops = before ++ .enable :: since ∧ Operation.disable ∉ since ∧
    ((Deployment.fresh chain).after Memory.backend before).translator.mappings ≠ []

theorem split_concat {ops before since : List Operation} {op first : Operation}
    (h : ops ++ [op] = before ++ first :: since) :
    (since = [] ∧ op = first ∧ ops = before) ∨
      ∃ fewer, since = fewer ++ [op] ∧ ops = before ++ first :: fewer := by
  rcases List.eq_nil_or_concat' since with rfl | ⟨fewer, last, rfl⟩
  · obtain ⟨hops, hop⟩ := List.append_inj' h rfl
    exact Or.inl ⟨rfl, List.singleton_inj.1 hop, hops⟩
  · rw [← List.cons_append, ← List.append_assoc] at h
    obtain ⟨hops, hop⟩ := List.append_inj' h rfl
    obtain rfl := List.singleton_inj.1 hop
    exact Or.inr ⟨fewer, rfl, hops⟩

/-- Being outdated depends on the last operation, and on what was before it. -/
theorem outdated_concat {chain : ChainName} {ops : List Operation} {op : Operation} :
    Outdated chain (ops ++ [op]) ↔
      (op = .enable ∧
        ((Deployment.fresh chain).after Memory.backend ops).translator.mappings ≠ []) ∨
      op ≠ .disable ∧ Outdated chain ops := by
  constructor
  · rintro ⟨before, since, hsplit, hsince, hmappings⟩
    rcases split_concat hsplit with ⟨-, hop, rfl⟩ | ⟨fewer, rfl, rfl⟩
    · exact Or.inl ⟨hop, hmappings⟩
    · simp only [List.mem_append, List.mem_singleton, not_or] at hsince
      exact Or.inr ⟨Ne.symm hsince.2, before, fewer, rfl, hsince.1, hmappings⟩
  · rintro (⟨rfl, hmappings⟩ | ⟨hop, before, since, rfl, hsince, hmappings⟩)
    · exact ⟨ops, [], rfl, List.not_mem_nil, hmappings⟩
    · refine ⟨before, since ++ [op], by simp, ?_, hmappings⟩
      simp only [List.mem_append, List.mem_singleton, not_or]
      exact ⟨hsince, Ne.symm hop⟩

/-- The machine has lost something exactly if its record is outdated. -/
theorem lost_ne_nil_iff (chain : ChainName) (ops : List Operation) :
    (Standing.absent.after chain ops).lost ≠ [] ↔ Outdated chain ops := by
  -- From the right, as the last operation decides what is lost after it.
  induction ops using List.reverseRecOn with
  | nil =>
    constructor
    · intro h
      exact absurd rfl h
    · rintro ⟨before, since, hsplit, -⟩
      simp at hsplit
  | append_singleton ops op ih =>
    have mapped : ((Deployment.fresh chain).after Memory.backend ops).translator.mappings ≠ [] ↔
        (Standing.absent.after chain ops).recorded ≠ [] := by
      have perm := (describes_run chain ops).mappings_perm
      apply not_congr
      constructor
      · intro h
        exact (h ▸ perm).nil_eq.symm
      · intro h
        exact (h ▸ perm).eq_nil
    rw [outdated_concat, Standing.after_concat, Standing.lost_serve, ← ih, mapped]
    have lostRecorded := (Standing.absent.after chain ops).recorded_eq_nil_of_lost
    cases op with
    -- Enabling loses the record, and a record with a loss was not empty.
    | enable =>
      simp only [if_true, true_and, ne_eq, reduceCtorEq, not_false_eq_true]
      constructor
      · exact Or.inl
      · rintro (hrecorded | hlost)
        · exact hrecorded
        · exact mt lostRecorded hlost
    | _ => simp

/-! ## The mirror -/

namespace Deployment

/-- The mappings are the redirects whose rules our chain holds. -/
def Mirrored (d : Deployment Memory) : Prop :=
  ∀ key port, ⟨key, port⟩ ∈ d.translator.mappings ↔
    ∃ rules, d.chainRules Memory.rules = some rules ∧ Rule.redirect key port ∈ rules

end Deployment

namespace Describes

variable {chain : ChainName} {base : Chains} {d : Deployment Memory} {s : Standing}

/-- The record mirrors the chain exactly if nothing is lost. -/
theorem mirrored_iff_lost (h : Describes chain base s d) (vacant : base.Vacant chain) :
    d.Mirrored ↔ s.lost = [] := by
  cases s with
  | absent =>
    have mirrored : d.Mirrored := by
      intro key port
      rw [h.mappings_perm.mem_iff, h.chainRules_absent vacant]
      simp [Standing.recorded]
    exact iff_of_true mirrored rfl
  | present live gone =>
    have chainHas : ∀ key port, (∃ rules, d.chainRules Memory.rules = some rules ∧
        Rule.redirect key port ∈ rules) ↔ ⟨key, port⟩ ∈ live := by
      intro key port
      simp only [h.chainRules_present, Option.some.injEq, exists_eq_left', Standing.mem_rules]
    simp only [Deployment.Mirrored, h.mappings_perm.mem_iff, Standing.recorded, List.mem_append,
      chainHas, Standing.lost]
    constructor
    · intro hmirror
      rw [List.eq_nil_iff_forall_not_mem]
      intro r hgone
      have hlive := (hmirror r.key r.port).1 (Or.inr hgone)
      exact (h.of_mem_gone hgone).2 (Standing.mem_rules.2 hlive)
    · rintro rfl key port
      simp

/-- What our chain holds is on record, once, and with one port for each key. -/
theorem rule_recorded (h : Describes chain base s d) (vacant : base.Vacant chain)
    {rules : List String} (hrules : d.chainRules Memory.rules = some rules) {key : Key} {port : UInt16}
    (hmem : Rule.redirect key port ∈ rules) :
    ⟨key, port⟩ ∈ d.translator.mappings ∧ rules.count (Rule.redirect key port) = 1 ∧
      ∀ other, Rule.redirect key other ∈ rules → other = port := by
  cases s with
  | absent =>
    rw [h.chainRules_absent vacant] at hrules
    cases hrules
  | present live gone =>
    rw [h.chainRules_present] at hrules
    cases hrules
    have distinct := h.nodup_live
    have hlive := Standing.mem_rules.1 hmem
    refine ⟨h.mappings_perm.mem_iff.2 (List.mem_append_left gone hlive), ?_, ?_⟩
    · exact List.count_eq_one_of_mem (Standing.nodup_rules distinct) hmem
    · intro other hother
      exact Redirect.port_unique distinct (Standing.mem_rules.1 hother) hlive

end Describes

/-- **When the record mirrors the chain.** On a filter in memory that nothing is made to fail, after
any operations: the mappings are the redirects whose rules our chain holds, unless the chain was
enabled over mappings and not disabled since.  In either case, every redirect rule in the chain is
mapped, stands there once, and is the only one for its key. -/
theorem mirrored_iff (chain : ChainName) (ops : List Operation) :
    (((Deployment.fresh chain).after Memory.backend ops).Mirrored ↔ ¬ Outdated chain ops) ∧
      ∀ rules,
        ((Deployment.fresh chain).after Memory.backend ops).chainRules Memory.rules = some rules →
        ∀ key port, Rule.redirect key port ∈ rules →
          ⟨key, port⟩ ∈ ((Deployment.fresh chain).after Memory.backend ops).translator.mappings ∧
            rules.count (Rule.redirect key port) = 1 ∧
            ∀ other, Rule.redirect key other ∈ rules → other = port := by
  have described := describes_run chain ops
  have vacant := Memory.vacant_fresh chain
  constructor
  · rw [described.mirrored_iff_lost vacant, ← lost_ne_nil_iff, Ne, not_not]
  · intro rules hrules key port hmem
    exact described.rule_recorded vacant hrules hmem

end Divert
