/-
# Divert.Proofs.Config.Sources — one configuration, whatever way it is loaded.

A configuration comes from a text, from a file or from nowhere, and may be overridden by the environment.
Four loaders repeat parts of one sequence: parse, validate, override, validate again.  What an environment
does to a configuration is said by `Environment.Replaces`, member by member and without a loader, and
`Environment.Governs` says of a loader that it goes by what it found and by the environment alone.  A
loader that is governed cannot hand out anything but the valid replacement of a valid configuration, and
cannot fail where there is one.
-/
import Divert.Proofs.Config.Valid

namespace Divert

open Config (chainVariable levelVariable dryRunVariable)

/-! ## Replacing members -/

/-- The truth value that a word stands for, in any letter case. -/
def Config.Means (word : String) (value : Bool) : Prop :=
  (value = true ∧ Text.lower word ∈ ["1", "true", "yes"]) ∨
    (value = false ∧ Text.lower word ∈ ["0", "false", "no"])

/-- The second configuration is the first one with the chain, the level and the choice of a dry run
replaced by the variables that are set. -/
structure Environment.Replaces (environment : Environment) (base c : Config) : Prop where
  chain : c.chain = (environment.get? chainVariable).getD base.chain
  level : c.log.level = (environment.get? levelVariable).getD base.log.level
  unset : environment.get? dryRunVariable = none → c.dryRun = base.dryRun
  set : ∀ word, environment.get? dryRunVariable = some word → Config.Means word c.dryRun
  redirects : c.redirects = base.redirects
  format : c.log.format = base.log.format
  target : c.log.target = base.log.target

namespace Config

theorem truth?_eq_some_iff {word : String} {value : Bool} :
    truth? word = some value ↔ Means word value := by
  have apart : Text.lower word ∈ ["1", "true", "yes"] →
      Text.lower word ∉ ["0", "false", "no"] := by
    intro h
    simp only [List.mem_cons, List.not_mem_nil, or_false] at h
    rcases h with h | h | h <;> rw [h] <;> decide
  unfold truth? Means
  split
  · next h => simp [h, apart h, eq_comm]
  · next h =>
    split
    · next h' => simp [h, h', eq_comm]
    · next h' => simp [h, h']

end Config

namespace Environment

variable {environment : Environment} {base c : Config}

/-- What has been replaced stays so. -/
theorem Replaces.again (h : environment.Replaces base c) : environment.Replaces c c where
  chain := by
    cases set : environment.get? chainVariable with
    | none => rfl
    | some name => rw [h.chain, set]; rfl
  level := by
    cases set : environment.get? levelVariable with
    | none => rfl
    | some name => rw [h.level, set]; rfl
  unset _ := rfl
  set := h.set
  redirects := rfl
  format := rfl
  target := rfl

end Environment

namespace Config

variable {environment : Environment} {base c : Config}

/-- A configuration with replaced members is handed out if it is valid. -/
theorem override_of_replaces (h : environment.Replaces base c) :
    base.override environment = c.validated := by
  obtain ⟨chain, dryRun, redirects, level, format, target⟩ := c
  obtain ⟨rfl, rfl, unset, set, rfl, rfl, rfl⟩ := h
  simp only [override]
  cases given : environment.get? dryRunVariable with
  | none =>
    obtain rfl := unset given
    rfl
  | some word =>
    have clear : truth? word = some dryRun := truth?_eq_some_iff.2 (set word given)
    simp only [dryRunOverride, clear]
    rfl

/-- A word that stands for no truth value is refused. -/
theorem override_of_unclear {word : String} (given : environment.get? dryRunVariable = some word)
    (unclear : ∀ value, ¬ Means word value) :
    base.override environment =
      .error (.environment dryRunVariable s!"Invalid boolean: {word}") := by
  have nothing : truth? word = none := by
    apply Option.eq_none_iff_forall_ne_some.2
    intro value h
    exact unclear value (truth?_eq_some_iff.1 h)
  simp only [override, given, dryRunOverride, nothing]
  rfl

/-- There is a replacement unless the word for a dry run stands for no truth value. -/
theorem exists_replaces (environment : Environment) (base : Config) :
    (∃ c, environment.Replaces base c) ∨
      ∃ word, environment.get? dryRunVariable = some word ∧ ∀ value, ¬ Means word value := by
  have replaced (dryRun : Bool)
      (unset : environment.get? dryRunVariable = none → dryRun = base.dryRun)
      (set : ∀ word, environment.get? dryRunVariable = some word → Means word dryRun) :
      ∃ c, environment.Replaces base c :=
    ⟨⟨_, dryRun, _, _, _, _⟩, rfl, rfl, unset, set, rfl, rfl, rfl⟩
  cases given : environment.get? dryRunVariable with
  | none =>
    apply Or.inl (replaced base.dryRun (fun _ => rfl) _)
    intro word h
    rw [given] at h
    cases h
  | some word =>
    by_cases clear : ∃ value, Means word value
    · obtain ⟨value, hvalue⟩ := clear
      refine Or.inl (replaced value ?_ ?_)
      · intro h
        rw [given] at h
        cases h
      · intro other h
        rw [given] at h
        cases h
        exact hvalue
    · exact Or.inr ⟨word, rfl, not_exists.1 clear⟩

theorem override_eq_ok_iff :
    base.override environment = .ok c ↔ environment.Replaces base c ∧ c.validate = .ok () := by
  constructor
  · intro h
    rcases exists_replaces environment base with ⟨other, replaces⟩ | ⟨word, given, unclear⟩
    · rw [override_of_replaces replaces, validated_eq_ok_iff] at h
      obtain ⟨valid, rfl⟩ := h
      exact ⟨replaces, valid⟩
    · rw [override_of_unclear given unclear] at h
      cases h
  · rintro ⟨replaces, valid⟩
    rw [override_of_replaces replaces, validated_eq_ok_iff]
    exact ⟨valid, rfl⟩

end Config

/-! ## Loaders with overrides -/

/-- The result of a loader goes by what it found and by the environment alone. -/
structure Environment.Governs (environment : Environment)
    (found result : Except ConfigError Config) : Prop where
  /-- What cannot be loaded cannot be overridden. -/
  failed : ∀ e, found = .error e → result = .error e
  /-- A word that is no truth value is an error. -/
  unclear : ∀ base word, found = .ok base → environment.get? dryRunVariable = some word →
    (∀ value, ¬ Config.Means word value) →
      result = .error (.environment dryRunVariable s!"Invalid boolean: {word}")
  /-- Overrides that leave the configuration invalid are an error. -/
  invalid : ∀ base c reason, found = .ok base → environment.Replaces base c →
    c.validate = .error reason → result = .error (.validation reason)
  /-- The configuration that is handed out is the valid replacement of the one found. -/
  accepted : ∀ c, result = .ok c ↔
    ∃ base, found = .ok base ∧ environment.Replaces base c ∧ c.validate = .ok ()
  /-- Overriding it once more changes nothing. -/
  stable : ∀ c, result = .ok c → c.override environment = .ok c

namespace Config

/-- Overriding what was found is governed by it. -/
theorem governs_override (environment : Environment) (found : Except ConfigError Config) :
    environment.Governs found (found >>= fun base => base.override environment) where
  failed := by
    rintro e rfl
    rfl
  unclear := by
    rintro base word rfl given unclear
    exact override_of_unclear given unclear
  invalid := by
    rintro base c reason rfl replaces invalid
    show base.override environment = _
    rw [override_of_replaces replaces, validated, invalid]
  accepted c := by
    simp only [bind_eq_ok_iff, override_eq_ok_iff]
  stable c h := by
    obtain ⟨base, -, overridden⟩ := bind_eq_ok_iff.1 h
    obtain ⟨replaces, valid⟩ := override_eq_ok_iff.1 overridden
    exact override_eq_ok_iff.2 ⟨replaces.again, valid⟩

/-! ## Texts and files -/

theorem validated_cases (c : Config) :
    c.validated = .ok c ∨ ∃ reason, c.validated = .error (.validation reason) := by
  unfold validated
  split
  · exact Or.inl rfl
  · next reason _ => exact Or.inr ⟨reason, rfl⟩

/-- The text of a file is accepted, found invalid, or not understood, exactly as it is without a file. -/
theorem loadFile_text (path text : String) :
    (∃ c, loadFile path (.text text) = .ok c ∧ loadText text = .ok c) ∨
    (∃ reason, loadFile path (.text text) = .error (.validation reason) ∧
      loadText text = .error (.validation reason)) ∨
    ∃ fault, loadFile path (.text text) = .error (.parse (.inFile fault path)) ∧
      loadText text = .error (.parse (.inText fault)) := by
  show (∃ c, load text (.inFile · path) = .ok c ∧ load text .inText = .ok c) ∨
    (∃ reason, load text (.inFile · path) = .error (.validation reason) ∧
      load text .inText = .error (.validation reason)) ∨
    ∃ fault, load text (.inFile · path) = .error (.parse (.inFile fault path)) ∧
      load text .inText = .error (.parse (.inText fault))
  unfold load
  cases ofText text with
  | error fault => exact Or.inr (Or.inr ⟨fault, rfl, rfl⟩)
  | ok c =>
    rcases c.validated_cases with accepted | ⟨reason, refused⟩
    · exact Or.inl ⟨c, accepted, accepted⟩
    · exact Or.inr (Or.inl ⟨reason, refused, refused⟩)

/-- **All ways of loading agree.** A file with a text is loaded as the text is: as the same
configuration, with the same violation, or with the same fault.  The loader that falls back on the
default configuration is the other one where there is a file, and overrides the default configuration
where there is none.  Both loaders with overrides go by the configuration they start from and the
environment: they hand out its valid replacement, which no second override changes, and an error if it
cannot be loaded, if a word is no truth value, or if the replacement is invalid. -/
theorem sources_agree (path : String) (file : FileText) (environment : Environment) :
    (∀ text,
      (∃ c, loadFile path (.text text) = .ok c ∧ loadText text = .ok c) ∨
      (∃ reason, loadFile path (.text text) = .error (.validation reason) ∧
        loadText text = .error (.validation reason)) ∨
      ∃ fault, loadFile path (.text text) = .error (.parse (.inFile fault path)) ∧
        loadText text = .error (.parse (.inText fault))) ∧
    (file ≠ .absent →
      loadOverriddenOrDefault path file environment = loadOverridden path file environment) ∧
    loadOverriddenOrDefault path .absent environment = default.override environment ∧
    environment.Governs (loadFile path file) (loadOverridden path file environment) ∧
    environment.Governs (.ok default) (loadOverriddenOrDefault path .absent environment) := by
  refine ⟨loadFile_text path, ?_, rfl, ?_, ?_⟩
  · intro there
    cases file with
    | absent => exact absurd rfl there
    | unreadable cause => rfl
    | text text => rfl
  · exact governs_override environment (loadFile path file)
  · exact governs_override environment (.ok default)

/-- A file with a redirect, a chain that is overridden, and a dry run that is chosen in mixed case. -/
theorem sources_agree_overridden :
    let text := "\x7b\"chain\":\"A\",\"redirects\":[[\"udp\",\"10.0.0.1\",53]]\x7d"
    let environment : Environment :=
      [(dryRunVariable, "yEs".toUTF8), (chainVariable, "EDGE".toUTF8), (levelVariable, ⟨#[0xff]⟩)]
    let c : Config := ⟨"EDGE", true, [⟨⟨.udp, ⟨10, 0, 0, 1⟩⟩, 53⟩], LogSettings.default⟩
    loadOverriddenOrDefault "c.json" (.text text) environment = .ok c ∧
      c.override environment = .ok c := by
  intro text environment c
  have loaded : loadOverridden "c.json" (.text text) environment = .ok c := by decide +kernel
  obtain ⟨-, same, -, governed, -⟩ := sources_agree "c.json" (.text text) environment
  exact ⟨(same (by simp)).trans loaded, governed.stable c loaded⟩

end Config
end Divert
