/-
# Divert.Proofs.Config.Violations — the first thing that is wrong with a configuration.

A configuration may break any number of rules, and some of them more than once.  `Config.violations`
lists all of them, each by itself: what is wrong with an entry is said without going through the ones
before it, although a repeated key shows only beside them.  Validation stops early and carries a growing
set of keys with it; all the same, it accepts exactly where the list is empty, and reports its head.
-/
import Divert.Proofs.Config.Valid

namespace Divert

/-! ## The first of some violations -/

/-- Stop at the first of some violations, if there is one. -/
def Invalid.first : List Invalid → Except Invalid Unit
  | [] => .ok ()
  | reason :: _ => .error reason

namespace Invalid

theorem first_append (l more : List Invalid) :
    first (l ++ more) = (first l >>= fun _ => first more) := by
  cases l <;> rfl

theorem first_eq_ok_iff {l : List Invalid} : first l = .ok () ↔ l = [] := by
  cases l <;> simp [first]

theorem first_eq_error_iff {l : List Invalid} {reason : Invalid} :
    first l = .error reason ↔ l.head? = some reason := by
  cases l <;> simp [first]

end Invalid

open Invalid (first)

/-! ## Names -/

theorem Level.ofName?_eq_none_iff {s : String} :
    Level.ofName? s = none ↔ Text.lower s ∉ ["trace", "debug", "info", "warn", "error"] := by
  show _ ↔ Text.lower s ∉ all.map name
  simp [ofName?]

theorem LogFormat.ofName?_eq_none_iff {s : String} :
    LogFormat.ofName? s = none ↔ s ∉ ["text", "json"] := by
  show _ ↔ s ∉ all.map name
  simp [ofName?]

/-- A name is refused for the first rule that it breaks. -/
theorem ChainName.check_bind (name : String) (next : Except Invalid Unit) :
    (check name >>= fun _ => next) = (first (invalidName? name).toList >>= fun _ => next) := by
  unfold check
  split
  · next valid =>
    have nothing : (invalidName? name).toList = [] := by rw [valid, Option.toList_none]
    rw [nothing]
    rfl
  · next reason invalid =>
    rw [invalid]
    rfl

/-! ## Everything that is wrong -/

/-- What is wrong with a redirect that some others come before: it goes to no port, or it has the key of
one of them. -/
def Redirect.violations (earlier : List Redirect) (r : Redirect) : List Invalid :=
  (if r.port = 0 then [.zeroPort r.key] else []) ++
    if ∃ e ∈ earlier, e.key = r.key then [.repeatedKey r.key] else []

/-- What is wrong with log settings: the level, then the format. -/
def LogSettings.violations (log : LogSettings) : List Invalid :=
  (if Text.lower log.level ∈ ["trace", "debug", "info", "warn", "error"] then []
    else [.unknownLevel log.level]) ++
  if log.format ∈ ["text", "json"] then [] else [.unknownFormat log.format]

/-- What is wrong with some redirects, entry by entry. -/
def Config.redirectViolations (redirects : List Redirect) : List Invalid :=
  redirects.zipIdx.flatMap fun (r, i) => r.violations (redirects.take i)

/-- Everything that is wrong with a configuration: with its chain, with its redirects, and with its log
settings. -/
def Config.violations (c : Config) : List Invalid :=
  (invalidName? c.chain).toList ++ redirectViolations c.redirects ++ c.log.violations

theorem LogSettings.validate_eq_first (log : LogSettings) :
    log.validate = first log.violations := by
  simp only [validate, violations, Level.ofName?_eq_none_iff, LogFormat.ofName?_eq_none_iff]
  by_cases level : Text.lower log.level ∈ ["trace", "debug", "info", "warn", "error"]
  · rw [if_neg (not_not_intro level), if_pos level]
    by_cases format : log.format ∈ ["text", "json"]
    · rw [if_neg (not_not_intro format), if_pos format]
      rfl
    · rw [if_pos format, if_neg format]
      rfl
  · rw [if_pos level, if_neg level]
    rfl

namespace Config

/-- Checking a redirect beside the keys that have been seen finds what is wrong with it beside the
redirects that have these keys. -/
theorem checkRedirects_cons {seen : List Key} {earlier : List Redirect}
    (same : ∀ key, key ∈ seen ↔ ∃ e ∈ earlier, e.key = key) (r : Redirect) (rest : List Redirect) :
    checkRedirects seen (r :: rest) =
      (first (r.violations earlier) >>= fun _ => checkRedirects (r.key :: seen) rest) := by
  rw [checkRedirects, Redirect.violations, Invalid.first_append, checkPort]
  by_cases port : r.port = 0
  · rw [if_pos port, if_pos port]
    rfl
  · rw [if_neg port, if_neg port]
    by_cases again : r.key ∈ seen
    · rw [if_pos again, if_pos ((same r.key).1 again)]
      rfl
    · rw [if_neg again, if_neg (mt (same r.key).2 again)]
      rfl

/-- The invariant of the loop: the keys seen are those of the entries passed, so from any entry on the
loop finds what is wrong with the rest of the list. -/
theorem checkRedirects_eq_first {seen : List Key} (earlier : List Redirect)
    (same : ∀ key, key ∈ seen ↔ ∃ e ∈ earlier, e.key = key) (rest : List Redirect) :
    checkRedirects seen rest = first ((rest.zipIdx earlier.length).flatMap fun (r, i) =>
      r.violations ((earlier ++ rest).take i)) := by
  induction rest generalizing seen earlier with
  | nil => rfl
  | cons r rest ih =>
    have passed : ∀ key, key ∈ r.key :: seen ↔ ∃ e ∈ earlier ++ [r], e.key = key := by
      intro key
      rw [List.mem_cons, same]
      simp only [List.mem_append, List.mem_singleton, or_and_right, exists_or, exists_eq_left]
      rw [or_comm, eq_comm]
    have others := ih (earlier ++ [r]) passed
    rw [List.length_append, List.length_singleton, List.append_assoc, List.singleton_append] at others
    rw [checkRedirects_cons same, others, List.zipIdx_cons, List.flatMap_cons, Invalid.first_append]
    show _ = (first (r.violations ((earlier ++ r :: rest).take earlier.length)) >>= _)
    rw [List.take_left]

theorem validate_eq_first (c : Config) : c.validate = first c.violations := by
  have redirects : checkRedirects [] c.redirects = first (redirectViolations c.redirects) :=
    checkRedirects_eq_first [] (by simp) c.redirects
  rw [validate, ChainName.check_bind, violations, List.append_assoc, Invalid.first_append,
    Invalid.first_append, redirects, c.log.validate_eq_first]

/-- **Validation.** A configuration is accepted exactly if its chain has a valid name, every redirect
goes to a port and has a key of its own, the level is one of the five in any letter case, and the format
is one of the two.  Otherwise the error is the first of everything that is wrong with it: the chain comes
before the redirects and these before the log settings, the redirects come in their order, with no port
before a repeated key, and the level comes before the format. -/
theorem decides_validity (c : Config) :
    (c.validate = .ok () ↔
      (∃ chain : ChainName, chain.text = c.chain) ∧
      (∀ r ∈ c.redirects, r.port ≠ 0) ∧ (c.redirects.map Redirect.key).Nodup ∧
      Text.lower c.log.level ∈ ["trace", "debug", "info", "warn", "error"] ∧
      (c.log.format = "text" ∨ c.log.format = "json")) ∧
    ∀ reason, c.validate = .error reason ↔ c.violations.head? = some reason := by
  constructor
  · have log : c.log.validate = .ok () ↔
        Text.lower c.log.level ∈ ["trace", "debug", "info", "warn", "error"] ∧
          (c.log.format = "text" ∨ c.log.format = "json") := by
      rw [c.log.validate_eq_first, Invalid.first_eq_ok_iff, LogSettings.violations]
      simp only [List.append_eq_nil_iff, ite_eq_left_iff, reduceCtorEq, imp_false, not_not,
        List.mem_cons, List.not_mem_nil, or_false]
    rw [validate_eq_ok_iff, checkRedirects_eq_ok_iff, log]
    simp only [ChainName.check_eq_ok_iff, List.not_mem_nil, not_false_eq_true, implies_true, and_true,
      and_assoc]
    rfl
  · intro reason
    rw [c.validate_eq_first, Invalid.first_eq_error_iff]

/-- Three entries are wrong and so is the level; the first of the entries goes to no port. -/
theorem decides_validity_unsound :
    let key (protocol : Protocol) : Key := ⟨protocol, ⟨10, 0, 0, 1⟩⟩
    let c : Config := ⟨"A", false, [⟨key .tcp, 80⟩, ⟨key .udp, 0⟩, ⟨key .tcp, 81⟩, ⟨key .udp, 0⟩],
      ⟨"loud", "text", true⟩⟩
    c.violations = [.zeroPort (key .udp), .repeatedKey (key .tcp), .zeroPort (key .udp),
        .repeatedKey (key .udp), .unknownLevel "loud"] ∧
      c.validate = .error (.zeroPort (key .udp)) := by
  intro key c
  have wrong : c.violations = [.zeroPort (key .udp), .repeatedKey (key .tcp), .zeroPort (key .udp),
      .repeatedKey (key .udp), .unknownLevel "loud"] := by
    decide +kernel
  refine ⟨wrong, ?_⟩
  rw [(decides_validity c).2, wrong]
  rfl

end Config
end Divert
