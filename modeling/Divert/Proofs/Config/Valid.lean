/-
# Divert.Proofs.Config.Valid — what a configuration that is handed out satisfies.

Validation goes through a configuration in order and stops at the first rule that is broken, so it
accepts exactly where nothing is broken: the chain has a valid name, every redirect goes to a port and
has a key of its own, and the log settings exist.  A configuration is read from a text only if it is
valid.
-/
import Divert.Config.Load
import Divert.Proofs.Redirects.Record

namespace Divert

/-- A computation that may fail gives a result only through the result of its first part. -/
theorem bind_eq_ok_iff {ε α β : Type} {x : Except ε α} {f : α → Except ε β} {result : β} :
    (x >>= f) = .ok result ↔ ∃ value, x = .ok value ∧ f value = .ok result := by
  cases x with
  | error e =>
    constructor
    · intro h
      cases h
    · rintro ⟨value, h, -⟩
      cases h
  | ok value =>
    constructor
    · exact fun h => ⟨value, rfl, h⟩
    · rintro ⟨_, ⟨⟩, h⟩
      exact h

theorem ChainName.check_eq_ok_iff {name : String} {chain : ChainName} :
    check name = .ok chain ↔ chain.text = name := by
  constructor
  · intro h
    unfold check at h
    split at h
    · exact congrArg text (Except.ok.inj h).symm
    · cases h
  · rintro rfl
    unfold check
    split
    · rfl
    · next reason invalid =>
      rw [chain.valid] at invalid
      cases invalid

namespace Config

open Redirect (keys)

theorem checkPort_eq_ok_iff {r : Redirect} : checkPort r = .ok () ↔ r.port ≠ 0 := by
  by_cases h : r.port = 0 <;> simp [checkPort, h]

/-- The redirects that are accepted after some keys go to ports, and repeat neither one of those keys
nor one of their own. -/
theorem checkRedirects_eq_ok_iff {seen : List Key} {redirects : List Redirect} :
    checkRedirects seen redirects = .ok () ↔
      (∀ r ∈ redirects, r.port ≠ 0) ∧ (keys redirects).Nodup ∧ ∀ key ∈ keys redirects, key ∉ seen := by
  induction redirects generalizing seen with
  | nil => simp [checkRedirects, keys]
  | cons r rest ih =>
    have step : checkRedirects seen (r :: rest) = .ok () ↔
        r.port ≠ 0 ∧ r.key ∉ seen ∧ checkRedirects (r.key :: seen) rest = .ok () := by
      rw [checkRedirects, bind_eq_ok_iff, ← checkPort_eq_ok_iff, Unique.exists_iff]
      by_cases h : r.key ∈ seen
      · rw [if_pos h]
        exact and_congr_right fun _ => ⟨fun stopped => (by cases stopped), fun rest => absurd h rest.1⟩
      · rw [if_neg h]
        exact and_congr_right fun _ => ⟨fun rest => ⟨h, rest⟩, And.right⟩
    have added : keys (r :: rest) = r.key :: keys rest := rfl
    rw [step, ih, added, List.nodup_cons, List.forall_mem_cons, List.forall_mem_cons]
    simp only [List.mem_cons, not_or]
    constructor
    · rintro ⟨port, fresh, ports, distinct, apart⟩
      refine ⟨⟨port, ports⟩, ⟨fun again => (apart _ again).1 rfl, distinct⟩, fresh, ?_⟩
      exact fun key hkey => (apart key hkey).2
    · rintro ⟨⟨port, ports⟩, ⟨once, distinct⟩, fresh, apart⟩
      refine ⟨port, fresh, ports, distinct, fun key hkey => ⟨?_, apart key hkey⟩⟩
      rintro rfl
      exact once hkey

theorem validate_eq_ok_iff {c : Config} :
    c.validate = .ok () ↔ (∃ chain, ChainName.check c.chain = .ok chain) ∧
      checkRedirects [] c.redirects = .ok () ∧ c.log.validate = .ok () := by
  simp only [validate, bind_eq_ok_iff, exists_and_right, Unique.exists_iff, PUnit.default_eq_unit]

theorem validated_eq_ok_iff {c result : Config} :
    c.validated = .ok result ↔ c.validate = .ok () ∧ c = result := by
  unfold validated
  split
  · next h => simp [h]
  · next h => simp [h]

theorem loadText_eq_ok_iff {text : String} {c : Config} :
    loadText text = .ok c ↔ ofText text = .ok c ∧ c.validate = .ok () := by
  unfold loadText load
  split
  · next h => simp [h]
  · next read h =>
    rw [validated_eq_ok_iff, h, Except.ok.injEq, and_comm]
    exact and_congr_right fun same => by rw [same]

end Config
end Divert
