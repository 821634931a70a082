/-
# Divert.Proofs.Redirects.Installed — redirects one after the other, where nothing is made to fail.

Our chain holds some rules that are no redirects, and after them one rule for each recorded redirect.
Clearing a key takes its rule out and leaves the others in their order; forwarding a key does the same
and puts the new rule last.  So the chain is a list of redirects that is worked on at its end, and what
a request reports depends only on whether its key is in that list.
-/
import Divert.Proofs.Redirects.Settled

namespace Divert

/-! ## Lists of redirects that are worked on at their end -/

namespace Redirect

variable {l : List Redirect} {key : Key} {x : Redirect}

/-- The redirects with a new one, which comes last; one with its key goes. -/
def replace (l : List Redirect) (x : Redirect) : List Redirect := without x.key l ++ [x]

theorem nodup_keys_without (h : (keys l).Nodup) (key : Key) : (keys (without key l)).Nodup :=
  (List.filter_sublist.map Redirect.key).nodup h

theorem nodup_keys_replace (h : (keys l).Nodup) (x : Redirect) : (keys (replace l x)).Nodup := by
  rw [replace, keys, List.map_append, List.nodup_append]
  refine ⟨nodup_keys_without h x.key, List.nodup_singleton _, ?_⟩
  rintro key hkey last hlast rfl
  rw [List.map_singleton, List.mem_singleton] at hlast
  obtain ⟨port, hport⟩ := mem_keys.1 hkey
  exact (mem_without.1 hport).2 hlast

theorem mem_keys_replace : key ∈ keys (replace l x) ↔ key ∈ keys l ∨ key = x.key := by
  obtain ⟨new, port⟩ := x
  by_cases hkey : key = new
  · simp [replace, hkey]
  · simp [replace, hkey, Redirect.mk.injEq]

end Redirect

open Redirect (keys without replace written)

namespace Redirects

/-! ## Requests -/

/-- The filter shows a view but for our chain, where the rules of the redirects `l` come after some base
rules; these redirects are the recorded ones. -/
structure Installed (chain : ChainName) (base : List String) (view : Chains) (l : List Redirect)
    (r : Redirects) (m : Memory) : Prop where
  shows : m.Shows (view.set natTable chain.text (some (written base l)))
  distinct : (keys l).Nodup
  recorded : ∀ key port, ⟨key, port⟩ ∈ l ↔ r.get? key = some port

namespace Installed

variable {chain : ChainName} {base : List String} {view : Chains} {l : List Redirect}
  {r : Redirects} {m : Memory}

theorem of_listed (h : m.Shows view)
    (hown : view natTable chain.text = some (written base r.listed)) :
    Installed chain base view r.listed r m where
  shows := by rwa [Chains.set_eq_self view _ _ _ hown]
  distinct := r.nodup_keys_listed
  recorded _ _ := mem_listed

theorem rules (h : Installed chain base view l r m) :
    m.rules natTable chain.text = some (written base l) := by
  rw [h.shows.rules, Chains.set_self]

/-- The record has the redirects of the chain, in some order. -/
theorem listed_perm (h : Installed chain base view l r m) : r.listed.Perm l := by
  have nodup (l : List Redirect) (distinct : (keys l).Nodup) : l.Nodup := .of_map _ distinct
  refine (List.perm_ext_iff_of_nodup (nodup _ r.nodup_keys_listed) (nodup _ h.distinct)).2 ?_
  rintro ⟨key, port⟩
  rw [mem_listed, h.recorded]

theorem clear (h : Installed chain base view l r m)
    (foreign : ∀ key port, Rule.redirect key port ∉ base) (key : Key) :
    ∃ r' after, (r.clear chain key).eval Memory.backend m =
        ((⟨"clear", if key ∈ keys l then 1 else 0, []⟩, r'), after) ∧
      Installed chain base view (without key l) r' after := by
  obtain ⟨after, heval, hafter⟩ := drop_recorded h.shows foreign (Chains.set_self ..) h.distinct
    (h.recorded key) (.start "clear")
  rw [Chains.set_set] at hafter
  rw [Report.start_plus, apply_ite UInt64.ofNat] at heval
  refine ⟨⟨r.ports.erase key⟩, after, heval, hafter, Redirect.nodup_keys_without h.distinct key, ?_⟩
  intro other old
  rw [Redirect.mem_without, h.recorded, Redirects.get?, Redirects.get?, Keyed.get?_erase]
  by_cases hkey : other = key <;> simp [hkey]

theorem forward (h : Installed chain base view l r m)
    (foreign : ∀ key port, Rule.redirect key port ∉ base) (key : Key) (port : UInt16) :
    ∃ r' after, (r.forward chain key port).eval Memory.backend m =
        ((⟨"forward", if key ∈ keys l then 2 else 1, []⟩, r'), after) ∧
      Installed chain base view (replace l ⟨key, port⟩) r' after := by
  obtain ⟨after, heval, hafter⟩ := forward_recorded h.shows foreign (Chains.set_self ..) h.distinct
    (h.recorded key) port
  rw [Chains.set_set] at hafter
  refine ⟨⟨(r.ports.erase key).put key port⟩, after, heval, hafter,
    Redirect.nodup_keys_replace h.distinct ⟨key, port⟩, ?_⟩
  intro other old
  rw [replace, List.mem_append, Redirect.mem_without, h.recorded, Redirects.get?, Redirects.get?,
    Keyed.get?_put, Keyed.get?_erase]
  by_cases hkey : other = key
  · simp [hkey, eq_comm]
  · simp [hkey]

end Installed

end Redirects

end Divert
