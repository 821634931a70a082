/-
# Divert.Proofs.Redirects.Record — the record of redirects as a list.

A record lists its redirects in the order in which they were recorded, each key once.  Recording a new
key puts its redirect at the end, and dropping a key takes its redirect out.  The mappings that a user
sees are that list sorted by key; as the keys are distinct, sorting leaves no choice.
-/
import Divert.Redirects
import Mathlib.Algebra.Group.Nat.Defs
import Mathlib.Data.List.Nodup
import Mathlib.Data.List.Perm.Subperm

namespace Divert

/-! ## Keys in order -/

namespace Key

/-- Keys that stand at the same place in the order are the same key. -/
theorem rank_injective {x y : Key} (h : x.rank = y.rank) : x = y := by
  obtain ⟨p, ⟨a, b, c, d⟩⟩ := x
  obtain ⟨q, ⟨a', b', c', d'⟩⟩ := y
  have ha := a.toNat_lt
  have hb := b.toNat_lt
  have hc := c.toNat_lt
  have hd := d.toNat_lt
  have ha' := a'.toNat_lt
  have hb' := b'.toNat_lt
  have hc' := c'.toNat_lt
  have hd' := d'.toNat_lt
  simp only [rank, Address.toNat] at h
  have hprotocol : p.rank = q.rank := by omega
  have haddress : a.toNat = a'.toNat ∧ b.toNat = b'.toNat ∧
      c.toNat = c'.toNat ∧ d.toNat = d'.toNat := by
    omega
  obtain ⟨ea, eb, ec, ed⟩ := haddress
  rw [UInt8.toNat_inj.1 ea, UInt8.toNat_inj.1 eb, UInt8.toNat_inj.1 ec, UInt8.toNat_inj.1 ed]
  cases p <;> cases q <;> first | rfl | cases hprotocol

theorem rank_lt (x : Key) : x.rank < 2 ^ 33 := by
  obtain ⟨p, ⟨a, b, c, d⟩⟩ := x
  have ha := a.toNat_lt
  have hb := b.toNat_lt
  have hc := c.toNat_lt
  have hd := d.toNat_lt
  cases p <;> simp only [rank, Protocol.rank, Address.toNat] <;> omega

end Key

/-! ## Lists of redirects -/

namespace Redirect

/-- The keys of some redirects. -/
def keys (l : List Redirect) : List Key := l.map Redirect.key

/-- The redirects of every other key. -/
def without (key : Key) (l : List Redirect) : List Redirect := l.filter fun r => decide (r.key ≠ key)

/-- There are not more redirects with distinct keys than there are keys. -/
theorem length_le_of_nodup_keys {l : List Redirect} (distinct : (keys l).Nodup) :
    l.length ≤ 2 ^ 33 := by
  have ranks : ((keys l).map Key.rank).Nodup := distinct.map fun _ _ h => Key.rank_injective h
  have within : (keys l).map Key.rank ⊆ List.range (2 ^ 33) := by
    intro n hn
    obtain ⟨key, -, rfl⟩ := List.mem_map.1 hn
    exact List.mem_range.2 key.rank_lt
  simpa only [keys, List.length_map, List.length_range] using
    (ranks.subperm within).length_le

@[simp] theorem mem_without {key : Key} {l : List Redirect} {r : Redirect} :
    r ∈ without key l ↔ r ∈ l ∧ r.key ≠ key := by
  simp [without]

@[simp] theorem mem_keys {l : List Redirect} {key : Key} :
    key ∈ keys l ↔ ∃ port, ⟨key, port⟩ ∈ l := by
  simp only [keys, List.mem_map]
  constructor
  · rintro ⟨r, hr, rfl⟩
    exact ⟨r.port, hr⟩
  · rintro ⟨port, h⟩
    exact ⟨_, h, rfl⟩

theorem without_of_notMem {key : Key} {l : List Redirect} (h : key ∉ keys l) : without key l = l := by
  apply List.filter_eq_self.2
  intro r hr
  have hkey : r.key ≠ key := by
    rintro rfl
    exact h (List.mem_map_of_mem hr)
  exact decide_eq_true hkey

/-- The port of the first redirect for a key. -/
def portOf? (key : Key) (l : List Redirect) : Option UInt16 :=
  (l.find? fun r => decide (r.key = key)).map Redirect.port

theorem mem_of_portOf? {key : Key} {l : List Redirect} {port : UInt16}
    (h : portOf? key l = some port) : ⟨key, port⟩ ∈ l := by
  obtain ⟨r, hfind, rfl⟩ := Option.map_eq_some_iff.1 h
  have hkey := List.find?_some hfind
  simp only [decide_eq_true_eq] at hkey
  exact hkey ▸ List.mem_of_find?_eq_some hfind

theorem portOf?_eq_none_iff {key : Key} {l : List Redirect} :
    portOf? key l = none ↔ key ∉ keys l := by
  simp only [portOf?, Option.map_eq_none_iff, List.find?_eq_none, decide_eq_true_eq, keys,
    List.mem_map, not_exists, not_and]

/-- Keys that are distinct have one port each. -/
theorem port_unique {l : List Redirect} (h : (keys l).Nodup) {key : Key} {p q : UInt16}
    (hp : ⟨key, p⟩ ∈ l) (hq : ⟨key, q⟩ ∈ l) : p = q :=
  congrArg Redirect.port (List.inj_on_of_nodup_map h hp hq rfl)

/-- With distinct keys, leaving out a key is taking out its one redirect. -/
theorem erase_eq_without {l : List Redirect} (h : (keys l).Nodup) {key : Key} {port : UInt16}
    (hmem : ⟨key, port⟩ ∈ l) : l.erase ⟨key, port⟩ = without key l := by
  have distinct : l.Nodup := List.Nodup.of_map Redirect.key h
  rw [distinct.erase_eq_filter]
  apply List.filter_congr
  intro r hr
  have same : r = ⟨key, port⟩ ↔ r.key = key := by
    constructor
    · rintro rfl
      rfl
    · intro hkey
      exact List.inj_on_of_nodup_map h hr hmem hkey
  by_cases hkey : r.key = key
  · simp [same.2 hkey]
  · simp [mt same.1 hkey, hkey]

end Redirect

/-! ## The record -/

namespace Redirects

/-- The redirects of a record, in the order in which they were recorded. -/
def listed (r : Redirects) : List Redirect := r.ports.entries.map fun e => ⟨e.1, e.2⟩

@[simp] theorem listed_empty : empty.listed = [] := rfl

theorem keys_listed (r : Redirects) : Redirect.keys r.listed = r.ports.entries.map Prod.fst := by
  simp [Redirect.keys, listed]

theorem nodup_keys_listed (r : Redirects) : (Redirect.keys r.listed).Nodup :=
  r.keys_listed ▸ r.ports.distinct

theorem mem_listed {r : Redirects} {key : Key} {port : UInt16} :
    ⟨key, port⟩ ∈ r.listed ↔ r.get? key = some port := by
  rw [get?, Keyed.get?_eq_some_iff, listed, List.mem_map]
  constructor
  · rintro ⟨e, he, heq⟩
    cases heq
    exact he
  · intro h
    exact ⟨_, h, rfl⟩

theorem get?_eq_none_iff {r : Redirects} {key : Key} :
    r.get? key = none ↔ key ∉ Redirect.keys r.listed := by
  rw [keys_listed]
  exact Keyed.get?_eq_none_iff

theorem listed_erase (r : Redirects) (key : Key) :
    (⟨r.ports.erase key⟩ : Redirects).listed = Redirect.without key r.listed := by
  simp only [listed, Redirect.without, Keyed.erase, List.filter_map]
  rfl

/-- Dropping a key without a record changes nothing. -/
theorem erase_of_none {r : Redirects} {key : Key} (h : r.get? key = none) :
    (⟨r.ports.erase key⟩ : Redirects) = r := by
  have absent : key ∉ r.ports.entries.map Prod.fst := Keyed.get?_eq_none_iff.1 h
  obtain ⟨⟨entries, distinct⟩⟩ := r
  simp only [Keyed.erase, mk.injEq, Keyed.mk.injEq, List.filter_eq_self, decide_eq_true_eq]
  rintro e he rfl
  exact absent (List.mem_map_of_mem he)

/-- A key that is not in the record goes to its end. -/
theorem listed_put {r : Redirects} {key : Key} (h : r.get? key = none) (port : UInt16) :
    (⟨r.ports.put key port⟩ : Redirects).listed = r.listed ++ [⟨key, port⟩] := by
  have absent : key ∉ r.ports.entries.map Prod.fst := Keyed.get?_eq_none_iff.1 h
  simp [listed, Keyed.put, absent]

/-! ## The mappings -/

theorem mappings_perm (r : Redirects) : r.mappings.Perm r.listed := List.mergeSort_perm _ _

@[simp] theorem mem_mappings {r : Redirects} {key : Key} {port : UInt16} :
    ⟨key, port⟩ ∈ r.mappings ↔ r.get? key = some port :=
  r.mappings_perm.mem_iff.trans mem_listed

/-- Redirects sorted by key are in the order of their keys. -/
theorem pairwise_sorted (l : List Redirect) :
    (l.mergeSort fun x y => x.key.le y.key).Pairwise fun x y => x.key.le y.key = true := by
  apply List.pairwise_mergeSort
  · intro x y z hxy hyz
    simp only [Key.le, decide_eq_true_eq] at *
    omega
  · intro x y
    simp only [Key.le, Bool.or_eq_true, decide_eq_true_eq]
    omega

/-- The order in which redirects were recorded leaves no trace in the mappings. -/
theorem mappings_eq_mergeSort {r : Redirects} {l : List Redirect} (h : r.listed.Perm l) :
    r.mappings = l.mergeSort fun x y => x.key.le y.key := by
  have perm : r.mappings.Perm (l.mergeSort fun x y => x.key.le y.key) :=
    (r.mappings_perm.trans h).trans (List.mergeSort_perm l _).symm
  refine perm.eq_of_pairwise ?_ (pairwise_sorted _) (pairwise_sorted _)
  -- Two redirects at the same place have the same key, and the record has each key once.
  intro x y hx hy hxy hyx
  have keys : x.key = y.key := by
    simp only [Key.le, decide_eq_true_eq] at hxy hyx
    exact Key.rank_injective (Nat.le_antisymm hxy hyx)
  have hy' := h.mem_iff.2 ((List.mergeSort_perm l _).mem_iff.1 hy)
  exact List.inj_on_of_nodup_map r.nodup_keys_listed (r.mappings_perm.mem_iff.1 hx) hy' keys

/-- The mappings come in the order of their keys, and no key comes twice. -/
theorem mappings_sorted (r : Redirects) :
    r.mappings.Pairwise fun x y => x.key.rank < y.key.rank := by
  have ordered : r.mappings.Pairwise fun x y => x.key.le y.key = true := pairwise_sorted _
  have distinct : r.mappings.Pairwise fun x y => x.key ≠ y.key := by
    have keys : (Redirect.keys r.mappings).Nodup :=
      (r.mappings_perm.map Redirect.key).nodup_iff.2 r.nodup_keys_listed
    exact List.pairwise_map.1 keys
  refine ordered.imp₂ ?_ distinct
  intro x y hle hne
  have le : x.key.rank ≤ y.key.rank := of_decide_eq_true hle
  have ne : x.key.rank ≠ y.key.rank := mt Key.rank_injective hne
  omega

end Redirects

end Divert
