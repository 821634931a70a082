/-
# Divert.Keyed — finite maps that remember in which order their keys arrived.

The chains of a table and the redirects of a translator are both maps whose keys are told apart by
decidable equality.  A map is a list of pairs with distinct keys; `get?` is its view.  Putting a value
under a present key keeps the key's place, a new key goes to the end, so a key that is erased and put
again is the most recent one.
-/

namespace Divert

universe u v

/-- Pairs in order of arrival, each key once. -/
structure Keyed (κ : Type u) (ν : Type v) where
  entries : List (κ × ν)
  distinct : (entries.map Prod.fst).Nodup

namespace Keyed

variable {κ : Type u} {ν : Type v} [DecidableEq κ]

/-! ## Operations -/

/-- The map without keys. -/
def empty : Keyed κ ν := ⟨[], List.nodup_nil⟩

/-- The value under a key. -/
def get? (m : Keyed κ ν) (key : κ) : Option ν :=
  (m.entries.find? fun e => decide (e.1 = key)).map Prod.snd

/-- Whether a key is present. -/
def contains (m : Keyed κ ν) (key : κ) : Bool := (m.get? key).isSome

/-- The number of keys. -/
def size (m : Keyed κ ν) : Nat := m.entries.length

/-- Replace the value under a key that is present. -/
def replaced (key : κ) (value : ν) (e : κ × ν) : κ × ν := if e.1 = key then (key, value) else e

omit [DecidableEq κ] in
theorem keys_append {entries : List (κ × ν)} {key : κ} {value : ν}
    (distinct : (entries.map Prod.fst).Nodup) (fresh : key ∉ entries.map Prod.fst) :
    ((entries ++ [(key, value)]).map Prod.fst).Nodup := by
  rw [List.map_append, List.nodup_append]
  refine ⟨distinct, by simp, fun a ha b hb hab => fresh ?_⟩
  simp only [List.map_cons, List.map_nil, List.mem_singleton] at hb
  exact hb ▸ hab ▸ ha

theorem keys_replaced (entries : List (κ × ν)) (key : κ) (value : ν) :
    (entries.map (replaced key value)).map Prod.fst = entries.map Prod.fst := by
  rw [List.map_map]
  refine List.map_congr_left fun e _ => ?_
  by_cases h : e.1 = key <;> simp [replaced, h]

/-- Put a value under a key: in place if the key is present, at the end otherwise. -/
def put (m : Keyed κ ν) (key : κ) (value : ν) : Keyed κ ν :=
  if present : key ∈ m.entries.map Prod.fst then
    ⟨m.entries.map (replaced key value), (keys_replaced m.entries key value).symm ▸ m.distinct⟩
  else
    ⟨m.entries ++ [(key, value)], keys_append m.distinct present⟩

/-- Remove a key. -/
def erase (m : Keyed κ ν) (key : κ) : Keyed κ ν where
  entries := m.entries.filter fun e => decide (e.1 ≠ key)
  distinct := (List.filter_sublist.map Prod.fst).nodup m.distinct

/-! ## The view -/

omit [DecidableEq κ] in
@[simp] theorem entries_empty : (empty : Keyed κ ν).entries = [] := rfl

@[simp] theorem get?_empty (key : κ) : (empty : Keyed κ ν).get? key = none := rfl

theorem get?_eq_none_iff {m : Keyed κ ν} {key : κ} :
    m.get? key = none ↔ key ∉ m.entries.map Prod.fst := by
  simp only [get?, Option.map_eq_none_iff, List.find?_eq_none, List.mem_map, decide_eq_true_eq]
  constructor
  · rintro h ⟨e, he, rfl⟩
    exact h e he rfl
  · exact fun h e he heq => h ⟨e, he, heq⟩

/-- The view holds exactly the pairs of the list. -/
theorem get?_eq_some_iff {m : Keyed κ ν} {key : κ} {value : ν} :
    m.get? key = some value ↔ (key, value) ∈ m.entries := by
  obtain ⟨entries, distinct⟩ := m
  simp only [get?]
  induction entries with
  | nil => simp
  | cons e rest ih =>
    simp only [List.map_cons, List.nodup_cons] at distinct
    by_cases h : e.1 = key
    · have hne : (key, value) ∉ rest := fun hmem =>
        distinct.1 (h ▸ List.mem_map_of_mem (f := Prod.fst) hmem)
      simp only [h, decide_true, List.find?_cons_of_pos, Option.map_some, List.mem_cons, hne, or_false,
        Option.some.injEq]
      exact ⟨fun hv => Prod.ext h.symm hv.symm, fun hv => (congrArg Prod.snd hv).symm⟩
    · rw [List.find?_cons_of_neg (by simpa using h), ih distinct.2, List.mem_cons]
      exact ⟨Or.inr, fun hor => hor.resolve_left fun heq => h (congrArg Prod.fst heq).symm⟩

theorem get?_put_self (m : Keyed κ ν) (key : κ) (value : ν) :
    (m.put key value).get? key = some value := by
  rw [get?_eq_some_iff, put]
  split
  · next present =>
    obtain ⟨e, he, rfl⟩ := List.mem_map.1 present
    exact List.mem_map.2 ⟨e, he, by simp [replaced]⟩
  · simp

theorem get?_put_of_ne (m : Keyed κ ν) {key other : κ} (value : ν) (h : other ≠ key) :
    (m.put key value).get? other = m.get? other := by
  apply Option.ext
  intro w
  rw [get?_eq_some_iff, get?_eq_some_iff, put]
  split
  · simp only [List.mem_map]
    constructor
    · rintro ⟨e, he, heq⟩
      by_cases hk : e.1 = key
      · simp [replaced, hk, Ne.symm h] at heq
      · simp only [replaced, hk, if_false] at heq
        exact heq ▸ he
    · intro he
      exact ⟨_, he, by simp [replaced, h]⟩
  · simp [h]

@[simp] theorem get?_erase_self (m : Keyed κ ν) (key : κ) : (m.erase key).get? key = none := by
  simp [get?_eq_none_iff, erase]

theorem get?_erase_of_ne (m : Keyed κ ν) {key other : κ} (h : other ≠ key) :
    (m.erase key).get? other = m.get? other := by
  apply Option.ext
  intro w
  simp [get?_eq_some_iff, erase, h]

theorem get?_put (m : Keyed κ ν) (key other : κ) (value : ν) :
    (m.put key value).get? other = if other = key then some value else m.get? other := by
  split
  · next h => exact h ▸ get?_put_self m key value
  · next h => exact get?_put_of_ne m value h

/-- Putting the value that a key has changes nothing. -/
theorem put_eq_self {m : Keyed κ ν} {key : κ} {value : ν} (h : m.get? key = some value) :
    m.put key value = m := by
  have hmem : (key, value) ∈ m.entries := get?_eq_some_iff.1 h
  have same : ∀ e ∈ m.entries, replaced key value e = id e := by
    intro e he
    by_cases hkey : e.1 = key
    · have found : m.get? key = some e.2 := get?_eq_some_iff.2 (hkey ▸ he)
      rw [replaced, if_pos hkey, ← Option.some.inj (found.symm.trans h), ← hkey]
      rfl
    · rw [replaced, if_neg hkey]
      rfl
  rw [put, dif_pos (List.mem_map_of_mem (f := Prod.fst) hmem)]
  obtain ⟨entries, distinct⟩ := m
  congr 1
  rw [List.map_congr_left same, List.map_id]

theorem get?_erase (m : Keyed κ ν) (key other : κ) :
    (m.erase key).get? other = if other = key then none else m.get? other := by
  split
  · next h => exact h ▸ get?_erase_self m key
  · next h => exact get?_erase_of_ne m h

end Keyed

end Divert
