/-
# Divert.Proofs.Redirects.Snapshot — the mappings depend on what is recorded, and on nothing else.

What a record knows of a key is the port under it; its entries could be kept in any order.  The mappings
list the entries in the order of their keys.  That order is strict, as no key comes twice, so the ports
alone determine the list: not the order in which the entries are gone through, nor the requests and the
answers that led to the record.
-/
import Divert.Proofs.Redirects.Settled
import Divert.Proofs.Redirects.Turns

namespace Divert

/-! ## The order of keys -/

/-- The octets of an address, the most significant first. -/
def Address.octets (ip : Address) : List UInt8 := [ip.a, ip.b, ip.c, ip.d]

/-- Addresses compare as their numbers: the first octet in which they differ decides. -/
theorem Address.octets_lt_iff {x y : Address} : x.octets < y.octets ↔ x.toNat < y.toNat := by
  have hxb := x.b.toNat_lt
  have hxc := x.c.toNat_lt
  have hxd := x.d.toNat_lt
  have hyb := y.b.toNat_lt
  have hyc := y.c.toNat_lt
  have hyd := y.d.toNat_lt
  simp only [octets, List.cons_lt_cons_iff, UInt8.lt_iff_toNat_lt, ← UInt8.toNat_inj,
    List.lt_irrefl, and_false, or_false, toNat]
  omega

theorem Address.toNat_lt (ip : Address) : ip.toNat < 0x100000000 := by
  have ha := ip.a.toNat_lt
  have hb := ip.b.toNat_lt
  have hc := ip.c.toNat_lt
  have hd := ip.d.toNat_lt
  simp only [toNat]
  omega

namespace Key

/-- One key comes before another: all of TCP before all of UDP, then octet by octet. -/
def Before (x y : Key) : Prop :=
  x.protocol = .tcp ∧ y.protocol = .udp ∨
    x.protocol = y.protocol ∧ x.address.octets < y.address.octets

instance (x y : Key) : Decidable (x.Before y) := inferInstanceAs (Decidable (_ ∨ _))

/-- The place of a key counts the keys in this order. -/
theorem before_iff {x y : Key} : x.Before y ↔ x.rank < y.rank := by
  have hx := x.address.toNat_lt
  have hy := y.address.toNat_lt
  rw [Before, Address.octets_lt_iff, rank, rank]
  cases x.protocol <;> cases y.protocol <;> simp [Protocol.rank] <;> omega

/-- Octets are compared as numbers, although the text of 10 comes before that of 2. -/
example : Before ⟨.tcp, ⟨10, 0, 0, 2⟩⟩ ⟨.tcp, ⟨10, 0, 0, 10⟩⟩ ∧
    Before ⟨.tcp, ⟨10, 0, 0, 10⟩⟩ ⟨.udp, ⟨10, 0, 0, 1⟩⟩ := by
  decide

end Key

/-! ## Redirects in the order of their keys -/

/-- Redirects in the strict order of their keys are determined by which they are. -/
theorem Redirect.eq_of_before {l l' : List Redirect}
    (h : l.Pairwise fun x y => x.key.Before y.key) (h' : l'.Pairwise fun x y => x.key.Before y.key)
    (same : ∀ x, x ∈ l ↔ x ∈ l') : l = l' := by
  have asymm {x y : Redirect} (h : x.key.Before y.key) : ¬ y.key.Before x.key := by
    rw [Key.before_iff] at h ⊢
    omega
  have nodup {l : List Redirect} (h : l.Pairwise fun x y => x.key.Before y.key) : l.Nodup := by
    refine h.imp ?_
    rintro x y hxy rfl
    exact asymm hxy hxy
  have perm : l.Perm l' := (List.perm_ext_iff_of_nodup (nodup h) (nodup h')).2 same
  exact perm.eq_of_pairwise (fun x y _ _ hxy hyx => absurd hyx (asymm hxy)) h h'

namespace Redirects

/-! ## The mappings of a record -/

variable {r r' : Redirects}

theorem mappings_before (r : Redirects) : r.mappings.Pairwise fun x y => x.key.Before y.key :=
  r.mappings_sorted.imp Key.before_iff.2

/-- **The mappings, by what they are.** They are the one list in the strict order of the keys that has
every redirect on record and no other. -/
theorem eq_mappings_iff {l : List Redirect} :
    l = r.mappings ↔ (l.Pairwise fun x y => x.key.Before y.key) ∧
      ∀ key port, ⟨key, port⟩ ∈ l ↔ r.get? key = some port := by
  constructor
  · rintro rfl
    exact ⟨r.mappings_before, fun _ _ => mem_mappings⟩
  · rintro ⟨ordered, recorded⟩
    apply Redirect.eq_of_before ordered r.mappings_before
    rintro ⟨key, port⟩
    rw [recorded, mem_mappings]

theorem mappings_congr (h : ∀ key, r'.get? key = r.get? key) : r'.mappings = r.mappings := by
  refine eq_mappings_iff.2 ⟨r'.mappings_before, ?_⟩
  intro key port
  rw [mem_mappings, h]

theorem length_mappings (r : Redirects) : r.mappings.length = r.size := by
  have entries : r.listed.length = r.size := List.length_map _
  rw [r.mappings_perm.length_eq, entries]

/-! ## Entries in any order -/

/-- One way to go through the entries of a record: each key with a port comes once, with its port. -/
structure Iterates (r : Redirects) (entries : List (Key × UInt16)) : Prop where
  distinct : (entries.map Prod.fst).Nodup
  complete : ∀ key port, (key, port) ∈ entries ↔ r.get? key = some port

/-- The redirects of some entries, in the order of the keys. -/
def snapshot (entries : List (Key × UInt16)) : List Redirect :=
  (entries.map fun e => Redirect.mk e.1 e.2).mergeSort fun x y => x.key.le y.key

theorem mappings_eq_snapshot (r : Redirects) : r.mappings = snapshot r.ports.entries := rfl

/-- The entries as they are kept are one way. -/
theorem iterates_entries (r : Redirects) : r.Iterates r.ports.entries :=
  ⟨r.ports.distinct, fun _ _ => Keyed.get?_eq_some_iff.symm⟩

/-- Entries are gone through in any order whatsoever. -/
theorem iterates_iff_perm {entries : List (Key × UInt16)} :
    r.Iterates entries ↔ entries.Perm r.ports.entries := by
  have nodup {l : List (Key × UInt16)} (h : (l.map Prod.fst).Nodup) : l.Nodup := .of_map _ h
  constructor
  · intro h
    refine (List.perm_ext_iff_of_nodup (nodup h.distinct) (nodup r.ports.distinct)).2 ?_
    rintro ⟨key, port⟩
    rw [h.complete, r.iterates_entries.complete]
  · intro h
    refine ⟨(h.map Prod.fst).nodup_iff.2 r.ports.distinct, ?_⟩
    intro key port
    rw [h.mem_iff, r.iterates_entries.complete]

/-- Records whose entries are the same in some order have the same ports. -/
theorem Iterates.get?_eq (h : r.Iterates r'.ports.entries) (key : Key) : r'.get? key = r.get? key := by
  apply Option.ext
  intro port
  rw [← h.complete, r'.iterates_entries.complete]

/-- The snapshot is the same whichever way the entries are gone through: each way is that of a record
with the same ports. -/
theorem snapshot_of_iterates {entries : List (Key × UInt16)} (h : r.Iterates entries) :
    snapshot entries = r.mappings := by
  let shuffled : Redirects := ⟨⟨entries, h.distinct⟩⟩
  have same : ∀ key, shuffled.get? key = r.get? key := Iterates.get?_eq h
  rw [← mappings_congr same, shuffled.mappings_eq_snapshot]

/-! ## Runs -/

/-- What can be asked of a record: a change, or to forget everything. -/
inductive Step where
  | change (asked : Change)
  | forget
  deriving DecidableEq, Repr

/-- The record after a step. -/
def step (chain : ChainName) (r : Redirects) : Step → Script Redirects
  | .change asked => advance chain r asked
  | .forget => r.forget

/-- Steps one after the other. -/
def stepAll (r : Redirects) (chain : ChainName) (steps : List Step) : Script Redirects :=
  steps.foldlM (step chain) r

/-- **The mappings are a canonical snapshot.** Whatever was asked of a record, on whatever filter: the
mappings are in the strict order of their keys, they are the redirects on record and as many as there
are keys, and they come out the same in whichever order the entries are gone through.  So two runs that
end with the same ports end with the same mappings, whatever else they did, and on different filters. -/
theorem canonical_snapshot {σ : Type} (b : Backend σ) (chain : ChainName) (s : σ) (steps : List Step) :
    let r := ((empty.stepAll chain steps).eval b s).1
    (∀ entries, r.Iterates entries → snapshot entries = r.mappings) ∧
    (r.mappings.Pairwise fun x y => x.key.Before y.key) ∧
    (∀ key port, ⟨key, port⟩ ∈ r.mappings ↔ r.get? key = some port) ∧
    r.mappings.length = r.size ∧
    ∀ (τ : Type) (d : Backend τ) (other : ChainName) (t : τ) (more : List Step),
      let r' := ((empty.stepAll other more).eval d t).1
      (∀ key, r'.get? key = r.get? key) → r'.mappings = r.mappings := by
  intro r
  refine ⟨?_, r.mappings_before, fun _ _ => mem_mappings, r.length_mappings, ?_⟩
  · intro entries h
    exact snapshot_of_iterates h
  · intro τ d other t more r' same
    exact mappings_congr same

/-- Two runs that end with the same two redirects, recorded in either order, on a filter that carries
everything out.  In the second an addition is lost on the way, and another is forgotten. -/
theorem canonical_snapshot_reordered :
    let chain : ChainName := ⟨"A", by decide⟩
    let two : Key := ⟨.tcp, ⟨10, 0, 0, 2⟩⟩
    let ten : Key := ⟨.tcp, ⟨10, 0, 0, 10⟩⟩
    let b : Backend Unit := ⟨fun s _ => (.ok true, s), fun _ _ => []⟩
    let f : Faulty Unit := ⟨(), [⟨.append, 1, "lost"⟩], []⟩
    let steps : List Step := [.change (.forward ten 81), .change (.forward two 80)]
    let more : List Step := [.change (.forward ten 9), .change (.forward ten 7), .forget,
      .change (.forward two 80), .change (.forward ten 81)]
    let r := ((empty.stepAll chain steps).eval b ()).1
    let r' := ((empty.stepAll chain more).eval (Faulty.backend b) f).1
    r.ports.entries = [(ten, 81), (two, 80)] ∧ r'.ports.entries = [(two, 80), (ten, 81)] ∧
      snapshot r'.ports.entries = r.mappings ∧ r'.mappings = r.mappings ∧
      two.Before ten ∧ r.mappings.length = 2 := by
  intro chain two ten b f steps more r r'
  have entries : r.ports.entries = [(ten, 81), (two, 80)] := by decide +kernel
  have entries' : r'.ports.entries = [(two, 80), (ten, 81)] := by decide +kernel
  have iterates : r.Iterates r'.ports.entries := by
    rw [iterates_iff_perm, entries, entries']
    exact .swap _ _ _
  obtain ⟨anyOrder, -, -, length, anyRun⟩ := canonical_snapshot b chain () steps
  have size : r.size = 2 := congrArg List.length entries
  exact ⟨entries, entries', anyOrder _ iterates,
    anyRun _ (Faulty.backend b) chain f more iterates.get?_eq, by decide, length.trans size⟩

end Redirects

end Divert
