/-
# Divert.Proofs.Rule.Ports — what the rules of a chain do with the traffic for one key.

`ports key rules` lists the ports to which a chain sends the traffic for a key, one for each redirect
rule of the key and in the order of the rules.  That a key has one rule, or none, or two, is a fact
about this list.  Its lemmas say what appending and deleting a rule do to it.
-/
import Divert.Proofs.Rule.Texts

namespace Divert.Rule

/-! ## The port of a rule -/

/-- A redirect rule of a key up to its port. -/
def redirectStem (key : Key) : String :=
  s!"-j REDIRECT --dest {key.address}/32 -p {key.protocol} --to-ports "

theorem redirect_eq_stem (key : Key) (port : UInt16) :
    redirect key port = redirectStem key ++ toString port := by
  unfold redirect redirectStem
  simp only [String.append_assoc]

/-- The port of a rule, if the rule is a redirect for the key: the number after the stem, provided
that the rule is the one written for it. -/
def port? (key : Key) (rule : String) : Option UInt16 :=
  let digits := rule.toList.drop (redirectStem key).toList.length
  let port := UInt16.ofNat (Nat.ofDigitChars 10 digits 0)
  if rule = redirect key port then some port else none

/-- **Reading a rule.** A rule has a port for a key exactly if it is that key's redirect to it. -/
theorem port?_eq_some_iff {key : Key} {rule : String} {port : UInt16} :
    port? key rule = some port ↔ rule = redirect key port := by
  constructor
  · intro h
    simp only [port?] at h
    split at h
    · next hrule => exact (Option.some.inj h) ▸ hrule
    · cases h
  · rintro rfl
    have hdigits : (redirect key port).toList.drop (redirectStem key).toList.length =
        Nat.toDigits 10 port.toNat := by
      have hport : (toString port).toList = Nat.toDigits 10 port.toNat := Nat.toList_repr
      rw [redirect_eq_stem, String.toList_append, List.drop_left, hport]
    simp only [port?, hdigits, Nat.ofDigitChars_ten_toDigits, UInt16.ofNat_toNat, if_true]

@[simp] theorem port?_redirect_self (key : Key) (port : UInt16) :
    port? key (redirect key port) = some port :=
  port?_eq_some_iff.2 rfl

theorem port?_eq_none_iff {key : Key} {rule : String} :
    port? key rule = none ↔ ∀ port, rule ≠ redirect key port := by
  rw [Option.eq_none_iff_forall_ne_some]
  exact forall_congr' fun port => not_congr port?_eq_some_iff

theorem port?_redirect_of_ne {key other : Key} (h : other ≠ key) (port : UInt16) :
    port? key (redirect other port) = none :=
  port?_eq_none_iff.2 fun _ heq => h (redirect_inj.1 heq).1

@[simp] theorem port?_loopback (key : Key) : port? key loopback = none :=
  port?_eq_none_iff.2 fun port => (redirect_ne_loopback key port).symm

/-! ## The ports of a chain -/

/-- The ports to which the rules of a chain send the traffic for a key, in the order of the rules. -/
def ports (key : Key) (rules : List String) : List UInt16 := rules.filterMap (port? key)

@[simp] theorem ports_nil (key : Key) : ports key [] = [] := rfl

@[simp] theorem ports_append (key : Key) (rules more : List String) :
    ports key (rules ++ more) = ports key rules ++ ports key more :=
  List.filterMap_append

@[simp] theorem ports_loopback (key : Key) : ports key [loopback] = [] := by simp [ports]

@[simp] theorem ports_redirect_self (key : Key) (port : UInt16) :
    ports key [redirect key port] = [port] := by
  simp [ports]

theorem ports_redirect_of_ne {key other : Key} (h : other ≠ key) (port : UInt16) :
    ports key [redirect other port] = [] := by
  simp [ports, port?_redirect_of_ne h]

theorem mem_ports {key : Key} {rules : List String} {port : UInt16} :
    port ∈ ports key rules ↔ redirect key port ∈ rules := by
  simp [ports, List.mem_filterMap, port?_eq_some_iff]

theorem ports_eq_nil_iff {key : Key} {rules : List String} :
    ports key rules = [] ↔ ∀ port, redirect key port ∉ rules := by
  rw [List.eq_nil_iff_forall_not_mem]
  exact forall_congr' fun port => not_congr mem_ports

/-- Deleting the redirect of a key to a port takes the first mention of the port away. -/
theorem ports_erase_self (key : Key) (port : UInt16) (rules : List String) :
    ports key (rules.erase (redirect key port)) = (ports key rules).erase port := by
  -- The first rule with the port is the first copy of the rule, as the text has no other writing.
  induction rules with
  | nil => rfl
  | cons rule rest ih =>
    by_cases hrule : rule = redirect key port
    · simp [hrule, ports]
    · have hport : port? key rule ≠ some port := fun h => hrule (port?_eq_some_iff.1 h)
      simp only [ports] at ih
      simp only [ports, List.erase_cons_tail (mt eq_of_beq hrule), List.filterMap_cons]
      cases hread : port? key rule with
      | none => exact ih
      | some other =>
        have hother : other ≠ port := fun h => hport (h ▸ hread)
        simp [ih, List.erase_cons_tail, hother]

/-- Deleting a rule that is no redirect for a key leaves the ports for the key as they are. -/
theorem ports_erase_of_none {key : Key} {rule : String} (h : port? key rule = none)
    (rules : List String) : ports key (rules.erase rule) = ports key rules := by
  induction rules with
  | nil => rfl
  | cons first rest ih =>
    by_cases hfirst : first = rule
    · simp [hfirst, ports, h]
    · simp only [ports] at ih
      simp only [ports, List.erase_cons_tail (mt eq_of_beq hfirst), List.filterMap_cons, ih]

end Divert.Rule
