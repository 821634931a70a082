/-
# Divert.Proofs.Net.Address — the dotted form of an address is read back, and nothing else is read.

Each octet is read as it was written: in as many digits as there are, none of them a leading zero.  So
the dotted form tells addresses apart, and it is the only text that names its address.
-/
import Divert.Net.Address
import Divert.Proofs.Text.Digits

namespace Divert.Address

/-! ## What was written is read -/

/-- An octet is read up to the next character that is no digit. -/
theorem octet?_append (n : UInt8) {rest : List Char}
    (stop : ∀ c t, rest = c :: t → c.isDigit = false) :
    octet? (octetDigits n ++ rest) = some (n, rest) := by
  obtain ⟨taken, left⟩ := span_digits (fun c => isDigit_of_mem_digits (n := n.toNat)) stop
  simp only [octet?, octetDigits, taken, left, Nat.ofDigitChars_ten_toDigits]
  rw [if_pos ⟨trivial, n.toNat_lt⟩, UInt8.ofNat_toNat]

theorem ofDotted?_dotted (ip : Address) : ofDotted? ip.dotted = some ip := by
  have dot (s : List Char) : ∀ c t, '.' :: s = c :: t → c.isDigit = false := by
    rintro c t heq
    exact (List.cons.inj heq).1 ▸ rfl
  have last : octet? (octetDigits ip.d) = some (ip.d, []) := by
    have none : ∀ c t, ([] : List Char) = c :: t → c.isDigit = false := fun _ _ h => by cases h
    have read := octet?_append ip.d none
    rwa [List.append_nil] at read
  simp only [ofDotted?, dotted, List.append_assoc, List.cons_append, octet?_append _ (dot _),
    Option.bind_eq_bind, Option.bind_some, afterDot?, last, if_true]

/-- **Dotted form.** Every address is read back from its text. -/
theorem ofText?_toText (ip : Address) : ofText? ip.toText = some ip := by
  rw [ofText?, toText, String.toList_ofList, ofDotted?_dotted]

theorem dotted_injective {x y : Address} (h : x.dotted = y.dotted) : x = y := by
  have same := congrArg ofDotted? h
  rw [ofDotted?_dotted, ofDotted?_dotted] at same
  exact Option.some.inj same

/-! ## What is read was written -/

theorem eq_append_of_octet? {s rest : List Char} {n : UInt8} (h : octet? s = some (n, rest)) :
    s = octetDigits n ++ rest := by
  simp only [octet?] at h
  split at h
  · next valid =>
    obtain ⟨shortest, small⟩ := valid
    obtain ⟨hn, hrest⟩ := Prod.mk.inj (Option.some.inj h)
    have number : n.toNat = Nat.ofDigitChars 10 (s.takeWhile Char.isDigit) 0 := by
      rw [← hn, UInt8.toNat_ofNat_of_lt' small]
    rw [octetDigits, number, ← shortest, ← hrest, List.takeWhile_append_dropWhile]
  · cases h

theorem eq_cons_of_afterDot? {s rest : List Char} (h : afterDot? s = some rest) :
    s = '.' :: rest := by
  unfold afterDot? at h
  split at h
  · rw [Option.some.inj h]
  · cases h

theorem eq_dotted_of_ofDotted? {s : List Char} {ip : Address} (h : ofDotted? s = some ip) :
    s = ip.dotted := by
  simp only [ofDotted?, Option.bind_eq_bind, Option.bind_eq_some_iff] at h
  obtain ⟨⟨a, s₁⟩, ha, t₁, dot₁, ⟨b, s₂⟩, hb, t₂, dot₂, ⟨c, s₃⟩, hc, t₃, dot₃, ⟨d, s₄⟩, hd, h⟩ := h
  dsimp only at dot₁ dot₂ dot₃ h
  rw [eq_append_of_octet? ha, eq_cons_of_afterDot? dot₁, eq_append_of_octet? hb,
    eq_cons_of_afterDot? dot₂, eq_append_of_octet? hc, eq_cons_of_afterDot? dot₃,
    eq_append_of_octet? hd]
  split at h
  · next last =>
    cases h
    simp [dotted, last]
  · cases h

/-- **Strictness.** A text is read as an address exactly if it is the dotted form of the address. -/
theorem ofDotted?_eq_some_iff {s : List Char} {ip : Address} :
    ofDotted? s = some ip ↔ s = ip.dotted := by
  constructor
  · exact eq_dotted_of_ofDotted?
  · rintro rfl
    exact ofDotted?_dotted ip

end Divert.Address
