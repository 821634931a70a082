/-
# Divert.Proofs.Rule.Texts — what the rule texts say, and that no two say the same.

Every rule of the program is deleted by its text.  So a text has to stand for one rule only: a
redirect rule determines its key and its port, a jump determines its chain, and the three shapes never
coincide.  All of it is read off the words of a text, which are the words it was written from.
-/
import Divert.Proofs.Filter.Table
import Divert.Proofs.Net.Address
import Divert.Proofs.Text.Words

namespace Divert

/-! ## Decimal numbers and addresses in texts -/

open Text in
/-- A digit is no blank. -/
theorem isBlank_digit {c : Char} (h : c.isDigit = true) : isBlank c = false := by
  simp only [Char.isDigit, Bool.and_eq_true, decide_eq_true_eq, ge_iff_le] at h
  have lo : 48 ≤ c.toNat := h.1
  have hi : c.toNat ≤ 57 := h.2
  simp only [isBlank, blankRanges, Ranges.holds, List.any_cons, List.any_nil, Bool.or_false,
    Bool.or_eq_false_iff, Bool.and_eq_false_iff, decide_eq_false_iff_not]
  omega

theorem isWord_digits (n : Nat) : Text.IsWord (Nat.toDigits 10 n) :=
  ⟨Nat.toDigits_ne_nil, fun _ hc => isBlank_digit (isDigit_of_mem_digits hc)⟩

namespace Address

theorem isBlank_of_mem_dotted {ip : Address} {c : Char} (h : c ∈ ip.dotted) :
    Text.isBlank c = false := by
  simp only [dotted, List.mem_append, List.mem_cons] at h
  rcases h with ((h | rfl | h) | rfl | h) | rfl | h <;>
    first | exact isBlank_digit (isDigit_of_mem_digits h) | decide

end Address

/-! ## Names of chains -/

theorem reserved_of_standardTarget : ∀ name ∈ Filter.standardTargets, name ∈ reservedNames := by
  decide

theorem reserved_of_builtinChain : ∀ name ∈ Filter.builtinChains, name ∈ reservedNames := by decide

namespace ChainName

theorem isWord_text (chain : ChainName) : Text.IsWord chain.text.toList := by
  have valid := chain.valid
  simp only [invalidName?] at valid
  split_ifs at valid with hempty _ hillegal
  simp only [not_or, List.any_eq_true, Bool.or_eq_true, not_exists, not_and] at hillegal
  constructor
  · intro h
    exact hempty (String.toList_eq_nil_iff.1 h)
  · intro c hc
    exact Bool.eq_false_iff.2 (hillegal.2 c hc).1

theorem text_notMem_reservedNames (chain : ChainName) : chain.text ∉ reservedNames := by
  have valid := chain.valid
  simp only [invalidName?] at valid
  split_ifs at valid with _ _ _ hreserved
  exact hreserved

/-- A chain of our own is none of the targets that are not chains. -/
theorem text_notMem_standardTargets (chain : ChainName) : chain.text ∉ Filter.standardTargets :=
  fun h => chain.text_notMem_reservedNames (reserved_of_standardTarget _ h)

/-- A chain of our own is none of the chains that every table has. -/
theorem text_notMem_builtinChains (chain : ChainName) : chain.text ∉ Filter.builtinChains :=
  fun h => chain.text_notMem_reservedNames (reserved_of_builtinChain _ h)

theorem hook_ne_text (chain : ChainName) (hook : Hook) : hook.chain ≠ chain.text := by
  intro h
  have builtin : hook.chain ∈ Filter.builtinChains := by cases hook <;> decide
  exact chain.text_notMem_builtinChains (h ▸ builtin)

end ChainName

/-! ## The words of the rules -/

namespace Rule

/-- The words of a jump. -/
def jumpWords (chain : ChainName) : List (List Char) := ["-j".toList, chain.text.toList]

/-- The words of the loopback exemption. -/
def loopbackWords : List (List Char) :=
  ["-j".toList, "RETURN".toList, "--dest".toList, "127.0.0.1/32".toList, "-p".toList, "tcp".toList]

/-- The words of a redirect. -/
def redirectWords (key : Key) (port : UInt16) : List (List Char) :=
  ["-j".toList, "REDIRECT".toList, "--dest".toList, key.address.dotted ++ "/32".toList, "-p".toList,
    key.protocol.name.toList, "--to-ports".toList, Nat.toDigits 10 port.toNat]

theorem spaced_jump (chain : ChainName) : Text.Spaced (jump chain) (jumpWords chain) := by
  constructor
  · simp [jump, jumpTo, jumpWords, jumpOption, toString]
  · intro w hw
    simp only [jumpWords, List.mem_cons, List.not_mem_nil, or_false] at hw
    rcases hw with rfl | rfl
    · decide
    · exact chain.isWord_text

theorem spaced_loopback : Text.Spaced loopback loopbackWords := ⟨by decide, by decide⟩

theorem spaced_redirect (key : Key) (port : UInt16) :
    Text.Spaced (redirect key port) (redirectWords key port) := by
  constructor
  · have hport : (toString port).toList = Nat.toDigits 10 port.toNat := Nat.toList_repr
    have haddress : (toString key.address).toList = key.address.dotted := String.toList_ofList
    have hprotocol : toString key.protocol = key.protocol.name := rfl
    unfold redirect
    simp only [String.toList_append, hport, haddress, hprotocol, redirectWords,
      List.intercalate_cons_cons, List.intercalate_singleton, List.append_assoc]
    rfl
  · intro w hw
    simp only [redirectWords, List.mem_cons, List.not_mem_nil, or_false] at hw
    rcases hw with rfl | rfl | rfl | rfl | rfl | rfl | rfl | rfl
    · decide
    · decide
    · decide
    · refine ⟨by simp, ?_⟩
      intro c hc
      rcases List.mem_append.1 hc with hc | hc
      · exact Address.isBlank_of_mem_dotted hc
      · have suffix : Text.IsWord "/32".toList := by decide
        exact suffix.2 c hc
    · decide
    · cases key.protocol <;> decide
    · decide
    · exact isWord_digits _

/-! ## Rules tell themselves apart -/

theorem eq_words_of_spaced {s t : String} {ws vs : List (List Char)} (hs : Text.Spaced s ws)
    (ht : Text.Spaced t vs) (h : s = t) : ws = vs := by
  rw [← Text.wordsOf_intercalate hs.2, ← Text.wordsOf_intercalate ht.2, ← hs.1, ← ht.1, h]

/-- A redirect rule determines its key and its port. -/
theorem redirect_inj {k l : Key} {p q : UInt16} : redirect k p = redirect l q ↔ k = l ∧ p = q := by
  constructor
  · intro h
    have hwords := eq_words_of_spaced (spaced_redirect k p) (spaced_redirect l q) h
    simp only [redirectWords, List.cons.injEq, List.append_left_inj, true_and, and_true] at hwords
    obtain ⟨haddress, hprotocol, hport⟩ := hwords
    have address : k.address = l.address := Address.dotted_injective haddress
    have protocol : k.protocol = l.protocol := by
      revert hprotocol
      cases k.protocol <;> cases l.protocol <;> decide
    refine ⟨?_, UInt16.toNat_inj.1 (digits_injective hport)⟩
    cases k
    cases l
    simp_all
  · rintro ⟨rfl, rfl⟩
    rfl

/-- A jump determines its chain. -/
theorem jump_inj {c d : ChainName} : jump c = jump d ↔ c = d := by
  constructor
  · intro h
    have hwords := eq_words_of_spaced (spaced_jump c) (spaced_jump d) h
    simp only [jumpWords, List.cons.injEq, true_and, and_true] at hwords
    exact ChainName.ext (String.toList_inj.1 hwords)
  · rintro rfl
    rfl

theorem redirect_ne_jump (key : Key) (port : UInt16) (chain : ChainName) :
    redirect key port ≠ jump chain := by
  intro h
  have hwords := eq_words_of_spaced (spaced_redirect key port) (spaced_jump chain) h
  simp [redirectWords, jumpWords] at hwords

theorem loopback_ne_jump (chain : ChainName) : loopback ≠ jump chain := by
  intro h
  have hwords := eq_words_of_spaced spaced_loopback (spaced_jump chain) h
  simp [loopbackWords, jumpWords] at hwords

theorem redirect_ne_loopback (key : Key) (port : UInt16) : redirect key port ≠ loopback := by
  intro h
  have hwords := eq_words_of_spaced (spaced_redirect key port) spaced_loopback h
  simp [redirectWords, loopbackWords] at hwords

/-! ## Normal forms and targets -/

@[simp] theorem normalise_jump (chain : ChainName) : Text.normalise (jump chain) = jump chain :=
  (spaced_jump chain).normalise

@[simp] theorem normalise_loopback : Text.normalise loopback = loopback := spaced_loopback.normalise

@[simp] theorem normalise_redirect (key : Key) (port : UInt16) :
    Text.normalise (redirect key port) = redirect key port :=
  (spaced_redirect key port).normalise

end Rule

namespace Filter.Table

open Rule

theorem checkTarget_loopback (t : Table) : t.checkTarget loopback = .ok () := by
  rw [checkTarget, spaced_loopback.words]
  rfl

theorem checkTarget_redirect (t : Table) (key : Key) (port : UInt16) :
    t.checkTarget (redirect key port) = .ok () := by
  rw [checkTarget, (spaced_redirect key port).words]
  rfl

/-- A jump to a chain of our own is accepted exactly if the table has the chain. -/
theorem checkTarget_jump (t : Table) (chain : ChainName) :
    t.checkTarget (jump chain) =
      if t.contains chain.text then .ok () else .error (.unknownTarget chain.text) := by
  have htarget : jumpTarget? (Text.words (jump chain)) = some (some chain.text) := by
    rw [(spaced_jump chain).words]
    simp only [jumpWords, List.map_cons, String.ofList_toList, List.map_nil]
    rfl
  have hcustom : chain.text ∉ Filter.standardTargets := chain.text_notMem_standardTargets
  rw [checkTarget, htarget]
  simp only [hcustom, false_or]

end Filter.Table

end Divert
