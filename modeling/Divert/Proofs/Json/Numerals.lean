/-
# Divert.Proofs.Json.Numerals — the grammar of numerals.

After its sign a numeral has digits, perhaps more digits after a point, and perhaps an exponent.  Each of
these parts is read as far as it goes, so it is read as a whole if what comes next does not go on with
it; and no part starts with what the part before it goes on with.
-/
import Divert.Proofs.Json.Spelling
import Divert.Proofs.Text.Digits

namespace Divert.Json

/-! ## The parts of a numeral -/

/-- At least one digit, and nothing but digits. -/
structure DigitText (s : List Char) : Prop where
  some : s ≠ []
  all : ∀ c ∈ s, c.isDigit = true

/-- The digits before the point.  A leading zero stands alone. -/
structure WholeText (s : List Char) : Prop extends DigitText s where
  leading : s.head? = .some '0' → s = ['0']

/-- The digits after the point, with the point. -/
inductive FractionText : List Char → List Char → Prop where
  | none : FractionText [] []
  | point {digits : List Char} (h : DigitText digits) : FractionText digits ('.' :: digits)

/-- The sign of an exponent: whether it is negative, and how it is written. -/
inductive SignText : Bool → List Char → Prop where
  | none : SignText false []
  | plus : SignText false ['+']
  | minus : SignText true ['-']

/-- An exponent with its letter. -/
inductive ExponentText : Option (Bool × List Char) → List Char → Prop where
  | none : ExponentText none []
  | power {letter : Char} {negative : Bool} {sign digits : List Char}
      (hletter : letter = 'e' ∨ letter = 'E') (hsign : SignText negative sign)
      (h : DigitText digits) :
      ExponentText (some (negative, digits)) (letter :: (sign ++ digits))

/-- The text of a numeral after its own sign. -/
inductive NumeralText : Numeral → List Char → Prop where
  | intro {whole fraction pointed powered : List Char} {exponent : Option (Bool × List Char)}
      (negative : Bool) (hwhole : WholeText whole) (hfraction : FractionText fraction pointed)
      (hexponent : ExponentText exponent powered) :
      NumeralText ⟨negative, whole, fraction, exponent⟩ (whole ++ (pointed ++ powered))

section

variable {digits fraction pointed powered rest s : List Char} {exponent : Option (Bool × List Char)}
  {numeral : Numeral}

/-! ## Where a part ends -/

theorem DigitText.head (h : DigitText digits) : ∃ c t, digits = c :: t ∧ c.isDigit = true := by
  cases digits with
  | nil => exact absurd rfl h.some
  | cons c t => exact ⟨c, t, rfl, h.all c List.mem_cons_self⟩

/-- What follows the digits after a point. -/
theorem ExponentText.stops (h : ExponentText exponent powered) (ends : Ends rest) :
    ∀ c t, powered ++ rest = c :: t → c.isDigit = false ∧ c ≠ '.' := by
  intro c t heq
  cases h with
  | none =>
    obtain ⟨digit, point, -⟩ := ends c t heq
    exact ⟨digit, point⟩
  | power hletter =>
    obtain ⟨rfl, -⟩ := List.cons.inj heq
    rcases hletter with rfl | rfl <;> decide

/-- What follows the digits before a point. -/
theorem FractionText.stops (h : FractionText fraction pointed)
    (stops : ∀ c t, rest = c :: t → c.isDigit = false ∧ c ≠ '.') :
    ∀ c t, pointed ++ rest = c :: t → c.isDigit = false := by
  intro c t heq
  cases h with
  | none => exact (stops c t heq).1
  | point =>
    obtain ⟨rfl, -⟩ := List.cons.inj heq
    rfl

/-! ## Reading the parts -/

theorem digits_append (h : DigitText digits) (stop : ∀ c t, rest = c :: t → c.isDigit = false) :
    Numeral.digits (digits ++ rest) = .ok (digits, rest) := by
  obtain ⟨taken, left⟩ := span_digits h.all stop
  rw [Numeral.digits, taken, left, if_neg h.some]

theorem fractionOf_append (h : FractionText fraction pointed)
    (stops : ∀ c t, rest = c :: t → c.isDigit = false ∧ c ≠ '.') :
    Numeral.fractionOf (pointed ++ rest) = .ok (fraction, rest) := by
  cases h with
  | none =>
    show Numeral.fractionOf rest = _
    unfold Numeral.fractionOf
    split
    · next t => exact absurd rfl (stops '.' t rfl).2
    · rfl
  | point h => exact digits_append h fun c t heq => (stops c t heq).1

/-- A sign is read up to the digits after it. -/
theorem signOf_append {negative : Bool} {sign : List Char} (h : SignText negative sign)
    (hdigits : DigitText digits) (rest : List Char) :
    Numeral.signOf (sign ++ digits ++ rest) = (negative, digits ++ rest) := by
  cases h with
  | plus | minus => rfl
  | none =>
    obtain ⟨c, t, rfl, hc⟩ := hdigits.head
    show Numeral.signOf (c :: (t ++ rest)) = _
    unfold Numeral.signOf
    split
    · next heq => exact absurd (List.cons.inj heq).1 (ne_of_isDigit hc rfl)
    · next heq => exact absurd (List.cons.inj heq).1 (ne_of_isDigit hc rfl)
    · rfl

theorem exponentOf_append (h : ExponentText exponent powered) (ends : Ends rest) :
    Numeral.exponentOf (powered ++ rest) = .ok (exponent, rest) := by
  cases h with
  | none =>
    show Numeral.exponentOf rest = _
    unfold Numeral.exponentOf
    split
    · next c t =>
      obtain ⟨-, -, lower, upper⟩ := ends c t rfl
      rw [if_neg (by simp [lower, upper])]
    · rfl
  | @power letter negative sign digits hletter hsign h =>
    have read := digits_append h fun c t heq => (ends c t heq).1
    show Numeral.exponentOf (letter :: (sign ++ digits ++ rest)) = _
    simp only [Numeral.exponentOf, if_pos hletter, signOf_append hsign h, read]
    rfl

/-- **Numerals.** What the grammar derives is read as a whole, whatever comes after it, as long as that
does not go on with the numeral. -/
theorem counts_of_numeralText (h : NumeralText numeral s) : Counts numeral s := by
  obtain ⟨negative, hwhole, hfraction, hexponent⟩ := h
  constructor
  · obtain ⟨c, t, rfl, hc⟩ := hwhole.head
    exact ⟨c, _, rfl, hc⟩
  · intro rest ends
    have stops := hexponent.stops ends
    rw [List.append_assoc, List.append_assoc, Numeral.read,
      digits_append hwhole.toDigitText (hfraction.stops stops)]
    refine (if_neg fun leading => leading.2 (hwhole.leading leading.1)).trans ?_
    rw [fractionOf_append hfraction stops]
    show (Numeral.exponentOf _ >>= _) = _
    rw [exponentOf_append hexponent ends]
    rfl

end

end Divert.Json
