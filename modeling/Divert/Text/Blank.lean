/-
# Divert.Text.Blank — which characters separate words, and which may never be part of a name.

Two properties of the Unicode standard are used by the rule texts and the chain names: `White_Space`,
whose characters separate the words of a rule, and the general category `Cc`, the control characters.
Both are given as ranges of code points.  Core's `Char.isWhitespace` knows four of the twenty-five
blanks, so it is not used.
-/

namespace Divert.Text

/-! ## Ranges of code points -/

/-- Inclusive ranges of code points. -/
abbrev Ranges := List (Nat × Nat)

/-- Whether a character lies in one of the ranges. -/
def Ranges.holds (ranges : Ranges) (c : Char) : Bool :=
  ranges.any fun range => decide (range.1 ≤ c.toNat) && decide (c.toNat ≤ range.2)

/-! ## Blanks and controls -/

/-- The property `White_Space`. -/
def blankRanges : Ranges :=
  [(0x9, 0xD), (0x20, 0x20), (0x85, 0x85), (0xA0, 0xA0), (0x1680, 0x1680), (0x2000, 0x200A),
   (0x2028, 0x2029), (0x202F, 0x202F), (0x205F, 0x205F), (0x3000, 0x3000)]

/-- A character that separates words. -/
def isBlank (c : Char) : Bool := blankRanges.holds c

/-- A character of the general category `Cc`. -/
def isControl (c : Char) : Bool := Ranges.holds [(0x0, 0x1F), (0x7F, 0x9F)] c

example : isBlank ' ' = true ∧ isBlank '\u3000' = true ∧ isBlank '\u200b' = false := by decide

example : isControl '\x7f' = true ∧ isControl '\u00a0' = false := by decide

end Divert.Text
