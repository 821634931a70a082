/-
# Divert.Text.Words — the words of a text and its blank-normal form.

Two rule texts that differ only in their blanks are the same rule.  `normalise` picks the
representative: the words of the text with one space between them.
-/
import Divert.Text.Blank

namespace Divert.Text

/-! ## Words -/

/-- The maximal runs of characters that are not blank, in order. -/
def wordsOf : List Char → List (List Char)
  | [] => []
  | c :: rest =>
    if isBlank c then wordsOf rest
    else match rest with
      | [] => [[c]]
      | d :: _ => if isBlank d then [c] :: wordsOf rest else (wordsOf rest).modifyHead (c :: ·)

/-- The words of a text. -/
def words (s : String) : List String := (wordsOf s.toList).map String.ofList

/-- The words of a text with one space between them. -/
def normalise (s : String) : String := String.ofList ([' '].intercalate (wordsOf s.toList))

example : words " -j\tA  b\n" = ["-j", "A", "b"] := by decide

example : normalise " -j\tA  b\n" = "-j A b" := by decide

end Divert.Text
