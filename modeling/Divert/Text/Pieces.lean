/-
# Divert.Text.Pieces — how a rule text is cut into arguments.

Only a space separates arguments.  A stretch between two quotes, single or double and not necessarily
alike, is one piece if it holds at least one character and no line break; otherwise a piece is a run of
characters that are not spaces, quotes included.  Each piece then loses the quotes at both of its ends.
-/

namespace Divert.Text

/-- A single or a double quote. -/
def isQuote (c : Char) : Bool := c = '\x22' || c = '\x27'

/-- The characters before and after the first quote of a text, if a quote comes before any line
break. -/
def untilQuote? : List Char → Option (List Char × List Char)
  | [] => none
  | c :: rest =>
    if isQuote c then some ([], rest)
    else if c = '\n' then none
    else (untilQuote? rest).map fun found => (c :: found.1, found.2)

/-- The stretch between the quote before a text and the next quote that leaves a character between
them, and the text after that quote. -/
def quotedStretch? : List Char → Option (List Char × List Char)
  | [] => none
  | c :: rest => if c = '\n' then none else (untilQuote? rest).map fun found => (c :: found.1, found.2)

theorem untilQuote?_length {s inside rest : List Char} (h : untilQuote? s = some (inside, rest)) :
    rest.length < s.length := by
  induction s generalizing inside rest with
  | nil => simp [untilQuote?] at h
  | cons c s ih =>
    rw [untilQuote?] at h
    split at h
    · simp only [Option.some.injEq, Prod.mk.injEq] at h
      simp [h.2]
    · split at h
      · simp at h
      · obtain ⟨found, hfound, heq⟩ := Option.map_eq_some_iff.1 h
        obtain ⟨before, after⟩ := found
        simp only [Prod.mk.injEq] at heq
        have := ih hfound
        simp only [List.length_cons, ← heq.2]
        omega

theorem quotedStretch?_length {s inside rest : List Char}
    (h : quotedStretch? s = some (inside, rest)) : rest.length < s.length := by
  cases s with
  | nil => simp [quotedStretch?] at h
  | cons c s =>
    rw [quotedStretch?] at h
    split at h
    · simp at h
    · obtain ⟨found, hfound, heq⟩ := Option.map_eq_some_iff.1 h
      obtain ⟨before, after⟩ := found
      obtain ⟨rfl, rfl⟩ := Prod.mk.inj heq
      exact Nat.lt_succ_of_lt (untilQuote?_length hfound)

/-- A text without the quotes at both of its ends. -/
def trimQuotes (s : List Char) : List Char :=
  ((s.dropWhile isQuote).reverse.dropWhile isQuote).reverse

/-- The pieces of a text, their quotes trimmed. -/
def piecesOf : List Char → List (List Char)
  | [] => []
  | c :: rest =>
    if c = ' ' then piecesOf rest
    else
      match _stretch : if isQuote c then quotedStretch? rest else none with
      | some (inside, after) => trimQuotes inside :: piecesOf after
      | none =>
        trimQuotes (c :: rest.takeWhile (· ≠ ' ')) :: piecesOf (rest.dropWhile (· ≠ ' '))
termination_by s => s.length
decreasing_by
  · simp
  · split at _stretch
    · have := quotedStretch?_length _stretch
      simp only [List.length_cons]
      omega
    · simp at _stretch
  · have := (List.dropWhile_sublist (p := (· ≠ ' ')) (l := rest)).length_le
    simp only [List.length_cons]
    omega

/-- The pieces of a text. -/
def pieces (s : String) : List String := (piecesOf s.toList).map String.ofList

example : pieces "-m 'two words' it's" = ["-m", "two words", "it's"] := by decide +kernel

end Divert.Text
