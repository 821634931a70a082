/-
# Divert.Proofs.Text.Pieces — when a word comes through the cutting of a text as it is.

A text is cut at its spaces, and stretches in quotes are kept together; then every piece loses the
quotes at its ends.  So no piece has a quote at an end, and a word that has one is never a piece.  Any
other word without spaces is a piece, whatever quotes it has inside.
-/
import Divert.Text.Pieces
import Mathlib.Data.List.DropRight

namespace Divert.Text

/-! ## Quotes at the ends -/

/-- A quote is the first or the last character. -/
def QuoteAtEnd (s : List Char) : Prop :=
  s.head?.any isQuote = true ∨ s.getLast?.any isQuote = true

instance (s : List Char) : Decidable (QuoteAtEnd s) := inferInstanceAs (Decidable (_ ∨ _))

theorem trimQuotes_eq (s : List Char) :
    trimQuotes s = (s.dropWhile isQuote).rdropWhile isQuote :=
  rfl

/-- Without quotes at its ends a text is trimmed already. -/
theorem trimQuotes_of_not_quoteAtEnd {s : List Char} (h : ¬ QuoteAtEnd s) : trimQuotes s = s := by
  obtain ⟨hfirst, hlast⟩ := not_or.1 h
  have first : s.dropWhile isQuote = s := by
    cases s with
    | nil => rfl
    | cons c rest =>
      apply List.dropWhile_cons_of_neg
      simpa using hfirst
  have last : s.rdropWhile isQuote = s := by
    rw [List.rdropWhile_eq_self_iff]
    intro hne hquote
    rw [List.getLast?_eq_some_getLast hne] at hlast
    exact hlast hquote
  rw [trimQuotes_eq, first, last]

/-- A trimmed text has no quotes at its ends. -/
theorem not_quoteAtEnd_trimQuotes (s : List Char) : ¬ QuoteAtEnd (trimQuotes s) := by
  rw [trimQuotes_eq]
  rintro (hfirst | hlast)
  · -- What is left after trimming the end begins as the text did before.
    obtain ⟨c, hc, hquote⟩ := (Option.any_eq_true ..).1 hfirst
    obtain ⟨rest, hrest⟩ := List.rdropWhile_prefix isQuote (s.dropWhile isQuote)
    have hhead : (s.dropWhile isQuote).head? = some c := by
      rw [← hrest, List.head?_append, hc]
      rfl
    have hplain := List.head?_dropWhile_not isQuote s
    rw [hhead] at hplain
    exact Bool.false_ne_true (hplain.symm.trans hquote)
  · obtain ⟨c, hc, hquote⟩ := (Option.any_eq_true ..).1 hlast
    have hne : (s.dropWhile isQuote).rdropWhile isQuote ≠ [] := by
      intro hnil
      rw [hnil] at hc
      cases hc
    rw [List.getLast?_eq_some_getLast hne] at hc
    cases hc
    exact List.rdropWhile_last_not isQuote _ hne hquote

/-! ## Pieces -/

theorem piecesOf_space (rest : List Char) : piecesOf (' ' :: rest) = piecesOf rest := by
  rw [piecesOf]
  simp

/-- A piece that begins with no quote ends at the next space. -/
theorem piecesOf_cons {c : Char} (hspace : c ≠ ' ') (hquote : isQuote c = false) (rest : List Char) :
    piecesOf (c :: rest) =
      trimQuotes (c :: rest.takeWhile (· ≠ ' ')) :: piecesOf (rest.dropWhile (· ≠ ' ')) := by
  rw [piecesOf, if_neg hspace]
  split
  · next hstretch =>
    rw [hquote] at hstretch
    cases hstretch
  · rfl

/-- A word without spaces that begins with no quote is one piece, up to the quotes at its end. -/
theorem piecesOf_word {w : List Char} (hne : w ≠ []) (hspace : ' ' ∉ w)
    (hquote : w.head?.any isQuote = false) : piecesOf w = [trimQuotes w] := by
  cases w with
  | nil => exact absurd rfl hne
  | cons c rest =>
    simp only [List.mem_cons, not_or] at hspace
    have plain : ∀ d ∈ rest, decide (d ≠ ' ') = true := by
      intro d hd
      rw [decide_eq_true_iff]
      rintro rfl
      exact hspace.2 hd
    rw [piecesOf_cons (Ne.symm hspace.1) hquote, List.takeWhile_eq_self_iff.2 plain,
      List.dropWhile_eq_nil_iff.2 plain, piecesOf]

/-- No piece has a quote at an end. -/
theorem not_quoteAtEnd_of_mem_piecesOf {s piece : List Char} (h : piece ∈ piecesOf s) :
    ¬ QuoteAtEnd piece := by
  -- Whichever way a piece is found, it is trimmed before the rest of the text is cut.
  have trimmed {first : List Char} {rest : List (List Char)}
      (h : piece ∈ trimQuotes first :: rest) (ih : piece ∈ rest → ¬ QuoteAtEnd piece) :
      ¬ QuoteAtEnd piece := by
    rcases List.mem_cons.1 h with rfl | hrest
    · exact not_quoteAtEnd_trimQuotes first
    · exact ih hrest
  fun_induction piecesOf s with
  | case1 => exact absurd h List.not_mem_nil
  | case2 rest ih => exact ih h
  | case3 c rest hspace inside after hstretch ih => exact trimmed h ih
  | case4 c rest hspace hstretch ih => exact trimmed h ih

end Divert.Text
