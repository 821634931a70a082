/-
# Divert.Proofs.Text.Words — words joined by single spaces are in normal form.

The rule texts of the program are written as words with one space between them.  Cutting such a text
gives back the very words it was written from, so it is its own normal form and a filter that brings
rules into normal form keeps it as it is.
-/
import Divert.Text.Words

namespace Divert.Text

/-! ## Words of a joined text -/

/-- A word has a character, and none of its characters is a blank. -/
def IsWord (w : List Char) : Prop := w ≠ [] ∧ ∀ c ∈ w, isBlank c = false

instance (w : List Char) : Decidable (IsWord w) :=
  decidable_of_iff (w ≠ [] ∧ w.all (fun c => !isBlank c) = true) (by simp [IsWord])

theorem isBlank_space : isBlank ' ' = true := by decide

theorem wordsOf_blank {c : Char} (h : isBlank c = true) (rest : List Char) :
    wordsOf (c :: rest) = wordsOf rest := by
  rw [wordsOf.eq_def]
  simp [h]

/-- A character that is no blank belongs to the word that the text after it starts with. -/
theorem wordsOf_cons_cons {c d : Char} (hc : isBlank c = false) (hd : isBlank d = false)
    (rest : List Char) : wordsOf (c :: d :: rest) = (wordsOf (d :: rest)).modifyHead (c :: ·) := by
  rw [wordsOf.eq_def]
  simp [hc, hd]

theorem wordsOf_cons_blank {c d : Char} (hc : isBlank c = false) (hd : isBlank d = true)
    (rest : List Char) : wordsOf (c :: d :: rest) = [c] :: wordsOf rest := by
  rw [wordsOf.eq_def]
  simp [hc, hd, wordsOf_blank hd]

/-- A text that is a word has that word only. -/
theorem wordsOf_word {w : List Char} (h : IsWord w) : wordsOf w = [w] := by
  obtain ⟨hne, hw⟩ := h
  induction w with
  | nil => exact absurd rfl hne
  | cons c rest ih =>
    have hc : isBlank c = false := hw c List.mem_cons_self
    cases rest with
    | nil => simp [wordsOf, hc]
    | cons d rest =>
      have hd : isBlank d = false := hw d (by simp)
      rw [wordsOf_cons_cons hc hd, ih (by simp) fun e he => hw e (List.mem_cons_of_mem c he)]
      rfl

/-- A word ends at the space after it. -/
theorem wordsOf_word_append {w : List Char} (h : IsWord w) (rest : List Char) :
    wordsOf (w ++ ' ' :: rest) = w :: wordsOf rest := by
  obtain ⟨hne, hw⟩ := h
  induction w with
  | nil => exact absurd rfl hne
  | cons c tail ih =>
    have hc : isBlank c = false := hw c List.mem_cons_self
    cases tail with
    | nil => exact wordsOf_cons_blank hc isBlank_space rest
    | cons d tail =>
      have hd : isBlank d = false := hw d (by simp)
      have hrest := ih (by simp) fun e he => hw e (List.mem_cons_of_mem c he)
      rw [List.cons_append] at hrest
      rw [List.cons_append, List.cons_append, wordsOf_cons_cons hc hd, hrest]
      rfl

/-- **Joining and cutting.** Words joined by single spaces are the words of the joined text. -/
theorem wordsOf_intercalate {ws : List (List Char)} (h : ∀ w ∈ ws, IsWord w) :
    wordsOf ([' '].intercalate ws) = ws := by
  induction ws with
  | nil => rfl
  | cons w rest ih =>
    have hw : IsWord w := h w List.mem_cons_self
    have hrest := ih fun v hv => h v (List.mem_cons_of_mem w hv)
    cases rest with
    | nil => rw [List.intercalate_singleton, wordsOf_word hw]
    | cons v rest =>
      rw [List.intercalate_cons_cons, List.append_assoc, List.singleton_append,
        wordsOf_word_append hw, hrest]

/-- Cutting gives words only. -/
theorem isWord_of_mem_wordsOf {s w : List Char} (h : w ∈ wordsOf s) : IsWord w := by
  induction s generalizing w with
  | nil => exact absurd h List.not_mem_nil
  | cons c rest ih =>
    by_cases hc : isBlank c = true
    · rw [wordsOf_blank hc] at h
      exact ih h
    have plain : isBlank c = false := Bool.eq_false_iff.2 hc
    cases rest with
    | nil =>
      have hw : w = [c] := by simpa [wordsOf, plain] using h
      rw [hw]
      exact ⟨by simp, by simpa using plain⟩
    | cons d rest =>
      cases hd : isBlank d with
      | true =>
        rw [wordsOf_cons_blank plain hd] at h
        rcases List.mem_cons.1 h with rfl | hrest
        · exact ⟨by simp, by simpa using plain⟩
        · rw [wordsOf_blank hd] at ih
          exact ih hrest
      | false =>
        rw [wordsOf_cons_cons plain hd] at h
        cases hwords : wordsOf (d :: rest) with
        | nil =>
          rw [hwords] at h
          exact absurd h List.not_mem_nil
        | cons v more =>
          rw [hwords, List.modifyHead_cons] at h
          rw [hwords] at ih
          rcases List.mem_cons.1 h with rfl | hmore
          · have hv : IsWord v := ih List.mem_cons_self
            refine ⟨by simp, ?_⟩
            intro e he
            rcases List.mem_cons.1 he with rfl | he
            · exact plain
            · exact hv.2 e he
          · exact ih (List.mem_cons_of_mem v hmore)

/-! ## Texts in normal form -/

/-- The text is written as words with one space between them. -/
def Spaced (s : String) (ws : List (List Char)) : Prop :=
  s.toList = [' '].intercalate ws ∧ ∀ w ∈ ws, IsWord w

theorem Spaced.words {s : String} {ws : List (List Char)} (h : Spaced s ws) :
    words s = ws.map String.ofList := by
  rw [Text.words, h.1, wordsOf_intercalate h.2]

theorem Spaced.normalise {s : String} {ws : List (List Char)} (h : Spaced s ws) :
    normalise s = s := by
  rw [Text.normalise, h.1, wordsOf_intercalate h.2, ← h.1, String.ofList_toList]

/-- Every text has a normal form that is written as its words. -/
theorem spaced_normalise (s : String) : Spaced (normalise s) (wordsOf s.toList) :=
  ⟨String.toList_ofList, fun _ h => isWord_of_mem_wordsOf h⟩

theorem normalise_normalise (s : String) : normalise (normalise s) = normalise s :=
  (spaced_normalise s).normalise

end Divert.Text
