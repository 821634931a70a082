/-
# Divert.Proofs.Json.Grammar — every well-formed text has a tree.

`Derives` is the grammar of the format by itself, without trees and without a reader: it says which rows
of tokens are a value.  `Laid` lays tokens out in a text, with blanks wherever they may stand.  Whatever
the grammar derives has one tree, and every layout of it spells that tree; so what is said of the texts
of a tree is said of every well-formed text, and layout never matters.
-/
import Divert.Proofs.Json.Numerals
import Divert.Proofs.Json.Strings

namespace Divert.Json

/-! ## The grammar of texts -/

/-- The token of a single character. -/
abbrev symbol (c : Char) : List Char := [c]

/-- The token of a string. -/
def quoted (s : List Char) : List Char := '\x22' :: (s ++ ['\x22'])

/-- What a row of tokens can be. -/
inductive Category where
  | value
  /-- The items of a list, with its closing bracket. -/
  | items
  /-- The members of an object, with its closing brace. -/
  | members

/-- The rows of tokens of a category. -/
inductive Derives : Category → List (List Char) → Prop where
  | null : Derives .value [['n', 'u', 'l', 'l']]
  | boolean (value : Bool) : Derives .value [Value.truth value]
  | number {numeral : Numeral} {s : List Char} (h : NumeralText numeral s) :
      Derives .value [if numeral.negative then '-' :: s else s]
  | string {s : List Char} (h : StringText s) : Derives .value [quoted s]
  | emptyList : Derives .value [symbol '[', symbol ']']
  | list {tokens : List (List Char)} (inside : Derives .items tokens) :
      Derives .value (symbol '[' :: tokens)
  | emptyObject : Derives .value [symbol '\x7b', symbol '\x7d']
  | object {tokens : List (List Char)} (inside : Derives .members tokens) :
      Derives .value (symbol '\x7b' :: tokens)
  | lastItem {tokens : List (List Char)} (first : Derives .value tokens) :
      Derives .items (tokens ++ [symbol ']'])
  | nextItem {tokens more : List (List Char)} (first : Derives .value tokens)
      (inside : Derives .items more) : Derives .items (tokens ++ symbol ',' :: more)
  | lastMember {name : List Char} {tokens : List (List Char)} (h : StringText name)
      (first : Derives .value tokens) :
      Derives .members (quoted name :: symbol ':' :: (tokens ++ [symbol '\x7d']))
  | nextMember {name : List Char} {tokens more : List (List Char)} (h : StringText name)
      (first : Derives .value tokens) (inside : Derives .members more) :
      Derives .members (quoted name :: symbol ':' :: (tokens ++ symbol ',' :: more))

/-- A text of some tokens, with any blanks before, between and after them. -/
inductive Laid : List (List Char) → List Char → Prop where
  | nil {blanks : List Char} (h : Blanks blanks) : Laid [] blanks
  | cons {blanks token s : List Char} {tokens : List (List Char)} (h : Blanks blanks)
      (rest : Laid tokens s) : Laid (token :: tokens) (blanks ++ (token ++ s))

/-! ## Layouts of one part -/

/-- What stands before the text of a part: members are spelled from after their first quote. -/
def Part.opening : Part → List Char
  | value _ | items _ => []
  | members _ => ['\x22']

/-- The tokens spell the part, however they are laid out and whatever tokens come after them. -/
def SpelledBy (tokens : List (List Char)) (part : Part) : Prop :=
  ∀ more s, Laid (tokens ++ more) s → ∃ before text after, Blanks before ∧ Spells part text ∧
    Laid more after ∧ s = before ++ (part.opening ++ (text ++ after))

section Layouts

variable {token name s : List Char} {tokens more : List (List Char)} {node : Node}
  {items : List Node} {members : List (Except Fault String × Node)} {key : Except Fault String}

theorem Laid.uncons (h : Laid (token :: tokens) s) :
    ∃ blanks rest, Blanks blanks ∧ Laid tokens rest ∧ s = blanks ++ (token ++ rest) := by
  cases h with
  | cons h rest => exact ⟨_, _, h, rest, rfl⟩

theorem spelledBy_token (h : Spells (.value node) token) : SpelledBy [token] (.value node) := by
  intro more s laid
  obtain ⟨blanks, rest, hblanks, hrest, rfl⟩ := laid.uncons
  exact ⟨blanks, token, rest, hblanks, h, hrest, rfl⟩

theorem spelledBy_empty {opened closed : Char}
    (h : ∀ blanks, Blanks blanks → Spells (.value node) (opened :: (blanks ++ [closed]))) :
    SpelledBy [symbol opened, symbol closed] (.value node) := by
  intro more s laid
  obtain ⟨before, t, hbefore, ht, rfl⟩ := laid.uncons
  obtain ⟨blanks, rest, hblanks, hrest, rfl⟩ := ht.uncons
  refine ⟨before, _, rest, hbefore, h blanks hblanks, hrest, ?_⟩
  simp [Part.opening]

theorem spelledBy_opened {opened : Char} {part : Part} (inside : SpelledBy tokens part)
    (h : ∀ blanks text, Blanks blanks → Spells part text →
      Spells (.value node) (opened :: (blanks ++ (part.opening ++ text)))) :
    SpelledBy (symbol opened :: tokens) (.value node) := by
  intro more s laid
  obtain ⟨before, t, hbefore, ht, rfl⟩ := laid.uncons
  obtain ⟨blanks, text, rest, hblanks, htext, hrest, rfl⟩ := inside more t ht
  refine ⟨before, _, rest, hbefore, h blanks text hblanks htext, hrest, ?_⟩
  simp [Part.opening]

/-- A part that comes after a colon or a comma. -/
theorem SpelledBy.after {c : Char} {part : Part} (inside : SpelledBy tokens part)
    (laid : Laid (symbol c :: (tokens ++ more)) s) :
    ∃ mark text rest, Mark c mark ∧ Spells part text ∧ Laid more rest ∧
      s = mark ++ (part.opening ++ (text ++ rest)) := by
  obtain ⟨before, t, hbefore, ht, rfl⟩ := laid.uncons
  obtain ⟨after, text, rest, hafter, htext, hrest, rfl⟩ := inside more t ht
  refine ⟨before ++ c :: after, text, rest, ⟨before, after, hbefore, hafter, rfl⟩, htext, hrest, ?_⟩
  simp only [List.append_assoc, List.cons_append, List.nil_append]

theorem spelledBy_lastItem (first : SpelledBy tokens (.value node)) :
    SpelledBy (tokens ++ [symbol ']']) (.items [node]) := by
  intro more s laid
  rw [List.append_assoc] at laid
  obtain ⟨before, text, t, hbefore, htext, ht, rfl⟩ := first _ s laid
  obtain ⟨blanks, rest, hblanks, hrest, rfl⟩ := ht.uncons
  refine ⟨before, _, rest, hbefore, .lastItem htext hblanks, hrest, ?_⟩
  simp [Part.opening]

theorem spelledBy_nextItem (first : SpelledBy tokens (.value node))
    (inside : SpelledBy more (.items items)) :
    SpelledBy (tokens ++ symbol ',' :: more) (.items (node :: items)) := by
  intro others s laid
  rw [List.append_assoc] at laid
  obtain ⟨before, text, t, hbefore, htext, ht, rfl⟩ := first _ s laid
  obtain ⟨comma, following, rest, hcomma, hfollowing, hrest, rfl⟩ := inside.after ht
  refine ⟨before, _, rest, hbefore, .nextItem htext hcomma hfollowing, hrest, ?_⟩
  simp [Part.opening]

theorem spelledBy_lastMember (token : Quotes key (name ++ ['\x22']))
    (first : SpelledBy tokens (.value node)) :
    SpelledBy (quoted name :: symbol ':' :: (tokens ++ [symbol '\x7d'])) (.members [(key, node)]) := by
  intro more s laid
  simp only [List.cons_append, List.append_assoc] at laid
  obtain ⟨before, t, hbefore, ht, rfl⟩ := laid.uncons
  obtain ⟨colon, text, u, hcolon, htext, hu, rfl⟩ := first.after ht
  obtain ⟨blanks, rest, hblanks, hrest, rfl⟩ := hu.uncons
  refine ⟨before, _, rest, hbefore, .lastMember token hcolon htext hblanks, hrest, ?_⟩
  simp [Part.opening, quoted]

theorem spelledBy_nextMember (token : Quotes key (name ++ ['\x22']))
    (first : SpelledBy tokens (.value node)) (inside : SpelledBy more (.members members)) :
    SpelledBy (quoted name :: symbol ':' :: (tokens ++ symbol ',' :: more))
      (.members ((key, node) :: members)) := by
  intro others s laid
  simp only [List.cons_append, List.append_assoc] at laid
  obtain ⟨before, t, hbefore, ht, rfl⟩ := laid.uncons
  obtain ⟨colon, text, u, hcolon, htext, hu, rfl⟩ := first.after ht
  obtain ⟨comma, following, rest, hcomma, hfollowing, hrest, rfl⟩ := inside.after hu
  refine ⟨before, _, rest, hbefore, .nextMember token hcolon htext hcomma hfollowing, hrest, ?_⟩
  simp [Part.opening, quoted]

end Layouts

/-! ## Trees of texts -/

/-- The tokens of a category spell a part of that kind. -/
def Category.IsSpelledBy (tokens : List (List Char)) : Category → Prop
  | value => ∃ node, SpelledBy tokens (.value node)
  | items => ∃ nodes, SpelledBy tokens (.items nodes)
  | members => ∃ entries, SpelledBy tokens (.members entries)

theorem isSpelledBy_of_derives {category : Category} {tokens : List (List Char)}
    (h : Derives category tokens) : category.IsSpelledBy tokens := by
  induction h with
  | null => exact ⟨_, spelledBy_token .null⟩
  | boolean value => exact ⟨_, spelledBy_token (.boolean value)⟩
  | number h => exact ⟨_, spelledBy_token (.number (counts_of_numeralText h))⟩
  | string h =>
    obtain ⟨value, token⟩ := quotes_of_stringText h
    exact ⟨_, spelledBy_token (.string token)⟩
  | emptyList => exact ⟨_, spelledBy_empty fun _ => .emptyList⟩
  | list _ inside =>
    obtain ⟨items, inside⟩ := inside
    exact ⟨_, spelledBy_opened inside fun _ _ => .list⟩
  | emptyObject => exact ⟨_, spelledBy_empty fun _ => .emptyObject⟩
  | object _ inside =>
    obtain ⟨members, inside⟩ := inside
    exact ⟨_, spelledBy_opened inside fun _ _ => .object⟩
  | lastItem _ first =>
    obtain ⟨node, first⟩ := first
    exact ⟨_, spelledBy_lastItem first⟩
  | nextItem _ _ first inside =>
    obtain ⟨node, first⟩ := first
    obtain ⟨items, inside⟩ := inside
    exact ⟨_, spelledBy_nextItem first inside⟩
  | lastMember h _ first =>
    obtain ⟨key, token⟩ := quotes_of_stringText h
    obtain ⟨node, first⟩ := first
    exact ⟨_, spelledBy_lastMember token first⟩
  | nextMember h _ _ first inside =>
    obtain ⟨key, token⟩ := quotes_of_stringText h
    obtain ⟨node, first⟩ := first
    obtain ⟨members, inside⟩ := inside
    exact ⟨_, spelledBy_nextMember token first inside⟩

/-- **Well-formed texts.** The tokens of a value have a tree, and every text that they are laid out in
spells that tree. -/
theorem tree_of_derives {tokens : List (List Char)} (h : Derives .value tokens) :
    ∃ node, ∀ s, Laid tokens s → IsText node (String.ofList s) := by
  obtain ⟨node, spelled⟩ := isSpelledBy_of_derives h
  refine ⟨node, fun s laid => ?_⟩
  obtain ⟨before, text, after, hbefore, htext, hafter, rfl⟩ :=
    spelled [] s ((List.append_nil tokens).symm ▸ laid)
  cases hafter with
  | nil hafter => exact ⟨before, text, after, hbefore, htext, hafter, rfl⟩

end Divert.Json
