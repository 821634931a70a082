/-
# Divert.Proofs.Json.Written — what is written can be read.

A value that is written is well-formed text, in one line as well as in indented lines: it spells the
tree of the value.  A string may hold any characters; the ones that must not stand in a text are
escaped, and the escape of each decodes to that character.  Numbers are natural numbers, written without
leading zeros, and their value is exact as long as it fits 64 bits.
-/
import Divert.Proofs.Json.Numerals
import Divert.Proofs.Json.Strings
import Mathlib.Tactic.SplitIfs

namespace Divert.Json

/-! ## Strings -/

/-- The number of a control character, as it is written. -/
theorem hexNumber_control : ∀ n < 0x20,
    hexNumber? '0' '0' (Nat.digitChar (n / 16)) (Nat.digitChar (n % 16)) = some n := by
  decide

theorem decodeChars_encodeChar (c : Char) (s : List Char) :
    decodeChars (encodeChar c ++ s) = prepend c (decodeChars s) := by
  simp only [encodeChar]
  split_ifs with quote backslash backspace feed line carriage tab control
  · subst quote; rfl
  · subst backslash; rfl
  · subst backspace; rfl
  · subst feed; rfl
  · subst line; rfl
  · subst carriage; rfl
  · subst tab; rfl
  · have low : ¬ isLowSurrogate c.toNat = true := by simp [isLowSurrogate]; omega
    have high : ¬ isHighSurrogate c.toNat = true := by simp [isHighSurrogate]; omega
    have read := decodeChars_hex (s := s) (hexNumber_control c.toNat control)
    rw [if_neg low, if_neg high, Char.ofNat_toNat] at read
    exact read
  · exact decodeChars_plain quote backslash control

theorem skipChars_encodeChar (c : Char) (s : List Char) :
    skipChars (encodeChar c ++ s) = skipChars s := by
  simp only [encodeChar]
  split_ifs with quote backslash backspace feed line carriage tab control
  any_goals rfl
  · exact skipChars_hex (hexNumber_control c.toNat control)
  · exact skipChars_plain quote backslash control

/-- Decoding the escaped characters of a string gives the string. -/
theorem decodeChars_encoded (chars rest : List Char) :
    decodeChars (chars.flatMap encodeChar ++ '\x22' :: rest) = .ok (chars, rest) := by
  induction chars with
  | nil => exact decodeChars_quote
  | cons c chars ih =>
    rw [List.flatMap_cons, List.append_assoc, decodeChars_encodeChar, ih]
    rfl

theorem skipChars_encoded (chars rest : List Char) :
    skipChars (chars.flatMap encodeChar ++ '\x22' :: rest) = .ok rest := by
  induction chars with
  | nil => exact skipChars_quote
  | cons c chars ih => rw [List.flatMap_cons, List.append_assoc, skipChars_encodeChar, ih]

/-- The escaped characters of a string up to its closing quote. -/
theorem quotes_encoded (s : String) : Quotes (.ok s) (s.toList.flatMap encodeChar ++ ['\x22']) where
  skipped rest := by
    rw [List.append_assoc]
    exact skipChars_encoded _ _
  decoded rest := by
    rw [List.append_assoc, List.singleton_append, stringAt, decodeChars_encoded]
    exact congrArg Except.ok String.ofList_toList

/-! ## Numbers -/

/-- A natural number as it is written. -/
def Numeral.ofNat (n : Nat) : Numeral := ⟨false, Nat.toDigits 10 n, [], none⟩

section Numbers

theorem wholeText_toDigits (n : Nat) : WholeText (Nat.toDigits 10 n) where
  some := Nat.toDigits_ne_nil
  all _ := isDigit_of_mem_digits
  leading zero := by
    by_cases h : n = 0
    · rw [h]
      rfl
    · exact absurd zero (head_digits h)

theorem counts_ofNat (n : Nat) : Counts (.ofNat n) (Nat.toDigits 10 n) := by
  have text := counts_of_numeralText (.intro false (wholeText_toDigits n) .none .none)
  rwa [List.append_nil, List.append_nil] at text

theorem le_ofDigitChars (digits : List Char) (start : Nat) :
    start ≤ Nat.ofDigitChars 10 digits start := by
  induction digits generalizing start with
  | nil => exact Nat.le_refl start
  | cons c rest ih =>
    rw [Nat.ofDigitChars_cons]
    exact Nat.le_trans (by omega) (ih _)

/-- Digits whose number fits 64 bits all belong to the significand. -/
theorem significand_eq {digits : List Char} {start : Nat}
    (h : Nat.ofDigitChars 10 digits start ≤ Numeral.maxSignificand) :
    Numeral.significand start digits = (Nat.ofDigitChars 10 digits start, []) := by
  induction digits generalizing start with
  | nil => rfl
  | cons c rest ih =>
    rw [Nat.ofDigitChars_cons, Nat.mul_comm] at h ⊢
    have next := Nat.le_trans (le_ofDigitChars rest _) h
    rw [Numeral.significand, if_pos next, ih h]

theorem value_ofNat {n : Nat} (h : n ≤ Numeral.maxSignificand) :
    (Numeral.ofNat n).value = .ok (.integer n) := by
  have all : Numeral.significand 0 (Nat.toDigits 10 n) = (n, []) := by
    rw [significand_eq] <;> rw [Nat.ofDigitChars_ten_toDigits]
    exact h
  rw [Numeral.value, Numeral.ofNat, all]
  rfl

end Numbers

/-! ## Values -/

namespace Value

mutual

/-- The tree of a value. -/
def node : Value → Node
  | boolean value => .boolean value
  | number value => .number (.ofNat value)
  | string value => .string (.ok value)
  | list items => .list (nodes items) .closed
  | object members => .object (entries members) .closed

/-- The trees of some items. -/
def nodes : List Value → List Node
  | [] => []
  | item :: rest => node item :: nodes rest

/-- The trees of some members, with their names. -/
def entries : List (String × Value) → List (Except Fault String × Node)
  | [] => []
  | member :: rest => (.ok member.1, node member.2) :: entries rest

end

/-- What stands between the brackets of a list: with any blanks and the closing bracket after it, the text
spells the items, after blanks of its own. -/
def ItemsLaid (items : List Node) (s : List Char) : Prop :=
  ∀ after, Blanks after → ∃ before text, Blanks before ∧ s ++ (after ++ [']']) = before ++ text ∧
    Spells (.items items) text

/-- What stands between the braces of an object: with any blanks and the closing brace after it, the text
spells the members, after blanks of its own. -/
def MembersLaid (members : List (Except Fault String × Node)) (s : List Char) : Prop :=
  ∀ after, Blanks after → ∃ before text, Blanks before ∧
    s ++ (after ++ ['\x7d']) = before ++ '\x22' :: text ∧ Spells (.members members) text

section Laid

variable {before after colon s more : List Char} {item : Node} {items : List Node}
  {members : List (Except Fault String × Node)}

theorem itemsLaid_one (hbefore : Blanks before) (first : Spells (.value item) s) :
    ItemsLaid [item] (before ++ s) := by
  intro after hafter
  exact ⟨before, _, hbefore, List.append_assoc .., .lastItem first hafter⟩

theorem itemsLaid_next (hbefore : Blanks before) (first : Spells (.value item) s)
    (inside : ItemsLaid items more) : ItemsLaid (item :: items) (before ++ s ++ ',' :: more) := by
  intro after hafter
  obtain ⟨between, text, hbetween, htext, hspells⟩ := inside after hafter
  have comma : Mark ',' (',' :: between) := ⟨[], between, blanks_nil, hbetween, rfl⟩
  refine ⟨before, _, hbefore, ?_, .nextItem first comma hspells⟩
  simp only [List.append_assoc, List.cons_append, htext]

theorem spells_list (inside : ItemsLaid items s) (hafter : Blanks after) :
    Spells (.value (.list items .closed)) ('[' :: s ++ (after ++ [']'])) := by
  obtain ⟨before, text, hbefore, htext, hspells⟩ := inside after hafter
  rw [List.cons_append, htext]
  exact .list hbefore hspells

theorem membersLaid_one (name : String) (hbefore : Blanks before) (hcolon : Mark ':' colon)
    (first : Spells (.value item) s) :
    MembersLaid [(.ok name, item)] (before ++ encode name ++ colon ++ s) := by
  intro after hafter
  refine ⟨before, _, hbefore, ?_, .lastMember (quotes_encoded name) hcolon first hafter⟩
  simp only [encode, List.append_assoc, List.cons_append]

theorem membersLaid_next (name : String) (hbefore : Blanks before) (hcolon : Mark ':' colon)
    (first : Spells (.value item) s) (inside : MembersLaid members more) :
    MembersLaid ((.ok name, item) :: members) (before ++ encode name ++ colon ++ s ++ ',' :: more) := by
  intro after hafter
  obtain ⟨between, text, hbetween, htext, hspells⟩ := inside after hafter
  have comma : Mark ',' (',' :: between) := ⟨[], between, blanks_nil, hbetween, rfl⟩
  refine ⟨before, _, hbefore, ?_, .nextMember (quotes_encoded name) hcolon first comma hspells⟩
  simp only [encode, List.append_assoc, List.cons_append, htext]

theorem spells_object (inside : MembersLaid members s) (hafter : Blanks after) :
    Spells (.value (.object members .closed)) ('\x7b' :: s ++ (after ++ ['\x7d'])) := by
  obtain ⟨before, text, hbefore, htext, hspells⟩ := inside after hafter
  rw [List.cons_append, htext]
  exact .object hbefore hspells

end Laid

/-! ### In one line -/

theorem mark_colon : Mark ':' [':'] := ⟨[], [], blanks_nil, blanks_nil, rfl⟩

mutual

theorem spells_line : (value : Value) → Spells (.value value.node) value.line
  | boolean value => .boolean value
  | number value => .number (counts_ofNat value)
  | string value => .string (quotes_encoded value)
  | list [] => .emptyList blanks_nil
  | list (item :: rest) => spells_list (itemsLaid_line (item :: rest) (List.cons_ne_nil _ _)) blanks_nil
  | object [] => .emptyObject blanks_nil
  | object (member :: rest) =>
    spells_object (membersLaid_line (member :: rest) (List.cons_ne_nil _ _)) blanks_nil

theorem itemsLaid_line : (items : List Value) → items ≠ [] →
    ItemsLaid (nodes items) (lineItems items)
  | [], h => absurd rfl h
  | [item], _ => itemsLaid_one blanks_nil (spells_line item)
  | item :: next :: rest, _ =>
    itemsLaid_next blanks_nil (spells_line item)
      (itemsLaid_line (next :: rest) (List.cons_ne_nil _ _))

theorem membersLaid_line : (members : List (String × Value)) → members ≠ [] →
    MembersLaid (entries members) (lineMembers members)
  | [], h => absurd rfl h
  | [(name, value)], _ => by
    have laid := membersLaid_one name blanks_nil mark_colon (spells_line value)
    simpa [lineMembers, entries] using laid
  | (name, value) :: next :: rest, _ => by
    have laid := membersLaid_next name blanks_nil mark_colon (spells_line value)
      (membersLaid_line (next :: rest) (List.cons_ne_nil _ _))
    simpa [lineMembers, entries] using laid

end

/-! ### In indented lines -/

theorem mark_colon_blank : Mark ':' [':', ' '] :=
  ⟨[], [' '], blanks_nil, fun _ h => by rw [List.mem_singleton.1 h]; rfl, rfl⟩

theorem blanks_newline (depth : Nat) : Blanks (newline depth) := by
  intro c hc
  rcases List.mem_cons.1 hc with rfl | hc
  · rfl
  · rw [List.eq_of_mem_replicate hc]
    rfl

mutual

theorem spells_lines (depth : Nat) : (value : Value) → Spells (.value value.node) (lines depth value)
  | boolean value => .boolean value
  | number value => .number (counts_ofNat value)
  | string value => .string (quotes_encoded value)
  | list [] => .emptyList blanks_nil
  | list (item :: rest) => by
    have spells := spells_list (itemsLaid_lines (depth + 1) (item :: rest) (List.cons_ne_nil _ _))
      (blanks_newline depth)
    simpa [lines, node] using spells
  | object [] => .emptyObject blanks_nil
  | object (member :: rest) => by
    have spells := spells_object
      (membersLaid_lines (depth + 1) (member :: rest) (List.cons_ne_nil _ _)) (blanks_newline depth)
    simpa [lines, node] using spells

theorem itemsLaid_lines (depth : Nat) : (items : List Value) → items ≠ [] →
    ItemsLaid (nodes items) (linesItems depth items)
  | [], h => absurd rfl h
  | [item], _ => itemsLaid_one (blanks_newline depth) (spells_lines depth item)
  | item :: next :: rest, _ =>
    itemsLaid_next (blanks_newline depth) (spells_lines depth item)
      (itemsLaid_lines depth (next :: rest) (List.cons_ne_nil _ _))

theorem membersLaid_lines (depth : Nat) : (members : List (String × Value)) → members ≠ [] →
    MembersLaid (entries members) (linesMembers depth members)
  | [], h => absurd rfl h
  | [(name, value)], _ =>
    membersLaid_one name (blanks_newline depth) mark_colon_blank (spells_lines depth value)
  | (name, value) :: next :: rest, _ =>
    membersLaid_next name (blanks_newline depth) mark_colon_blank (spells_lines depth value)
      (membersLaid_lines depth (next :: rest) (List.cons_ne_nil _ _))

end

/-! ### Whole documents -/

theorem isText_compact (value : Value) : IsText value.node value.compact := by
  refine ⟨[], value.line, [], blanks_nil, value.spells_line, blanks_nil, ?_⟩
  rw [List.nil_append, List.append_nil, compact]

theorem isText_pretty (value : Value) : IsText value.node value.pretty := by
  refine ⟨[], value.lines 0, [], blanks_nil, spells_lines 0 value, blanks_nil, ?_⟩
  rw [List.nil_append, List.append_nil, pretty]

/-- **Written documents.** The compact text of a value is read as the tree of the value. -/
theorem ofText_compact (value : Value) : Document.ofText value.compact = ⟨value.node, false⟩ :=
  value.isText_compact.ofText

/-- **Written documents.** So is its text in indented lines. -/
theorem ofText_pretty (value : Value) : Document.ofText value.pretty = ⟨value.node, false⟩ :=
  value.isText_pretty.ofText

end Value

end Divert.Json
