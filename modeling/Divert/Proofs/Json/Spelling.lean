/-
# Divert.Proofs.Json.Spelling — texts and the trees that they spell.

A well-formed text is put together from its tokens, with any blanks between them, and has one tree.
`Spells` says which: there is a rule for each kind of value, and a string or a numeral is any text that
its reader takes as a whole.  The reader gives the tree of every text that is spelled.  Each nested
value is shorter than the text around it by at least one character, so the length of the text bounds
the depth of the calls.
-/
import Divert.Json.Document
import Divert.Json.Value

namespace Divert.Json

/-! ## Blanks -/

/-- Nothing but blanks. -/
def Blanks (s : List Char) : Prop := ∀ c ∈ s, isBlank c = true

/-- A character with any blanks before and after it. -/
def Mark (c : Char) (s : List Char) : Prop :=
  ∃ before after, Blanks before ∧ Blanks after ∧ s = before ++ c :: after

theorem blanks_nil : Blanks [] := fun _ h => by cases h

theorem skipBlanks_append {blanks : List Char} (h : Blanks blanks) (s : List Char) :
    skipBlanks (blanks ++ s) = skipBlanks s :=
  List.dropWhile_append_of_pos h

theorem skipBlanks_cons {c : Char} (h : isBlank c = false) (s : List Char) :
    skipBlanks (c :: s) = c :: s :=
  List.dropWhile_cons_of_neg (by simp [h])

theorem readValue_append {blanks : List Char} (h : Blanks blanks) (fuel : Nat) (s : List Char) :
    readValue fuel (blanks ++ s) = readValue fuel s := by
  cases fuel with
  | zero => rfl
  | succ fuel => rw [readValue, readValue, skipBlanks_append h]

/-! ## Ends of numerals -/

/-- A text that does not go on with a numeral. -/
def Ends (s : List Char) : Prop :=
  ∀ c t, s = c :: t → c.isDigit = false ∧ c ≠ '.' ∧ c ≠ 'e' ∧ c ≠ 'E'

theorem ends_nil : Ends [] := fun _ _ h => by cases h

theorem ends_cons {c : Char} (h : c.isDigit = false ∧ c ≠ '.' ∧ c ≠ 'e' ∧ c ≠ 'E') (s : List Char) :
    Ends (c :: s) := by
  rintro _ _ ⟨⟩
  exact h

theorem ends_blanks {blanks s : List Char} (h : Blanks blanks) (hs : Ends s) : Ends (blanks ++ s) := by
  cases blanks with
  | nil => exact hs
  | cons c rest =>
    apply ends_cons
    have hc := h c List.mem_cons_self
    simp only [isBlank, Bool.or_eq_true, decide_eq_true_eq] at hc
    rcases hc with ((rfl | rfl) | rfl) | rfl <;> decide

/-! ## Tokens -/

/-- The text of a string after its opening quote, up to the closing one: it can be skipped, and decoding
it gives `value`. -/
structure Quotes (value : Except Fault String) (s : List Char) : Prop where
  skipped : ∀ rest, skipChars (s ++ rest) = .ok rest
  decoded : ∀ rest, stringAt (s ++ rest) = value

/-- The text of a numeral after its sign: it starts with a digit, and is read as a whole. -/
structure Counts (numeral : Numeral) (s : List Char) : Prop where
  digit : ∃ c t, s = c :: t ∧ c.isDigit = true
  read : ∀ rest, Ends rest → Numeral.read numeral.negative (s ++ rest) = .ok (numeral, rest)

/-! ## Spelling -/

/-- What a part of a text can be. -/
inductive Part where
  /-- A value. -/
  | value (node : Node)
  /-- Items of a list, from the first of them to the closing bracket. -/
  | items (nodes : List Node)
  /-- Members of an object, from the first of them, after the opening quote of its name, to the closing
  brace. -/
  | members (entries : List (Except Fault String × Node))

/-- The texts of a part, without blanks around them. -/
inductive Spells : Part → List Char → Prop where
  | null : Spells (.value .null) ['n', 'u', 'l', 'l']
  | boolean (value : Bool) : Spells (.value (.boolean value)) (Value.truth value)
  | number {numeral : Numeral} {s : List Char} (token : Counts numeral s) :
      Spells (.value (.number numeral)) (if numeral.negative then '-' :: s else s)
  | string {value : Except Fault String} {s : List Char} (token : Quotes value s) :
      Spells (.value (.string value)) ('\x22' :: s)
  | emptyList {blanks : List Char} (h : Blanks blanks) :
      Spells (.value (.list [] .closed)) ('[' :: (blanks ++ [']']))
  | list {blanks s : List Char} {items : List Node} (h : Blanks blanks)
      (inside : Spells (.items items) s) :
      Spells (.value (.list items .closed)) ('[' :: (blanks ++ s))
  | emptyObject {blanks : List Char} (h : Blanks blanks) :
      Spells (.value (.object [] .closed)) ('\x7b' :: (blanks ++ ['\x7d']))
  | object {blanks s : List Char} {members : List (Except Fault String × Node)} (h : Blanks blanks)
      (inside : Spells (.members members) s) :
      Spells (.value (.object members .closed)) ('\x7b' :: (blanks ++ '\x22' :: s))
  | lastItem {s blanks : List Char} {item : Node} (first : Spells (.value item) s)
      (h : Blanks blanks) : Spells (.items [item]) (s ++ (blanks ++ [']']))
  | nextItem {s comma more : List Char} {item : Node} {items : List Node}
      (first : Spells (.value item) s) (hcomma : Mark ',' comma)
      (inside : Spells (.items items) more) :
      Spells (.items (item :: items)) (s ++ (comma ++ more))
  | lastMember {name colon s blanks : List Char} {key : Except Fault String} {node : Node}
      (token : Quotes key name) (hcolon : Mark ':' colon) (first : Spells (.value node) s)
      (h : Blanks blanks) :
      Spells (.members [(key, node)]) (name ++ (colon ++ (s ++ (blanks ++ ['\x7d']))))
  | nextMember {name colon s comma more : List Char} {key : Except Fault String} {node : Node}
      {members : List (Except Fault String × Node)} (token : Quotes key name)
      (hcolon : Mark ':' colon) (first : Spells (.value node) s) (hcomma : Mark ',' comma)
      (inside : Spells (.members members) more) :
      Spells (.members ((key, node) :: members))
        (name ++ (colon ++ (s ++ (comma ++ '\x22' :: more))))

/-- What it means that a part is read from a text, and that `rest` is the text after it. -/
def Part.IsRead (fuel : Nat) (s rest : List Char) : Part → Prop
  | value node => readValue fuel s = (node, some rest)
  | items nodes => readItems fuel s = (nodes, .closed, some rest)
  | members entries => readMembers fuel s = (entries, .closed, some rest)

/-! ## Reading tokens -/

theorem ne_of_isDigit {c other : Char} (h : c.isDigit = true) (hother : other.isDigit = false) :
    c ≠ other := by
  rintro rfl
  rw [h] at hother
  cases hother

theorem isBlank_of_isDigit {c : Char} (h : c.isDigit = true) : isBlank c = false := by
  simp [isBlank, ne_of_isDigit h]

theorem Mark.skipBlanks {c : Char} {s : List Char} (h : Mark c s) (hc : isBlank c = false) :
    ∃ after, Blanks after ∧ ∀ rest, skipBlanks (s ++ rest) = c :: (after ++ rest) := by
  obtain ⟨before, after, hbefore, hafter, rfl⟩ := h
  refine ⟨after, hafter, fun rest => ?_⟩
  rw [List.append_assoc, skipBlanks_append hbefore, List.cons_append, skipBlanks_cons hc]

theorem Mark.length_pos {c : Char} {s : List Char} (h : Mark c s) : 0 < s.length := by
  obtain ⟨before, after, -, -, rfl⟩ := h
  simp only [List.length_append, List.length_cons]
  omega

theorem Mark.ends {c : Char} {s : List Char} (h : Mark c s)
    (hc : c.isDigit = false ∧ c ≠ '.' ∧ c ≠ 'e' ∧ c ≠ 'E') (rest : List Char) : Ends (s ++ rest) := by
  obtain ⟨before, after, hbefore, -, rfl⟩ := h
  rw [List.append_assoc]
  exact ends_blanks hbefore (ends_cons hc _)

/-! ## Steps of the reader -/

theorem readValue_digit {c : Char} (h : c.isDigit = true) (fuel : Nat) (s : List Char) :
    readValue (fuel + 1) (c :: s) = readNumber false (c :: s) := by
  rw [readValue, skipBlanks_cons (isBlank_of_isDigit h)]
  split
  case h_1 heq => cases heq
  case h_9 c' rest _ _ _ _ _ _ _ heq =>
    obtain ⟨rfl, rfl⟩ := List.cons.inj heq
    rw [if_pos h]
  all_goals
    rename_i heq
    exact absurd (List.cons.inj heq).1 (ne_of_isDigit h rfl)

section

variable {fuel : Nat} {blanks colon comma s rest : List Char} {node : Node}

theorem readValue_list (h : Blanks blanks) {c : Char} (hc : isBlank c = false ∧ c ≠ ']') :
    readValue (fuel + 1) ('[' :: (blanks ++ c :: s)) =
      (.list (readItems fuel (c :: s)).1 (readItems fuel (c :: s)).2.1,
        (readItems fuel (c :: s)).2.2) := by
  rw [readValue, skipBlanks_cons (by decide)]
  simp only [skipBlanks_append h, skipBlanks_cons hc.1]
  split
  · next heq => cases heq
  · next heq => exact absurd (List.cons.inj heq).1 hc.2
  · rfl

theorem readValue_object (h : Blanks blanks) :
    readValue (fuel + 1) ('\x7b' :: (blanks ++ '\x22' :: s)) =
      (.object (readMembers fuel s).1 (readMembers fuel s).2.1, (readMembers fuel s).2.2) := by
  rw [readValue, skipBlanks_cons (by decide)]
  simp only [skipBlanks_append h, skipBlanks_cons (show isBlank '\x22' = false by decide)]

theorem readItems_last (first : readValue fuel s = (node, some (blanks ++ ']' :: rest)))
    (h : Blanks blanks) : readItems (fuel + 1) s = ([node], .closed, some rest) := by
  rw [readItems, first]
  simp only [skipBlanks_append h, skipBlanks_cons (show isBlank ']' = false by decide)]

theorem readItems_next {c : Char} (first : readValue fuel s = (node, some (comma ++ c :: rest)))
    (hcomma : Mark ',' comma) (hc : isBlank c = false ∧ c ≠ ']') :
    readItems (fuel + 1) s =
      (node :: (readItems fuel (c :: rest)).1, (readItems fuel (c :: rest)).2) := by
  obtain ⟨after, hafter, hskip⟩ := hcomma.skipBlanks (by decide)
  rw [readItems, first]
  simp only [hskip, skipBlanks_append hafter, skipBlanks_cons hc.1]
  split
  · next heq => cases heq
  · next heq => exact absurd (List.cons.inj heq).1 hc.2
  · rfl

theorem readMembers_last {t : List Char} (name : skipChars s = .ok (colon ++ t))
    (hcolon : Mark ':' colon) (first : readValue fuel t = (node, some (blanks ++ '\x7d' :: rest)))
    (h : Blanks blanks) : readMembers (fuel + 1) s = ([(stringAt s, node)], .closed, some rest) := by
  obtain ⟨after, hafter, hskip⟩ := hcolon.skipBlanks (by decide)
  rw [readMembers, name]
  simp only [hskip, readValue_append hafter, first, skipBlanks_append h,
    skipBlanks_cons (show isBlank '\x7d' = false by decide)]

theorem readMembers_next {t : List Char} (name : skipChars s = .ok (colon ++ t))
    (hcolon : Mark ':' colon)
    (first : readValue fuel t = (node, some (comma ++ '\x22' :: rest))) (hcomma : Mark ',' comma) :
    readMembers (fuel + 1) s =
      ((stringAt s, node) :: (readMembers fuel rest).1, (readMembers fuel rest).2) := by
  obtain ⟨afterColon, hafterColon, hskipColon⟩ := hcolon.skipBlanks (by decide)
  obtain ⟨after, hafter, hskip⟩ := hcomma.skipBlanks (by decide)
  rw [readMembers, name]
  simp only [hskipColon, readValue_append hafterColon, first, hskip, skipBlanks_append hafter,
    skipBlanks_cons (show isBlank '\x22' = false by decide)]

end

/-! ## Reading what is spelled -/

namespace Spells

/-- What a value starts with is no blank, and does not close the list around it. -/
theorem head {node : Node} {s : List Char} (h : Spells (.value node) s) :
    ∃ c t, s = c :: t ∧ isBlank c = false ∧ c ≠ ']' := by
  cases h with
  | null => exact ⟨_, _, rfl, by decide⟩
  | boolean value => cases value <;> exact ⟨_, _, rfl, by decide⟩
  | @number numeral s token =>
    split
    · exact ⟨_, _, rfl, by decide⟩
    · obtain ⟨c, t, rfl, hc⟩ := token.digit
      exact ⟨c, t, rfl, isBlank_of_isDigit hc, ne_of_isDigit hc rfl⟩
  | string | emptyList | list | emptyObject | object => exact ⟨_, _, rfl, by decide⟩

/-- Items start with a value. -/
theorem head_items {nodes : List Node} {s : List Char} (h : Spells (.items nodes) s) :
    ∃ c t, s = c :: t ∧ isBlank c = false ∧ c ≠ ']' := by
  cases h with
  | lastItem first _ | nextItem first _ _ =>
    obtain ⟨c, t, rfl, hc⟩ := first.head
    exact ⟨c, _, rfl, hc⟩

theorem length_pos {part : Part} {s : List Char} (h : Spells part s) : 0 < s.length := by
  cases part with
  | value node =>
    obtain ⟨c, t, rfl, -⟩ := h.head
    exact Nat.succ_pos _
  | items nodes =>
    obtain ⟨c, t, rfl, -⟩ := h.head_items
    exact Nat.succ_pos _
  | members entries =>
    cases h with
    | lastMember | nextMember => simp only [List.length_append, List.length_cons]; omega

/-- **Spelled texts are read.** The reader gives the part that a text spells, and the text after it. -/
theorem isRead {part : Part} {s : List Char} (h : Spells part s) {fuel : Nat}
    (enough : s.length ≤ fuel) {rest : List Char} (ends : Ends rest) :
    part.IsRead fuel (s ++ rest) rest := by
  -- One call reads the outermost rule; the parts inside are shorter, so the calls left suffice for them.
  induction fuel generalizing part s rest with
  | zero => exact absurd h.length_pos (by omega)
  | succ fuel ih =>
    cases h with
    | null => exact rfl
    | boolean value => cases value <;> exact rfl
    | @number numeral s token =>
      have read := token.read rest ends
      obtain ⟨c, t, rfl, hc⟩ := token.digit
      show readValue _ _ = _
      cases hsign : numeral.negative with
      | true =>
        rw [hsign] at read
        show readNumber true (c :: t ++ rest) = _
        rw [readNumber, read]
      | false =>
        rw [hsign] at read
        show readValue (fuel + 1) (c :: (t ++ rest)) = _
        rw [readValue_digit hc, readNumber, ← List.cons_append, read]
    | @string value s token =>
      show readString (s ++ rest) = _
      rw [readString, token.skipped, token.decoded]
    | emptyList h =>
      simp only [Part.IsRead, List.cons_append, List.append_assoc, List.nil_append]
      rw [readValue, skipBlanks_cons (by decide)]
      simp only [skipBlanks_append h, skipBlanks_cons (show isBlank ']' = false by decide)]
    | @list blanks s items h inside =>
      obtain ⟨c, t, rfl, hc⟩ := inside.head_items
      simp only [List.length_append, List.length_cons] at enough
      have read : readItems fuel (c :: t ++ rest) = (items, .closed, some rest) :=
        ih inside (by rw [List.length_cons]; omega) ends
      simp only [Part.IsRead, List.cons_append, List.append_assoc] at read ⊢
      rw [readValue_list h hc, read]
    | emptyObject h =>
      simp only [Part.IsRead, List.cons_append, List.append_assoc, List.nil_append]
      rw [readValue, skipBlanks_cons (by decide)]
      simp only [skipBlanks_append h, skipBlanks_cons (show isBlank '\x7d' = false by decide)]
    | @object blanks s members h inside =>
      simp only [List.length_append, List.length_cons] at enough
      have read : readMembers fuel (s ++ rest) = (members, .closed, some rest) :=
        ih inside (by omega) ends
      simp only [Part.IsRead, List.cons_append, List.append_assoc]
      rw [readValue_object h, read]
    | @lastItem s blanks item first h =>
      simp only [List.length_append, List.length_cons] at enough
      have read : readValue fuel (s ++ (blanks ++ ']' :: rest)) = (item, _) :=
        ih first (by omega) (ends_blanks h (ends_cons (by decide) rest))
      simp only [Part.IsRead, List.cons_append, List.append_assoc, List.nil_append]
      exact readItems_last read h
    | @nextItem s comma more item items first hcomma inside =>
      obtain ⟨c, t, rfl, hc⟩ := inside.head_items
      have short := hcomma.length_pos
      simp only [List.length_append, List.length_cons] at enough
      have read : readValue fuel (s ++ (comma ++ (c :: t ++ rest))) = (item, _) :=
        ih first (by omega) (hcomma.ends (by decide) _)
      have others : readItems fuel (c :: t ++ rest) = (items, .closed, some rest) :=
        ih inside (by rw [List.length_cons]; omega) ends
      simp only [Part.IsRead, List.cons_append, List.append_assoc] at read others ⊢
      rw [readItems_next read hcomma hc, others]
    | @lastMember name colon s blanks key node token hcolon first h =>
      have short := hcolon.length_pos
      simp only [List.length_append, List.length_cons] at enough
      have read : readValue fuel (s ++ (blanks ++ '\x7d' :: rest)) = (node, _) :=
        ih first (by omega) (ends_blanks h (ends_cons (by decide) rest))
      simp only [Part.IsRead, List.cons_append, List.append_assoc, List.nil_append]
      rw [readMembers_last (token.skipped _) hcolon read h, token.decoded]
    | @nextMember name colon s comma more key node members token hcolon first hcomma inside =>
      have short := hcolon.length_pos
      simp only [List.length_append, List.length_cons] at enough
      have read : readValue fuel (s ++ (comma ++ '\x22' :: (more ++ rest))) = (node, _) :=
        ih first (by omega) (hcomma.ends (by decide) _)
      have others : readMembers fuel (more ++ rest) = (members, .closed, some rest) :=
        ih inside (by omega) ends
      simp only [Part.IsRead, List.cons_append, List.append_assoc]
      rw [readMembers_next (token.skipped _) hcolon read hcomma, token.decoded, others]

end Spells

/-! ## Whole documents -/

/-- The text spells the tree, with any blanks before and after it. -/
def IsText (node : Node) (text : String) : Prop :=
  ∃ before s after, Blanks before ∧ Spells (.value node) s ∧ Blanks after ∧
    text = String.ofList (before ++ (s ++ after))

/-- **Spelled documents.** A text is read as the tree that it spells. -/
theorem IsText.ofText {node : Node} {text : String} (h : IsText node text) :
    Document.ofText text = ⟨node, false⟩ := by
  obtain ⟨before, s, after, hbefore, hs, hafter, rfl⟩ := h
  have ends : Ends after := List.append_nil after ▸ ends_blanks hafter ends_nil
  have read (fuel : Nat) (enough : s.length ≤ fuel) :
      readValue fuel (s ++ after) = (node, some after) :=
    hs.isRead enough ends
  have gone : skipBlanks after = [] := by
    rw [← List.append_nil after, skipBlanks_append hafter]
    rfl
  rw [Document.ofText, String.toList_ofList, readValue_append hbefore, read _ (by simp; omega)]
  simp [gone]

/-- A text has one tree at most. -/
theorem IsText.unique {node other : Node} {text : String} (h : IsText node text)
    (h' : IsText other text) : other = node :=
  (Document.mk.inj (h'.ofText.symm.trans h.ofText)).1

end Divert.Json
