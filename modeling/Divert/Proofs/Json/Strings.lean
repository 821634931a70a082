/-
# Divert.Proofs.Json.Strings — the grammar of strings.

Between its quotes a string has characters, escapes by letter and escapes by number.  A string of the
grammar is a token: it is skipped and decoded alike whatever comes after its closing quote.  That takes
an argument because decoding looks ahead: the first half of a surrogate pair goes on with the second.
Decoding may still fail, where a half stands alone; such a string is well-formed, and has no value.
-/
import Divert.Proofs.Json.Spelling

namespace Divert.Json

/-! ## The grammar of strings -/

/-- The digits of an escape by number. -/
def hexLetters : List Char := "0123456789abcdefABCDEF".toList

/-- The letters of the escapes by letter. -/
def escapeLetters : List Char := ['\x22', '\\', '/', 'b', 'f', 'n', 'r', 't']

/-- The characters between the quotes of a string. -/
inductive StringText : List Char → Prop where
  | nil : StringText []
  | plain {c : Char} {s : List Char} (quote : c ≠ '\x22') (backslash : c ≠ '\\')
      (shown : 0x20 ≤ c.toNat) (rest : StringText s) : StringText (c :: s)
  | letter {c : Char} {s : List Char} (h : c ∈ escapeLetters) (rest : StringText s) :
      StringText ('\\' :: c :: s)
  | number {a b c d : Char} {s : List Char} (ha : a ∈ hexLetters) (hb : b ∈ hexLetters)
      (hc : c ∈ hexLetters) (hd : d ∈ hexLetters) (rest : StringText s) :
      StringText ('\\' :: 'u' :: a :: b :: c :: d :: s)

/-! ## Reading character by character -/

/-- What decoding makes of the text after the first half of a surrogate pair. -/
def decodePair (high : Nat) : List Char → Except Fault (List Char × List Char)
  | [] | ['\\'] => .error .endInString
  | '\\' :: 'u' :: s =>
    match s with
    | e :: f :: g :: h :: s =>
      match hexNumber? e f g h with
      | none => .error (badHex (e :: f :: g :: h :: s))
      | some low =>
        if isLowSurrogate low then prepend (pairChar high low) (decodeChars s)
        else .error .loneSurrogate
    | s => .error (badHex s)
  | _ => .error .endOfHexEscape

section Strings

variable {a b c d : Char} {s t : List Char} {n : Nat}

theorem decodeChars_cons (backslash : c ≠ '\\') :
    decodeChars (c :: s) =
      if c = '\x22' then .ok ([], s)
      else if c.toNat < 0x20 then .error .controlCharacter
      else prepend c (decodeChars s) := by
  rw [decodeChars.eq_def]
  simp only [if_neg backslash]

theorem skipChars_cons (backslash : c ≠ '\\') :
    skipChars (c :: s) =
      if c = '\x22' then .ok s
      else if c.toNat < 0x20 then .error .controlCharacter
      else skipChars s := by
  rw [skipChars.eq_def]
  simp only [if_neg backslash]

theorem decodeChars_letter (h : letterEscape? c = some d) (hu : c ≠ 'u') :
    decodeChars ('\\' :: c :: s) = prepend d (decodeChars s) := by
  rw [decodeChars.eq_def]
  simp [h]

theorem skipChars_letter (h : letterEscape? c = some d) (hu : c ≠ 'u') :
    skipChars ('\\' :: c :: s) = skipChars s := by
  rw [skipChars.eq_def]
  simp [h]

theorem decodeChars_hex (h : hexNumber? a b c d = some n) :
    decodeChars ('\\' :: 'u' :: a :: b :: c :: d :: s) =
      if isLowSurrogate n then .error .loneSurrogate
      else if isHighSurrogate n then decodePair n s
      else prepend (Char.ofNat n) (decodeChars s) := by
  rw [decodeChars.eq_def]
  simp only [h]
  rfl

theorem skipChars_hex (h : hexNumber? a b c d = some n) :
    skipChars ('\\' :: 'u' :: a :: b :: c :: d :: s) = skipChars s := by
  rw [skipChars.eq_def]
  simp [h]

theorem decodeChars_quote : decodeChars ('\x22' :: s) = .ok ([], s) :=
  (decodeChars_cons (by decide)).trans (if_pos rfl)

theorem skipChars_quote : skipChars ('\x22' :: s) = .ok s :=
  (skipChars_cons (by decide)).trans (if_pos rfl)

theorem decodeChars_plain (quote : c ≠ '\x22') (backslash : c ≠ '\\') (shown : ¬ c.toNat < 0x20) :
    decodeChars (c :: s) = prepend c (decodeChars s) := by
  rw [decodeChars_cons backslash, if_neg quote, if_neg shown]

theorem skipChars_plain (quote : c ≠ '\x22') (backslash : c ≠ '\\') (shown : ¬ c.toNat < 0x20) :
    skipChars (c :: s) = skipChars s := by
  rw [skipChars_cons backslash, if_neg quote, if_neg shown]

/-! ## Strings of the grammar are skipped -/

theorem letterEscape_of_mem : ∀ c ∈ escapeLetters, c ≠ 'u' ∧ ∃ d, letterEscape? c = some d := by
  simp [escapeLetters, letterEscape?]

theorem hexDigit_of_mem (h : c ∈ hexLetters) : (hexDigit? c).isSome = true := by
  have all : hexLetters.all (fun c => (hexDigit? c).isSome) = true := by decide
  exact List.all_eq_true.1 all c h

theorem hexNumber_of_mem (ha : a ∈ hexLetters) (hb : b ∈ hexLetters) (hc : c ∈ hexLetters)
    (hd : d ∈ hexLetters) : ∃ n, hexNumber? a b c d = some n := by
  obtain ⟨p, hp⟩ := Option.isSome_iff_exists.1 (hexDigit_of_mem ha)
  obtain ⟨q, hq⟩ := Option.isSome_iff_exists.1 (hexDigit_of_mem hb)
  obtain ⟨r, hr⟩ := Option.isSome_iff_exists.1 (hexDigit_of_mem hc)
  obtain ⟨t, ht⟩ := Option.isSome_iff_exists.1 (hexDigit_of_mem hd)
  exact ⟨((p * 16 + q) * 16 + r) * 16 + t, by simp [hexNumber?, hp, hq, hr, ht]⟩

/-- A string of the grammar is skipped up to its closing quote. -/
theorem skipChars_of_stringText (h : StringText s) (rest : List Char) :
    skipChars (s ++ '\x22' :: rest) = .ok rest := by
  induction h with
  | nil => exact skipChars_quote
  | plain quote backslash shown _ ih =>
    rw [List.cons_append, skipChars_plain quote backslash (Nat.not_lt.2 shown), ih]
  | letter h _ ih =>
    obtain ⟨hu, d, hd⟩ := letterEscape_of_mem _ h
    rw [List.cons_append, List.cons_append, skipChars_letter hd hu, ih]
  | number ha hb hc hd _ ih =>
    obtain ⟨n, hn⟩ := hexNumber_of_mem ha hb hc hd
    simp only [List.cons_append]
    rw [skipChars_hex hn, ih]

/-! ## Decoding stops at the closing quote -/

/-- What is read from a text up to a quote does not depend on the text after the quote. -/
def Alone (read : List Char → Except Fault (List Char × List Char)) (s : List Char) : Prop :=
  ∃ result : Except Fault (List Char), ∀ rest,
    read (s ++ '\x22' :: rest) = (fun chars => (chars, rest)) <$> result

variable {read : List Char → Except Fault (List Char × List Char)}

theorem Alone.of_error {f : Fault} (h : ∀ rest, read (s ++ '\x22' :: rest) = .error f) :
    Alone read s :=
  ⟨.error f, h⟩

theorem Alone.of_prepend (own : Alone decodeChars s)
    (h : ∀ rest, read (t ++ '\x22' :: rest) = prepend c (decodeChars (s ++ '\x22' :: rest))) :
    Alone read t := by
  obtain ⟨result, hresult⟩ := own
  refine ⟨(c :: ·) <$> result, fun rest => ?_⟩
  rw [h, hresult]
  cases result <;> rfl

/-- An escape by number decodes to its character, or is half of a surrogate pair.  The second half cannot
stand alone, so all depends on what decoding makes of the text after the first one. -/
theorem Alone.hex (h : hexNumber? a b c d = some n) (own : Alone decodeChars s)
    (pair : Alone (decodePair n) s) :
    Alone decodeChars ('\\' :: 'u' :: a :: b :: c :: d :: s) := by
  have read (rest : List Char) := decodeChars_hex (s := s ++ '\x22' :: rest) h
  cases low : isLowSurrogate n with
  | true =>
    apply Alone.of_error
    intro rest
    exact (read rest).trans (if_pos low)
  | false =>
    cases high : isHighSurrogate n with
    | true =>
      obtain ⟨result, hresult⟩ := pair
      refine ⟨result, fun rest => ?_⟩
      rw [← hresult rest]
      exact (read rest).trans ((if_neg (Bool.eq_false_iff.1 low)).trans (if_pos high))
    | false =>
      apply own.of_prepend
      intro rest
      exact (read rest).trans
        ((if_neg (Bool.eq_false_iff.1 low)).trans (if_neg (Bool.eq_false_iff.1 high)))

theorem decodePair_of_ne (h : c ≠ '\\') : decodePair n (c :: s) = .error .endOfHexEscape := by
  simp [decodePair, h]

theorem decodePair_letter (h : c ≠ 'u') : decodePair n ('\\' :: c :: s) = .error .endOfHexEscape := by
  simp [decodePair, h]

theorem decodePair_hex {m : Nat} (h : hexNumber? a b c d = some m) :
    decodePair n ('\\' :: 'u' :: a :: b :: c :: d :: s) =
      if isLowSurrogate m then prepend (pairChar n m) (decodeChars s)
      else .error .loneSurrogate := by
  simp [decodePair, h]

/-- A string of the grammar is decoded up to its closing quote, also after the first half of a surrogate
pair: looking for the second half ends at the quote at the latest. -/
theorem alone_of_stringText (h : StringText s) :
    Alone decodeChars s ∧ ∀ n, Alone (decodePair n) s := by
  induction h with
  | nil =>
    refine ⟨⟨.ok [], fun _ => decodeChars_quote⟩, fun n => ?_⟩
    exact .of_error fun rest => decodePair_of_ne (by decide)
  | plain quote backslash shown _ ih =>
    refine ⟨ih.1.of_prepend fun rest => decodeChars_plain quote backslash (Nat.not_lt.2 shown), ?_⟩
    exact fun n => .of_error fun rest => decodePair_of_ne backslash
  | letter h _ ih =>
    obtain ⟨hu, d, hd⟩ := letterEscape_of_mem _ h
    refine ⟨ih.1.of_prepend fun rest => decodeChars_letter hd hu, ?_⟩
    exact fun n => .of_error fun rest => decodePair_letter hu
  | number ha hb hc hd _ ih =>
    obtain ⟨m, hm⟩ := hexNumber_of_mem ha hb hc hd
    refine ⟨ih.1.hex hm (ih.2 m), fun n => ?_⟩
    -- Two halves in a row are a pair if the second one is a second half.
    cases second : isLowSurrogate m with
    | true => exact ih.1.of_prepend fun rest => (decodePair_hex hm).trans (if_pos second)
    | false =>
      apply Alone.of_error
      intro rest
      exact (decodePair_hex hm).trans (if_neg (Bool.eq_false_iff.1 second))

/-- **Strings.** Every string of the grammar is a token. -/
theorem quotes_of_stringText (h : StringText s) :
    ∃ value, Quotes value (s ++ ['\x22']) := by
  obtain ⟨result, hresult⟩ := (alone_of_stringText h).1
  refine ⟨String.ofList <$> result, ?_, ?_⟩
  · intro rest
    rw [List.append_assoc]
    exact skipChars_of_stringText h rest
  · intro rest
    rw [List.append_assoc, List.singleton_append, stringAt, hresult]
    cases result <;> rfl

end Strings

end Divert.Json
