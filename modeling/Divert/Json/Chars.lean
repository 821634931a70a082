/-
# Divert.Json.Chars — the characters of a string, escaped and plain.

A string whose value is asked for is decoded; a string that is skipped only has to be well formed, so
its halves of a surrogate pair may stand alone.  Both readers start after the opening quote and give
the text after the closing one.
-/
import Divert.Json.Fault

namespace Divert.Json

/-! ## Hexadecimal escapes -/

/-- The value of a hexadecimal digit in either case. -/
def hexDigit? (c : Char) : Option Nat :=
  if '0' ≤ c ∧ c ≤ '9' then some (c.toNat - '0'.toNat)
  else if 'a' ≤ c ∧ c ≤ 'f' then some (c.toNat - 'a'.toNat + 10)
  else if 'A' ≤ c ∧ c ≤ 'F' then some (c.toNat - 'A'.toNat + 10)
  else none

/-- The number of four hexadecimal digits. -/
def hexNumber? (a b c d : Char) : Option Nat := do
  let a ← hexDigit? a
  let b ← hexDigit? b
  let c ← hexDigit? c
  let d ← hexDigit? d
  return ((a * 16 + b) * 16 + c) * 16 + d

/-- What is wrong where four hexadecimal digits should stand: an escape takes four bytes, and the text
may not have as many. -/
def badHex (s : List Char) : Fault :=
  if (String.ofList s).utf8ByteSize < 4 then .endInString else .invalidEscape

/-- The first half of a surrogate pair. -/
def isHighSurrogate (n : Nat) : Bool := decide (0xD800 ≤ n ∧ n ≤ 0xDBFF)

/-- The second half of a surrogate pair. -/
def isLowSurrogate (n : Nat) : Bool := decide (0xDC00 ≤ n ∧ n ≤ 0xDFFF)

/-- The character of a surrogate pair. -/
def pairChar (high low : Nat) : Char :=
  Char.ofNat (0x10000 + (high - 0xD800) * 0x400 + (low - 0xDC00))

/-! ## Escapes by letter -/

/-- The character that a letter after the backslash stands for. -/
def letterEscape? (c : Char) : Option Char :=
  if c = '\x22' ∨ c = '\\' ∨ c = '/' then some c
  else if c = 'b' then some '\x08'
  else if c = 'f' then some '\x0c'
  else if c = 'n' then some '\n'
  else if c = 'r' then some '\r'
  else if c = 't' then some '\t'
  else none

/-- Put a character in front of what is read after it. -/
def prepend (c : Char) : Except Fault (List Char × List Char) → Except Fault (List Char × List Char)
  | .ok (chars, rest) => .ok (c :: chars, rest)
  | .error fault => .error fault

/-! ## Decoding -/

/-- The characters up to the closing quote and the text after it. -/
def decodeChars : List Char → Except Fault (List Char × List Char)
  | [] => .error .endInString
  | c :: s =>
    if c = '\x22' then .ok ([], s)
    else if c = '\\' then
      match s with
      | [] => .error .endInString
      | 'u' :: s =>
        match s with
        | a :: b :: c :: d :: s =>
          match hexNumber? a b c d with
          | none => .error (badHex (a :: b :: c :: d :: s))
          | some high =>
            if isLowSurrogate high then .error .loneSurrogate
            else if isHighSurrogate high then
              match s with
              | [] => .error .endInString
              | '\\' :: [] => .error .endInString
              | '\\' :: 'u' :: s =>
                match s with
                | e :: f :: g :: h :: s =>
                  match hexNumber? e f g h with
                  | none => .error (badHex (e :: f :: g :: h :: s))
                  | some low =>
                    if isLowSurrogate low then prepend (pairChar high low) (decodeChars s)
                    else .error .loneSurrogate
                | s => .error (badHex s)
              | _ => .error .endOfHexEscape
            else prepend (Char.ofNat high) (decodeChars s)
        | s => .error (badHex s)
      | e :: s =>
        match letterEscape? e with
        | some c => prepend c (decodeChars s)
        | none => .error .invalidEscape
    else if c.toNat < 0x20 then .error .controlCharacter
    else prepend c (decodeChars s)

/-! ## Skipping -/

/-- The text after the closing quote. -/
def skipChars : List Char → Except Fault (List Char)
  | [] => .error .endInString
  | c :: s =>
    if c = '\x22' then .ok s
    else if c = '\\' then
      match s with
      | [] => .error .endInString
      | 'u' :: s =>
        match s with
        | a :: b :: c :: d :: s =>
          match hexNumber? a b c d with
          | none => .error (badHex (a :: b :: c :: d :: s))
          | some _ => skipChars s
        | s => .error (badHex s)
      | e :: s =>
        match letterEscape? e with
        | some _ => skipChars s
        | none => .error .invalidEscape
    else if c.toNat < 0x20 then .error .controlCharacter
    else skipChars s

example : (decodeChars ("a\\u00e9\\ud83d\\ude00\",").toList).toOption =
    some ("aé😀".toList, [',']) := by
  decide +kernel

example : (skipChars ("\\ud800\",").toList).toOption = some [','] := by decide +kernel

end Divert.Json
