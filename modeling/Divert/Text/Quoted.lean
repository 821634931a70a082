/-
# Divert.Text.Quoted — a text between double quotes, so that every character can be told apart.

The quote and the backslash are escaped by a backslash, five controls have a letter, and any other
character that cannot be seen standing alone is written by its number.  An apostrophe needs no
escape.  Paths and strings are quoted alike.
-/
import Divert.Text.Printable

namespace Divert.Text

/-! ## Numbers and escapes -/

/-- The hexadecimal digits of a number, lower case, without leading zeros. -/
def hexDigits (n : Nat) : List Char := Nat.toDigits 16 n

/-- One character of a quoted text. -/
def quoteChar (c : Char) : List Char :=
  if c = '\x22' then ['\\', '\x22']
  else if c = '\\' then ['\\', '\\']
  else if c = '\n' then ['\\', 'n']
  else if c = '\r' then ['\\', 'r']
  else if c = '\t' then ['\\', 't']
  else if c = '\x00' then ['\\', '0']
  else if isShown c then [c]
  else ['\\', 'u', '\x7b'] ++ hexDigits c.toNat ++ ['\x7d']

/-- A text in double quotes. -/
def quoted (s : String) : String :=
  String.ofList ('\x22' :: s.toList.flatMap quoteChar ++ ['\x22'])

example : quoted "a'b" = "\"a'b\"" := by decide +kernel

example : quoted "e\u0301\x00" = "\"e\\u\x7b301\x7d\\0\"" := by decide +kernel

end Divert.Text
