/-
# Divert.Json.Value — documents that are written.

A value is written in one line without blanks, or in lines that are indented by two spaces.  Strings are
escaped only where the format demands it.
-/
import Divert.Text.Quoted

namespace Divert.Json

/-- A value to write. -/
inductive Value where
  | boolean (value : Bool)
  | number (value : Nat)
  | string (value : String)
  | list (items : List Value)
  | object (members : List (String × Value))

/-! ## Strings -/

/-- One character of a string. -/
def encodeChar (c : Char) : List Char :=
  if c = '\x22' then ['\\', '\x22']
  else if c = '\\' then ['\\', '\\']
  else if c = '\x08' then ['\\', 'b']
  else if c = '\x0c' then ['\\', 'f']
  else if c = '\n' then ['\\', 'n']
  else if c = '\r' then ['\\', 'r']
  else if c = '\t' then ['\\', 't']
  else if c.toNat < 0x20 then
    ['\\', 'u', '0', '0', Nat.digitChar (c.toNat / 16), Nat.digitChar (c.toNat % 16)]
  else [c]

/-- A string with its quotes. -/
def encode (s : String) : List Char := '\x22' :: s.toList.flatMap encodeChar ++ ['\x22']

/-! ## Values -/

namespace Value

/-- The letters of a truth value. -/
def truth : Bool → List Char
  | true => ['t', 'r', 'u', 'e']
  | false => ['f', 'a', 'l', 's', 'e']

mutual

/-- A value in one line. -/
def line : Value → List Char
  | boolean value => truth value
  | number value => Nat.toDigits 10 value
  | string value => encode value
  | list items => '[' :: lineItems items ++ [']']
  | object members => '\x7b' :: lineMembers members ++ ['\x7d']

/-- Items in one line with commas between them. -/
def lineItems : List Value → List Char
  | [] => []
  | [item] => line item
  | item :: rest => line item ++ ',' :: lineItems rest

/-- Members in one line with commas between them. -/
def lineMembers : List (String × Value) → List Char
  | [] => []
  | [member] => encode member.1 ++ ':' :: line member.2
  | member :: rest => encode member.1 ++ ':' :: line member.2 ++ ',' :: lineMembers rest

end

/-- A line break and the indentation of a depth. -/
def newline (depth : Nat) : List Char := '\n' :: List.replicate (2 * depth) ' '

mutual

/-- A value in lines, inside `depth` brackets. -/
def lines (depth : Nat) : Value → List Char
  | boolean value => truth value
  | number value => Nat.toDigits 10 value
  | string value => encode value
  | list [] => ['[', ']']
  | list items => '[' :: linesItems (depth + 1) items ++ newline depth ++ [']']
  | object [] => ['\x7b', '\x7d']
  | object members => '\x7b' :: linesMembers (depth + 1) members ++ newline depth ++ ['\x7d']

/-- Items, each on a line of its own, with commas between them. -/
def linesItems (depth : Nat) : List Value → List Char
  | [] => []
  | [item] => newline depth ++ lines depth item
  | item :: rest => newline depth ++ lines depth item ++ ',' :: linesItems depth rest

/-- Members, each on a line of its own, with commas between them. -/
def linesMembers (depth : Nat) : List (String × Value) → List Char
  | [] => []
  | [member] => newline depth ++ encode member.1 ++ [':', ' '] ++ lines depth member.2
  | member :: rest =>
    newline depth ++ encode member.1 ++ [':', ' '] ++ lines depth member.2 ++
      ',' :: linesMembers depth rest

end

/-- The text of a value in one line. -/
def compact (value : Value) : String := String.ofList value.line

/-- The text of a value in indented lines. -/
def pretty (value : Value) : String := String.ofList (value.lines 0)

end Value

end Divert.Json
