/-
# Divert.Json.Document — the tree of a text.

A value, the items of a list and the members of an object are read by one another.  Every call but the
one from a list to its next item passes at least one character, so twice the length of the text bounds
the number of nested calls.  Where reading has to stop there is no text to go on with, and the tree
closes around the break.
-/
import Divert.Json.Node

namespace Divert.Json

/-! ## Parts of a text -/

/-- The four blanks of a document. -/
def isBlank (c : Char) : Bool := c = ' ' || c = '\n' || c = '\t' || c = '\r'

/-- The text after the blanks it starts with. -/
def skipBlanks (s : List Char) : List Char := s.dropWhile isBlank

/-- A value and the text after it, if reading can go on. -/
abbrev Reading := Node × Option (List Char)

/-- Reading stops here, and every reader says so alike. -/
def stop (place : Break) (fault : Fault) : Reading := (.broken place fault fault, none)

/-- The text after the letters of a word. -/
def afterWord : List Char → List Char → Except Fault (List Char)
  | [], s => .ok s
  | _ :: _, [] => .error .endInValue
  | letter :: letters, c :: s => if c = letter then afterWord letters s else .error .expectedIdent

/-- A value that is written as a word, whose first letter has been read. -/
def readWord (node : Node) (letters s : List Char) : Reading :=
  match afterWord letters s with
  | .ok rest => (node, some rest)
  | .error fault => stop .elsewhere fault

/-- A number, after its sign. -/
def readNumber (negative : Bool) (s : List Char) : Reading :=
  match Numeral.read negative s with
  | .ok (numeral, rest) => (.number numeral, some rest)
  | .error broken => (.broken .elsewhere broken.decoding broken.skipping, none)

/-- A string, after its opening quote. -/
def stringAt (s : List Char) : Except Fault String :=
  match decodeChars s with
  | .ok (chars, _) => .ok (String.ofList chars)
  | .error fault => .error fault

/-- A string as a value, after its opening quote. -/
def readString (s : List Char) : Reading :=
  match skipChars s, stringAt s with
  | .ok rest, value => (.string value, some rest)
  | .error skipping, .error decoding => (.broken .inString decoding skipping, none)
  | .error skipping, .ok _ => stop .inString skipping

/-! ## Values -/

mutual

/-- The value that a text starts with. -/
def readValue : Nat → List Char → Reading
  | 0, _ => stop .before .endInValue
  | fuel + 1, s =>
    match skipBlanks s with
    | [] => stop .before .endInValue
    | 'n' :: rest => readWord .null ['u', 'l', 'l'] rest
    | 't' :: rest => readWord (.boolean true) ['r', 'u', 'e'] rest
    | 'f' :: rest => readWord (.boolean false) ['a', 'l', 's', 'e'] rest
    | '-' :: rest => readNumber true rest
    | '\x22' :: rest => readString rest
    | '[' :: rest =>
      match skipBlanks rest with
      | [] => (.list [] .cut, none)
      | ']' :: rest => (.list [] .closed, some rest)
      | rest =>
        let (items, ending, rest) := readItems fuel rest
        (.list items ending, rest)
    | '\x7b' :: rest =>
      match skipBlanks rest with
      | [] => (.object [] .cut, none)
      | '\x7d' :: rest => (.object [] .closed, some rest)
      | '\x22' :: rest =>
        let (members, ending, rest) := readMembers fuel rest
        (.object members ending, rest)
      | _ => (.object [] .noKey, none)
    | c :: rest => if c.isDigit then readNumber false (c :: rest) else stop .elsewhere .expectedValue

/-- The items of a list, from the first of them to the end of the list. -/
def readItems : Nat → List Char → List Node × Ending × Option (List Char)
  | 0, _ => ([], .cut, none)
  | fuel + 1, s =>
    match readValue fuel s with
    | (item, none) => ([item], .cut, none)
    | (item, some rest) =>
      match skipBlanks rest with
      | [] => ([item], .cut, none)
      | ']' :: rest => ([item], .closed, some rest)
      | ',' :: rest =>
        match skipBlanks rest with
        | [] => ([item], .commaCut, none)
        | ']' :: _ => ([item], .commaClosed, none)
        | rest =>
          let (items, ending, rest) := readItems fuel rest
          (item :: items, ending, rest)
      | _ => ([item], .noComma, none)

/-- The members of an object, from the first of them, after the opening quote of its name, to the end
of the object. -/
def readMembers : Nat → List Char → List (Except Fault String × Node) × Ending × Option (List Char)
  | 0, _ => ([], .cut, none)
  | fuel + 1, s =>
    let name := stringAt s
    match skipChars s with
    | .error fault => ([(name, .broken .inString fault fault)], .cut, none)
    | .ok rest =>
      match skipBlanks rest with
      | [] => ([(name, .broken .before .endInObject .endInObject)], .cut, none)
      | ':' :: rest =>
        match readValue fuel rest with
        | (value, none) => ([(name, value)], .cut, none)
        | (value, some rest) =>
          match skipBlanks rest with
          | [] => ([(name, value)], .cut, none)
          | '\x7d' :: rest => ([(name, value)], .closed, some rest)
          | ',' :: rest =>
            match skipBlanks rest with
            | [] => ([(name, value)], .commaCut, none)
            | '\x7d' :: _ => ([(name, value)], .commaClosed, none)
            | '\x22' :: rest =>
              let (members, ending, rest) := readMembers fuel rest
              ((name, value) :: members, ending, rest)
            | _ => ([(name, value)], .noKey, none)
          | _ => ([(name, value)], .noComma, none)
      | _ => ([(name, .broken .before .expectedColon .expectedColon)], .cut, none)

end

/-- The tree of a text. -/
def Document.ofText (s : String) : Document :=
  let (root, rest) := readValue (2 * s.toList.length + 2) s.toList
  ⟨root, (rest.map skipBlanks).getD [] ≠ []⟩

end Divert.Json
