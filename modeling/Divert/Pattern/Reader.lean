/-
# Divert.Pattern.Reader — patterns as they are written.

A pattern is read from left to right.  Where the switch for space is on, blanks and comments between two
items are passed over, and so are those in brackets and in escapes.

An opening brace would start a count of repetitions or a long name, and both end with a closing brace.
The patterns read here stand between braces themselves and hold no closing one, so an opening brace that
is neither escaped nor in brackets is never read.
-/
import Divert.Pattern.Tree
import Divert.Text.Alphanumeric

namespace Divert.Pattern

/-! ## Space -/

/-- The text after the blanks and comments it starts with; it may start inside a comment. -/
def dropSpace (inComment : Bool) : List Char → List Char
  | [] => []
  | c :: rest =>
    if inComment then dropSpace (c ≠ '\n') rest
    else if Text.isBlank c then dropSpace false rest
    else if c = '#' then dropSpace true rest
    else c :: rest

/-- The text after the space it starts with, where space counts for nothing. -/
def past (spaced : Bool) (s : List Char) : List Char := if spaced then dropSpace false s else s

/-- The character that decides whether a dash in brackets makes a range.  Blanks before it are passed
over, and the sign of a comment, but not the comment. -/
def ahead? (spaced : Bool) (s : List Char) : Option Char :=
  if spaced then
    match s.dropWhile Text.isBlank with
    | '#' :: rest => (rest.dropWhile Text.isBlank).head?
    | rest => rest.head?
  else s.head?

/-! ## Escapes -/

/-- The value of a hexadecimal digit. -/
def hexValue? (c : Char) : Option Nat :=
  if c.isDigit then some (c.toNat - '0'.toNat)
  else if 'a' ≤ c ∧ c ≤ 'f' then some (c.toNat - 'a'.toNat + 10)
  else if 'A' ≤ c ∧ c ≤ 'F' then some (c.toNat - 'A'.toNat + 10)
  else none

/-- Read a number of hexadecimal digits, with space after each of them. -/
def hexNumber? (spaced : Bool) : Nat → Nat → List Char → Option (Nat × List Char)
  | 0, value, s => some (value, s)
  | _ + 1, _, [] => none
  | digits + 1, value, c :: rest => do
    hexNumber? spaced digits (value * 16 + (← hexValue? c)) (past spaced rest)

/-- The character of a code point. -/
def charOf? (code : Nat) : Option Char :=
  if h : code.isValidChar then some (Char.ofNatAux code h) else none

/-- A character by a number of hexadecimal digits. -/
def hexItem? (spaced : Bool) (digits : Nat) (s : List Char) : Option (Item × List Char) := do
  let (code, rest) ← hexNumber? spaced digits 0 (past spaced s)
  return (.char (← charOf? code) (digits = 2), rest)

/-- The letters that stand for control characters after a backslash. -/
def controlLetters : List (Char × Char) :=
  [('a', '\x07'), ('f', '\x0c'), ('t', '\t'), ('n', '\n'), ('r', '\r'), ('v', '\x0b')]

/-- The item that a text after a backslash starts with.  Any other ASCII character than a letter or a
digit stands for itself. -/
def escape? (spaced : Bool) : List Char → Option (Item × List Char)
  | [] => none
  | c :: rest =>
    if c = 'x' then hexItem? spaced 2 rest
    else if c = 'u' then hexItem? spaced 4 rest
    else if c = 'U' then hexItem? spaced 8 rest
    else if c = 'p' || c = 'P' then
      match past spaced rest with
      | [] => none
      | letter :: rest => some (.category letter, past spaced rest)
    else if c = 'd' || c = 's' || c = 'w' then some (.kind false, rest)
    else if c = 'D' || c = 'S' || c = 'W' then some (.kind true, rest)
    else if c = 'A' || c = 'z' then some (.limit, rest)
    else if c = 'b' || c = 'B' || c = '<' || c = '>' then some (.wordEdge, rest)
    else match controlLetters.find? fun e => decide (e.1 = c) with
      | some (_, control) => some (.char control false, rest)
      | none =>
        if c.isAlphanum || 0x7F < c.toNat then none else some (.char c false, rest)

/-! ## Brackets -/

/-- An item as a member of a set.  A place between characters is none. -/
def member? : Item → Option CharSet
  | .char c asByte => some (.item (.char c asByte))
  | .category letter => some (.item (.category letter))
  | .kind negated => some (.item (.kind negated))
  | .any | .limit | .wordEdge => none

/-- The item that a text in brackets starts with. -/
def setItem? (spaced : Bool) : List Char → Option (Item × List Char)
  | [] => none
  | '\\' :: rest => escape? spaced rest
  | c :: rest => some (.char c false, rest)

/-- A range between two characters. -/
def range? : Item → Item → Option CharSet
  | .char first _, .char last _ => if first ≤ last then some (.range first last) else none
  | _, _ => none

/-- The item or the range that a text in brackets starts with. -/
def setMember? (spaced : Bool) (s : List Char) : Option (CharSet × List Char) := do
  let (first, s) ← setItem? spaced s
  match past spaced s with
  | [] => none
  | '-' :: rest =>
    if ahead? spaced rest = some ']' ∨ ahead? spaced rest = some '-' then
      return (← member? first, '-' :: rest)
    else do
      let (last, rest) ← setItem? spaced (past spaced rest)
      return (← range? first last, rest)
  | rest => return (← member? first, rest)

/-- The names of sets of ASCII characters. -/
def setNames : List String :=
  ["alnum", "alpha", "ascii", "blank", "cntrl", "digit", "graph", "lower", "print", "punct", "space",
    "upper", "word", "xdigit"]

/-- A set by its name between colons, after an opening bracket: whether all others are meant, and the
text after the closing bracket. -/
def namedSet? : List Char → Option (Bool × List Char)
  | ':' :: s =>
    let negated := s.head? = some '^'
    let s := if negated then s.tail else s
    match s.dropWhile (· ≠ ':') with
    | ':' :: ']' :: rest =>
      if String.ofList (s.takeWhile (· ≠ ':')) ∈ setNames then some (negated, rest) else none
    | _ => none
  | _ => none

/-- The dashes that brackets start with; they stand for themselves. -/
def leadingDashes (spaced : Bool) : Nat → List Char → List CharSet × List Char
  | fuel + 1, '-' :: rest =>
    let (dashes, rest) := leadingDashes spaced fuel (past spaced rest)
    (.item (.char '-' false) :: dashes, rest)
  | _, s => ([], s)

/-- The beginning of brackets, after the opening one: whether all others are meant, the members that
would not be read as such later on, and the text after them. -/
def opening (spaced : Bool) (s : List Char) : Bool × List CharSet × List Char :=
  let s := past spaced s
  let negated := s.head? = some '^'
  let s := if negated then past spaced s.tail else s
  match leadingDashes spaced s.length s with
  | ([], ']' :: rest) => (negated, [.item (.char ']' false)], past spaced rest)
  | (dashes, rest) => (negated, dashes, rest)

/-- Go on reading a set up to its closing bracket, with the set before the last operator and the members
since then.  Operators bind from left to right. -/
def readSet (spaced : Bool) :
    Nat → Option CharSet → List CharSet → List Char → Option (CharSet × List Char)
  | 0, _, _, _ => none
  | fuel + 1, left, members, s =>
    let here := CharSet.after left (.ofMembers members)
    match past spaced s with
    | [] => none
    | ']' :: rest => some (here, rest)
    | '[' :: rest =>
      match namedSet? rest with
      | some (negated, rest) => readSet spaced fuel left (members ++ [.named negated]) rest
      | none => do
        let (negated, start, rest) := opening spaced rest
        let (set, rest) ← readSet spaced fuel none start rest
        readSet spaced fuel left (members ++ [.bracket negated set]) rest
    | '&' :: '&' :: rest | '-' :: '-' :: rest | '~' :: '~' :: rest =>
      readSet spaced fuel (some here) [] rest
    | rest => do
      let (member, rest) ← setMember? spaced rest
      readSet spaced fuel left (members ++ [member]) rest

/-! ## Groups -/

/-- The text of a pattern that is still to be read, with the switch for space and the names of groups so
far. -/
structure Source where
  rest : List Char
  spaced : Bool
  names : List (List Char)

/-- Read settings up to the colon or the parenthesis that ends them.  A dash turns the switches after it
off; it stands once, and not last. -/
def readSettings (on dangling : Bool) (settings : Settings) :
    List Char → Option (Settings × Char × List Char)
  | [] => none
  | c :: rest =>
    if c = ':' ∨ c = ')' then if dangling then none else some (settings, c, rest)
    else if c = '-' then if on then readSettings false true settings rest else none
    else match Switch.ofChar? c with
      | none => none
      | some switch =>
        if settings.any fun e => decide (e.1 = switch) then none
        else readSettings on false (settings ++ [(switch, on)]) rest

/-- A text is the name of a group: letters, numbers and a few signs, starting with a letter or a low
line. -/
def isGroupName : List Char → Bool
  | [] => false
  | c :: rest => (c = '_' || Text.isAlphabetic c) && rest.all fun c =>
      c = '_' || c = '.' || c = '[' || c = ']' || Text.isAlphanumeric c

/-- Read the name of a group up to the sign that ends it; a name is given once. -/
def readName (src : Source) (s : List Char) : Option Source :=
  let name := s.takeWhile (· ≠ '>')
  match s.dropWhile (· ≠ '>') with
  | '>' :: rest =>
    if isGroupName name ∧ name ∉ src.names then some { src with rest, names := name :: src.names }
    else none
  | _ => none

/-- What an opening parenthesis starts: settings for what follows, or a group with settings. -/
inductive Opening where
  | settings (settings : Settings)
  | group (settings : Settings)

/-- Read what follows an opening parenthesis, up to the content of the group if it is one. -/
def readOpening (src : Source) : Option (Opening × Source) :=
  match past src.spaced src.rest with
  | '?' :: 'P' :: '<' :: s | '?' :: '<' :: s => do return (.group [], ← readName src s)
  | '?' :: s =>
    match readSettings true false [] s with
    | none | some ([], ')', _) => none
    | some (settings, c, rest) =>
      let opening := if c = ')' then Opening.settings settings else .group settings
      some (opening, { src with rest, spaced := settings.apply .spaced src.spaced })
  | s => some (.group [], { src with rest := s })

/-! ## Patterns -/

/-- The item of a character that is not escaped. -/
def plainItem (c : Char) : Item :=
  if c = '.' then .any else if c = '^' ∨ c = '$' then .limit else .char c false

/-- Go on reading a choice up to the end of its group or of the text, with the patterns before the last
bar and the items since then. -/
def readTree : Nat → List Tree → List Tree → Source → Option (Tree × Source)
  | 0, _, _, _ => none
  | fuel + 1, before, items, src =>
    match past src.spaced src.rest with
    | [] => some (.ofChoice before items, { src with rest := [] })
    | ')' :: rest => some (.ofChoice before items, { src with rest := ')' :: rest })
    | '|' :: rest => readTree fuel (before ++ [.ofSequence items]) [] { src with rest }
    | '(' :: rest => do
      match ← readOpening { src with rest } with
      | (.settings settings, src) => readTree fuel before (items ++ [.settings settings]) src
      | (.group settings, inside) =>
        let (tree, after) ← readTree fuel [] [] inside
        match after.rest with
        | [] => none
        | _ :: rest =>
          let items := items ++ [.group settings tree]
          readTree fuel before items { after with rest, spaced := src.spaced }
    | '[' :: rest => do
      let (negated, start, rest) := opening src.spaced rest
      let (set, rest) ← readSet src.spaced fuel none start rest
      readTree fuel before (items ++ [.set negated set]) { src with rest }
    | '?' :: rest | '*' :: rest | '+' :: rest => do
      let rest := if rest.head? = some '?' then rest.tail else rest
      readTree fuel before (← Tree.repeatLast? items) { src with rest }
    | '\x7b' :: _ => none
    | '\\' :: rest => do
      let (item, rest) ← escape? src.spaced rest
      readTree fuel before (items ++ [.item item]) { src with rest }
    | c :: rest => readTree fuel before (items ++ [.item (plainItem c)]) { src with rest }

/-- The greatest depth at which patterns may stand in each other. -/
def maxNesting : Nat := 250

/-- Read a pattern. -/
def Tree.ofText? (s : List Char) : Option Tree :=
  match readTree (s.length + 1) [] [] ⟨s, false, []⟩ with
  | some (tree, ⟨[], _, _⟩) => if tree.nesting ≤ maxNesting then some tree else none
  | _ => none

end Divert.Pattern
