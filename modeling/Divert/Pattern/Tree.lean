/-
# Divert.Pattern.Tree — patterns of text as trees.

A pattern describes texts: it is built from items that stand for one character or for a place between
two, by sequence, choice, repetition and grouping.  Nothing is matched here.  A tree keeps what decides
whether the pattern can be used at all, so it says that a part is repeated and not how often.
-/

namespace Divert.Pattern

/-! ## Switches -/

/-- A switch that a pattern can turn on and off for the rest of a group. -/
inductive Switch where
  | ignoreCase
  | lines
  | dotTakesAll
  | swapGreed
  /-- Characters are those of Unicode, and not bytes. -/
  | unicode
  | carriageReturns
  /-- Blanks and comments between the items count for nothing. -/
  | spaced
  deriving DecidableEq, Repr

/-- The switch of a letter. -/
def Switch.ofChar? : Char → Option Switch
  | 'i' => some .ignoreCase
  | 'm' => some .lines
  | 's' => some .dotTakesAll
  | 'U' => some .swapGreed
  | 'u' => some .unicode
  | 'R' => some .carriageReturns
  | 'x' => some .spaced
  | _ => none

/-- Switches and whether each is turned on, none of them twice. -/
abbrev Settings := List (Switch × Bool)

/-- What settings make of a switch that has a value already. -/
def Settings.apply (settings : Settings) (switch : Switch) (value : Bool) : Bool :=
  ((settings.find? fun e => decide (e.1 = switch)).map Prod.snd).getD value

/-! ## Items -/

/-- What stands for one character, or for a place between two. -/
inductive Item where
  /-- A character; one that is written with two hexadecimal digits can be meant as a byte. -/
  | char (c : Char) (asByte : Bool)
  | any
  /-- The start or the end of a line or of the text. -/
  | limit
  /-- The start, the end or the inside of a word. -/
  | wordEdge
  /-- The characters of a general category, by its letter, or all others. -/
  | category (letter : Char)
  /-- Digits, blanks, the characters of words, or all others. -/
  | kind (negated : Bool)
  deriving DecidableEq, Repr

/-! ## Sets of characters -/

/-- What stands in brackets. -/
inductive CharSet where
  | empty
  | item (item : Item)
  | range (first last : Char)
  /-- A set of ASCII characters that has a name. -/
  | named (negated : Bool)
  | bracket (negated : Bool) (set : CharSet)
  | union (sets : List CharSet)
  /-- What two sets share, what sets the first apart, or what only one of them has. -/
  | combined (left right : CharSet)

namespace CharSet

/-- The union of some sets, one set being its own. -/
def ofMembers : List CharSet → CharSet
  | [] => empty
  | [set] => set
  | sets => union sets

/-- A set joined to the one before an operator, if there is one. -/
def after : Option CharSet → CharSet → CharSet
  | none, set => set
  | some left, set => combined left set

mutual

/-- How deep sets stand in each other. -/
def nesting : CharSet → Nat
  | empty | item _ | range .. | named _ => 0
  | bracket _ set => nesting set + 1
  | union sets => nestingAll sets + 1
  | combined left right => max (nesting left) (nesting right) + 1

/-- How deep the deepest of some sets is. -/
def nestingAll : List CharSet → Nat
  | [] => 0
  | set :: rest => max (nesting set) (nestingAll rest)

end

end CharSet

/-! ## Trees -/

/-- A pattern. -/
inductive Tree where
  | empty
  /-- Switches for the rest of the group around. -/
  | settings (settings : Settings)
  | item (item : Item)
  | set (negated : Bool) (set : CharSet)
  | repeated (tree : Tree)
  | group (settings : Settings) (tree : Tree)
  | choice (trees : List Tree)
  | sequence (trees : List Tree)

namespace Tree

/-- The sequence of some patterns, one pattern being its own. -/
def ofSequence : List Tree → Tree
  | [] => empty
  | [tree] => tree
  | trees => sequence trees

/-- The choice between some patterns, of which the last is given by its items. -/
def ofChoice (before : List Tree) (items : List Tree) : Tree :=
  if before.isEmpty then ofSequence items else choice (before ++ [ofSequence items])

/-- Repeat the last of some items, if there is one that can be repeated. -/
def repeatLast? (items : List Tree) : Option (List Tree) :=
  match items.getLast? with
  | none | some (settings _) => none
  | some tree => some (items.dropLast ++ [repeated tree])

mutual

/-- How deep patterns stand in each other. -/
def nesting : Tree → Nat
  | empty | settings _ | item _ => 0
  | set _ chars => chars.nesting + 1
  | repeated tree | group _ tree => nesting tree + 1
  | choice trees | sequence trees => nestingAll trees + 1

/-- How deep the deepest of some patterns is. -/
def nestingAll : List Tree → Nat
  | [] => 0
  | tree :: rest => max (nesting tree) (nestingAll rest)

end

end Tree

end Divert.Pattern
