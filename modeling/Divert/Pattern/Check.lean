/-
# Divert.Pattern.Check — which patterns can be used.

A pattern is used to search texts, and a text never falls apart into bytes that are no text.  So where
the switch for Unicode is off, a pattern may not ask for a byte outside ASCII, nor for all bytes but
some.  Where it is on, the edge of a word depends on more than the next byte, and such a pattern can be
read but not searched for.
-/
import Divert.Pattern.Reader
import Divert.Text.Case

namespace Divert.Pattern

/-- Why a text cannot be used as a pattern. -/
inductive Fault where
  /-- It is no pattern, or one that asks for bytes that are no text. -/
  | unreadable
  /-- It asks for the edge of a word. -/
  | wordEdge
  deriving DecidableEq, Repr

/-- The reason in words. -/
def Fault.message : Fault → String
  | unreadable => "error building NFA"
  | wordEdge => "unsupported regex feature for DFAs: cannot build DFAs for regexes with Unicode word " ++
      "boundaries; switch to ASCII word boundaries, or heuristically enable Unicode word boundaries " ++
      "or use a different regex engine"

/-! ## Items and sets -/

/-- The letters of general categories. -/
def categoryLetters : List Char := ['C', 'L', 'M', 'N', 'P', 'S', 'Z']

/-- A character of ASCII. -/
def isAscii (c : Char) : Bool := decide (c.toNat ≤ 0x7F)

/-- An item stands for characters, with the switch for Unicode on or off. -/
def Item.usable (unicode : Bool) : Item → Bool
  | char c asByte => unicode || !asByte || isAscii c
  | any => unicode
  | limit | wordEdge => true
  | category letter => unicode && decide (letter.toUpper ∈ categoryLetters)
  | kind negated => unicode || !negated

mutual

/-- A set holds characters, with the switch for Unicode on or off.  With the switch off, every member
has to be a byte of ASCII. -/
def CharSet.usable (unicode : Bool) : CharSet → Bool
  | .empty => true
  | .item (.char c _) => unicode || isAscii c
  | .item other => other.usable unicode
  | .range first last => unicode || isAscii first && isAscii last
  | .named negated => unicode || !negated
  | .bracket negated set => (unicode || !negated) && CharSet.usable unicode set
  | .union sets => CharSet.allUsable unicode sets
  | .combined left right => CharSet.usable unicode left && CharSet.usable unicode right

/-- Every set holds characters. -/
def CharSet.allUsable (unicode : Bool) : List CharSet → Bool
  | [] => true
  | set :: rest => CharSet.usable unicode set && CharSet.allUsable unicode rest

end

/-! ## Patterns -/

/-- What is known after a part of a pattern: the switch for Unicode, and whether the edge of a word was
asked for with the switch on. -/
structure Mode where
  unicode : Bool
  wordEdge : Bool

mutual

/-- Go through a pattern from left to right.  Settings hold up to the end of the group they stand in,
over the bars of a choice. -/
def Tree.check (mode : Mode) : Tree → Option Mode
  | .empty => some mode
  | .settings switches => some { mode with unicode := switches.apply .unicode mode.unicode }
  | .item one =>
    if !one.usable mode.unicode then none
    else some { mode with wordEdge := mode.wordEdge || (mode.unicode && decide (one = .wordEdge)) }
  | .set negated chars =>
    if (CharSet.bracket negated chars).usable mode.unicode then some mode else none
  | .repeated tree => Tree.check mode tree
  | .group switches tree => do
    let inner ← Tree.check { mode with unicode := switches.apply .unicode mode.unicode } tree
    return { inner with unicode := mode.unicode }
  | .choice trees | .sequence trees => Tree.checkAll mode trees

/-- Go through some patterns, one after the other. -/
def Tree.checkAll (mode : Mode) : List Tree → Option Mode
  | [] => some mode
  | tree :: rest => do Tree.checkAll (← Tree.check mode tree) rest

end

/-- Why a text cannot be used as a pattern, if it cannot. -/
def fault? (s : List Char) : Option Fault :=
  match (Tree.ofText? s).bind (Tree.check ⟨true, false⟩) with
  | none => some .unreadable
  | some mode => if mode.wordEdge then some .wordEdge else none

example : fault? "(?i)a|[b-d&&[^c]]*".toList = none := by decide +kernel

example : fault? "(?-u)[^a]".toList = some .unreadable ∧ fault? "a\\b".toList = some .wordEdge := by
  decide +kernel

end Divert.Pattern
