/-
# Divert.Json.Node — a document as far as it can be read.

Every text has a tree, also a broken one: the tree then ends at the place where reading has to stop.
Whether a break is reported, and in which words, depends on who reads: some members of a document are
decoded, others only skipped, and the two readers differ in what they check.  So a break keeps both
faults, and a list or an object keeps how it ends.

A reader that goes through a tree from left to right and stops at the first fault has read the text in
document order and stopped at the first fault.
-/
import Divert.Json.Chars
import Divert.Json.Numeral

namespace Divert.Json

/-! ## Trees -/

/-- How a list or an object ends. -/
inductive Ending where
  /-- With its closing bracket. -/
  | closed
  /-- With its closing bracket right after a comma. -/
  | commaClosed
  /-- The text ends after a comma. -/
  | commaCut
  /-- Something other than a string stands where a key should. -/
  | noKey
  /-- Something other than a comma or the closing bracket follows a value. -/
  | noComma
  /-- The text ends. -/
  | cut
  deriving DecidableEq, Repr

/-- Where reading stops. -/
inductive Break where
  /-- Before a value begins. -/
  | before
  /-- In a string. -/
  | inString
  /-- In any other value, or at a character that begins none. -/
  | elsewhere
  deriving DecidableEq, Repr

/-- A value of a document. -/
inductive Node where
  | null
  | boolean (value : Bool)
  | number (numeral : Numeral)
  /-- A string that can be skipped; decoding it may still fail. -/
  | string (value : Except Fault String)
  | list (items : List Node) (ending : Ending)
  | object (members : List (Except Fault String × Node)) (ending : Ending)
  /-- No value: what a reader that decodes finds wrong, and what a reader that skips does. -/
  | broken (place : Break) (decoding skipping : Fault)

/-- A document: its value, and whether anything but blanks follows it. -/
structure Document where
  root : Node
  trailing : Bool

/-! ## Faults of endings -/

namespace Ending

/-- What a reader that decodes a list finds wrong with its end. -/
def listFault? : Ending → Option Fault
  | closed => none
  | commaClosed => some .trailingComma
  | commaCut => some .endInValue
  | noKey | noComma => some .expectedCommaOrBracket
  | cut => some .endInList

/-- What a reader that decodes an object finds wrong with its end. -/
def objectFault? : Ending → Option Fault
  | closed => none
  | commaClosed => some .trailingComma
  | commaCut => some .endInValue
  | noKey => some .keyNotString
  | noComma => some .expectedCommaOrBrace
  | cut => some .endInObject

/-- What a reader that skips a list finds wrong with its end. -/
def skippedListFault? : Ending → Option Fault
  | closed => none
  | commaClosed => some .expectedValue
  | commaCut => some .endInValue
  | noKey | noComma => some .expectedCommaOrBracket
  | cut => some .endInList

/-- What a reader that skips an object finds wrong with its end. -/
def skippedObjectFault? : Ending → Option Fault
  | closed => none
  | commaClosed | noKey => some .keyNotString
  | commaCut | cut => some .endInObject
  | noComma => some .expectedCommaOrBrace

end Ending

/-- Stop at a fault, if there is one. -/
def raise : Option Fault → Except Fault Unit
  | none => .ok ()
  | some fault => .error fault

/-! ## Readers of any value -/

namespace Node

mutual

/-- The first fault of a value that is only skipped. -/
def skipFault? : Node → Option Fault
  | null | boolean _ | number _ | string _ => none
  | list items ending => (skipItems? items).or ending.skippedListFault?
  | object members ending => (skipMembers? members).or ending.skippedObjectFault?
  | broken _ _ skipping => some skipping

/-- The first fault of skipped items. -/
def skipItems? : List Node → Option Fault
  | [] => none
  | item :: rest => (skipFault? item).or (skipItems? rest)

/-- The first fault of skipped members. -/
def skipMembers? : List (Except Fault String × Node) → Option Fault
  | [] => none
  | member :: rest => (skipFault? member.2).or (skipMembers? rest)

end

/-- Skip a value. -/
def skip (node : Node) : Except Fault Unit := raise node.skipFault?

/-- What a value turned out to be, where another kind of value was expected.  A string or a number has
to be decoded to be named; a list or an object is not looked into. -/
def found : Node → Except Fault Found
  | null => .ok .null
  | boolean value => .ok (.boolean value)
  | number numeral => do return (← numeral.value).found
  | string value => do return .string (← value)
  | list .. => .ok .sequence
  | object .. => .ok .map
  | broken _ decoding _ => .error decoding

/-- Refuse a value of the wrong kind. -/
def refuse {α : Type} (node : Node) (expected : String) : Except Fault α := do
  throw (.wrongType (← node.found) expected)

/-! ## Readers of plain values -/

/-- Read a string. -/
def text : Node → Except Fault String
  | string value => value
  | node => node.refuse "a string"

/-- Read a truth value. -/
def truth : Node → Except Fault Bool
  | boolean value => .ok value
  | node => node.refuse "a boolean"

/-- Read a number of sixteen bits. -/
def port : Node → Except Fault UInt16
  | number numeral => do
    match ← numeral.value with
    | .integer value =>
      if 0 ≤ value ∧ value < 0x10000 then return UInt16.ofNat value.toNat
      else throw (.wrongValue (.integer value) "u16")
    | .floating value => throw (.wrongType (Number.floating value).found "u16")
  | node => node.refuse "u16"

/-- Read the items of a list, each by a reader. -/
def listOf {α : Type} (item : Node → Except Fault α) : Node → Except Fault (List α)
  | list items ending => do
    let values ← items.mapM item
    raise ending.listFault?
    return values
  | node => node.refuse "a sequence"

end Node

/-- Read a whole document. -/
def Document.read {α : Type} (document : Document) (value : Node → Except Fault α) :
    Except Fault α := do
  let result ← value document.root
  if document.trailing then throw .trailingCharacters
  return result

end Divert.Json
