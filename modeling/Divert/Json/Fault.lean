/-
# Divert.Json.Fault — what can be wrong with a document.

A fault is a cause: broken syntax, or a value that is not the one expected at its place.  The words are
chosen in one function.  Positions are not part of a fault.
-/
import Divert.Text.Quoted

namespace Divert.Json

/-! ## Faults -/

/-- What a value turned out to be. -/
inductive Found where
  | null
  | boolean (value : Bool)
  | integer (value : Int)
  /-- A number with a point, an exponent or too many digits, as it is written in messages. -/
  | floating (text : String)
  | string (value : String)
  | sequence
  | map
  deriving DecidableEq, Repr

/-- Why a document is not accepted. -/
inductive Fault where
  | endInValue
  | endInString
  | endInList
  | endInObject
  | expectedValue
  | expectedIdent
  | expectedColon
  | expectedCommaOrBracket
  | expectedCommaOrBrace
  | keyNotString
  | trailingComma
  | trailingCharacters
  | invalidNumber
  | numberOutOfRange
  | invalidEscape
  | endOfHexEscape
  | loneSurrogate
  | controlCharacter
  | wrongType (found : Found) (expected : String)
  | wrongValue (found : Found) (expected : String)
  | wrongLength (length : Nat) (expected : String)
  | missingMember (name : String)
  | repeatedMember (name : String)
  | unknownVariant (name : String) (expected : String)
  | notAnAddress
  deriving DecidableEq, Repr

/-! ## Words -/

/-- The value in words. -/
def Found.describe : Found → String
  | null => "null"
  | boolean value => s!"boolean `{value}`"
  | integer value => s!"integer `{value}`"
  | floating text => s!"floating point `{text}`"
  | string value =>
    let text := Text.quoted value
    s!"string {text}"
  | sequence => "sequence"
  | map => "map"

instance : ToString Found := ⟨Found.describe⟩

/-- The fault in words. -/
def Fault.message : Fault → String
  | endInValue => "EOF while parsing a value"
  | endInString => "EOF while parsing a string"
  | endInList => "EOF while parsing a list"
  | endInObject => "EOF while parsing an object"
  | expectedValue => "expected value"
  | expectedIdent => "expected ident"
  | expectedColon => "expected `:`"
  | expectedCommaOrBracket => "expected `,` or `]`"
  | expectedCommaOrBrace => "expected `,` or `\x7d`"
  | keyNotString => "key must be a string"
  | trailingComma => "trailing comma"
  | trailingCharacters => "trailing characters"
  | invalidNumber => "invalid number"
  | numberOutOfRange => "number out of range"
  | invalidEscape => "invalid escape"
  | endOfHexEscape => "unexpected end of hex escape"
  | loneSurrogate => "lone leading surrogate in hex escape"
  | controlCharacter => "control character (\\u0000-\\u001F) found while parsing a string"
  | wrongType found expected => s!"invalid type: {found}, expected {expected}"
  | wrongValue found expected => s!"invalid value: {found}, expected {expected}"
  | wrongLength length expected => s!"invalid length {length}, expected {expected}"
  | missingMember name => s!"missing field `{name}`"
  | repeatedMember name => s!"duplicate field `{name}`"
  | unknownVariant name expected => s!"unknown variant `{name}`, expected {expected}"
  | notAnAddress => "invalid IPv4 address syntax"

instance : ToString Fault := ⟨Fault.message⟩

end Divert.Json
