/-
# Divert.Json.Record — structures in a document.

A structure is written as an object, with its members in any order and unknown members ignored, or as a
list of its members in order.  Reading collects a draft: a member that comes twice is refused before
its second value is looked at, and what is missing shows at the end.
-/
import Divert.Json.Node

namespace Divert.Json

/-- How a structure `α` is collected from its members in a draft `δ`. -/
structure Shape (δ α : Type) where
  /-- The structure in messages. -/
  title : String
  /-- The names of the members, in order. -/
  names : List String
  /-- The draft without members. -/
  blank : δ
  /-- Whether a draft has the member of that name. -/
  has : δ → String → Bool
  /-- Read the member of that name. -/
  put : δ → String → Node → Except Fault δ
  /-- The structure of a draft, or the name of the first member that it lacks. -/
  finish : δ → Except String α

namespace Shape

variable {δ α : Type}

/-- Add a member to a draft. -/
def add (shape : Shape δ α) (draft : δ) (name : String) (value : Node) : Except Fault δ :=
  if name ∉ shape.names then do
    value.skip
    return draft
  else if shape.has draft name then .error (.repeatedMember name)
  else shape.put draft name value

/-- Read the members of an object. -/
def ofMembers (shape : Shape δ α) (members : List (Except Fault String × Node)) (ending : Ending) :
    Except Fault α := do
  let draft ← members.foldlM (fun draft member => do
    shape.add draft (← member.1) member.2) shape.blank
  raise ending.objectFault?
  (shape.finish draft).mapError .missingMember

/-- What is wrong after the last member of a structure that is written as a list. -/
def endFault? : Ending → Option Fault
  | .closed => none
  | .commaClosed => some .trailingComma
  | .commaCut | .noKey | .noComma => some .trailingCharacters
  | .cut => some .endInList

/-- What is wrong with the end of a structure that is written as a list of `count` items. -/
def itemsFault? (shape : Shape δ α) (count : Nat) (ending : Ending) : Option Fault :=
  if count < shape.names.length then ending.listFault?
  else if count = shape.names.length then endFault? ending
  else some .trailingCharacters

/-- Read the members of a list.  Only the last ones may be missing. -/
def ofItems (shape : Shape δ α) (items : List Node) (ending : Ending) : Except Fault α := do
  let draft ← (shape.names.zip items).foldlM (fun draft member =>
    shape.put draft member.1 member.2) shape.blank
  raise (shape.itemsFault? items.length ending)
  let count := shape.names.length
  (shape.finish draft).mapError fun _ =>
    .wrongLength items.length s!"{shape.title} with {count} elements"

/-- Read a structure. -/
def read (shape : Shape δ α) : Node → Except Fault α
  | .object members ending => shape.ofMembers members ending
  | .list items ending => shape.ofItems items ending
  | node => node.refuse shape.title

end Shape

end Divert.Json
