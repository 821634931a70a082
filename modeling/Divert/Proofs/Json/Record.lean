/-
# Divert.Proofs.Json.Record — structures from their members.

A structure is collected member by member.  A member that the structure has and the draft lacks goes to
its own reader, so an object whose members are read one after the other is the structure of the last
draft.
-/
import Divert.Json.Record

namespace Divert.Json.Shape

variable {δ α : Type} (shape : Shape δ α)

/-- Collect some members in a draft. -/
def collect (draft : δ) (members : List (Except Fault String × Node)) : Except Fault δ :=
  members.foldlM (fun draft member => do shape.add draft (← member.1) member.2) draft

variable {shape} {draft next : δ} {name : String} {value : Node} {result : α}
  {members : List (Except Fault String × Node)}

theorem collect_cons (known : name ∈ shape.names) (new : shape.has draft name = false)
    (read : shape.put draft name value = .ok next) :
    shape.collect draft ((.ok name, value) :: members) = shape.collect next members := by
  have added : shape.add draft name value = .ok next := by
    rw [add, if_neg (not_not_intro known), if_neg (Bool.eq_false_iff.1 new), read]
  rw [collect, List.foldlM_cons]
  show (shape.add draft name value >>= _) = _
  rw [added]
  rfl

/-- An object is the structure of the draft that its members are collected in. -/
theorem read_object (collected : shape.collect shape.blank members = .ok draft)
    (finished : shape.finish draft = .ok result) :
    shape.read (.object members .closed) = .ok result := by
  show (shape.collect shape.blank members >>= _) = _
  rw [collected]
  show (shape.finish draft).mapError Fault.missingMember = _
  rw [finished]
  rfl

end Divert.Json.Shape
