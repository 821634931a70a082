/-
# Divert.Proofs.Config.Alike — one configuration, however it is written.

A text may be laid out in any way, and its objects may have their members in any order, members that
nobody asks for, and members with the value that they would have without being written.  `Alike` says so
of trees, for the configuration itself, for its log settings and for each of its redirects; every
well-formed text has one tree.  Texts of trees that are alike are accepted as the same configuration, if
they are accepted.  A text that is refused may be refused with another fault when its members are
reordered; laying it out anew and writing a default down change not even that.
-/
import Divert.Proofs.Config.Valid
import Divert.Proofs.Json.Grammar
import Divert.Proofs.Json.Members
import Divert.Proofs.Json.Written
import Mathlib.Logic.Relation

namespace Divert

open Json

/-! ## Redirects -/

namespace Redirect

theorem slot_protocol :
    shape.Slot "protocol" Protocol.read fun x draft => { draft with protocol := some x } := by
  constructor <;> simp [shape]

theorem slot_address :
    shape.Slot "address" Address.read fun x draft => { draft with address := some x } := by
  constructor <;> simp [shape]

theorem slot_port : shape.Slot "port" Node.port fun x draft => { draft with port := some x } := by
  constructor <;> simp [shape]

theorem independent : shape.Independent where
  reads name known value := by
    simp only [shape, List.mem_cons, List.not_mem_nil, or_false] at known
    rcases known with rfl | rfl | rfl
    · exact slot_protocol.reads value
    · exact slot_address.reads value
    · exact slot_port.reads value
  blank := by simp [shape]

/-- Redirects that say the same: their values are the same, and there are no defaults. -/
def Alike : Node → Node → Prop := shape.AlikeValue (fun _ _ _ => False) (fun _ _ => False)

theorem tolerates : shape.Tolerates (fun _ _ _ => False) (fun _ _ => False) where
  independent := independent
  known _ _ _ h := h.elim
  reads _ _ _ h := h.elim
  redundant _ _ h := h.elim

theorem read_alike {node node' : Node} (h : Alike node node') :
    (shape.read node).toOption = (shape.read node').toOption :=
  tolerates.read_alikeValue h

/-- Lists are read alike if their items are. -/
theorem read_items {items items' : List Node} (h : List.Forall₂ Alike items items') :
    (items.mapM shape.read).toOption = (items'.mapM shape.read).toOption := by
  induction h with
  | nil => rfl
  | cons first _ ih =>
    rw [List.mapM_cons, List.mapM_cons]
    exact toOption_bind_congr (read_alike first) fun r => toOption_bind_congr ih fun _ => rfl

end Redirect

/-! ## Log settings -/

namespace LogSettings

theorem slot_level : shape.Slot "level" Node.text fun x draft => { draft with level := some x } := by
  constructor <;> simp [shape]

theorem slot_format :
    shape.Slot "format" Node.text fun x draft => { draft with format := some x } := by
  constructor <;> simp [shape]

theorem slot_target :
    shape.Slot "target" Node.truth fun x draft => { draft with target := some x } := by
  constructor <;> simp [shape]

theorem independent : shape.Independent where
  reads name known value := by
    simp only [shape, List.mem_cons, List.not_mem_nil, or_false] at known
    rcases known with rfl | rfl | rfl
    · exact slot_level.reads value
    · exact slot_format.reads value
    · exact slot_target.reads value
  blank := by simp [shape]

/-- The members of log settings with their default values. -/
inductive Default : String → Node → Prop where
  | level : Default "level" (.string (.ok default.level))
  | format : Default "format" (.string (.ok default.format))
  | target : Default "target" (.boolean default.target)

theorem redundant {name : String} {value : Node} (h : Default name value) :
    shape.Redundant name value := by
  cases h with
  | level =>
    apply slot_level.redundant (by decide) rfl
    simp +contextual [shape]
  | format =>
    apply slot_format.redundant (by decide) rfl
    simp +contextual [shape]
  | target =>
    apply slot_target.redundant (by decide) rfl
    simp +contextual [shape]

/-- Log settings that say the same. -/
def Alike : Node → Node → Prop := shape.AlikeValue (fun _ _ _ => False) Default

theorem tolerates : shape.Tolerates (fun _ _ _ => False) Default where
  independent := independent
  known _ _ _ h := h.elim
  reads _ _ _ h := h.elim
  redundant _ _ := redundant

end LogSettings

/-! ## Configurations -/

namespace Config

theorem slot_chain : shape.Slot "chain" Node.text fun x draft => { draft with chain := some x } := by
  constructor <;> simp [shape]

theorem slot_dryRun :
    shape.Slot "dry_run" Node.truth fun x draft => { draft with dryRun := some x } := by
  constructor <;> simp [shape]

theorem slot_redirects :
    shape.Slot "redirects" (Node.listOf Redirect.shape.read)
      fun x draft => { draft with redirects := some x } := by
  constructor <;> simp [shape]

theorem slot_log :
    shape.Slot "log" LogSettings.shape.read fun x draft => { draft with log := some x } := by
  constructor <;> simp [shape]

theorem independent : shape.Independent where
  reads name known value := by
    simp only [shape, List.mem_cons, List.not_mem_nil, or_false] at known
    rcases known with rfl | rfl | rfl | rfl
    · exact slot_chain.reads value
    · exact slot_dryRun.reads value
    · exact slot_redirects.reads value
    · exact slot_log.reads value
  blank := by simp [shape]

/-- The members of a configuration with their default values.  The log settings are a structure, and may
have their default value in any way of writing it. -/
inductive Default : String → Node → Prop where
  | chain : Default "chain" (.string (.ok default.chain))
  | dryRun : Default "dry_run" (.boolean default.dryRun)
  | redirects : Default "redirects" (.list [] .closed)
  | log {value : Node} (h : LogSettings.shape.read value = .ok default.log) : Default "log" value

theorem redundant {name : String} {value : Node} (h : Default name value) :
    shape.Redundant name value := by
  cases h with
  | chain =>
    apply slot_chain.redundant (by decide) rfl
    simp +contextual [shape]
  | dryRun =>
    apply slot_dryRun.redundant (by decide) rfl
    simp +contextual [shape]
  | redirects =>
    apply slot_redirects.redundant (by decide) rfl
    simp +contextual [shape, default]
  | log h =>
    apply slot_log.redundant (by decide) h
    simp +contextual [shape]

/-- The values in a configuration that say the same. -/
inductive Inside : String → Node → Node → Prop where
  | log {value value' : Node} (h : LogSettings.Alike value value') : Inside "log" value value'
  | redirects {items items' : List Node} (h : List.Forall₂ Redirect.Alike items items') :
      Inside "redirects" (.list items .closed) (.list items' .closed)

/-- Configurations that say the same. -/
def Alike : Node → Node → Prop := shape.AlikeValue Inside Default

theorem tolerates : shape.Tolerates Inside Default where
  independent := independent
  known name value value' h := by
    cases h with
    | log | redirects => decide
  reads name value value' h := by
    cases h with
    | log same => exact slot_log.put_alike (LogSettings.tolerates.read_alikeValue same)
    | redirects same =>
      apply slot_redirects.put_alike
      exact toOption_bind_congr (Redirect.read_items same) fun _ => rfl
  redundant _ _ := redundant

/-- The second configuration has one more member than the first, itself or in its log settings: one with
its default value. -/
inductive LeavesOut : Node → Node → Prop where
  | member {members members' : List Member} (h : Shape.LeavesOut Default members members') :
      LeavesOut (.object members .closed) (.object members' .closed)
  | ofLog {members members' : List Member} (before after : List Member)
      (h : Shape.LeavesOut LogSettings.Default members members') :
      LeavesOut (.object (before ++ (.ok "log", .object members .closed) :: after) .closed)
        (.object (before ++ (.ok "log", .object members' .closed) :: after) .closed)

theorem read_leavesOut {node node' : Node} (h : LeavesOut node node') :
    shape.read node = shape.read node' := by
  cases h with
  | member shorter => exact tolerates.read_leavesOut shorter
  | ofLog before after shorter =>
    apply Shape.read_replace (by decide)
    intro draft
    rw [slot_log.put, slot_log.put, LogSettings.tolerates.read_leavesOut shorter]

/-- Any number of members can be left out. -/
theorem read_eq_of_leavesOut {node node' : Node} (h : Relation.ReflTransGen LeavesOut node node') :
    shape.read node = shape.read node' := by
  induction h with
  | refl => rfl
  | tail _ last ih => exact ih.trans (read_leavesOut last)

/-! ## Texts -/

theorem ofText_of_isText {node : Node} {text : String} (h : IsText node text) :
    ofText text = shape.read node := by
  rw [ofText, h.ofText, Document.read]
  cases shape.read node <;> rfl

/-- **Ways of writing.** A well-formed text has one tree, and every text that the same tokens are laid out
in has that tree.  Texts with the same tree are loaded with the same result.  Texts of trees that are
alike, with members in another order, with unknown members or with other spellings inside, are loaded as
the same configuration or both refused.  A text that leaves out members with their default values is
loaded with the result of the text that has them. -/
theorem writings_agree :
    (∀ tokens, Derives .value tokens →
      ∃ node, ∀ s, Laid tokens s → ∀ other, IsText other (String.ofList s) ↔ other = node) ∧
    ∀ {node node' : Node} {text text' : String}, IsText node text → IsText node' text' →
      (node = node' → loadText text = loadText text') ∧
      (Alike node node' → ∀ c, loadText text = .ok c ↔ loadText text' = .ok c) ∧
      (Relation.ReflTransGen LeavesOut node node' → loadText text = loadText text') := by
  constructor
  · intro tokens derived
    obtain ⟨node, written⟩ := tree_of_derives derived
    refine ⟨node, fun s laid other => ⟨(written s laid).unique, ?_⟩⟩
    rintro rfl
    exact written s laid
  intro node node' text text' h h'
  have same_read (same : shape.read node = shape.read node') : loadText text = loadText text' := by
    rw [loadText, loadText, load, load, ofText_of_isText h, ofText_of_isText h', same]
  refine ⟨fun same => same_read (congrArg _ same), fun alike c => ?_, fun shorter => ?_⟩
  · rw [loadText_eq_ok_iff, loadText_eq_ok_iff, ofText_of_isText h, ofText_of_isText h',
      eq_ok_iff_of_toOption (tolerates.read_alikeValue alike)]
  · exact same_read (read_eq_of_leavesOut shorter)

/-- A compact text, and one in indented lines that has the members of three objects in another order,
members that nobody asks for in two of them, and a default written down. -/
theorem writings_agree_rearranged :
    let address : String × Value := ("address", .string "10.0.0.1")
    let plain : Value := .object [
      ("redirects", .list [.object [("protocol", .string "udp"), address, ("port", .number 53)]]),
      ("log", .object [("level", .string "warn"), ("format", .string "json")]),
      ("chain", .string "EDGE")]
    let other : Value := .object [("note", .list [.number 1, .object []]),
      ("log", .object [("format", .string "json"), ("colour", .boolean true),
        ("level", .string "warn")]),
      ("dry_run", .boolean false),
      ("redirects", .list [.object [("port", .number 53), ("protocol", .string "udp"), address]]),
      ("chain", .string "EDGE")]
    let c : Config := ⟨"EDGE", false, [⟨⟨.udp, ⟨10, 0, 0, 1⟩⟩, 53⟩], ⟨"warn", "json", true⟩⟩
    loadText plain.compact = .ok c ∧ loadText other.pretty = .ok c := by
  intro address plain other c
  have accepted : loadText plain.compact = .ok c := by
    rw [loadText_eq_ok_iff, ofText_of_isText plain.isText_compact]
    exact ⟨rfl, by decide⟩
  have rotated (a b c : Member) : [a, b, c].Perm [c, a, b] := @List.perm_append_comm _ [a, b] [c]
  have redirects : Redirect.Alike
      (Value.object [("protocol", .string "udp"), address, ("port", .number 53)]).node
      (Value.object [("port", .number 53), ("protocol", .string "udp"), address]).node :=
    .members (.reordered (rotated _ _ _))
  have logs : LogSettings.Alike
      (Value.object [("level", .string "warn"), ("format", .string "json")]).node
      (Value.object [("format", .string "json"), ("colour", .boolean true),
        ("level", .string "warn")]).node :=
    .members ((Shape.Alike.unknown _ (by decide) (.boolean true)).trans (.reordered (rotated _ _ _)))
  have alike : Alike plain.node other.node := by
    apply Shape.AlikeValue.members
    apply Shape.Alike.trans (.inside _ (.redirects (.cons redirects .nil)))
    apply Shape.Alike.trans (.reordered (.swap _ _ [_]))
    apply Shape.Alike.trans (.inside _ (.log logs))
    apply Shape.Alike.trans (.leavesOut (.intro [_] [_, _] .dryRun (by simp)))
    exact .unknown _ (by decide) (Value.list [.number 1, .object []]).spells_line
  exact ⟨accepted, ((writings_agree.2 plain.isText_compact other.isText_pretty).2.1 alike c).1 accepted⟩

end Config

end Divert
