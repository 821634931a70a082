/-
# Divert.Proofs.Rule.Arguments — which chain a hook names to the administration command.

Commands on our chain hand its name on as it is.  A hook is handed on as a rule text, and that is cut
into arguments once more, by rules that know of quotes.  The names that a chain may have know of none:
a name with a quote at an end loses it on the way, so the chain is created under one name and the hooks
jump to another.  Every other name comes through.
-/
import Divert.Iptables
import Divert.Lifecycle
import Divert.Proofs.Rule.Texts
import Divert.Proofs.Text.Pieces

namespace Divert

open Text (QuoteAtEnd)

/-! ## The pieces of a jump -/

namespace Rule

theorem toList_jump (chain : ChainName) :
    (jump chain).toList = '-' :: 'j' :: ' ' :: chain.text.toList := by
  simp [jump, jumpTo, jumpOption, toString]

/-- A jump is cut into its option and the pieces of the name. -/
theorem pieces_jump_eq (chain : ChainName) :
    Text.pieces (jump chain) =
      jumpOption :: (Text.piecesOf chain.text.toList).map String.ofList := by
  have option : Text.trimQuotes ['-', 'j'] = ['-', 'j'] := by decide
  unfold Text.pieces
  rw [toList_jump, Text.piecesOf_cons (by decide) (by decide)]
  simp [Text.piecesOf_space, option, jumpOption]

theorem space_notMem_text (chain : ChainName) : ' ' ∉ chain.text.toList := by
  intro h
  have blank := chain.isWord_text.2 ' ' h
  rw [Text.isBlank_space] at blank
  cases blank

/-- No piece of the name is the name if the name has a quote at an end. -/
theorem text_notMem_pieces {chain : ChainName} (h : QuoteAtEnd chain.text.toList) :
    chain.text ∉ (Text.piecesOf chain.text.toList).map String.ofList := by
  intro hmem
  obtain ⟨piece, hpiece, htext⟩ := List.mem_map.1 hmem
  have same : piece = chain.text.toList := by
    rw [← htext, String.toList_ofList]
  exact Text.not_quoteAtEnd_of_mem_piecesOf hpiece (same ▸ h)

/-- **Pieces of a jump.** A jump is cut into its option and its chain exactly if the name of the chain
has no quote at an end. -/
theorem pieces_jump_iff {chain : ChainName} :
    Text.pieces (jump chain) = [jumpOption, chain.text] ↔ ¬ QuoteAtEnd chain.text.toList := by
  rw [pieces_jump_eq]
  constructor
  · intro hpieces hquote
    apply text_notMem_pieces hquote
    rw [List.tail_eq_of_cons_eq hpieces]
    exact List.mem_singleton_self _
  · intro hquote
    have hword := chain.isWord_text
    rw [Text.piecesOf_word hword.1 (space_notMem_text chain)
      (Bool.eq_false_iff.2 (not_or.1 hquote).1), Text.trimQuotes_of_not_quoteAtEnd hquote]
    simp

/-- A name with a quote at an end is no piece of its jump, the option included. -/
theorem text_notMem_pieces_jump {chain : ChainName} (h : QuoteAtEnd chain.text.toList) :
    chain.text ∉ Text.pieces (jump chain) := by
  rw [pieces_jump_eq, List.mem_cons]
  rintro (hoption | hmem)
  · rw [hoption] at h
    revert h
    decide
  · exact text_notMem_pieces h hmem

end Rule

/-! ## The arguments of a hook -/

namespace Iptables

open Lifecycle

/-- A command without a rule names its chain as it is. -/
theorem arguments_of_rule?_eq_none {c : Command} (h : c.action.rule? = none) :
    arguments c = ["-t", c.table, c.action.op.flag, c.chain, "--wait"] := by
  obtain ⟨table, chain, action⟩ := c
  cases action with
  | probe | create | flush | remove => rfl
  | insert | append | delete | check => cases h

/-- **Arguments of a hook.** A command on our chain hands on its name as it is.  A command on a hook
hands on the target option and that same name exactly if the name has no quote at an end.  A name that
has one is not handed on at all, so the hook jumps to another chain than the one created. -/
theorem hook_arguments_iff (chain : ChainName) :
    (∀ action, action.rule? = none → arguments (chainCommand chain action) =
      ["-t", natTable, action.op.flag, chain.text, "--wait"]) ∧
    (∀ hook : Hook,
      (∀ position, arguments (hookCommand chain hook (.insert position)) =
        ["-t", natTable, "-I", hook.chain, toString position, "-j", chain.text, "--wait"] ↔
          ¬ QuoteAtEnd chain.text.toList) ∧
      (arguments (hookCommand chain hook .delete) =
        ["-t", natTable, "-D", hook.chain, "-j", chain.text, "--wait"] ↔
          ¬ QuoteAtEnd chain.text.toList) ∧
      (arguments (hookCommand chain hook .check) =
        ["-t", natTable, "-C", hook.chain, "-j", chain.text, "--wait"] ↔
          ¬ QuoteAtEnd chain.text.toList)) ∧
    (QuoteAtEnd chain.text.toList → chain.text ∉ Text.pieces (Rule.jump chain)) := by
  -- What stands around the rule is the same on both sides.
  have around (before : List String) :
      before ++ Text.pieces (Rule.jump chain) ++ ["--wait"] =
        before ++ ["-j", chain.text] ++ ["--wait"] ↔ ¬ QuoteAtEnd chain.text.toList := by
    rw [List.append_left_inj, List.append_right_inj]
    exact Rule.pieces_jump_iff
  refine ⟨?_, ?_, Rule.text_notMem_pieces_jump⟩
  · intro action h
    exact arguments_of_rule?_eq_none h
  · intro hook
    refine ⟨?_, ?_, ?_⟩
    · intro position
      exact around ["-t", natTable, "-I", hook.chain, toString position]
    · exact around ["-t", natTable, "-D", hook.chain]
    · exact around ["-t", natTable, "-C", hook.chain]

/-- The chain is created under a name that ends in a quote, and the hooks jump to the name without. -/
theorem hook_arguments_quoted :
    arguments (chainCommand ⟨"A'", by decide⟩ .create) = ["-t", "nat", "-N", "A'", "--wait"] ∧
    arguments (hookCommand ⟨"A'", by decide⟩ .output (.insert 1)) =
      ["-t", "nat", "-I", "OUTPUT", "1", "-j", "A", "--wait"] ∧
    "A'" ∉ Text.pieces (Rule.jump ⟨"A'", by decide⟩) := by
  obtain ⟨named, _, lost⟩ := hook_arguments_iff ⟨"A'", by decide⟩
  refine ⟨named .create rfl, ?_, lost (by decide)⟩
  decide +kernel

end Iptables

end Divert
