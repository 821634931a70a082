/-
# Divert.Filter.Table — the chains of one table, and the reasons for which a command is refused.

A table holds chains, a chain holds rules in the order of evaluation.  Four chains are built in.  What a
command does to a table is the business of the filter that holds it; here is what the command looks at:
which chains are there, which rules they hold, and where a rule jumps to.  Rule texts are taken as they
are, so the caller brings them into normal form first.
-/
import Divert.Keyed
import Divert.Rule
import Divert.Command

namespace Divert.Filter

/-! ## Refusals -/

/-- Why a command is refused. -/
inductive Refusal where
  | simulated
  | chainExists
  | noSuchChain
  | builtinChain
  | chainNotEmpty
  | chainInUse
  | positionTooBig
  | noSuchRule
  | missingTarget
  | unknownTarget (target : String)
  deriving DecidableEq, Repr

/-- The refusal in the words of the kernel. -/
def Refusal.message : Refusal → String
  | simulated => "simulated failure"
  | chainExists => "Chain already exists."
  | noSuchChain => "No chain/target/match by that name."
  | builtinChain => "Can't delete built-in chain."
  | chainNotEmpty => "Directory not empty."
  | chainInUse => "Too many links."
  | positionTooBig => "Index of insertion too big."
  | noSuchRule => "Bad rule (does a matching rule exist in that chain?)."
  | missingTarget => "option \"-j\" requires an argument"
  | unknownTarget target => s!"Couldn't load target `{target}'"

/-! ## Tables -/

/-- The chains of a table, each with its rules in the order of evaluation. -/
abbrev Table := Keyed String (List String)

/-- The chains that every table has. -/
def builtinChains : List String := ["PREROUTING", "INPUT", "OUTPUT", "POSTROUTING"]

/-- The targets that are not chains. -/
def standardTargets : List String :=
  ["ACCEPT", "DROP", "RETURN", "QUEUE", "REDIRECT", "DNAT", "SNAT", "MASQUERADE"]

namespace Table

/-- The table that nobody has changed. -/
def builtin : Table where
  entries := builtinChains.map fun chain => (chain, [])
  distinct := by decide

/-- Whether some chain holds a rule. -/
def holdsRule (t : Table) (rule : String) : Bool := t.entries.any fun e => decide (rule ∈ e.2)

/-! ## Targets -/

/-- What follows the first jump option among the words of a rule: `none` without that option, and
`some none` if it is the last word. -/
def jumpTarget? : List String → Option (Option String)
  | [] => none
  | word :: rest => if word = Rule.jumpOption then some rest.head? else jumpTarget? rest

end Table

end Divert.Filter
