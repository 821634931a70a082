/-
# Divert.Command — what can be asked of a packet filter, and how it can be refused.

There are eight kinds of command.  Two only ask (`probe` whether a chain exists, `check` whether a rule
does), six change something.  A command is plain data, so the sequences that install and remove
redirects can be written, and reasoned about, without saying which filter carries them out.
-/

namespace Divert

/-! ## Kinds of command -/

/-- The kind of a command. -/
inductive Op where
  | probe
  | create
  | flush
  | remove
  | insert
  | append
  | delete
  | check
  deriving DecidableEq, Repr

namespace Op

/-- Every kind of command. -/
def all : List Op := [probe, create, flush, remove, insert, append, delete, check]

/-- The option that selects the kind on the command line of the filter. -/
def flag : Op → String
  | probe => "-L"
  | create => "-N"
  | flush => "-F"
  | remove => "-X"
  | insert => "-I"
  | append => "-A"
  | delete => "-D"
  | check => "-C"

instance : ToString Op := ⟨flag⟩

end Op

/-! ## Commands -/

/-- What a command does to its chain. -/
inductive Action where
  | probe
  | create
  | flush
  | remove
  | insert (position : Int) (rule : String)
  | append (rule : String)
  | delete (rule : String)
  | check (rule : String)
  deriving DecidableEq, Repr

namespace Action

/-- The kind of an action. -/
def op : Action → Op
  | probe => .probe
  | create => .create
  | flush => .flush
  | remove => .remove
  | insert .. => .insert
  | append _ => .append
  | delete _ => .delete
  | check _ => .check

/-- The rule of an action on a rule. -/
def rule? : Action → Option String
  | insert _ rule | append rule | delete rule | check rule => some rule
  | probe | create | flush | remove => none

/-- The same action with its rule text changed. -/
def mapRule (f : String → String) : Action → Action
  | insert position rule => insert position (f rule)
  | append rule => append (f rule)
  | delete rule => delete (f rule)
  | check rule => check (f rule)
  | other => other

end Action

/-- One command: an action on a chain of a table. -/
structure Command where
  table : String
  chain : String
  action : Action
  deriving DecidableEq, Repr

/-! ## Refusals -/

/-- A command that was not carried out, and why. -/
structure RuleError where
  op : Op
  table : String
  chain : String
  /-- The rule, for commands on a rule. -/
  rule : Option String
  reason : String
  deriving DecidableEq, Repr

/-- A refused command on a whole chain. -/
def RuleError.onChain (op : Op) (table chain reason : String) : RuleError :=
  ⟨op, table, chain, none, reason⟩

/-- A refused command on one rule of a chain. -/
def RuleError.onRule (op : Op) (table chain rule reason : String) : RuleError :=
  ⟨op, table, chain, some rule, reason⟩

/-- The error in words: the command, then the reason. -/
def RuleError.message (e : RuleError) : String :=
  let rule := match e.rule with
    | some rule => s!" {rule}"
    | none => ""
  s!"iptables -t {e.table} {e.op} {e.chain}{rule}: {e.reason}"

instance : ToString RuleError := ⟨RuleError.message⟩

/-- What a filter says to a command.  To a question the value is the answer; a change that was carried
out says `true`. -/
abbrev Answer := Except RuleError Bool

namespace Command

/-- The same command with its rule text changed. -/
def mapRule (f : String → String) (c : Command) : Command := { c with action := c.action.mapRule f }

/-- The refusal of a command. -/
def refused (c : Command) (reason : String) : RuleError :=
  ⟨c.action.op, c.table, c.chain, c.action.rule?, reason⟩

/-- The command as the arguments of the administration command. -/
def line (c : Command) : String :=
  let head := s!"-t {c.table} {c.action.op} {c.chain}"
  match c.action with
  | .insert position rule => s!"{head} {position} {rule}"
  | .append rule | .delete rule | .check rule => s!"{head} {rule}"
  | .probe | .create | .flush | .remove => head

end Command

end Divert
