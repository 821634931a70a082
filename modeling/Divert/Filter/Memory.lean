/-
# Divert.Filter.Memory — a packet filter that lives in memory.

The filter keeps any number of tables and accepts and refuses commands as the kernel does.  It backs
dry runs.  Kinds of command can be made to fail, and every change that was asked for is remembered,
whether it was carried out or not.

A command is a sequence of steps on the filter, each of which may change it or refuse to go on.  Nothing
is rolled back: where a command is refused, the filter is as the steps before have left it.
-/
import Divert.Filter.Table
import Divert.Script
import Divert.Text.Words

namespace Divert

/-- A packet filter in memory. -/
structure Memory where
  /-- The tables that commands have asked for; any other table is as it was at the start. -/
  tables : Keyed String Filter.Table
  /-- The kinds of command that are made to fail. -/
  failing : List Op
  /-- The changes that were asked for, in order, with their rules in normal form. -/
  history : List Command

namespace Memory

open Divert.Filter

/-! ## The state and its views -/

/-- The filter at the start: every table has its built-in chains only. -/
def fresh : Memory := ⟨.empty, [], []⟩

/-- The chains of a table. -/
def table (m : Memory) (name : String) : Table := (m.tables.get? name).getD Table.builtin

/-- The filter with a table put down, as it is at the start if nobody has asked for it yet. -/
def opened (m : Memory) (name : String) : Memory :=
  { m with tables := if m.tables.contains name then m.tables else m.tables.put name Table.builtin }

/-- The rules of a chain, if the chain exists. -/
def rules (m : Memory) (table chain : String) : Option (List String) := (m.table table).get? chain

/-- The names of the chains that are not built in, sorted. -/
def userChains (m : Memory) (table : String) : List String :=
  (((m.table table).entries.map Prod.fst).filter fun chain => decide (chain ∉ builtinChains)).mergeSort
    fun x y => decide (x ≤ y)

/-- Every chain with its rules: the built-in chains first. -/
def dump (m : Memory) (table : String) : List (String × List String) :=
  (builtinChains ++ m.userChains table).map fun chain => (chain, (m.rules table chain).getD [])

/-- Make every command of a kind fail from now on, or stop doing so. -/
def setFailing (m : Memory) (op : Op) (failing : Bool) : Memory :=
  let others := m.failing.filter fun other => decide (other ≠ op)
  { m with failing := if failing then op :: others else others }

/-- Forget the changes that were asked for. -/
def clearHistory (m : Memory) : Memory := { m with history := [] }

/-! ## Steps -/

/-- A step on the filter, which may be refused.  A refusal also has the filter as the step left it, with
all that was done to it by then. -/
abbrev Step (ε α : Type) := EStateM ε Memory α

namespace Step

/-- Remember a change that is asked for. -/
def record (command : Command) : Step Refusal Unit :=
  modify fun m => { m with history := m.history ++ [command] }

/-- Refuse a kind of command that is made to fail. -/
def failIfForced (op : Op) : Step Refusal Unit := do
  if op ∈ (← get).failing then
    throw .simulated

/-- The chains of a table; a table that nobody has asked for yet is put down first. -/
def openTable (name : String) : Step Refusal Table :=
  modifyGet fun m => (m.table name, m.opened name)

/-- Put down the chains of a table. -/
def store (name : String) (chains : Table) : Step Refusal Unit :=
  modify fun m => { m with tables := m.tables.put name chains }

/-- The rules of a chain that has to be there. -/
def rulesOf (chains : Table) (chain : String) : Step Refusal (List String) :=
  match chains.get? chain with
  | some rules => pure rules
  | none => throw .noSuchChain

/-- Refuse a rule whose target is neither a standard one nor a chain of the table. -/
def checkTarget (table rule : String) : Step Refusal Unit :=
  match Table.jumpTarget? (Text.words rule) with
  | none => pure ()
  | some none => throw .missingTarget
  | some (some target) => do
    if target ∉ standardTargets then
      let chains ← openTable table
      if !chains.contains target then
        throw (.unknownTarget target)

/-- The same step, whose refusal is the error of a command. -/
def refusedAs {α : Type} (error : String → RuleError) (step : Step Refusal α) : Step RuleError α :=
  step.adaptExcept fun refusal => error refusal.message

end Step

open Step

/-! ## Commands on a chain -/

/-- Say whether a chain is there. -/
def probe (table chain : String) : Step RuleError Bool :=
  refusedAs (.onChain .probe table chain) do
    failIfForced .probe
    return (← openTable table).contains chain

/-- Create a chain. -/
def create (table chain : String) : Step RuleError Unit :=
  refusedAs (.onChain .create table chain) do
    record ⟨table, chain, .create⟩
    failIfForced .create
    let chains ← openTable table
    if chains.contains chain then
      throw .chainExists
    store table (chains.put chain [])

/-- Take all rules out of a chain. -/
def flush (table chain : String) : Step RuleError Unit :=
  refusedAs (.onChain .flush table chain) do
    record ⟨table, chain, .flush⟩
    failIfForced .flush
    let chains ← openTable table
    let _ ← rulesOf chains chain
    store table (chains.put chain [])

/-- Remove a chain that is empty and that no rule jumps to, as far as whole rule texts tell. -/
def remove (table chain : String) : Step RuleError Unit :=
  refusedAs (.onChain .remove table chain) do
    record ⟨table, chain, .remove⟩
    failIfForced .remove
    if chain ∈ builtinChains then
      throw .builtinChain
    let chains ← openTable table
    if (← rulesOf chains chain) ≠ [] then
      throw .chainNotEmpty
    if chains.holdsRule (Rule.jumpTo chain) then
      throw .chainInUse
    store table (chains.erase chain)

/-! ## Commands on a rule -/

/-- Put a rule at a place of a chain; the first place is 1. -/
def insert (table chain : String) (position : Int) (text : String) : Step RuleError Unit :=
  let rule := Text.normalise text
  refusedAs (.onRule .insert table chain rule) do
    record ⟨table, chain, .insert position rule⟩
    failIfForced .insert
    checkTarget table rule
    let chains ← openTable table
    let rules ← rulesOf chains chain
    if position < 1 ∨ rules.length + 1 < position then
      throw .positionTooBig
    store table (chains.put chain (rules.insertIdx (position - 1).toNat rule))

/-- Put a rule at the end of a chain. -/
def append (table chain text : String) : Step RuleError Unit :=
  let rule := Text.normalise text
  refusedAs (.onRule .append table chain rule) do
    record ⟨table, chain, .append rule⟩
    failIfForced .append
    checkTarget table rule
    let chains ← openTable table
    let rules ← rulesOf chains chain
    store table (chains.put chain (rules ++ [rule]))

/-- Take the first copy of a rule out of a chain. -/
def delete (table chain text : String) : Step RuleError Unit :=
  let rule := Text.normalise text
  refusedAs (.onRule .delete table chain rule) do
    record ⟨table, chain, .delete rule⟩
    failIfForced .delete
    let chains ← openTable table
    let rules ← rulesOf chains chain
    if rule ∉ rules then
      throw .noSuchRule
    store table (chains.put chain (rules.erase rule))

/-- Say whether a chain holds a rule. -/
def check (table chain text : String) : Step RuleError Bool :=
  let rule := Text.normalise text
  refusedAs (.onRule .check table chain rule) do
    failIfForced .check
    let rules ← rulesOf (← openTable table) chain
    return decide (rule ∈ rules)

/-! ## The filter as a backend -/

/-- Whether a kind of command only asks. -/
def isQuestion (op : Op) : Bool := op = .probe || op = .check

/-- Carry out a command; a change that was carried out says `true`. -/
def carryOut (c : Command) : Step RuleError Bool :=
  match c.action with
  | .probe => probe c.table c.chain
  | .create => do create c.table c.chain; return true
  | .flush => do flush c.table c.chain; return true
  | .remove => do remove c.table c.chain; return true
  | .insert position text => do insert c.table c.chain position text; return true
  | .append text => do append c.table c.chain text; return true
  | .delete text => do delete c.table c.chain text; return true
  | .check text => check c.table c.chain text

/-- The answer to a command and the filter afterwards. -/
def answer (m : Memory) (c : Command) : Answer × Memory :=
  match (carryOut c).run m with
  | .ok value after => (.ok value, after)
  | .error e after => (.error e, after)

/-- The filter in memory logs the changes it is asked for. -/
def notices (_ : Memory) (command : Command) : List Notice :=
  if isQuestion command.action.op then [] else [.dryRunCommand (command.mapRule Text.normalise)]

/-- The filter in memory as a backend. -/
def backend : Backend Memory := ⟨answer, notices⟩

end Memory

end Divert
