/-
# Divert.Notice — what is worth logging.

A notice names an event of the program; its level, its source and its words follow from it.  Sequences
emit notices, and only the log writer turns them into text.
-/
import Divert.Report
import Divert.Rule
import Divert.Text.Case
import Divert.Text.Quoted

namespace Divert

/-! ## Levels -/

/-- How much a notice matters. -/
inductive Level where
  | trace
  | debug
  | info
  | warn
  | error
  deriving DecidableEq, Repr

namespace Level

/-- Every level, the least important first. -/
def all : List Level := [trace, debug, info, warn, error]

/-- The name of a level in a configuration. -/
def name : Level → String
  | trace => "trace"
  | debug => "debug"
  | info => "info"
  | warn => "warn"
  | error => "error"

/-- The name of a level in a log line. -/
def label : Level → String
  | trace => "TRACE"
  | debug => "DEBUG"
  | info => "INFO"
  | warn => "WARN"
  | error => "ERROR"

/-- The place of a level in the order of importance. -/
def rank : Level → Nat
  | trace => 0
  | debug => 1
  | info => 2
  | warn => 3
  | error => 4

/-- The level of a name in any letter case. -/
def ofName? (s : String) : Option Level := all.find? fun level => decide (level.name = Text.lower s)

example : ofName? "WaRn" = some warn ∧ ofName? "warning" = none := by decide

end Level

/-! ## Notices -/

/-- The signal that ends a run. -/
inductive Signal where
  | interrupt
  | terminate
  deriving DecidableEq, Repr

/-- An event of the program. -/
inductive Notice where
  | stepFailed (operation : String) (error : RuleError)
  | dryRunCommand (command : Command)
  | backendReady
  | backendCommand (command : Command)
  | chainReused (chain : ChainName)
  | chainEnabled (chain : ChainName) (report : Report)
  | chainDisabled (chain : ChainName) (report : Report)
  | hookRemoved (hook : Hook) (chain : ChainName)
  | hookUnchecked (hook : Hook) (error : RuleError)
  | redirectKept (key : Key)
  | redirectAdded (redirect : Redirect)
  | redirectCleared (redirect : Redirect)
  | redirectsForgotten (count : Nat)
  | dryRun
  | configurationMissing (path : String)
  | ready (chain : ChainName) (report : Report)
  | redirectsIncomplete (report : Report)
  | redirectInstalled (redirect : Redirect)
  | received (signal : Signal)
  | shutDown (report : Report)
  | tornDown (report : Report)

namespace Notice

/-- How much a notice matters. -/
def level : Notice → Level
  | dryRunCommand _ | backendReady | backendCommand _ | chainReused _ | hookRemoved ..
  | hookUnchecked .. | redirectKept _ | redirectsForgotten _ => .debug
  | redirectAdded _ | redirectCleared _ | dryRun | ready .. | redirectInstalled _ | received _
  | shutDown _ | tornDown _ => .info
  | stepFailed .. | configurationMissing _ | redirectsIncomplete _ => .warn
  | chainEnabled _ report | chainDisabled _ report => if report.isClean then .info else .warn

/-- The part of the program that a notice comes from, as log lines name it. -/
def source : Notice → String
  | stepFailed .. => "nat_redirect::error"
  | dryRunCommand _ | backendReady | backendCommand _ => "nat_redirect::nat::backend"
  | chainReused _ | chainEnabled .. | chainDisabled .. | hookRemoved .. | hookUnchecked .. =>
    "nat_redirect::nat::chain"
  | redirectKept _ | redirectAdded _ | redirectCleared _ | redirectsForgotten _ =>
    "nat_redirect::nat::table"
  | dryRun => "nat_redirect::nat::translator"
  | configurationMissing _ | ready .. | redirectsIncomplete _ | redirectInstalled _ | received _
  | shutDown _ | tornDown _ => "nat_redirect"

/-- The last words of a notice about a chain: how the sequence went. -/
def outcome (verb : String) (report : Report) : String :=
  if report.isClean then verb else s!"{verb} in degraded mode ({report})"

/-- The words of a notice. -/
def message : Notice → String
  | stepFailed .. => "NAT: rule command failed"
  | dryRunCommand command => s!"NAT: (memory) {command.line}"
  | backendReady => "NAT: using iptables backend"
  | backendCommand command => s!"NAT: iptables {command.line}"
  | chainReused chain => s!"NAT: reusing existing chain {chain}"
  | chainEnabled chain report =>
    let outcome := outcome "enabled" report
    s!"NAT: chain {chain} {outcome}"
  | chainDisabled chain report =>
    let outcome := outcome "disabled" report
    s!"NAT: chain {chain} {outcome}"
  | hookRemoved hook chain => s!"NAT: removed hook {hook} -> {chain}"
  | hookUnchecked hook error => s!"NAT: hook check on {hook} failed ({error}), deleting blindly"
  | redirectKept key => s!"NAT: keeping previous redirect for {key}"
  | redirectAdded r => s!"NAT: redirecting {r.key} -> :{r.port}"
  | redirectCleared r => s!"NAT: cleared redirect {r.key} -> :{r.port}"
  | redirectsForgotten count => s!"NAT: forgetting {count} redirects"
  | dryRun => "NAT: dry run, rules are kept in memory only"
  | configurationMissing path =>
    let path := Text.quoted path
    s!"Configuration file {path} not found, using defaults"
  | ready chain report => s!"Chain {chain} ready: {report}"
  | redirectsIncomplete report => s!"Some redirects were not installed: {report}"
  | redirectInstalled r => s!"  {r.key} -> :{r.port}"
  | received .interrupt => "Received Ctrl-C"
  | received .terminate => "Received SIGTERM"
  | shutDown report => s!"Shutdown complete: {report}"
  | tornDown report => s!"Teardown finished: {report}"

/-- A value that a notice names besides its words. -/
inductive Field where
  /-- A name, quoted in lines of text. -/
  | word (value : String)
  /-- A value in its own words. -/
  | shown (value : String)

/-- The operation and the error that a failed step names besides its words. -/
def fields : Notice → List (String × Field)
  | stepFailed operation error => [("operation", .word operation), ("error", .shown error.message)]
  | _ => []

/-- The names of everything that a notice says: its words and its values. -/
def fieldNames (notice : Notice) : List String := "message" :: notice.fields.map Prod.fst

end Notice

end Divert
