/-
# Divert.Config.Basic — what a run is configured with.

A configuration names the chain, the redirects to install, whether to keep the rules in memory, and how
to log.  Names are kept as they were written; `validate` decides whether they mean something.
-/
import Divert.ChainName
import Divert.Notice

namespace Divert

/-! ## Log settings -/

/-- How log lines are written. -/
inductive LogFormat where
  | text
  | json
  deriving DecidableEq, Repr

namespace LogFormat

/-- Every format. -/
def all : List LogFormat := [text, json]

/-- The name of a format in a configuration. -/
def name : LogFormat → String
  | text => "text"
  | json => "json"

/-- The format of that very name. -/
def ofName? (s : String) : Option LogFormat := all.find? fun format => decide (format.name = s)

end LogFormat

/-- What is logged, and how. -/
structure LogSettings where
  level : String
  format : String
  /-- Whether a log line says which part of the program it comes from. -/
  target : Bool
  deriving DecidableEq, Repr

namespace LogSettings

/-- Information in text, with its source. -/
def default : LogSettings := ⟨"info", "text", true⟩

/-- Refuse a level or a format that does not exist, the level first. -/
def validate (log : LogSettings) : Except Invalid Unit :=
  if Level.ofName? log.level = none then .error (.unknownLevel log.level)
  else if LogFormat.ofName? log.format = none then .error (.unknownFormat log.format)
  else .ok ()

end LogSettings

/-! ## Configurations -/

/-- A configuration. -/
structure Config where
  chain : String
  dryRun : Bool
  redirects : List Redirect
  log : LogSettings
  deriving DecidableEq, Repr

namespace Config

/-- The configuration of a run that nobody configured. -/
def default : Config := ⟨"PROXY_REDIRECT", false, [], .default⟩

/-- Refuse a redirect to no port. -/
def checkPort (r : Redirect) : Except Invalid Unit :=
  if r.port = 0 then .error (.zeroPort r.key) else .ok ()

/-- Refuse the first redirect that goes to no port or has the key of an earlier one. -/
def checkRedirects (seen : List Key) : List Redirect → Except Invalid Unit
  | [] => .ok ()
  | r :: rest => do
    checkPort r
    if r.key ∈ seen then throw (.repeatedKey r.key)
    checkRedirects (r.key :: seen) rest

/-- Refuse a configuration for the first rule that it breaks: the chain's name, then the redirects in
order, then the log settings. -/
def validate (c : Config) : Except Invalid Unit := do
  let _ ← ChainName.check c.chain
  checkRedirects [] c.redirects
  c.log.validate

end Config

end Divert
