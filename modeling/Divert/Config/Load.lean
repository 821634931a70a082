/-
# Divert.Config.Load — where a configuration comes from.

A configuration is read from a text or a file, or is the default one where there is no file, and may
then be overridden by three environment variables.  Whatever the way, a configuration that is handed out
has been validated after its last change.
-/
import Divert.Config.Document
import Divert.Error
import Divert.Files

namespace Divert

/-! ## The environment -/

/-- The variables that are set, with the bytes of their values. -/
abbrev Environment := List (String × ByteArray)

namespace Environment

/-- The value of a variable.  A value that is not UTF-8 counts as unset. -/
def get? (environment : Environment) (name : String) : Option String := do
  let entry ← environment.find? fun entry => decide (entry.1 = name)
  String.fromUTF8? entry.2

end Environment

namespace Config

/-- Accept a configuration that is valid. -/
def validated (c : Config) : Except ConfigError Config :=
  match c.validate with
  | .ok () => .ok c
  | .error reason => .error (.validation reason)

/-! ## From texts and files -/

/-- Read a configuration from a text, and validate it.  The failure says where the text is from. -/
def load (text : String) (failure : Json.Fault → ParseFailure) : Except ConfigError Config :=
  match ofText text with
  | .error fault => .error (.parse (failure fault))
  | .ok c => c.validated

/-- The configuration in a text. -/
def loadText (text : String) : Except ConfigError Config := load text .inText

/-- The configuration in what reading a file gave. -/
def loadFile (path : String) : FileText → Except ConfigError Config
  | .absent => .error (.fileNotFound path)
  | .unreadable cause => .error (.system cause)
  | .text text => load text fun fault => .inFile fault path

/-- The configuration in a file, or the default one if there is no file. -/
def loadFileOrDefault (path : String) : FileText → Except ConfigError Config
  | .absent => .ok default
  | file => loadFile path file

/-! ## Overrides -/

/-- The variable that overrides the chain. -/
def chainVariable : String := "NAT_REDIRECT_CHAIN"

/-- The variable that overrides the log level. -/
def levelVariable : String := "NAT_REDIRECT_LOG_LEVEL"

/-- The variable that overrides whether rules are kept in memory. -/
def dryRunVariable : String := "NAT_REDIRECT_DRY_RUN"

/-- The truth value of a word in any letter case. -/
def truth? (s : String) : Option Bool :=
  if Text.lower s ∈ ["1", "true", "yes"] then some true
  else if Text.lower s ∈ ["0", "false", "no"] then some false
  else none

/-- What an override says about dry runs. -/
def dryRunOverride (s : String) : Except ConfigError Bool :=
  match truth? s with
  | some value => .ok value
  | none => .error (.environment dryRunVariable s!"Invalid boolean: {s}")

/-- Replace what the environment overrides, and validate the result. -/
def override (c : Config) (environment : Environment) : Except ConfigError Config := do
  let c := { c with
    chain := (environment.get? chainVariable).getD c.chain
    log := { c.log with level := (environment.get? levelVariable).getD c.log.level } }
  match environment.get? dryRunVariable with
  | none => c.validated
  | some value => do
    let dryRun ← dryRunOverride value
    validated { c with dryRun }

/-- The configuration in a file, with overrides. -/
def loadOverridden (path : String) (file : FileText) (environment : Environment) :
    Except ConfigError Config := do
  (← loadFile path file).override environment

/-- The configuration in a file or the default one, with overrides. -/
def loadOverriddenOrDefault (path : String) (file : FileText) (environment : Environment) :
    Except ConfigError Config := do
  (← loadFileOrDefault path file).override environment

/-! ## The default file -/

/-- Write the default configuration to a file. -/
def writeDefault (fs : Files) (path : String) : Except ConfigError Files :=
  (fs.write path default.toText.toUTF8).mapError .system

end Config

end Divert
