/-
# Divert.Error — the errors of the program, in words, and whether to try again.
-/
import Divert.Command
import Divert.Invalid
import Divert.Json.Fault
import Divert.Net.Destination

namespace Divert

/-! ## Configuration errors -/

/-- Why a text is not a configuration. -/
inductive ParseFailure where
  /-- The text is wrong. -/
  | inText (fault : Json.Fault)
  /-- The text of a file is wrong. -/
  | inFile (fault : Json.Fault) (path : String)
  | stated (reason : String)
  deriving DecidableEq, Repr

/-- The failure in words. -/
def ParseFailure.message : ParseFailure → String
  | inText fault => fault.message
  | inFile fault path =>
    let path := Text.quoted path
    s!"Failed to parse JSON: {fault} at {path}"
  | stated reason => reason

/-- Why there is no configuration. -/
inductive ConfigError where
  | fileNotFound (path : String)
  | parse (failure : ParseFailure)
  | validation (reason : Invalid)
  | environment (name reason : String)
  | system (cause : SystemError)
  deriving DecidableEq, Repr

/-- The error in words. -/
def ConfigError.message : ConfigError → String
  | fileNotFound path => s!"Configuration file not found: {path}"
  | parse failure =>
    let reason := failure.message
    s!"Failed to parse configuration: {reason}"
  | validation reason =>
    let reason := reason.message
    s!"Configuration validation failed: {reason}"
  | environment name reason => s!"Environment variable error: {name}: {reason}"
  | system cause => s!"I/O error reading configuration: {cause}"

/-- A configuration error needs somebody to mend it. -/
def ConfigError.isRecoverable (_ : ConfigError) : Bool := false

/-- The next run of a sequence issues a refused command again. -/
def RuleError.isRecoverable (_ : RuleError) : Bool := true

/-! ## All errors -/

/-- Any error of the program. -/
inductive Error where
  | config (error : ConfigError)
  | rule (error : RuleError)
  | resolve (error : ResolveError)
  | system (cause : SystemError)
  deriving DecidableEq, Repr

namespace Error

/-- The error in words. -/
def message : Error → String
  | config error =>
    let words := error.message
    s!"Configuration error: {words}"
  | rule error => s!"Rule error: {error}"
  | resolve error =>
    let words := error.message
    s!"Resolve error: {words}"
  | system cause => s!"I/O error: {cause}"

/-- Whether the same operation may succeed later. -/
def isRecoverable : Error → Bool
  | config error => error.isRecoverable
  | rule error => error.isRecoverable
  | resolve error => error.isRecoverable
  | system cause => cause.kind ≠ .other

end Error

end Divert
