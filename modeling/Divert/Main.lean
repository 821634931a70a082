/-
# Divert.Main — the program.

The outer layer: it reads the arguments, the environment and the configuration file, prints what a run
leaves behind, and waits for the end of its input as the signal to stop.  It cannot start other
programs, so every run that is not a dry run finds the administration command missing.
-/
import Divert.CommandLine.Run

namespace Divert.Program

open CommandLine

/-- An error of the file system in the program's terms. -/
def systemErrorOf : IO.Error → SystemError
  | .noFileOrDirectory .. => .notFound
  | .permissionDenied .. => .os 13
  | .inappropriateType .. => .isADirectory
  | error => .custom .other (toString error)

/-- What reading a file gives. -/
def readFileText (path : String) : IO FileText := do
  try
    let content ← IO.FS.readBinFile path
    match String.fromUTF8? content with
    | some text => return .text text
    | none => return .unreadable .notUtf8
  catch error =>
    match systemErrorOf error with
    | .os 2 => return .absent
    | cause => return .unreadable cause

/-- Write the default configuration if the options ask for it. -/
def writeIfAsked (options : Options) : IO (Except SystemError Unit) := do
  if !options.generate then return .ok ()
  try
    IO.FS.writeFile options.path Config.default.toText
    return .ok ()
  catch error => return .error (systemErrorOf error)

/-- The environment variables that a run looks at. -/
def readEnvironment : IO Environment := do
  let names := [Config.chainVariable, Config.levelVariable, Config.dryRunVariable,
    Directive.variableName]
  let entries ← names.mapM fun name => do
    return (← IO.getEnv name).map fun value => (name, value.toUTF8)
  return entries.filterMap id

/-- Print some log lines. -/
def printLog (lines : List LogLine) : IO Unit :=
  lines.forM fun
    | .text line => IO.println line
    | .object value => IO.println value.compact

/-- Wait for the end of the input. -/
partial def waitForEnd : IO Unit := do
  let line ← (← IO.getStdin).getLine
  if !line.isEmpty then waitForEnd

/-- Run the program.  A run that has to wait is shown up to that point, and to its end afterwards. -/
def start (arguments : List String) : IO UInt32 := do
  let options := (Options.default.read arguments).toOption.getD .default
  let file ← readFileText options.path
  let written ← writeIfAsked options
  let world : World := ⟨fun _ => file, fun _ _ => written, ← readEnvironment, .absent, none⟩
  let outcome := run world arguments
  IO.print outcome.stdout
  IO.eprint outcome.stderr
  printLog outcome.log
  match outcome.exit with
  | some status => return status.toUInt32
  | none =>
    waitForEnd
    let finished := run { world with signal := some .terminate } arguments
    printLog (finished.log.drop outcome.log.length)
    return (finished.exit.getD 0).toUInt32

end Divert.Program

/-- The program. -/
def main (arguments : List String) : IO UInt32 := Divert.Program.start arguments
