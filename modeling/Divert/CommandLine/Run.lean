/-
# Divert.CommandLine.Run — one run of the program.

A run is a function of the arguments and of the world around: what reading and writing a path gives, the
environment, the administration command, and the signal that ends the run.  It gives what the program
leaves behind.
-/
import Divert.CommandLine.Log
import Divert.CommandLine.Options
import Divert.Config.Load
import Divert.Engine

namespace Divert.CommandLine

/-! ## The world and the outcome -/

/-- What a run meets. -/
structure World where
  /-- What reading the file of a path gives. -/
  read : String → FileText
  /-- What writing a text to the file of a path gives. -/
  write : String → String → Except SystemError Unit
  environment : Environment
  iptables : Iptables
  /-- The signal that arrives once the program waits for it. -/
  signal : Option Signal

/-- What a run leaves behind. -/
structure Outcome where
  /-- The exit status; a program that still waits has none. -/
  exit : Option Nat
  stdout : String
  stderr : String
  log : List LogLine
  /-- The path and the text of the file that was written. -/
  written : Option (String × String)
  iptables : Iptables

/-- A run that ends without having done anything else. -/
def ending (world : World) (status : Nat) (stdout stderr : String) : Outcome :=
  ⟨some status, stdout, stderr, [], none, world.iptables⟩

/-! ## Failures -/

/-- A text with every line but the first indented. -/
def indented (margin s : String) : String := s.replace "\n" s!"\n{margin}"

/-- The causes of a failure, numbered if there are several. -/
def causeLines : List String → String
  | [] => ""
  | [cause] =>
    let cause := indented "    " cause
    s!"\n\nCaused by:\n    {cause}"
  | causes =>
    let lines := causes.zipIdx.map fun (cause, n) =>
      let cause := indented "       " cause
      s!"\n    {n}: {cause}"
    String.join ("\n\nCaused by:" :: lines)

/-- A failure and what caused it, the nearest cause first. -/
def failureText (message : String) (causes : List String) : String :=
  let causes := causeLines causes
  s!"Error: {message}{causes}\n"

/-- What caused a configuration error. -/
def configCauses : ConfigError → List String
  | .system cause => [cause.message]
  | _ => []

/-- What caused an error. -/
def errorCauses : Error → List String
  | .config error => error.message :: configCauses error
  | .rule error => [error.message]
  | .resolve (.descriptor cause) => [(ResolveError.descriptor cause).message, cause.message]
  | .resolve (.query cause) => [(ResolveError.query cause).message, cause.message]
  | .resolve error => [error.message]
  | .system cause => [cause.message]

/-! ## Work with a filter -/

/-- Take the chain away and be done. -/
def tearDown (t : Translator) : Script Unit := do
  let (report, _) ← t.disable
  Script.log (.tornDown report)

/-- Put the chain and the configured redirects in place, and take them away when the signal arrives. -/
def serve (t : Translator) (redirects : List Redirect) (signal : Option Signal) : Script Unit := do
  let report ← t.enable
  Script.log (.ready t.chain report)
  let (report, t) ← t.applyAll redirects
  if !report.isClean then Script.log (.redirectsIncomplete report)
  t.mappings.forM fun redirect => Script.log (.redirectInstalled redirect)
  if let some signal := signal then
    Script.log (.received signal)
    let (report, _) ← t.disable
    Script.log (.shutDown report)

/-- Work as configured.  The log is set up first, and what is wrong with its directives is told first. -/
def work (world : World) (options : Options) (config : Config) : Outcome :=
  let directives := (world.environment.get? Directive.variableName).getD ""
  let complaints := Directive.complaints directives
  let log := logLines config.log (Directive.readAll directives)
  let missing := match world.read options.path with
    | .absent => [Notice.configurationMissing options.path]
    | _ => []
  match Translator.ofConfig config world.iptables with
  | .error error =>
    { ending world 1 "" (complaints ++ failureText error.message (errorCauses error)) with
      log := log missing }
  | .ok (t, engine, started) =>
    let script := if options.teardown then tearDown t else serve t config.redirects world.signal
    let run := script.run Engine.backend engine
    { exit := if options.teardown || world.signal.isSome then some 0 else none
      stdout := ""
      stderr := complaints
      log := log (missing ++ started ++ run.notices)
      written := none
      iptables := match run.state with
        | .iptables command => command
        | .memory _ => world.iptables }

/-! ## The program -/

/-- Write the default configuration. -/
def generate (world : World) (path : String) : Outcome :=
  let text := Config.default.toText
  match world.write path text with
  | .error cause =>
    let error := ConfigError.system cause
    ending world 1 "" (failureText error.message (configCauses error))
  | .ok () =>
    let shown := Text.quoted path
    { ending world 0 s!"Generated default configuration at {shown}\n" "" with
      written := some (path, text) }

/-- One run of the program. -/
def run (world : World) (arguments : List String) : Outcome :=
  match Options.default.read arguments with
  | .error .help => ending world 0 help ""
  | .error .version => ending world 0 banner ""
  | .error (.unknown argument) => ending world 1 help s!"Unknown argument: {argument}\n"
  | .ok options =>
    if options.generate then generate world options.path
    else
      match Config.loadOverriddenOrDefault options.path (world.read options.path) world.environment with
      | .error error =>
        ending world 1 "" (failureText s!"loading {options.path}" (error.message :: configCauses error))
      | .ok config =>
        if options.check then ending world 0 "Configuration OK\n" "" else work world options config

end Divert.CommandLine
