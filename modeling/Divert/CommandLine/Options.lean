/-
# Divert.CommandLine.Options — the options of the program.

Options are read from left to right.  Three of them end the program at once: the request for help, the
request for the version, and anything that is not an option.
-/

namespace Divert.CommandLine

/-! ## The program -/

/-- The program's name. -/
def programName : String := "nat-redirect"

/-- The program's version. -/
def programVersion : String := "0.1.0"

/-- Name and version in one line. -/
def banner : String := s!"{programName} v{programVersion}\n"

/-- Where the configuration is unless an option says otherwise. -/
def defaultPath : String := "/etc/nat-redirect/config.json"

/-- The help text. -/
def help : String := banner ++ "
Kernel NAT redirection for transparent proxies.

USAGE:
    nat-redirect [OPTIONS]

OPTIONS:
    -c, --config <PATH>     Configuration file path [default: /etc/nat-redirect/config.json]
    -g, --generate-config   Generate default configuration and exit
    --check                 Check configuration and exit
    --teardown              Remove the chain and its hooks, then exit
    -h, --help              Print help information
    -v, --version           Print version information

ENVIRONMENT:
    NAT_REDIRECT_CHAIN       Override chain name
    NAT_REDIRECT_LOG_LEVEL   Override log level (trace, debug, info, warn, error)
    NAT_REDIRECT_DRY_RUN     Keep rules in memory instead of calling iptables

REQUIREMENTS:
    - iptables with the nat table and REDIRECT target
    - CAP_NET_ADMIN capability (or root)

"

/-! ## Options -/

/-- What the options say. -/
structure Options where
  path : String
  generate : Bool
  check : Bool
  teardown : Bool
  deriving DecidableEq, Repr

/-- An option that ends the program at once. -/
inductive EarlyEnd where
  | help
  | version
  | unknown (argument : String)
  deriving DecidableEq, Repr

namespace Options

/-- What no option says. -/
def default : Options := ⟨defaultPath, false, false, false⟩

/-- Read options on top of earlier ones.  The option for the path takes the argument after it, if there
is one. -/
def read (options : Options) : List String → Except EarlyEnd Options
  | [] => .ok options
  | argument :: rest =>
    if argument = "-c" ∨ argument = "--config" then
      match rest with
      | [] => .ok options
      | path :: rest => read { options with path } rest
    else if argument = "-g" ∨ argument = "--generate-config" then
      read { options with generate := true } rest
    else if argument = "--check" then read { options with check := true } rest
    else if argument = "--teardown" then read { options with teardown := true } rest
    else if argument = "-h" ∨ argument = "--help" then .error .help
    else if argument = "-v" ∨ argument = "--version" then .error .version
    else .error (.unknown argument)

end Options

end Divert.CommandLine
