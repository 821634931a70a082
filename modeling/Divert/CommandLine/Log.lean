/-
# Divert.CommandLine.Log — notices as log lines.

A notice is written if the directives allow it, the configured level being one of them.  Lines are given
without the time of day.
-/
import Divert.CommandLine.Directive
import Divert.Config.Basic
import Divert.Json.Value

namespace Divert.CommandLine

/-- A log line: text, or an object. -/
inductive LogLine where
  | text (line : String)
  | object (value : Json.Value)

/-- A value in a line of text. -/
def fieldText : String × Notice.Field → String
  | (name, .word value) =>
    let value := Text.quoted value
    s!" {name}={value}"
  | (name, .shown value) => s!" {name}={value}"

/-- A value in an object. -/
def fieldMember : String × Notice.Field → String × Json.Value
  | (name, .word value) | (name, .shown value) => (name, .string value)

/-- A notice as text: the level in five columns, the source, the words and the values. -/
def textLine (target : Bool) (notice : Notice) : String :=
  let label := notice.level.label
  let padding := String.ofList (List.replicate (5 - label.length) ' ')
  let source := if target then s!"{notice.source}: " else ""
  let fields := String.join (notice.fields.map fieldText)
  s!"{padding}{label} {source}{notice.message}{fields}"

/-- A notice as an object. -/
def objectLine (target : Bool) (notice : Notice) : Json.Value :=
  let fields := ("message", .string notice.message) :: notice.fields.map fieldMember
  let source := if target then [("target", .string notice.source)] else []
  .object ([("level", .string notice.level.label), ("fields", .object fields)] ++ source)

/-- A notice in the configured format. -/
def logLine (log : LogSettings) (notice : Notice) : LogLine :=
  if LogFormat.ofName? log.format = some .json then .object (objectLine log.target notice)
  else .text (textLine log.target notice)

/-- The directives in force: those given, and the configured level. -/
def inForce (log : LogSettings) (directives : List Directive) : List Directive :=
  directives ++ [.everywhere ((Level.ofName? log.level).getD .info)]

/-- The log of some notices. -/
def logLines (log : LogSettings) (directives : List Directive) (notices : List Notice) :
    List LogLine :=
  (notices.filter (Directive.allow (inForce log directives))).map (logLine log)

end Divert.CommandLine
