/-
# Divert.CommandLine.Directive — which notices are logged.

A directive says of a part of the program how much a notice from there has to matter.  The most specific
directive that covers a notice decides about it; a notice that none covers is not logged.

A directive is written as a target, a span in brackets and a level after an equals sign.  The span has a
name, and a field in braces that may have a value.  Each of these may be missing, and a level may stand
alone:

    store::disk        store=debug        warn        store[open{size}]=3        [{size=1.*}]=off

The program has no spans, so a directive that asks for the name of a span, or for the value of a field,
covers nothing.  A value that is no number is a pattern all the same, and has to be one that can be
used.  A field without a value asks for a notice that has it.
-/
import Divert.Notice
import Divert.Pattern.Check
import Divert.Text.Alphanumeric

namespace Divert.CommandLine

/-- A directive about notices. -/
structure Directive where
  /-- What the source of a notice has to start with. -/
  target : String
  /-- The field that a notice has to have. -/
  field : Option String
  /-- How much a notice has to matter; without a level, none is logged. -/
  threshold : Option Level
  deriving DecidableEq, Repr

namespace Directive

/-- Why a text is no directive. -/
inductive Malformed where
  | shape
  | value (fault : Pattern.Fault)
  | level
  deriving DecidableEq, Repr

/-- The reason in words. -/
def Malformed.message : Malformed → String
  | shape => "invalid filter directive"
  | value fault => s!"invalid field filter: {fault.message}"
  | level => "error parsing level filter: expected one of \"off\", \"error\", \"warn\", \"info\", " ++
      "\"debug\", \"trace\", or a number 0-5"

/-! ## Levels -/

/-- The thresholds that have a number, from zero on. -/
def numbered : List (Option Level) :=
  [none, some .error, some .warn, some .info, some .debug, some .trace]

/-- A number in ASCII digits, with a plus sign or without. -/
def number? (s : List Char) : Option Nat :=
  let digits := if s.head? = some '+' then s.tail else s
  if digits ≠ [] ∧ digits.all Char.isDigit then some (Nat.ofDigitChars 10 digits 0) else none

/-- The threshold of a number, of the name of a level in any letter case, or of `off`. -/
def threshold? (s : List Char) : Option (Option Level) :=
  match number? s with
  | some n => numbered[n]?
  | none =>
    if Text.lower (String.ofList s) = "off" then some none
    else (Level.ofName? (String.ofList s)).map some

/-- The threshold that is written at the end of a directive: after an equals sign, or not at all, and
then everything is logged.  Blanks may stand there and nothing else. -/
def readThreshold : List Char → Except Malformed (Option Level)
  | ['='] => .ok (some .trace)
  | '=' :: level =>
    match threshold? level with
    | some threshold => .ok threshold
    | none => .error .level
  | rest => if rest.all Text.isBlank then .ok (some .trace) else .error .shape

/-! ## Values -/

/-- A text without the sign it starts with. -/
def unsigned : List Char → List Char
  | '+' :: rest | '-' :: rest => rest
  | s => s

/-- Nothing, or an exponent. -/
def isExponent : List Char → Bool
  | [] => true
  | c :: rest => (c = 'e' || c = 'E') && unsigned rest ≠ [] && (unsigned rest).all Char.isDigit

/-- Digits with a point and an exponent, each of which may be missing. -/
def isDecimal (s : List Char) : Bool :=
  let whole := s.takeWhile Char.isDigit
  match s.dropWhile Char.isDigit with
  | '.' :: rest =>
    (whole ≠ [] || rest.takeWhile Char.isDigit ≠ []) && isExponent (rest.dropWhile Char.isDigit)
  | rest => whole ≠ [] && isExponent rest

/-- A number, with a sign or without. -/
def isNumber (s : List Char) : Bool :=
  isDecimal (unsigned s) ||
    decide (Text.lower (String.ofList (unsigned s)) ∈ ["inf", "infinity", "nan"])

/-- The value that a field is asked to have: the text between its first two equals signs. -/
def value? (field : List Char) : Option (List Char) :=
  match field.dropWhile (· ≠ '=') with
  | [] => none
  | _ :: rest => some (rest.takeWhile (· ≠ '='))

/-- Refuse a field with a value that is no number and no pattern. -/
def checkValue (field : List Char) : Except Malformed Unit :=
  match value? field with
  | none => .ok ()
  | some value =>
    if isNumber value then .ok ()
    else match Pattern.fault? value with
      | none => .ok ()
      | some fault => .error (.value fault)

/-! ## Reading -/

/-- The characters that start from one place of a text up to another, counted in bytes. -/
def slice (start stop : Nat) : List Char → List Char
  | [] => []
  | c :: rest =>
    let rest := slice (start - c.utf8Size) (stop - c.utf8Size) rest
    if start = 0 ∧ 0 < stop then c :: rest else rest

/-- The size of a text in bytes. -/
def size (s : List Char) : Nat := (String.ofList s).utf8ByteSize

/-- A text starts as a directive does. -/
def starts : List Char → Bool
  | [] => false
  | c :: _ => c = '[' || c = '-' || c = ':' || c = '_' || Text.isAlphanumeric c

/-- What a directive asks of spans and fields. -/
inductive Span where
  | unasked
  /-- A span of a name, or a field with a value. -/
  | never
  | field (name : String)

/-- Read the span after its opening bracket, with what follows it.  The text of a field is looked up
in the whole text at the place that it has without the blanks before the directive. -/
def readSpan (s target rest : List Char) : Except Malformed (Span × List Char) :=
  let name := rest.takeWhile fun c => c ≠ ']' && c ≠ '\x7b'
  match rest.dropWhile fun c => c ≠ ']' && c ≠ '\x7b' with
  | ']' :: rest => .ok (.never, rest)
  | '\x7b' :: rest =>
    let field := rest.takeWhile (· ≠ '\x7d')
    let start := size target + size name + 2
    let found := slice start (start + size field) s
    match field, rest.dropWhile (· ≠ '\x7d') with
    | _ :: _, '\x7d' :: rest => do
      checkValue found
      match rest with
      | ']' :: rest =>
        if name ≠ [] ∨ (value? found).isSome then return (.never, rest)
        else return (.field (String.ofList found), rest)
      | _ => throw .shape
    | _, _ => .error .shape
  | _ => .error .shape

/-- The directive of a target, a span and a threshold, if it can cover anything. -/
def ofParts (target : List Char) (threshold : Option Level) : Span → Option Directive
  | .unasked => some ⟨String.ofList target, none, threshold⟩
  | .never => none
  | .field name => some ⟨String.ofList target, some name, threshold⟩

/-- Read a directive that starts at once, or after blanks that are part of the whole text.  After blanks
it covers nothing, and cannot have a level. -/
def readAfterBlanks (s text : List Char) : Except Malformed (Option Directive) := do
  let target := text.takeWhile fun c => c ≠ '=' && c ≠ '['
  let (span, rest) ← match text.dropWhile fun c => c ≠ '=' && c ≠ '[' with
    | '[' :: rest => readSpan s target rest
    | rest => .ok (.unasked, rest)
  if text.length < s.length then
    if rest.head? = some '=' then throw .level
    else if rest.all Text.isBlank then return none
    else throw .shape
  let alone := match span, rest with
    | .unasked, [] => threshold? target
    | _, _ => none
  match alone with
  | some threshold => return some ⟨"", none, threshold⟩
  | none => return ofParts target (← readThreshold rest) span

/-- Read a directive. -/
def ofText (s : String) : Except Malformed (Option Directive) :=
  let text := s.toList.dropWhile Text.isBlank
  if starts text then readAfterBlanks s.toList text else .error .shape

example : (ofText "warn").toOption.join = some ⟨"", none, some .warn⟩ := by decide +kernel

example : (ofText "store[\x7bsize\x7d]=3").toOption.join =
    some ⟨"store", some "size", some .info⟩ := by
  decide +kernel

/-! ## The environment -/

/-- The variable that holds directives. -/
def variableName : String := "RUST_LOG"

/-- The texts between the commas of a text. -/
def texts (s : String) : List String := (s.splitOn ",").filter (· ≠ "")

/-- The directives in a text. -/
def readAll (s : String) : List Directive :=
  (texts s).filterMap fun text => (ofText text).toOption.join

/-- A line for each part of a text that is no directive. -/
def complaints (s : String) : String :=
  String.join <| (texts s).map fun text =>
    match ofText text with
    | .ok _ => ""
    | .error reason => s!"ignoring `{text}`: {reason.message}\n"

/-! ## Deciding -/

/-- The directive for the whole program. -/
def everywhere (level : Level) : Directive := ⟨"", none, some level⟩

/-- A notice is one that the directive is about. -/
def covers (d : Directive) (notice : Notice) : Bool :=
  d.target.toList.isPrefixOf notice.source.toList &&
    d.field.all fun field => decide (field ∈ notice.fieldNames)

/-- A directive is at least as specific as another one: it has a longer target, or a field where the
other one has none or an earlier one. -/
def supersedes (d e : Directive) : Bool :=
  if d.target.length = e.target.length then
    match e.field, d.field with
    | none, _ => true
    | some _, none => false
    | some earlier, some later => decide (earlier ≤ later)
  else decide (e.target.length < d.target.length)

/-- The directive that decides about a notice: the most specific one that covers it, and the last one
of several that are written alike but for the level. -/
def decider? (directives : List Directive) (notice : Notice) : Option Directive :=
  directives.foldl (fun best d =>
    if d.covers notice && best.all d.supersedes then some d else best) none

/-- A notice is logged if it matters as much as the directive asks that decides about it. -/
def allow (directives : List Directive) (notice : Notice) : Bool :=
  match decider? directives notice with
  | none => false
  | some d => d.threshold.any fun level => decide (level.rank ≤ notice.level.rank)

end Directive

end Divert.CommandLine
