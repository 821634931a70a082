/-
# Divert.Iptables — a packet filter behind the administration command.

The command is started once per call with the arguments of the call, and its exit status is the answer:
a question is answered "yes" by status zero and "no" by any other, a change is refused by any status
but zero.  A call that cannot be started refuses both.  The state holds what the command will reply, in
order, and the argument lists it was given.
-/
import Divert.Script
import Divert.SystemError
import Divert.Text.Digit
import Divert.Text.Pieces

namespace Divert

/-! ## The command and its replies -/

/-- How one call of the command ends. -/
inductive Reply where
  | exited (status : UInt8) (stderr : String)
  | killed (stderr : String)
  deriving DecidableEq, Repr

namespace Reply

/-- The exit status of a reply; a command that a signal ended has none and counts as -1. -/
def code : Reply → Int
  | exited status _ => status.toNat
  | killed _ => -1

/-- What the command wrote to its error stream. -/
def stderr : Reply → String
  | exited _ stderr | killed stderr => stderr

end Reply

/-- The administration command as the program meets it. -/
structure Iptables where
  /-- Whether the command can be started at all. -/
  present : Bool
  /-- What it prints when asked for its version. -/
  version : String
  /-- How the calls to come will end; a call beyond the list succeeds. -/
  replies : List Reply
  /-- The argument lists of the calls so far. -/
  calls : List (List String)
  deriving DecidableEq, Repr

namespace Iptables

/-- The command is not installed. -/
def absent : Iptables := ⟨false, "", [], []⟩

/-! ## Starting to use it -/

/-- Why the command cannot be used. -/
inductive Unavailable where
  | notFound
  | invalidVersion
  | invalidDigit
  | versionTooLarge
  deriving DecidableEq, Repr

/-- The reason in words. -/
def Unavailable.message : Unavailable → String
  | notFound => "iptables unavailable: No such file or directory (os error 2)"
  | invalidVersion => "iptables unavailable: invalid version number"
  | invalidDigit => "iptables unavailable: invalid digit found in string"
  | versionTooLarge => "iptables unavailable: number too large to fit in target type"

/-- The digits that a text starts with, if there are any, and the text after them. -/
def digits? (s : List Char) : Option (List Char × List Char) :=
  if s.takeWhile Text.isDigit = [] then none
  else some (s.takeWhile Text.isDigit, s.dropWhile Text.isDigit)

/-- The text after a character that it has to start with. -/
def after? (c : Char) : List Char → Option (List Char)
  | [] => none
  | d :: rest => if d = c then some rest else none

/-- The digits of the version that a text starts with: `v`, then three numbers with dots between them,
in the digits of any script. -/
def versionHere? (s : List Char) : Option (List (List Char)) := do
  let (major, s) ← digits? (← after? 'v' s)
  let (minor, s) ← digits? (← after? '.' s)
  let (patch, _) ← digits? (← after? '.' s)
  return [major, minor, patch]

/-- The digits of the first version in a text. -/
def version? : List Char → Option (List (List Char))
  | [] => none
  | c :: rest => (versionHere? (c :: rest)).or (version? rest)

/-- Go on reading a number of 31 bits from left to right.  Only the ASCII digits have a value, and the
first character that ends the reading gives the reason. -/
def readNumber (value : Nat) : List Char → Except Unavailable Nat
  | [] => .ok value
  | c :: rest =>
    if !c.isDigit then .error .invalidDigit
    else if 2 ^ 31 ≤ value * 10 + (c.toNat - '0'.toNat) then .error .versionTooLarge
    else readNumber (value * 10 + (c.toNat - '0'.toNat)) rest

/-- Ask the command for its version; it is usable if it prints one whose three numbers can be read. -/
def usable (x : Iptables) : Except Unavailable Unit :=
  if !x.present then .error .notFound
  else match version? x.version.toList with
    | none => .error .invalidVersion
    | some parts => parts.forM fun digits => do let _ ← readNumber 0 digits

example : (usable ⟨true, "v1.8.\u0967", [], []⟩).isOk = false := by decide

/-! ## Commands -/

/-- The arguments of a call, the request to wait for the lock last. -/
def arguments (c : Command) : List String :=
  let rule := match c.action with
    | .probe | .create | .flush | .remove => []
    | .insert position rule => toString position :: Text.pieces rule
    | .append rule | .delete rule | .check rule => Text.pieces rule
  ["-t", c.table, c.action.op.flag, c.chain] ++ rule ++ ["--wait"]

/-- An argument has to be shorter than this many bytes. -/
def argumentLimit : Nat := 131072

/-- Why a call cannot be started with some arguments, if it cannot. -/
def unstartable? (x : Iptables) (arguments : List String) : Option SystemError :=
  if arguments.any fun argument => argument.toList.contains '\x00' then some .nulInData
  else if !x.present then some .notFound
  else if arguments.any fun argument => decide (argumentLimit ≤ argument.utf8ByteSize) then
    some .argumentsTooLong
  else none

/-- Start the command and take its reply. -/
def call (x : Iptables) (arguments : List String) : Reply × Iptables :=
  (x.replies.head?.getD (.exited 0 ""),
    { x with replies := x.replies.tail, calls := x.calls ++ [arguments] })

/-- The answer to a command and the state afterwards.  A call that cannot be started is refused, also
if it is a question, and takes no reply. -/
def answer (x : Iptables) (c : Command) : Answer × Iptables :=
  match x.unstartable? (arguments c) with
  | some cause => (.error (c.refused cause.message), x)
  | none =>
    let (reply, x) := x.call (arguments c)
    match c.action with
    | .probe | .check _ => (.ok (reply.code = 0), x)
    | .create | .flush | .remove | .insert .. | .append _ | .delete _ =>
      if reply.code = 0 then (.ok true, x)
      else (.error (c.refused s!"code: {reply.code}, msg: {reply.stderr}"), x)

/-- Every command is logged but the question for a rule. -/
def notices (_ : Iptables) (c : Command) : List Notice :=
  if c.action.op = .check then [] else [.backendCommand c]

/-- The administration command as a backend. -/
def backend : Backend Iptables := ⟨answer, notices⟩

end Iptables

end Divert
