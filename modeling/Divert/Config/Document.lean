/-
# Divert.Config.Document — configurations as documents.

Reading goes through a document in order and stops at the first thing that is wrong.  Writing gives the
members in their order; reading what was written gives the same configuration.
-/
import Divert.Config.Basic
import Divert.Json.Document
import Divert.Json.Record
import Divert.Json.Value

namespace Divert

open Json

/-! ## Protocols -/

namespace Protocol

/-- The protocol of a name in a document. -/
def ofMember (name : String) : Except Fault Protocol :=
  match ofName? name with
  | some protocol => .ok protocol
  | none => .error (.unknownVariant name "`tcp` or `udp`")

/-- Nothing but `null` stands behind the name of a protocol. -/
def readNothing : Node → Except Fault Unit
  | .null => .ok ()
  | node => node.refuse "unit"

/-- Read a protocol: its name, or an object with its name and `null`.  An object without members lacks a
value; a key that is no string, or that the text does not reach, is a fault of the object. -/
def read : Node → Except Fault Protocol
  | .string value => do ofMember (← value)
  | .object [] .closed => .error .expectedValue
  | .object [] ending => .error (ending.objectFault?.getD .expectedValue)
  | .object ((name, value) :: rest) ending => do
    let protocol ← ofMember (← name)
    readNothing value
    match rest, ending with
    | [], .closed => return protocol
    | [], .cut => throw .endInObject
    | _, _ => throw .expectedValue
  | .broken .elsewhere _ _ => .error .expectedValue
  | .broken _ fault _ => .error fault
  | _ => .error .expectedValue

/-- Write a protocol. -/
def toValue (protocol : Protocol) : Value := .string protocol.name

end Protocol

/-! ## Addresses -/

namespace Address

/-- Read an address in dotted form. -/
def read : Node → Except Fault Address
  | .string value => do
    match ofText? (← value) with
    | some address => return address
    | none => throw .notAnAddress
  | node => node.refuse "IPv4 address"

end Address

/-- A member of a draft, or the name of the member that is missing. -/
def present {α : Type} (name : String) : Option α → Except String α
  | some value => .ok value
  | none => .error name

/-! ## Redirects -/

/-- The members of a redirect so far. -/
structure Redirect.Draft where
  protocol : Option Protocol
  address : Option Address
  port : Option UInt16

namespace Redirect

/-- A redirect has three members, and all of them have to be there. -/
def shape : Shape Draft Redirect where
  title := "struct RedirectConfig"
  names := ["protocol", "address", "port"]
  blank := ⟨none, none, none⟩
  has draft name :=
    if name = "protocol" then draft.protocol.isSome
    else if name = "address" then draft.address.isSome
    else draft.port.isSome
  put draft name value :=
    if name = "protocol" then do return { draft with protocol := some (← Protocol.read value) }
    else if name = "address" then do return { draft with address := some (← Address.read value) }
    else do return { draft with port := some (← value.port) }
  finish draft := do
    let protocol ← present "protocol" draft.protocol
    let address ← present "address" draft.address
    let port ← present "port" draft.port
    return ⟨⟨protocol, address⟩, port⟩

/-- Write a redirect. -/
def toValue (r : Redirect) : Value :=
  .object [("protocol", r.key.protocol.toValue), ("address", .string r.key.address.toText),
    ("port", .number r.port.toNat)]

end Redirect

/-! ## Log settings -/

/-- The members of log settings so far. -/
structure LogSettings.Draft where
  level : Option String
  format : Option String
  target : Option Bool

namespace LogSettings

/-- Log settings have three members with defaults. -/
def shape : Shape Draft LogSettings where
  title := "struct LogConfig"
  names := ["level", "format", "target"]
  blank := ⟨none, none, none⟩
  has draft name :=
    if name = "level" then draft.level.isSome
    else if name = "format" then draft.format.isSome
    else draft.target.isSome
  put draft name value :=
    if name = "level" then do return { draft with level := some (← value.text) }
    else if name = "format" then do return { draft with format := some (← value.text) }
    else do return { draft with target := some (← value.truth) }
  finish draft := .ok
    { level := draft.level.getD default.level
      format := draft.format.getD default.format
      target := draft.target.getD default.target }

/-- Write log settings. -/
def toValue (log : LogSettings) : Value :=
  .object [("level", .string log.level), ("format", .string log.format),
    ("target", .boolean log.target)]

end LogSettings

/-! ## Configurations -/

/-- The members of a configuration so far. -/
structure Config.Draft where
  chain : Option String
  dryRun : Option Bool
  redirects : Option (List Redirect)
  log : Option LogSettings

namespace Config

/-- A configuration has four members with defaults. -/
def shape : Shape Draft Config where
  title := "struct Config"
  names := ["chain", "dry_run", "redirects", "log"]
  blank := ⟨none, none, none, none⟩
  has draft name :=
    if name = "chain" then draft.chain.isSome
    else if name = "dry_run" then draft.dryRun.isSome
    else if name = "redirects" then draft.redirects.isSome
    else draft.log.isSome
  put draft name value :=
    if name = "chain" then do return { draft with chain := some (← value.text) }
    else if name = "dry_run" then do return { draft with dryRun := some (← value.truth) }
    else if name = "redirects" then do
      return { draft with redirects := some (← value.listOf Redirect.shape.read) }
    else do return { draft with log := some (← LogSettings.shape.read value) }
  finish draft := .ok
    { chain := draft.chain.getD default.chain
      dryRun := draft.dryRun.getD default.dryRun
      redirects := draft.redirects.getD default.redirects
      log := draft.log.getD default.log }

/-- Write a configuration. -/
def toValue (c : Config) : Value :=
  .object [("chain", .string c.chain), ("dry_run", .boolean c.dryRun),
    ("redirects", .list (c.redirects.map Redirect.toValue)), ("log", c.log.toValue)]

/-- The configuration in a text. -/
def ofText (s : String) : Except Fault Config := (Document.ofText s).read shape.read

/-- The text of a configuration, in indented lines. -/
def toText (c : Config) : String := c.toValue.pretty

end Config

end Divert
