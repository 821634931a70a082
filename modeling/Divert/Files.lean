/-
# Divert.Files — files by path.

A tree of directories and files, with a working directory that no absolute path leads to.  A path is
walked name by name; a name that is too long, missing, or below a file ends the walk with the error of
the operating system.
-/
import Divert.SystemError

namespace Divert

/-! ## Trees -/

/-- What stands under a path. -/
inductive Entry where
  | file (content : ByteArray)
  /-- A file that is empty whatever is written to it. -/
  | null
  | directory

/-- The entries of a tree, each under the names that lead to it from the root.  Later entries hide
earlier ones under the same names. -/
structure Files where
  entries : List (List String × Entry)

/-- What reading a file as text gives. -/
inductive FileText where
  | absent
  | unreadable (cause : SystemError)
  | text (content : String)

namespace Files

/-- The names that lead to the working directory.  The last of them cannot be written in a path. -/
def workingDirectory : List String := ["tmp", "\x00"]

/-- The directories that a system has below its root. -/
def systemDirectories : List String :=
  ["bin", "dev", "etc", "home", "lib", "proc", "root", "run", "sbin", "sys", "tmp", "usr", "var"]

/-- An empty working directory in an otherwise bare system. -/
def empty : Files :=
  ⟨(workingDirectory, .directory) :: (["dev", "null"], .null) ::
    systemDirectories.map fun name => ([name], .directory)⟩

/-- The entry that some names lead to; without names, the root. -/
def entry? (fs : Files) (names : List String) : Option Entry :=
  if names = [] then some .directory
  else (fs.entries.find? fun e => decide (e.1 = names)).map Prod.snd

/-! ## Walking a path -/

/-- The longest name of a directory entry in bytes. -/
def maxNameLength : Nat := 255

/-- A path has to be shorter than this many bytes. -/
def pathLimit : Nat := 4096

/-- A path as a list of names, and whether it has to lead to a directory. -/
structure Route where
  start : List String
  names : List String
  toDirectory : Bool

/-- Characters split at the slashes, without empty parts. -/
def splitSlashes (s : List Char) : List (List Char) :=
  (s.splitBy fun x y => (x = '/') == (y = '/')).filter fun part => decide (part.head? ≠ some '/')

/-- The names of a path. -/
def route (path : String) : Except SystemError Route :=
  let chars := path.toList
  if '\x00' ∈ chars then .error .nulInPath
  else if chars = [] then .error .notFound
  else if pathLimit ≤ path.utf8ByteSize then .error .nameTooLong
  else .ok
    { start := if chars.head? = some '/' then [] else workingDirectory
      names := (splitSlashes chars).map String.ofList
      toDirectory := chars.getLast? = some '/' }

/-- Go into a directory. -/
def enter (fs : Files) (here : List String) : Except SystemError Unit :=
  match fs.entry? here with
  | none => .error .notFound
  | some (.file _) | some .null => .error .notADirectory
  | some .directory => .ok ()

/-- One step from a directory: the names of the entry and the entry, if it is there. -/
def step (fs : Files) (here : List String) (name : String) :
    Except SystemError (List String × Option Entry) := do
  fs.enter here
  if name = "." then return (here, some .directory)
  else if name = ".." then return (here.dropLast, some .directory)
  else if maxNameLength < name.utf8ByteSize then throw .nameTooLong
  else return (here ++ [name], fs.entry? (here ++ [name]))

/-- Walk a list of names from a directory. -/
def walk (fs : Files) (here : List String) :
    List String → Except SystemError (List String × Option Entry)
  | [] => .ok (here, fs.entry? here)
  | [name] => fs.step here name
  | name :: rest => do
    let (there, _) ← fs.step here name
    fs.walk there rest

/-- The entry of a path. -/
def lookup (fs : Files) (path : String) : Except SystemError Entry := do
  let route ← route path
  match ← fs.walk route.start route.names with
  | (_, none) => throw .notFound
  | (_, some .directory) => return .directory
  | (_, some entry) => if route.toDirectory then throw .notADirectory else return entry

/-! ## Reading and writing -/

/-- The text of a file.  A path that leads nowhere, for whatever reason, is absent. -/
def read (fs : Files) (path : String) : FileText :=
  match fs.lookup path with
  | .error _ => .absent
  | .ok .directory => .unreadable .isADirectory
  | .ok .null => .text ""
  | .ok (.file content) =>
    match String.fromUTF8? content with
    | some text => .text text
    | none => .unreadable .notUtf8

/-- Put an entry under the names of a path. -/
def place (fs : Files) (names : List String) (entry : Entry) : Files :=
  ⟨(names, entry) :: fs.entries⟩

/-- Write a file: replace the one that is there, or add it to its directory.  A path that has to lead to
a directory is refused before its last name is looked at. -/
def write (fs : Files) (path : String) (content : ByteArray) : Except SystemError Files := do
  let route ← route path
  let (here, _) ← fs.walk route.start route.names.dropLast
  fs.enter here
  if route.toDirectory then throw .isADirectory
  match ← fs.step here (route.names.getLastD ".") with
  | (_, some .directory) => throw .isADirectory
  | (_, some .null) => return fs
  | (names, _) => return fs.place names (.file content)

/-- Make every directory on the way along some names that is not there. -/
def makeAlong (fs : Files) (here : List String) : List String → Files
  | [] => fs
  | name :: rest =>
    match fs.step here name with
    | .ok (there, none) => (fs.place there .directory).makeAlong there rest
    | .ok (there, some .directory) => fs.makeAlong there rest
    | _ => fs

/-- Make the directory of a path and those above it, as far as there is a place for them. -/
def makeDirectory (fs : Files) (path : String) : Files :=
  match route path with
  | .error _ => fs
  | .ok route => fs.makeAlong route.start route.names

end Files

end Divert
