/-
# Disks

A disk as a value: the files and directories there are, each at a place. A
place is the list of names that leads to it, the innermost first; the empty
place is the top directory. A path is a text. Looking it up goes through its
names one by one, each of which must be looked up in a directory; a single dot
stays there and a double dot goes back one step. A path that ends in a slash
can only mean a directory.

Key definitions: `Disk`, `Route.ofText`, `Disk.locate`, `Disk.newFiles`,
`World`, `World.setVariable`, `World.read`, `World.write`, `World.isFile`.
-/
import Turnstile.Data
import Turnstile.Path
import Turnstile.Text.Lines
import Turnstile.Text.Utf8

namespace Turnstile

/-- Where something stands on a disk. -/
abbrev Place := List String

/-- What stands at a place. -/
inductive Entry where
  | file (bytes : ByteArray)
  | directory

/-- The files and directories there are, the latest first. -/
structure Disk where
  entries : List (Place × Entry)

/-- Why a file cannot be read or written. -/
inductive DiskError where
  | missing
  | isDirectory
  | notDirectory
  /-- A file where a directory has to be made. -/
  | alreadyThere
  /-- A name or path that is longer than a disk takes. -/
  | nameTooLong
  /-- A path with a character that ends it before its end. -/
  | nullCharacter
  | undecodable (b : Text.BadBytes)
deriving DecidableEq, Repr

/-- The words for a path with a null character. -/
def DiskError.nullMessage : String := "embedded null byte"

/-! ### Paths to be looked up -/

/-- A path as it is looked up. -/
structure Route where
  /-- Whether it starts at the top. -/
  absolute : Bool
  /-- Its names, dots included. -/
  names : List String
  /-- Whether it ends in a slash. -/
  slashed : Bool
deriving DecidableEq, Repr

namespace Route

/-- The most bytes of a path. -/
def maxPath : Nat := 4095

/-- The most bytes of a name. -/
def maxName : Nat := 255

/-- The path that a text asks to look up. -/
def ofText (s : String) : Except DiskError Route :=
  let cs := s.toList
  if cs.contains '\x00' then .error .nullCharacter
  else if cs.isEmpty then .error .missing
  else if maxPath < s.utf8ByteSize then .error .nameTooLong
  else
    let names := (Path.pieces cs).filter fun p => p ≠ []
    .ok ⟨cs.head? == some '/', names.map String.ofList,
      !names.isEmpty && cs.getLast? == some '/'⟩

end Route

namespace Disk

/-- A disk with nothing on it. -/
def empty : Disk := ⟨[]⟩

/-- What stands at a place. -/
def at? (d : Disk) (place : Place) : Option Entry :=
  if place.isEmpty then some .directory
  else (d.entries.find? fun p => p.1 == place).map Prod.snd

/-- The disk with something put at a place. -/
def put (place : Place) (entry : Entry) (d : Disk) : Disk :=
  ⟨(place, entry) :: d.entries.filter fun p => p.1 != place⟩

/-- The disk without what stands at a place. -/
def erase (place : Place) (d : Disk) : Disk := ⟨d.entries.filter fun p => p.1 != place⟩

/-- The place where names lead to from another place. There need not be anything
at it. -/
def locate (d : Disk) (place : Place) : List String → Except DiskError Place
  | [] => .ok place
  | name :: rest =>
    match d.at? place with
    | none => .error .missing
    | some (.file _) => .error .notDirectory
    | some .directory =>
      if name = "." then d.locate place rest
      else if name = ".." then d.locate place.tail rest
      else if Route.maxName < name.utf8ByteSize then .error .nameTooLong
      else d.locate (name :: place) rest

/-- What stands where names lead to. -/
def lookup (d : Disk) (place : Place) (names : List String) : Except DiskError Entry := do
  let place ← d.locate place names
  match d.at? place with
  | some entry => return entry
  | none => .error .missing

/-- The bytes of the file that names lead to. -/
def readBytes (d : Disk) (place : Place) (names : List String) : Except DiskError ByteArray := do
  match ← d.lookup place names with
  | .file bytes => return bytes
  | .directory => .error .isDirectory

/-- The disk with a file written where names lead to. -/
def writeBytes (d : Disk) (place : Place) (names : List String) (bytes : ByteArray) :
    Except DiskError Disk := do
  let place ← d.locate place names
  match d.at? place with
  | some .directory => .error .isDirectory
  | _ => return d.put place (.file bytes)

/-- The disk without the file that names lead to. -/
def removeFile (d : Disk) (place : Place) (names : List String) : Except DiskError Disk := do
  let place ← d.locate place names
  match d.at? place with
  | some (.file _) => return d.erase place
  | some .directory => .error .isDirectory
  | none => .error .missing

/-- The disk with a directory at the place where a name leads to. -/
def makeDirectory (d : Disk) (place : Place) (name : String) : Except DiskError (Disk × Place) := do
  let next ← d.locate place [name]
  match d.at? next with
  | some .directory => return (d, next)
  | some (.file _) => .error .alreadyThere
  | none => return (d.put next .directory, next)

/-- The disk with all the directories that names lead to. A file in the way is a
fault of its own kind where it is the last name. -/
def makeDirectories (d : Disk) (place : Place) : List String → Except DiskError Disk
  | [] => .ok d
  | [name] => (d.makeDirectory place name).map Prod.fst
  | name :: rest =>
    match d.makeDirectory place name with
    | .ok (d, next) => d.makeDirectories next rest
    | .error .alreadyThere => .error .notDirectory
    | .error e => .error e

end Disk

namespace Disk

/-- The files of a disk below a place that another disk does not have, by the
names that lead to them from there, the oldest first. -/
def newFiles (old new : Disk) (below : Place) : List (List String × ByteArray) :=
  new.entries.reverse.filterMap fun (place, entry) =>
    match entry, old.at? place with
    | .file bytes, none =>
      let names := place.take (place.length - below.length)
      if names ++ below == place then some (names.reverse, bytes) else none
    | _, _ => none

end Disk

/-! ### Worlds -/

/-- Why a variable cannot be set. -/
inductive VariableFault where
  /-- A name or value with a character that ends it before its end. -/
  | nullCharacter
  /-- A name with a sign of equality. -/
  | illegalName
  | emptyName
deriving DecidableEq, Repr

/-- What a command finds around it: the disk, the directory it is run in, the
one its user is at home in as the system has it, and the variables of its
environment. -/
structure World where
  disk : Disk
  cwd : Path
  home : Path
  env : List (String × String)

namespace World

/-- The world with a variable set. -/
def setVariable (w : World) (name value : String) : Except VariableFault World :=
  if (name ++ value).toList.contains '\x00' then .error .nullCharacter
  else if name.toList.contains '=' then .error .illegalName
  else if name.isEmpty then .error .emptyName
  else .ok { w with env := Entries.set name value w.env }

/-- The world without a variable. -/
def dropVariable (w : World) (name : String) : World :=
  { w with env := w.env.filter fun p => p.1 ≠ name }

/-- The place where a path is looked up from. -/
def start (w : World) (r : Route) : Place := if r.absolute then [] else w.cwd.parts.reverse

/-- What stands at a path. -/
def lookup (w : World) (path : String) : Except DiskError Entry := do
  let r ← Route.ofText path
  match ← w.disk.lookup (w.start r) r.names with
  | .directory => return .directory
  | .file bytes => if r.slashed then .error .notDirectory else return .file bytes

/-- The bytes of the file at a path. -/
def readBytes (w : World) (path : String) : Except DiskError ByteArray := do
  match ← w.lookup path with
  | .file bytes => return bytes
  | .directory => .error .isDirectory

/-- The text of the file at a path, with its line breaks made one. -/
def read (w : World) (path : String) : Except DiskError String := do
  let bytes ← w.readBytes path
  let s ← (Text.decode bytes).mapError .undecodable
  return String.ofList (Text.unifyBreaks s.toList)

/-- The world after a text was written to the file at a path. Where the path
ends in a slash only the directory it would stand in is looked up. -/
def write (w : World) (path s : String) : Except DiskError World := do
  let r ← Route.ofText path
  if r.slashed then
    let place ← w.disk.locate (w.start r) r.names.dropLast
    match w.disk.at? place with
    | some .directory => .error .isDirectory
    | some (.file _) => .error .notDirectory
    | none => .error .missing
  else
    let disk ← w.disk.writeBytes (w.start r) r.names s.toUTF8
    return { w with disk }

/-- What an entry at a path says, `false` if there is none. A path that a disk
does not take is a fault. -/
def test (w : World) (path : String) (p : Entry → Bool) : Except DiskError Bool :=
  match w.lookup path with
  | .ok entry => .ok (p entry)
  | .error .nameTooLong => .error .nameTooLong
  | .error _ => .ok false

/-- Whether there is a file at a path. -/
def isFile (w : World) (path : String) : Except DiskError Bool :=
  w.test path fun
    | .file _ => true
    | .directory => false

/-- Whether there is a file or a directory at a path. -/
def pathExists (w : World) (path : String) : Except DiskError Bool := w.test path fun _ => true

end World

end Turnstile
