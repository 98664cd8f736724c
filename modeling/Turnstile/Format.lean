/-
# File formats

Formats of formula files are registered under their names in lower case. A
file's format is found by the suffix of its path, also in lower case, among
the extensions of the formats in the order in which they were registered; a
file without a suffix has the standard format.

Key definitions: `Format`, `Registry`, `Registry.register`,
`Registry.forFile`, `Registry.find`.
-/
import Turnstile.Data
import Turnstile.Path
import Turnstile.Text.Casing
import Turnstile.Text.Quoted

namespace Turnstile

/-- A format of formula files: its name and the extensions of its files. -/
structure Format where
  name : String
  extensions : List String
deriving DecidableEq, Repr

/-- The standard format: one formula on a line. -/
def Format.infixLines : Format := ⟨"infix", [".txt", ".prop", ".infix"]⟩

/-- Why no format was found. -/
inductive FormatError where
  /-- Neither a name nor a file was given. -/
  | unspecified
  /-- A name that no format has, and the names there are. -/
  | unknown (name : String) (available : List String)
  /-- A suffix that no format has, and the extensions there are. -/
  | unread (suffix : String) (known : List String)
deriving DecidableEq, Repr

/-- A missing format in words. -/
def FormatError.message : FormatError → String
  | unspecified => "Either format_name or file_path must be provided"
  | unknown name available =>
    "Unknown file format: " ++ name ++ " (available: " ++ ", ".intercalate available ++ ")"
  | unread suffix known =>
    "No format reads " ++ Text.quoted suffix ++ " files (known extensions: " ++
      ", ".intercalate known ++ ")"

/-- Formats by their names in lower case, in order of registration. -/
structure Registry where
  formats : List (String × Format)
deriving DecidableEq, Repr

namespace Registry

/-- Texts in increasing order, with those that occur again. -/
def sorted (texts : List String) : List String := texts.mergeSort fun a b => decide (a ≤ b)

/-- The registry that has only the standard format. -/
def standard : Registry := ⟨[(Format.infixLines.name, Format.infixLines)]⟩

/-- The registry with a format added; one of the same name is replaced where it
stands. -/
def register (format : Format) (r : Registry) : Registry :=
  ⟨Entries.set (Text.lower format.name) format r.formats⟩

/-- The names of all formats in increasing order. -/
def names (r : Registry) : List String := sorted (r.formats.map Prod.fst)

/-- The extensions of all formats in increasing order. -/
def extensions (r : Registry) : List String := sorted (r.formats.flatMap fun p => p.2.extensions)

/-- The name of the format of a file. -/
def forFile (r : Registry) (path : Path) : Except FormatError String :=
  let suffix := Text.lower path.suffix
  if suffix.isEmpty then .ok Format.infixLines.name
  else
    match r.formats.find? fun p => p.2.extensions.contains suffix with
    | some (name, _) => .ok name
    | none => .error (.unread suffix r.extensions)

/-- The format with a name. -/
def named (r : Registry) (name : String) : Except FormatError Format :=
  match Entries.get? (Text.lower name) r.formats with
  | some format => .ok format
  | none => .error (.unknown name r.names)

/-- The format with a name if one is given, else that of a file. -/
def find (r : Registry) (name : Option String) (file : Option Path) : Except FormatError Format :=
  match name, file with
  | some name, _ => r.named name
  | none, some path => do
    let name ← r.forFile path
    r.named name
  | none, none => .error .unspecified

end Registry

end Turnstile
