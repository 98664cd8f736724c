/-
# Settings

Settings come in layers. The packaged ones are always there; a user's file,
if there is one, is merged over them key by key, so it names only what it
changes, and a null changes nothing. The file is the one named by an
environment variable, or the one in the working directory, or the one at
home. A value spelt `${NAME}` or `${NAME:default}` stands for an environment
variable, whose value is read as YAML in its turn. How YAML is read is a
parameter; `Yaml.parse` is the reader that the command is run with.

Key definitions: `Settings.expand`, `Settings.merge`, `Settings.mergeData`,
`Settings.lookup`, `Settings.load`, `Settings.get?`, `Settings.limits`.
-/
import Turnstile.Disk
import Turnstile.Limit
import Turnstile.Yaml.Fault

namespace Turnstile

/-- Why settings cannot be loaded. -/
inductive SettingsError where
  /-- A text that is no YAML. -/
  | yaml (f : Yaml.Fault)
  /-- A file that holds no mapping, and what it holds instead. -/
  | notMapping (path typeName : String)
  /-- A file that is not there. -/
  | missingFile (path : String)
  /-- A file that cannot be read. -/
  | unreadable (e : DiskError)
  /-- A home directory that cannot be told. -/
  | homeless
  /-- The name of a variable that no variable can have. -/
  | impossibleName
deriving DecidableEq, Repr

/-- A failed load in words. -/
def SettingsError.message : SettingsError → String
  | yaml f => f.message
  | notMapping path typeName =>
    path ++ ": expected a mapping of settings, got " ++ typeName
  | missingFile path => "Configuration file not found: " ++ path
  | unreadable _ => "the settings cannot be read"
  | homeless => "Could not determine home directory."
  | impossibleName => "the variable has a name that cannot be"

/-- Why a value cannot be merged over another. -/
inductive MergeFault where
  /-- A value that is asked for its entries and has none. -/
  | noEntries
  /-- A value that is given an entry and takes none. -/
  | notWritable
deriving DecidableEq, Repr

/-- Where settings come from. -/
inductive SettingsSource where
  | packaged
  | file (path : Path)
deriving DecidableEq, Repr

/-- Settings, and the layers they were made from, the lowest first. -/
structure Settings where
  sources : List SettingsSource
  values : Data

namespace Settings

/-! ### Variables -/

/-- The name and the default of the variable that a whole text spells. -/
def reference? (text : Points) : Option (Points × Points) :=
  match text with
  | .char '$' :: .char '\x7b' :: p =>
    let body := p.takeWhile fun c => c ≠ .char '\x7d'
    let name := body.takeWhile fun c => c ≠ .char ':'
    let fallback := body.drop (name.length + 1)
    if name.isEmpty || p != body ++ [.char '\x7d'] then none else some (name, fallback)
  | _ => none

/-- Whether a name can be that of a variable: of the halves of surrogate pairs
only those that stand for single bytes can be in it. -/
def isPossibleName (name : Points) : Bool :=
  name.all fun
    | .char _ => true
    | .half n => 0x480 ≤ n.val && n.val < 0x500

/-- The value of a variable. -/
def variableValue (env : List (String × String)) (name : Points) :
    Except SettingsError (Option String) :=
  match name.string? with
  | some s => .ok (Entries.get? s env)
  | none => if isPossibleName name then .ok none else .error .impossibleName

/-- A reader of YAML texts. -/
abbrev YamlReader := String → Except Yaml.Fault Data

/-- The data that a reader finds in a YAML text. -/
def readYaml (read : YamlReader) (s : String) : Except SettingsError Data :=
  (read s).mapError .yaml

/-- What a text stands for: itself, or what the value of a variable says. -/
def expandText (read : YamlReader) (env : List (String × String)) (text : Points) :
    Except SettingsError Data :=
  match reference? text with
  | none => .ok (.ofPoints text)
  | some (name, fallback) => do
    match ← variableValue env name, fallback.string? with
    | some s, _ => readYaml read s
    | none, some s => readYaml read s
    | none, none => .error (.yaml .malformed)

mutual

/-- A value with its variables replaced by what the environment says. -/
def expand (read : YamlReader) (env : List (String × String)) : Data → Except SettingsError Data
  | .text s => expandText read env s
  | .torn p => expandText read env p
  | .dict entries => do
    let entries ← expandEntries read env entries
    return .dict entries
  | .list items => do
    let items ← expandItems read env items
    return .list items
  | d => .ok d

/-- The entries of a dictionary with their variables replaced; keys are kept. -/
def expandEntries (read : YamlReader) (env : List (String × String)) :
    List (Key × Data) → Except SettingsError (List (Key × Data))
  | [] => .ok []
  | (k, d) :: rest => do
    let d ← expand read env d
    let rest ← expandEntries read env rest
    return (k, d) :: rest

/-- The items of a list with their variables replaced. -/
def expandItems (read : YamlReader) (env : List (String × String)) :
    List Data → Except SettingsError (List Data)
  | [] => .ok []
  | d :: rest => do
    let d ← expand read env d
    let rest ← expandItems read env rest
    return d :: rest

end

/-! ### Layers -/

mutual

/-- What a key has after a layer gave it a value: a dictionary is merged into a
dictionary, and anything else takes the place of what was there. -/
def mergeValue (below : Option Data) : Data → Data
  | .dict changes =>
    match below with
    | some (.dict base) => .dict (merge base changes)
    | _ => .dict changes
  | d => d

/-- The entries of a layer with those of another merged over them. A null
changes nothing. Sections are values: merging makes new entries and writes into
no dictionary, so settings in which one dictionary is in two places are outside
of what is described here. -/
def merge (base : List (Key × Data)) : List (Key × Data) → List (Key × Data)
  | [] => base
  | (k, d) :: rest =>
    merge (if d.isNull then base else Entries.set k (mergeValue (Entries.get? k base) d) base) rest

end

/-- A value with another merged over it. Only a dictionary can be merged over
anything; what it is merged into need be one only if there is something to
merge. -/
def mergeData (base : Data) : Data → Except MergeFault Data
  | .dict changes =>
    match base, changes.find? fun p => !p.2.isNull with
    | .dict entries, _ => .ok (.dict (merge entries changes))
    | d, none => .ok d
    | _, some (_, .dict _) => .error .noEntries
    | _, some _ => .error .notWritable
  | _ => .error .noEntries

/-- The value under a list of keys, each in the dictionary of the one before;
null counts as nothing. -/
def lookup : List String → Data → Option Data
  | [], d => some d
  | k :: ks, .dict entries =>
    match Entries.get? (.text k) entries with
    | none | some .null => none
    | some d => lookup ks d
  | _ :: _, _ => none

/-- The pieces of a key between its dots. -/
def splitDots : List Char → List (List Char)
  | [] => [[]]
  | c :: cs =>
    if c = '.' then [] :: splitDots cs
    else
      match splitDots cs with
      | [] => [[c]]
      | p :: ps => (c :: p) :: ps

/-- The keys that a dotted key names. -/
def keys (key : String) : List String := (splitDots key.toList).map String.ofList

/-- The value of a dotted key. -/
def get? (s : Settings) (key : String) : Option Data := lookup (keys key) s.values

/-- The settings with more merged over them. -/
def update (changes : Data) (s : Settings) : Except MergeFault Settings := do
  let values ← mergeData s.values changes
  return { s with values }

/-! ### Loading -/

/-- The packaged settings. -/
def packaged : Data :=
  .ofFields
    [("parser", .ofFields
        [("max_length", .text "$\x7bGENTZEN_MAX_LENGTH:10000\x7d"),
          ("max_depth", .text "$\x7bGENTZEN_MAX_DEPTH:200\x7d")]),
      ("logging", .ofFields
        [("level", .text "$\x7bGENTZEN_LOG_LEVEL:WARNING\x7d"),
          ("format", .text "%(asctime)s %(name)s %(levelname)s %(message)s")])]

/-- The home directory: the one that the environment names, without slashes at
its end, or else the one that the system has. -/
def homePath (w : World) : Except SettingsError Path :=
  match Entries.get? "HOME" w.env with
  | none => .ok w.home
  | some s =>
    match (s.toList.reverse.dropWhile (· == '/')).reverse with
    | [] => .ok (Path.ofText "/")
    | '~' :: _ => .error .homeless
    | cs => .ok (Path.ofText (String.ofList cs))

/-- The first of several paths at which there is a file. -/
def firstFile (w : World) : List Path → Except SettingsError (Option Path)
  | [] => .ok none
  | path :: paths => do
    let there ← (w.isFile path.render).mapError .unreadable
    if there then return some path else firstFile w paths

/-- The user's file, if there is one. -/
def userFile (w : World) : Except SettingsError (Option Path) :=
  let named := (Entries.get? "GENTZEN_CONFIG" w.env).getD ""
  if named.isEmpty then do
    let home ← homePath w
    firstFile w
      [w.cwd.join (Path.ofText "gentzen.yaml"), home.join (Path.ofText ".gentzen/config.yaml")]
  else .ok (some (Path.ofText named))

/-- The entries of a layer. -/
def layer (read : YamlReader) (w : World) :
    SettingsSource → Except SettingsError (List (Key × Data))
  | .packaged => do
    let d ← expand read w.env packaged
    return d.entries?.getD []
  | .file path => do
    let s ← (w.read path.render).mapError .unreadable
    match read s with
    | .ok (.dict entries) => expandEntries read w.env entries
    | .ok d => if d.isTruthy then .error (.notMapping path.render d.typeName) else return []
    | .error (.containsItself "dict") => .error (.yaml (.containsItself "dict"))
    | .error (.containsItself typeName) => .error (.notMapping path.render typeName)
    | .error f => .error (.yaml f)

/-- The layers of sources merged over each other. -/
def mergeLayers (read : YamlReader) (w : World) (base : List (Key × Data)) :
    List SettingsSource → Except SettingsError (List (Key × Data))
  | [] => .ok base
  | source :: rest => do
    let entries ← layer read w source
    mergeLayers read w (merge base entries) rest

/-- The settings with a user's file over the packaged ones; a file that is
named must be there. -/
def load (read : YamlReader) (w : World) (file : Option Path) :
    Except SettingsError Settings := do
  let file ←
    match file with
    | some path => .ok (some path)
    | none => userFile w
  let sources ←
    match file with
    | none => .ok [.packaged]
    | some path => do
      let there ← (w.isFile path.render).mapError .unreadable
      if there then .ok [.packaged, .file path] else .error (.missingFile path.render)
  let entries ← mergeLayers read w [] sources
  return ⟨sources, .dict entries⟩

/-- The settings in use: those that were loaded, or else the ones found now. -/
def current (read : YamlReader) (w : World) (loaded : Option Settings) :
    Except SettingsError Settings :=
  match loaded with
  | some s => .ok s
  | none => load read w none

/-! ### What the settings say -/

/-- The limit that a key gives, or else a standard one. -/
def limit (s : Settings) (key : String) (standard : Option Limit) : Option Limit :=
  match s.get? key with
  | some d => Limit.ofData? d
  | none => standard

/-- The limits that a parse observes. -/
def limits (s : Settings) : Limits where
  maxLength := s.limit "parser.max_length" Limits.standard.maxLength
  maxDepth := s.limit "parser.max_depth" Limits.standard.maxDepth

end Settings

end Turnstile
