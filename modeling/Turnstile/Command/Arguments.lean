/-
# Command-line arguments

The arguments of the command: a formula, and options anywhere around it. A
long option may be shortened as long as no other starts alike, its value
follows it or an equals sign, and a double dash ends the options. All
arguments are classified first; then they are taken from left to right. What
fits nowhere is collected and refused at the end.

Key definitions: `Switch`, `Argument.classify`, `Request`,
`Request.ofArguments`, `ArgumentError.message`.
-/
import Turnstile.Data
import Turnstile.Text.Quoted
import Turnstile.Text.Word

namespace Turnstile

/-- The options of the command. -/
inductive Switch where
  | help
  | file
  | format
  | tree
  | json
  | verbose
deriving DecidableEq, Repr

namespace Switch

/-- The spellings of all options. -/
def spellings : List (String × Switch) :=
  [("-h", help), ("--help", help), ("--file", file), ("--format", format), ("--tree", tree),
    ("--json", json), ("--verbose", verbose)]

/-- Whether an option has a value. -/
def takesValue : Switch → Bool
  | file => true
  | format => true
  | json => true
  | _ => false

/-- The name of an option in messages. -/
def label : Switch → String
  | help => "-h/--help"
  | file => "--file"
  | format => "--format"
  | tree => "--tree"
  | json => "--json"
  | verbose => "--verbose"

end Switch

/-- Why arguments are refused. -/
inductive ArgumentError where
  /-- A shortened option that fits several. -/
  | ambiguous (argument : String) (candidates : List String)
  /-- An option without its value. -/
  | missingValue (s : Switch)
  /-- A value for an option that has none. -/
  | extraValue (s : Switch) (value : String)
  /-- Arguments that fit nowhere. -/
  | unrecognized (arguments : List String)
  /-- Both a formula and a file, or neither. -/
  | notOneSource
deriving DecidableEq, Repr

/-- Refused arguments in words. -/
def ArgumentError.message : ArgumentError → String
  | ambiguous argument candidates =>
    "ambiguous option: " ++ argument ++ " could match " ++ ", ".intercalate candidates
  | missingValue s => "argument " ++ s.label ++ ": expected one argument"
  | extraValue s value =>
    "argument " ++ s.label ++ ": ignored explicit argument " ++ Text.quoted value
  | unrecognized arguments => "unrecognized arguments: " ++ " ".intercalate arguments
  | notOneSource => "give either a formula or --file"

/-- An argument by what it looks like. -/
inductive Argument where
  /-- An option, whether it was given by its letter, and what comes with it in
  the same argument: what follows an equals sign, or the letter. -/
  | option (s : Switch) (short : Bool) (attached : Option String)
  /-- What looks like an option but is none. -/
  | unknown
  | word
  | doubleDash
deriving DecidableEq, Repr

namespace Argument

/-- The parts of a text before and after its first equals sign. -/
def splitEquals? (cs : List Char) : Option (List Char × List Char) :=
  match cs.dropWhile fun c => c ≠ '=' with
  | [] => none
  | _ :: after => some (cs.takeWhile fun c => c ≠ '=', after)

/-- The options that a shortened long option fits, by their spellings, with the
value given. -/
def longMatches (cs : List Char) : List (String × Argument) :=
  let (start, attached) : List Char × Option String :=
    match splitEquals? cs with
    | some (start, value) => (start, some (String.ofList value))
    | none => (cs, none)
  Switch.spellings.filterMap fun p =>
    if start.isPrefixOf p.1.toList then some (p.1, .option p.2 false attached) else none

/-- The option that a letter with characters after it fits, by its spelling. -/
def shortMatches (cs : List Char) : List (String × Argument) :=
  Switch.spellings.filterMap fun p =>
    if p.1.toList = cs.take 2 then
      some (p.1, .option p.2 true (some (String.ofList (cs.drop 2))))
    else none

/-- Whether a text is a negative number, with or without a line feed after it. -/
def isNegativeNumber (cs : List Char) : Bool :=
  let cs := if cs.getLast? = some '\n' then cs.dropLast else cs
  match cs with
  | '-' :: ds =>
    match ds.dropWhile Text.isDecimal with
    | [] => !ds.isEmpty
    | '.' :: rest => !rest.isEmpty && rest.all Text.isDecimal
    | _ => false
  | _ => false

/-- What an argument that starts with a dash looks like, where it is no full
spelling of an option. -/
def classifyDashed (argument : String) : Except ArgumentError Argument :=
  let cs := argument.toList
  let candidates :=
    match cs with
    | _ :: '-' :: _ => longMatches cs
    | _ => shortMatches cs
  match candidates with
  | [(_, x)] => .ok x
  | [] => .ok (if isNegativeNumber cs || cs.contains ' ' then .word else .unknown)
  | several => .error (.ambiguous argument (several.map Prod.fst))

/-- What an argument before a double dash looks like. -/
def classifyOne (argument : String) : Except ArgumentError Argument :=
  match argument.toList with
  | '-' :: c :: cs =>
    let short := c != '-'
    match Entries.get? argument Switch.spellings with
    | some s => .ok (.option s short none)
    | none =>
      match splitEquals? ('-' :: c :: cs) with
      | some (spelling, value) =>
        match Entries.get? (String.ofList spelling) Switch.spellings with
        | some s => .ok (.option s short (some (String.ofList value)))
        | none => classifyDashed argument
      | none => classifyDashed argument
  | _ => .ok .word

/-- What all arguments look like. -/
def classify : List String → Except ArgumentError (List (String × Argument))
  | [] => .ok []
  | argument :: rest =>
    if argument = "--" then .ok ((argument, .doubleDash) :: rest.map fun a => (a, .word))
    else do
      let x ← classifyOne argument
      let xs ← classify rest
      return (argument, x) :: xs

end Argument

/-- The value of an option. -/
inductive OptionValue where
  | text (s : String)
  /-- What is left of a value that is a double dash. -/
  | blank
deriving DecidableEq, Repr

namespace OptionValue

/-- The value that a text gives. -/
def ofText (s : String) : OptionValue := if s = "--" then blank else text s

/-- The text of a value. -/
def text? : OptionValue → Option String
  | text s => some s
  | blank => none

end OptionValue

/-- What the command is asked to do. -/
structure Request where
  formula : Option String
  file : Option OptionValue
  format : Option OptionValue
  json : Option OptionValue
  tree : Bool
  verbose : Bool
deriving DecidableEq, Repr

/-- What arguments ask for: help, or work. -/
inductive Asked where
  | help
  | work (r : Request)
deriving DecidableEq, Repr

namespace Request

/-- A request for nothing. -/
def empty : Request := ⟨none, none, none, none, false, false⟩

/-- The request with the value of an option. -/
def setValue (s : Switch) (value : String) (r : Request) : Request :=
  match s with
  | .file => { r with file := some (.ofText value) }
  | .format => { r with format := some (.ofText value) }
  | .json => { r with json := some (.ofText value) }
  | _ => r

/-- The request with an option that has no value. -/
def setFlag (s : Switch) (r : Request) : Request :=
  match s with
  | .tree => { r with tree := true }
  | .verbose => { r with verbose := true }
  | _ => r

/-- What is known while arguments are taken. -/
structure Progress where
  request : Request
  /-- Whether the place of the formula was filled. -/
  filled : Bool
  /-- The arguments that fit nowhere. -/
  extras : List String

/-- Checks the characters that come with an option given by its letter: they
must be letters of further options. -/
def checkLetters (s : Switch) : List Char → Except ArgumentError Unit
  | [] => .ok ()
  | c :: cs =>
    match Entries.get? (String.ofList ['-', c]) Switch.spellings with
    | none => .error (.extraValue s (String.ofList (c :: cs)))
    | some s => checkLetters s cs

/-- Takes an option that has no value, given what comes with it. -/
def takeFlag (s : Switch) (short : Bool) (attached : Option String) (r : Request) :
    Except ArgumentError Asked := do
  match attached with
  | none => pure ()
  | some v => if short && !v.isEmpty then checkLetters s v.toList else .error (.extraValue s v)
  return if s = .help then .help else .work (r.setFlag s)

/-- Takes the arguments in order; nothing is left to know once help is asked
for. A double dash next to the formula belongs to it. -/
def take (p : Progress) : List (String × Argument) → Except ArgumentError (Option Progress)
  | [] => .ok (some p)
  | (text, .unknown) :: rest => take { p with extras := p.extras ++ [text] } rest
  | (text, .doubleDash) :: rest =>
    if p.filled then take { p with extras := p.extras ++ [text] } rest else take p rest
  | (text, .word) :: rest =>
    if p.filled then take { p with extras := p.extras ++ [text] } rest
    else
      let p := { p with request := { p.request with formula := some text }, filled := true }
      match rest with
      | (_, .doubleDash) :: rest => take p rest
      | rest => take p rest
  | (_, .option s short attached) :: rest =>
    if s.takesValue then
      match attached with
      | some v => take { p with request := p.request.setValue s v } rest
      | none =>
        match rest with
        | (v, .word) :: rest => take { p with request := p.request.setValue s v } rest
        | _ => .error (.missingValue s)
    else
      match takeFlag s short attached p.request with
      | .error e => .error e
      | .ok .help => .ok none
      | .ok (.work r) => take { p with request := r } rest

/-- What arguments ask for. -/
def ofArguments (arguments : List String) : Except ArgumentError Asked := do
  let classified ← Argument.classify arguments
  match ← take ⟨empty, false, []⟩ classified with
  | none => return .help
  | some p =>
    if p.extras.isEmpty then
      if p.request.formula.isNone == p.request.file.isNone then .error .notOneSource
      else return .work p.request
    else .error (.unrecognized p.extras)

end Request

end Turnstile
