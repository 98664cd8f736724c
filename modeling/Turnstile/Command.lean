/-
# The command

The command proves one formula, or every formula of a file, prints a report
on each and writes the proofs to a file if asked to. It is a function of the
world it finds and the arguments: its outcome has all it prints, the world it
leaves, and how it ended. Formulas are all read before the first is proved,
and nothing is printed or written before the last is proved. The bar that shows
on stderr how far the proofs of a file have come is left out.

Key definitions: `Command.Outcome`, `Command.run`, `Command.prove`,
`Command.deliver`.
-/
import Turnstile.Command.Arguments
import Turnstile.Document.Store
import Turnstile.Format
import Turnstile.Log
import Turnstile.Settings
import Turnstile.Text.Casing

namespace Turnstile

/-- Faults that the command does not report itself. -/
inductive CommandError where
  | settings (e : SettingsError)
  /-- A style of log lines without a field. -/
  | invalidStyle (style : Points)
  /-- A style of log lines that is no text. -/
  | styleNotText
  /-- A threshold of logging that there is not. -/
  | unknownLevel (level : Points)
  /-- A threshold of logging that is an integer with too many digits. -/
  | unwritableLevel
  /-- A limit that sizes cannot be compared with. -/
  | unorderedLimit
  /-- A file or format that was named by a double dash. -/
  | blankOption
  | disk (e : DiskError)
  | stuck (s : Stuck)
  | document (f : DocumentFault)

/-- A fault in words. -/
def CommandError.message : CommandError → Points
  | settings e => e.message
  | invalidStyle style => "Invalid format '" ++ style ++ "' for '%' style"
  | styleNotText => "the format of log lines is no text"
  | unknownLevel level => "Unknown level: " ++ Text.quotedPoints level
  | unwritableLevel => Numeral.unwritableMessage
  | unorderedLimit => ParseError.incomparable.message
  | blankOption => "the option has no value"
  | disk .nullCharacter => DiskError.nullMessage
  | disk _ => "the file cannot be read or written"
  | stuck s => s.message
  | document f => f.message

/-- How the command ended. -/
inductive Ending where
  /-- With a result. -/
  | returned (code : Nat)
  /-- While its arguments were looked at. -/
  | exited (code : Nat)
  | failed (e : CommandError)

/-- What a run of the command leaves. -/
structure Command.Outcome where
  stdout : String
  stderr : Points
  world : World
  ending : Ending

namespace Command

/-- How the command is called. -/
def usage : String :=
  "usage: gentzen [-h] [--file FILE] [--format FORMAT_NAME] [--tree]\n" ++
  "               [--json JSON_OUTPUT] [--verbose]\n" ++
  "               [formula]\n"

/-- The help text. -/
def help : String :=
  usage ++
  "\nCheck propositional formulas with the sequent calculus\n" ++
  "\npositional arguments:\n" ++
  "  formula               Formula to prove, e.g. 'p -> (q -> p)'\n" ++
  "\noptions:\n" ++
  "  -h, --help            show this help message and exit\n" ++
  "  --file FILE           Prove every formula in a file, one per line\n" ++
  "  --format FORMAT_NAME  File format (default: from extension)\n" ++
  "  --tree                Print the proof tree\n" ++
  "  --json JSON_OUTPUT    Write the proof(s) to a JSON file\n" ++
  "  --verbose             Log every parser reduction and rule application\n"

/-! ### Logging -/

/-- The name of the threshold that the settings and the request give. -/
def levelName (s : Settings) (verbose : Bool) : Except CommandError Points :=
  if verbose then .ok LogLevel.debug.name
  else
    match s.get? "logging.level" with
    | some (.int i) => if Numeral.isWritable i then .ok (toString i) else .error .unwritableLevel
    | some d => .ok (Text.upper d.plain)
    | none => .ok "WARNING"

/-- The style of log lines that the settings give. -/
def style (s : Settings) : Except CommandError Points :=
  match s.get? "logging.format" with
  | none => .ok LogStyle.standard
  | some d =>
    if d.isTruthy then
      let checked (style : Points) : Except CommandError Points :=
        if Template.isValid style then .ok style else .error (.invalidStyle style)
      match d with
      | .text style => checked style
      | .torn style => checked style
      | _ => .error .styleNotText
    else .ok LogStyle.standard

/-- The logger that the settings and the request give. -/
def logger (s : Settings) (verbose : Bool) (time : String) : Except CommandError Logger := do
  let level ← levelName s verbose
  let style ← style s
  match level.string?.bind LogLevel.threshold? with
  | some threshold => return ⟨threshold, style, time⟩
  | none => .error (.unknownLevel level)

/-! ### Reading and proving -/

/-- Why there are no proofs: a fault that is reported, or one that is not. -/
inductive Refusal where
  | reported (message : String)
  | escaped (e : CommandError)

/-- A step of the command: what was recorded, and its result or why there is
none. -/
structure Step (α : Type) where
  records : List LogRecord
  result : Except Refusal α

/-- A parse error as a refusal, described by a message. -/
def refuseParse (e : ParseError) (message : String) : Refusal :=
  match e with
  | .incomparable => .escaped .unorderedLimit
  | _ => .reported message

/-- A failure to read a file of formulas as a refusal. -/
def refuseDisk : DiskError → Refusal
  | .undecodable b => .reported b.message
  | .nullCharacter => .reported DiskError.nullMessage
  | e => .escaped (.disk e)

/-- The formula of a request. -/
def readFormula (limits : Limits) (text : String) : Step (List Formula) :=
  let attempt := Attempt.ofText limits text
  ⟨LogRecord.ofAttempt attempt,
    match attempt.result with
    | .ok f => .ok [f]
    | .error e => .error (refuseParse e e.message)⟩

/-- The formulas of a file's text. -/
def readLines (limits : Limits) (content : String) : Step (List Formula) :=
  let reading := FormulaFile.read limits content
  ⟨reading.built.map .built,
    reading.result.mapError fun e => refuseParse e.error e.message⟩

/-- The format of a request for a file. -/
def findFormat (registry : Registry) (format : Option OptionValue) (path : Path) :
    Except Refusal Format :=
  let find (name : Option String) : Except Refusal Format :=
    (registry.find name (some path)).mapError fun e => .reported e.message
  match format with
  | none => find none
  | some (.text name) => find (some name)
  | some .blank => .error (.escaped .blankOption)

/-- The text of a file of formulas that a format reads. -/
def readContent (w : World) (registry : Registry) (path : Path) (format : Option OptionValue) :
    Except Refusal String := do
  let there ← (w.pathExists path.render).mapError refuseDisk
  if there then
    let _ ← findFormat registry format path
    (w.read path.render).mapError refuseDisk
  else .error (.reported ("File not found: " ++ path.render))

/-- The formulas of a file. -/
def readFile (w : World) (registry : Registry) (limits : Limits) (path : Path)
    (format : Option OptionValue) : Step (List Formula) :=
  match readContent w registry path format with
  | .error e => ⟨[], .error e⟩
  | .ok content => readLines limits content

/-- The proofs of formulas in order. -/
def proveAll : List Formula → Step (List Proof)
  | [] => ⟨[], .ok []⟩
  | f :: fs =>
    let verdict := Turnstile.prove Rule.all (.formula f)
    match verdict.result with
    | .error s => ⟨LogRecord.ofVerdict verdict, .error (.escaped (.stuck s))⟩
    | .ok p =>
      let rest := proveAll fs
      ⟨LogRecord.ofVerdict verdict ++ rest.records, rest.result.map (p :: ·)⟩

/-- The formulas that a request is about. -/
def formulas (w : World) (limits : Limits) (r : Request) : Step (List Formula) :=
  match r.file with
  | some (.text file) => readFile w .standard limits (Path.ofText file) r.format
  | some .blank => ⟨[], .error (.escaped .blankOption)⟩
  | none => readFormula limits (r.formula.getD "")

/-- The proofs that a request asks for. -/
def prove (w : World) (limits : Limits) (r : Request) : Step (List Proof) :=
  let read := formulas w limits r
  match read.result with
  | .error e => ⟨read.records, .error e⟩
  | .ok fs =>
    let proved := proveAll fs
    ⟨read.records ++ proved.records, proved.result⟩

/-! ### Delivering -/

/-- The reports on proofs, with a line that sums them up if there are several. -/
def reports (proofs : List Proof) (showTree : Bool) : String :=
  let count := (proofs.filter Proof.isTautology).length
  String.join (proofs.map fun p => p.report showTree ++ "\n") ++
    (if 1 < proofs.length then
      "\n" ++ toString count ++ "/" ++ toString proofs.length ++ " formulas are tautologies\n"
    else "")

/-- What is written of the proofs: a list if they are those of a file. -/
def payload (r : Request) (proofs : List Proof) : Document :=
  match r.file, proofs with
  | none, [p] => .ofProof p
  | _, proofs => .list (proofs.map Document.ofProof)

/-- The world after the proofs were written to a file. -/
def writeProofs (order : NameOrder) (w : World) (path : Path) (d : Document) :
    Except CommandError World := do
  let text ← (d.write order true (some 2)).mapError .document
  (w.write path.render text).mapError .disk

/-- The code of success. -/
def verdictCode (proofs : List Proof) : Nat := if proofs.all Proof.isTautology then 0 else 1

/-- Prints the reports and writes the proofs. -/
def deliver (order : NameOrder) (w : World) (log : Logger) (records : List LogRecord)
    (r : Request) (proofs : List Proof) : Outcome :=
  let stdout := reports proofs r.tree
  match r.json.bind OptionValue.text? with
  | none => ⟨stdout, log.write records, w, .returned (verdictCode proofs)⟩
  | some target =>
    let path := Path.ofText target
    match writeProofs order w path (payload r proofs) with
    | .error e => ⟨stdout, log.write records, w, .failed e⟩
    | .ok w =>
      ⟨stdout, log.write (records ++ [.wrote path]), w, .returned (verdictCode proofs)⟩

/-- Does what a request asks for. -/
def perform (order : NameOrder) (w : World) (limits : Limits) (log : Logger) (r : Request) :
    Outcome :=
  let step := prove w limits r
  match step.result with
  | .ok proofs => deliver order w log step.records r proofs
  | .error (.reported message) =>
    ⟨"", log.write step.records ++ "Error: " ++ message ++ "\n", w, .returned 2⟩
  | .error (.escaped e) => ⟨"", log.write step.records, w, .failed e⟩

/-- The outcome of a fault before any work was done. -/
def fail (w : World) (e : CommandError) : Outcome := ⟨"", "", w, .failed e⟩

/-- Runs the command in a world with arguments. Settings are read by the given
reader, proofs are written with names in the given order, and log lines bear the
given time. -/
def run (read : Settings.YamlReader) (order : NameOrder) (w : World) (time : String)
    (arguments : List String) : Outcome :=
  match Request.ofArguments arguments with
  | .error e => ⟨"", usage ++ "gentzen: error: " ++ e.message ++ "\n", w, .exited 2⟩
  | .ok .help => ⟨help, "", w, .exited 0⟩
  | .ok (.work r) =>
    match Settings.load read w none with
    | .error e => fail w (.settings e)
    | .ok settings =>
      match logger settings r.verbose time with
      | .error e => fail w e
      | .ok log => perform order w settings.limits log r

end Command

end Turnstile
