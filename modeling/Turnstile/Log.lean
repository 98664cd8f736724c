/-
# Logs

What is recorded while formulas are parsed and proved, and how a record
becomes a line. A record is written if its level reaches the threshold. A
line's style is a template with fields such as `%(name)s`.

Key definitions: `LogRecord`, `LogRecord.ofAttempt`, `LogRecord.ofVerdict`,
`LogRecord.message`, `LogRecord.line?`, `Logger`.
-/
import Turnstile.FormulaFile
import Turnstile.Path
import Turnstile.Proof
import Turnstile.Template

namespace Turnstile

/-- The levels at which something is recorded. -/
inductive LogLevel where
  | debug
  | info
deriving DecidableEq, Repr

namespace LogLevel

/-- The name of a level. -/
def name : LogLevel → String
  | debug => "DEBUG"
  | info => "INFO"

/-- The weight of a level. -/
def weight : LogLevel → Nat
  | debug => 10
  | info => 20

/-- The names of thresholds with their weights. -/
def thresholds : List (String × Nat) :=
  [("CRITICAL", 50), ("FATAL", 50), ("ERROR", 40), ("WARN", 30), ("WARNING", 30), ("INFO", 20),
    ("DEBUG", 10), ("NOTSET", 0)]

/-- The weight of the threshold with a name. -/
def threshold? (name : String) : Option Nat := Entries.get? name thresholds

end LogLevel

/-- Something recorded. -/
inductive LogRecord where
  /-- A compound formula made by the parser. -/
  | built (f : Formula)
  /-- A rule applied by the search. -/
  | applied (a : Application)
  /-- A proof that was found: its sequent as it is written, the number of its
  nodes, its depth and its verdict. -/
  | proved (sequent : String) (size depth : Nat) (closed : Bool)
  /-- A file that was written. -/
  | wrote (path : Path)

/-- The part of the program that made a record: the name of its logger, its
module, its function and its line. -/
structure LogSite where
  logger : String
  module : String
  function : String
  line : Nat
deriving DecidableEq, Repr

/-- An application as it is described in messages. -/
def Application.shown (a : Application) : String :=
  "RuleApplication(rule_name=" ++ Text.quoted a.rule.name ++ ", sequent=" ++ a.sequent.shown ++
    ", premises=[" ++ ", ".intercalate (a.premises.map Sequent.shown) ++ "])"

namespace LogRecord

/-- What is recorded of a parse. -/
def ofAttempt (a : Attempt) : List LogRecord := a.built.map built

/-- A proof that was found. -/
def ofProof (p : Proof) : LogRecord :=
  proved p.root.sequent.render p.root.size p.root.depth p.isTautology

/-- What is recorded of a search for a proof. -/
def ofVerdict (v : Verdict) : List LogRecord :=
  v.applications.map applied ++
    match v.result with
    | .ok p => [ofProof p]
    | .error _ => []

/-- The level of a record. -/
def level : LogRecord → LogLevel
  | built _ => .debug
  | applied _ => .debug
  | proved _ _ _ _ => .info
  | wrote _ => .info

/-- Where a record was made. -/
def site : LogRecord → LogSite
  | built _ => ⟨"gentzen.fileformats.parser", "parser", "_reduce", 116⟩
  | applied _ => ⟨"gentzen.proofs.builder", "builder", "expand", 24⟩
  | proved _ _ _ _ => ⟨"gentzen.proofs.builder", "builder", "build_proof", 83⟩
  | wrote _ => ⟨"gentzen.cli.prove", "prove", "main", 119⟩

/-- The name of a record's logger. -/
def logger (r : LogRecord) : String := r.site.logger

/-- A verdict in a record. -/
def verdictText (closed : Bool) : String := if closed then "tautology" else "falsifiable"

/-- What a record says. -/
def message : LogRecord → String
  | built f => "Pushed new proposition: " ++ f.render
  | applied a => a.render
  | proved sequent size depth closed =>
    "Built proof of " ++ sequent ++ ": " ++ toString size ++ " nodes, depth " ++ toString depth ++
      ", " ++ verdictText closed
  | wrote path => "Wrote " ++ path.render

/-- What a record says before its values are put in. -/
def pattern : LogRecord → String
  | built _ => "Pushed new proposition: %s"
  | applied _ => "%s"
  | proved _ _ _ _ => "Built proof of %s: %d nodes, depth %d, %s"
  | wrote _ => "Wrote %s"

/-- The values that are put in, as they are described. -/
def values : LogRecord → String
  | built f => "(" ++ f.shown ++ ",)"
  | applied a => "(" ++ a.shown ++ ",)"
  | proved sequent size depth closed =>
    "(" ++ ", ".intercalate
      [Sequent.enclose sequent, toString size, toString depth, Text.quoted (verdictText closed)] ++
      ")"
  | wrote path => "(PosixPath(" ++ Text.quoted path.render ++ "),)"

/-- The fields that a line can have of a record made at a time. -/
def fields (time : String) (r : LogRecord) : List (String × FieldValue) :=
  [("name", .text r.logger), ("msg", .text r.pattern), ("args", .other r.values),
    ("message", .text r.message), ("levelname", .text r.level.name),
    ("levelno", .int r.level.weight), ("filename", .text (r.site.module ++ ".py")),
    ("module", .text r.site.module), ("funcName", .text r.site.function),
    ("lineno", .int r.site.line), ("asctime", .text time), ("threadName", .text "MainThread"),
    ("processName", .text "MainProcess"), ("exc_info", .other "None"),
    ("exc_text", .other "None"), ("stack_info", .other "None")]

/-- How the description of all that a record has begins. -/
def opening (r : LogRecord) : String :=
  "\x7b" ++ ", ".intercalate
    ["'name': " ++ Text.quoted r.logger, "'msg': " ++ Text.quoted r.pattern,
      "'args': " ++ r.values, "'levelname': " ++ Text.quoted r.level.name,
      "'levelno': " ++ toString r.level.weight, "'pathname': '"]

/-- What a line can have of a record made at a time. -/
def fieldValues (time : String) (r : LogRecord) : Template.FieldValues where
  lookup key := Entries.get? key (r.fields time)
  all := .opening r.opening

/-- The line of a record in a style. A style that asks for what a record does
not have gives none. -/
def line? (style : Points) (time : String) (r : LogRecord) : Option Points :=
  (Template.fill? (r.fieldValues time) style).map (· ++ "\n")

end LogRecord

/-- The style of lines where none is set. -/
def LogStyle.standard : Points := "%(message)s"

/-- What is written of the records: those that reach the threshold, as lines in
a style. -/
structure Logger where
  threshold : Nat
  style : Points
  time : String

namespace Logger

/-- The text written for records. -/
def write (l : Logger) (records : List LogRecord) : Points :=
  ((records.filter fun r => l.threshold ≤ r.level.weight).filterMap
    (LogRecord.line? l.style l.time)).flatten

end Logger

end Turnstile
