/-
# Files of formulas

A file of formulas has one formula on a line. What follows a number sign is a
comment, and lines that are blank without it are skipped. The first line
that is no formula is reported with its number, counted from 1.

Key definitions: `FormulaFile.statements`, `FormulaFile.read`,
`FormulaFile.write`.
-/
import Turnstile.Parse
import Turnstile.Text.Lines

namespace Turnstile

/-- A line that is no formula. -/
structure LineError where
  line : Nat
  error : ParseError
deriving DecidableEq, Repr

/-- A line's error in words. An error about a limit that cannot be shown does not
say its line. -/
def LineError.message (e : LineError) : String :=
  if e.error.isUnwritable then e.error.message
  else "line " ++ toString e.line ++ ": " ++ e.error.message

namespace FormulaFile

/-- What a line says: its text without the comment and the blanks around. -/
def statement (line : List Char) : List Char := Text.trim (line.takeWhile fun c => c ≠ '#')

/-- What lines say, each with its number, where the first has the number `n`;
lines that say nothing are left out. -/
def numbered (n : Nat) : List (List Char) → List (Nat × String)
  | [] => []
  | line :: lines =>
    match statement line with
    | [] => numbered (n + 1) lines
    | cs => (n, String.ofList cs) :: numbered (n + 1) lines

/-- What the lines of a text say, each with its number. -/
def statements (content : String) : List (Nat × String) :=
  numbered 1 (Text.splitLines content.toList)

/-- The outcome of reading a file: its formulas or the first line that is none,
and the compound formulas that were made on the way. -/
structure Reading where
  result : Except LineError (List Formula)
  built : List Formula

/-- The formulas that statements spell. -/
def readAll (limits : Limits) : List (Nat × String) → Reading
  | [] => ⟨.ok [], []⟩
  | (n, text) :: rest =>
    let attempt := Attempt.ofText limits text
    match attempt.result with
    | .error e => ⟨.error ⟨n, e⟩, attempt.built⟩
    | .ok f =>
      let reading := readAll limits rest
      ⟨reading.result.map (f :: ·), attempt.built ++ reading.built⟩

/-- The formulas of a text. -/
def read (limits : Limits) (content : String) : Reading := readAll limits (statements content)

/-- The text with the given formulas, one on a line. -/
def write (fs : List Formula) : String := String.join (fs.map fun f => f.render ++ "\n")

end FormulaFile

end Turnstile
