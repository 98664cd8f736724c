/-
# Files that hold formulas, sequents and proofs

Formulas are kept in files of their formats, sequents and proofs in JSON files.
A file that is written is emptied first, so a value that has no stored form
leaves it empty. A file that is to hold a sequent may hold something else, which
is then reported with the path as it was given.

Key definitions: `StorageFault`, `Document.save`, `Document.load`,
`Document.loadSequent`, `Document.saveLines`, `FormulaFile.load`.
Key theorems: `Document.writeLines_formulas`.
-/
import Turnstile.Document.Store
import Turnstile.Document.Text
import Turnstile.Format
import Turnstile.FormulaFile
import Turnstile.Disk

namespace Turnstile

/-- Why nothing is loaded from a file, or saved to one. -/
inductive StorageFault where
  | disk (e : DiskError)
  /-- A path of which no format reads the files. -/
  | format (e : FormatError)
  /-- A line that is no formula. -/
  | line (e : LineError)
  /-- A text that holds no document. -/
  | text (e : ReadError DocumentFault)
  /-- A document that cannot be written. -/
  | document (f : DocumentFault)
  /-- A file that holds no sequent, and the type of what it holds. -/
  | notSequent (path typeName : String)

/-- The complaint about a file that holds no sequent. -/
def StorageFault.notSequentMessage (path typeName : String) : String :=
  "Expected a Sequent in " ++ path ++ ", got " ++ typeName

/-- The world after a file was opened and a text written to it, and why nothing
was written. -/
def World.rewrite (w : World) (path : String) (text : Except StorageFault String) :
    Except StorageFault Unit × World :=
  match w.write path "" with
  | .error e => (.error (.disk e), w)
  | .ok emptied =>
    match text with
    | .error e => (.error e, emptied)
    | .ok s =>
      match w.write path s with
      | .error e => (.error (.disk e), emptied)
      | .ok w => (.ok (), w)

namespace Document

/-- Saves a document in a JSON file. -/
def save (order : NameOrder) (proofs : Bool) (w : World) (path : String) (d : Document) :
    Except StorageFault Unit × World :=
  w.rewrite path ((d.write order proofs (some 2)).mapError .document)

/-- The document in a JSON file. -/
def load (proofs : Bool) (w : World) (path : String) : Except StorageFault Document := do
  let s ← (w.read path).mapError .disk
  (read proofs s).mapError .text

/-- The sequent in a JSON file. -/
def loadSequent (w : World) (path : String) : Except StorageFault Document := do
  let d ← load false w path
  match d with
  | sequent as cs => .ok (sequent as cs)
  | d => .error (.notSequent path d.typeName)

/-- The text with the given documents, one on a line. -/
def writeLines (ds : List Document) : Except DocumentFault String :=
  (describeAll false ds).map fun texts => String.join (texts.map fun p => p.nearest ++ "\n")

/-- Saves documents in a file of formulas, whose format is told by its path. -/
def saveLines (registry : Registry) (w : World) (path : String) (ds : List Document) :
    Except StorageFault Unit × World :=
  match registry.find none (some (Path.ofText path)) with
  | .error e => (.error (.format e), w)
  | .ok _ => w.rewrite path ((writeLines ds).mapError .document)

theorem describeAll_formulas (fs : List Formula) :
    describeAll false (fs.map formula) = .ok (fs.map fun f => Points.ofString f.render) := by
  induction fs with
  | nil => rfl
  | cons f fs ih =>
    rw [List.map_cons, describeAll, ih]
    rfl

/-- Formulas are written as in a file of formulas. -/
theorem writeLines_formulas (fs : List Formula) :
    writeLines (fs.map formula) = .ok (FormulaFile.write fs) := by
  rw [writeLines, describeAll_formulas, FormulaFile.write, Except.map, List.map_map]
  congr 3
  funext f
  simp [Points.nearest, Points.ofString, Points.ofChars, CodePoint.standIn, Function.comp_def]

end Document

/-- The formulas in a file whose format is told by its path. -/
def FormulaFile.load (registry : Registry) (limits : Limits) (w : World) (path : String) :
    Except StorageFault (List Formula) := do
  let _ ← (registry.find none (some (Path.ofText path))).mapError .format
  let content ← (w.read path).mapError .disk
  (read limits content).result.mapError .line

end Turnstile
