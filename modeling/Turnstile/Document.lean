/-
# Documents

A document is plain data in which formulas, sequents, proof trees and proofs
stand as values of their own. It is what a stored file is read into. Nothing
checks that the parts of a sequent are formulas, or that a tree is labelled
by a sequent, so the views that give typed values (`formula?`, `sequent?`,
`tree?`, `data?`) may give none. The keys of dictionaries are texts.

Key definitions: `Document`, `Document.ofTree`, `Document.sequent?`,
`Document.tree?`, `Document.typeName`, `Document.isKey`.
-/
import Turnstile.Data.Json
import Turnstile.Proof

namespace Turnstile

/-- Data with values of the calculus in it. -/
inductive Document where
  | null
  | bool (b : Bool)
  | int (i : Int)
  | float (x : Double)
  | text (s : String)
  | torn (p : Points)
  | list (items : List Document)
  | dict (entries : List (Key × Document))
  | formula (f : Formula)
  | sequent (assumptions conclusions : List Document)
  | node (sequent rule : Document) (children : List Document)
  | proof (root formula : Document)
  | connective (c : Connective)
  /-- A token: its kind, its text and where it starts. -/
  | token (kind value position : Document)

namespace Document

/-- The text of code points. -/
def ofPoints (p : Points) : Document :=
  match p.string? with
  | some s => text s
  | none => torn p

/-! ### Typed values as documents -/

mutual

/-- Plain data as a document. A key becomes the text that it is in JSON, and so
do a date, bytes and a set. -/
def ofData : Data → Document
  | .null => null
  | .bool b => bool b
  | .int i => int i
  | .float x => float x
  | .text s => text s
  | .torn p => torn p
  | .moment m => text m.written
  | .bytes b => text (Text.quotedBytes b)
  | .list items => list (ofItems items)
  | .pair x y => list [ofData x, ofData y]
  | .set members => text (Data.shown (.set members))
  | .dict entries => dict (ofEntries entries)

/-- The items of a list as documents. -/
def ofItems : List Data → List Document
  | [] => []
  | d :: ds => ofData d :: ofItems ds

/-- The entries of a dictionary as documents. -/
def ofEntries : List (Key × Data) → List (Key × Document)
  | [] => []
  | (k, d) :: entries => (k.named, ofData d) :: ofEntries entries

end

/-- A sequent as a document. -/
def ofSequent (s : Sequent) : Document :=
  sequent (s.assumptions.map formula) (s.conclusions.map formula)

/-- The name of a rule, or none, as a document. -/
def ofRule : Option String → Document
  | some r => text r
  | none => null

mutual

/-- A proof tree as a document. -/
def ofTree : Tree → Document
  | .node s r ts => node (ofSequent s) (ofRule r) (ofTrees ts)

/-- Proof trees as documents. -/
def ofTrees : List Tree → List Document
  | [] => []
  | t :: ts => ofTree t :: ofTrees ts

end

/-- A proof as a document. -/
def ofProof (p : Proof) : Document :=
  proof (ofTree p.root) ((p.formula.map formula).getD null)

/-! ### Typed views -/

/-- The formula that a document is. -/
def formula? : Document → Option Formula
  | formula f => some f
  | _ => none

/-- The sequent that a document is, if all its parts are formulas. -/
def sequent? : Document → Option Sequent
  | sequent as cs => do
    let as ← as.mapM formula?
    let cs ← cs.mapM formula?
    return ⟨as, cs⟩
  | _ => none

/-- The name of a rule, or none, that a document gives. -/
def ruleName? : Document → Option (Option String)
  | null => some none
  | text s => some (some s)
  | _ => none

mutual

/-- The proof tree that a document is. -/
def tree? : Document → Option Tree
  | node s r ts => do
    let s ← s.sequent?
    let r ← ruleName? r
    let ts ← trees? ts
    return .node s r ts
  | _ => none

/-- The proof trees that documents are. -/
def trees? : List Document → Option (List Tree)
  | [] => some []
  | d :: ds => do
    let t ← tree? d
    let ts ← trees? ds
    return t :: ts

end

mutual

/-- The plain data that a document is. -/
def data? : Document → Option Data
  | null => some .null
  | bool b => some (.bool b)
  | int i => some (.int i)
  | float x => some (.float x)
  | text s => some (.text s)
  | torn p => some (.torn p)
  | list items => (items? items).map .list
  | dict entries => (entries? entries).map .dict
  | _ => none

/-- The plain data that documents are. -/
def items? : List Document → Option (List Data)
  | [] => some []
  | d :: ds => do
    let x ← data? d
    let xs ← items? ds
    return x :: xs

/-- The plain data that the values of entries are. -/
def entries? : List (Key × Document) → Option (List (Key × Data))
  | [] => some []
  | (k, d) :: entries => do
    let x ← data? d
    let xs ← entries? entries
    return (k, x) :: xs

end

/-! ### Kinds of documents -/

/-- Whether a document counts as true: null, zero and whatever is empty do
not. -/
def isTruthy : Document → Bool
  | null => false
  | bool b => b
  | int i => i != 0
  | float x => !x.isZero
  | text s => !s.isEmpty
  | list items => !items.isEmpty
  | dict entries => !entries.isEmpty
  | _ => true

/-- The name of a document's type. -/
def typeName : Document → String
  | null => "NoneType"
  | bool _ => "bool"
  | int _ => "int"
  | float _ => "float"
  | text _ => "str"
  | torn _ => "str"
  | list _ => "list"
  | dict _ => "dict"
  | formula (.atom _) => "Atom"
  | formula _ => "Compound"
  | sequent _ _ => "Sequent"
  | node _ _ _ => "ProofNode"
  | proof _ _ => "Proof"
  | connective _ => "Operator"
  | token _ _ _ => "Token"

/-- The key of a dictionary as a document. -/
def ofKey (k : Key) : Document := ofPoints k.label

/-- The parts of a document that can be gone through: the items of a list, the
code points of a text, the keys of a dictionary. -/
def parts? : Document → Option (List Document)
  | list items => some items
  | text s => some (s.toList.map fun c => text c.toString)
  | torn p => some (p.map fun c => ofPoints [c])
  | dict entries => some (entries.map fun p => ofKey p.1)
  | _ => none

mutual

/-- Whether a document can be a key: lists and dictionaries cannot, nor can a
sequent or token that holds one. -/
def isKey : Document → Bool
  | list _ => false
  | dict _ => false
  | sequent as cs => areKeys as && areKeys cs
  | token k v p => isKey k && isKey v && isKey p
  | _ => true

/-- Whether all documents can be keys. -/
def areKeys : List Document → Bool
  | [] => true
  | d :: ds => isKey d && areKeys ds

end

end Document

end Turnstile
