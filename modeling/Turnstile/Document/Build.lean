/-
# Building and reading documents

Values of the calculus made from loose parts, with the cause where the parts
do not fit, and the reading of stored text: an object with a known type tag
becomes the value it describes as soon as it is closed, any other object
stays a dictionary.

Key definitions: `Document.compound`, `Document.mkNode`,
`Document.restore`, `Document.read`.
-/
import Turnstile.Document.Text

namespace Turnstile

namespace Document

/-! ### Values from parts -/

/-- The variable with a name. -/
def atom (name : Document) : Except DocumentFault Formula :=
  match name with
  | text s =>
    match Var.ofName? s with
    | some v => .ok (.atom v)
    | none => .error (.malformed (.invalidName (Text.quoted s)))
  | d => do
    let shown ← d.shown
    .error (.invalidName shown)

/-- The connective with a symbol. -/
def connectiveOf (symbol : Document) : Except DocumentFault Connective :=
  match symbol with
  | text s =>
    match Connective.ofSymbol? s with
    | some c => .ok c
    | none => .error (.unknownSymbol (Text.quoted s))
  | connective c => .ok c
  | d => do
    let shown ← d.shown
    .error (.unknownSymbol shown)

/-- The connective with a label. -/
def connectiveLabelled (label : Document) : Except DocumentFault Connective :=
  if label.isKey then
    match label with
    | text s =>
      match Connective.ofLabel? s with
      | some c => .ok c
      | none => .error (.missingKey (Text.quoted s))
    | d => do
      let shown ← d.shown
      .error (.missingKey shown)
  else .error .wrongType

/-- The formula that an operand has to be. -/
def operand : Document → Except DocumentFault Formula
  | formula f => .ok f
  | d => do
    let shown ← d.shown
    .error (.notFormula shown)

/-- A connective with operands, all of which must be formulas and as many as
it takes. -/
def compound (c : Connective) (operands : List Document) : Except DocumentFault Formula := do
  let fs ← operands.mapM operand
  match c, fs with
  | .neg, [f] => return .neg f
  | .binary b, [l, r] => return .bin b l r
  | c, fs => .error (.malformed (.operandCount c fs.length))

/-- A node of a proof tree. Its children must have a depth and a size. -/
def mkNode (s r : Document) (children : List Document) : Except DocumentFault Document := do
  let _ ← depthOfAll children
  let _ ← sizeOfAll children
  return node s r children

/-! ### Stored objects -/

/-- The value of a key that must be there. -/
def require (key : String) (entries : List (Key × Document)) : Except DocumentFault Document :=
  match Entries.get? (.text key) entries with
  | some d => .ok d
  | none => .error (.missingKey (Text.quoted key))

/-- The parts of a value that must have some. -/
def parts (d : Document) : Except DocumentFault (List Document) :=
  match d.parts? with
  | some ds => .ok ds
  | none => .error .wrongType

/-- The names that a document gives: its parts, which must be texts. -/
def nameList (d : Document) : Except DocumentFault (List String) := do
  let ds ← parts d
  ds.mapM fun
    | text s => .ok s
    | _ => .error .wrongType

/-- The type tag of an object. -/
def tag (entries : List (Key × Document)) : Option String :=
  match Entries.get? (.text "_type") entries with
  | some (text s) => some s
  | _ => none

/-- The formula or sequent that a stored object describes; an object with
another tag or none stays a dictionary. -/
def restoreCore (entries : List (Key × Document)) : Except DocumentFault Document :=
  match tag entries with
  | some "Atom" => do
    let name ← require "name" entries
    let f ← atom name
    return formula f
  | some "Compound" => do
    let label ← require "operator" entries
    let c ← connectiveLabelled label
    let operands ← require "operands" entries
    let operands ← parts operands
    let f ← compound c operands
    return formula f
  | some "Sequent" => do
    let as ← require "assumptions" entries
    let cs ← require "conclusions" entries
    let as ← parts as
    let cs ← parts cs
    return sequent as cs
  | _ => .ok (dict entries)

/-- What a stored object describes, proof trees and proofs included. -/
def restore (entries : List (Key × Document)) : Except DocumentFault Document :=
  match tag entries with
  | some "ProofNode" => do
    let s ← require "sequent" entries
    let children ← parts ((Entries.get? (.text "children") entries).getD (list []))
    mkNode s ((Entries.get? (.text "rule_name") entries).getD null) children
  | some "Proof" => do
    let root ← require "root" entries
    return proof root ((Entries.get? (.text "formula") entries).getD null)
  | _ => restoreCore entries

/-- Builds documents, with proof trees and proofs in them or without. -/
def builder (proofs : Bool) : Builder DocumentFault Document where
  null := null
  bool := bool
  int := int
  float := float
  text := ofPoints
  list := list
  object := if proofs then restore else restoreCore

/-- The document in a JSON text. -/
def read (proofs : Bool) (s : String) : Except (ReadError DocumentFault) Document :=
  (builder proofs).parse s

end Document

end Turnstile
