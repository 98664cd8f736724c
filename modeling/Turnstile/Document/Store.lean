/-
# Storing documents

Documents as plain data: a value of the calculus becomes a dictionary with a
type tag, from which reading restores it. The verdict and the counter-model
that go with a proof, and the status that goes with a node, are computed when
it is stored. The order of the names in a counter-model is a parameter.

Key definitions: `Formula.stored`, `Document.store`, `Document.takesIndent`,
`Document.write`.
-/
import Turnstile.Document.Build

namespace Turnstile

/-- The stored form of a formula. -/
def Formula.stored : Formula → Data
  | .atom v => .ofFields [("_type", .text "Atom"), ("name", .text v.name)]
  | .neg f =>
    .ofFields [("_type", .text "Compound"), ("operator", .text Connective.neg.label),
      ("operands", .list [f.stored])]
  | .bin b l r =>
    .ofFields [("_type", .text "Compound"), ("operator", .text b.label),
      ("operands", .list [l.stored, r.stored])]

/-- The stored form of an assignment. -/
def Assignment.stored (m : Assignment) : Data := .ofFields (m.map fun p => (p.1, .bool p.2))

namespace Document

/-- The dictionary of a sequent's stored sides. -/
def storedSequent (assumptions conclusions : List Data) : Data :=
  .ofFields [("_type", .text "Sequent"), ("assumptions", .list assumptions),
    ("conclusions", .list conclusions)]

/-- The dictionary of a node's stored parts. -/
def storedNode (s rule : Data) (status : Status) (children : List Data) : Data :=
  .ofFields [("_type", .text "ProofNode"), ("sequent", s), ("rule_name", rule),
    ("status", .text status.label), ("children", .list children)]

/-- The dictionary of a proof's stored parts; there is a counter-model if it is
not one of a tautology. -/
def storedProof (formula : Data) (model : Option Assignment) (root : Data) : Data :=
  .ofFields [("_type", .text "Proof"), ("formula", formula), ("tautology", .bool model.isNone),
    ("counter_model", (model.map Assignment.stored).getD .null), ("root", root)]

/-- The counter-model that is stored with a proof: none for a tautology. -/
def modelOf (root : Document) : Except DocumentFault (Option Assignment) := do
  let closed ← isTautology root
  if closed then return none
  else
    let m ← counterModel root
    let m ← orMissing m
    return some m.assignment

mutual

/-- The stored form of a document, with the names of counter-models in the given
order. Proof trees and proofs have one only where `proofs` says so; connectives
and tokens have none. -/
def store (order : NameOrder) (proofs : Bool) : Document → Except DocumentFault Data
  | null => .ok .null
  | bool b => .ok (.bool b)
  | int i => .ok (.int i)
  | float x => .ok (.float x)
  | text s => .ok (.text s)
  | torn p => .ok (.torn p)
  | list items => do
    let items ← storeAll order proofs items
    return .list items
  | dict entries => do
    let entries ← storeEntries order proofs entries
    return .dict entries
  | formula f => .ok f.stored
  | sequent as cs => do
    let as ← storeAll order proofs as
    let cs ← storeAll order proofs cs
    return storedSequent as cs
  | node s r ts =>
    if proofs then do
      let status ← status (node s r ts)
      let s ← store order proofs s
      let r ← store order proofs r
      let ts ← storeAll order proofs ts
      return storedNode s r status ts
    else .error (.notStorable "ProofNode")
  | proof root f =>
    if proofs then do
      let model ← modelOf root
      let f ← store order proofs f
      let root ← store order proofs root
      return storedProof f (model.map order.arrange) root
    else .error (.notStorable "Proof")
  | connective _ => .error (.notStorable "Operator")
  | token _ _ _ => .error (.notStorable "Token")

/-- The stored forms of documents. -/
def storeAll (order : NameOrder) (proofs : Bool) :
    List Document → Except DocumentFault (List Data)
  | [] => .ok []
  | d :: ds => do
    let x ← store order proofs d
    let xs ← storeAll order proofs ds
    return x :: xs

/-- The stored forms of the entries of a dictionary. -/
def storeEntries (order : NameOrder) (proofs : Bool) :
    List (Key × Document) → Except DocumentFault (List (Key × Data))
  | [] => .ok []
  | (k, d) :: entries => do
    let x ← store order proofs d
    let xs ← storeEntries order proofs entries
    return (k, x) :: xs

end

/-- Whether a document can be written with an indent: its width must fit a word,
unless the document is a text, which takes none. -/
def takesIndent (indent : Option Int) : Document → Bool
  | text _ => true
  | torn _ => true
  | _ => indent.all Data.isWidth

/-- A document as JSON text. The document may be of any size and nested to any
depth: that a machine has a bounded stack and a bounded memory is left out. -/
def write (order : NameOrder) (proofs : Bool) (indent : Option Int) (d : Document) :
    Except DocumentFault String :=
  if takesIndent indent d then (store order proofs d).map (Data.render indent)
  else .error .wideIndent

end Document

end Turnstile
