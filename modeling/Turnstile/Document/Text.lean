/-
# Documents as text

How documents are described in messages, written out and reported on. A node
is described by its sequent and status and a proof by its verdict, so one
that lacks them cannot be described.

Key definitions: `Document.shown`, `Document.plain`, `Document.lines`,
`Document.report`.
-/
import Turnstile.Document.View

namespace Turnstile.Document

/-- A named part of a description. -/
def field (name : String) (value : Points) : Points := name ++ "=" ++ value

/-- The name of a kind around a description. -/
def enclosed (kind : String) (inner : Points) : Points := kind ++ "(" ++ inner ++ ")"

/-- Two lists of texts as the sides of a sequent. -/
def sides (left right : List Points) : Points :=
  "\x7b [" ++ Points.joined ", " left ++ "]; [" ++ Points.joined ", " right ++ "] \x7d"

mutual

/-- A document as it is described, or as it is written: a text, formula, sequent
or token differs in the two, and what is inside of lists and dictionaries is
always described. -/
def describe (quoting : Bool) : Document → Except DocumentFault Points
  | null => .ok "None"
  | bool b => .ok (truthText b)
  | int i => .ok (toString i)
  | float x => .ok x.shown
  | text s => .ok (if quoting then Text.quoted s else s)
  | torn p => .ok (if quoting then Text.quotedPoints p else p)
  | list items => do
    let items ← describeAll true items
    return "[" ++ Points.joined ", " items ++ "]"
  | dict entries => do
    let entries ← describeEntries entries
    return "\x7b" ++ Points.joined ", " entries ++ "\x7d"
  | formula f => .ok (if quoting then f.shown else f.render)
  | sequent as cs => do
    let as ← describeAll false as
    let cs ← describeAll false cs
    return if quoting then enclosed "Sequent" (sides as cs) else sides as cs
  | node s r ts => do
    let written ← describe false s
    let status ← status (node s r ts)
    return enclosed "ProofNode" (written ++ ", " ++ field "status" status.label)
  | proof root f => do
    let written ← describeSequentOf root
    let size ← size (proof root f)
    let closed ← isTautology root
    return enclosed "Proof" (Points.joined ", "
      [written, field "nodes" (toString size), field "tautology" (truthText closed)])
  | connective c => .ok ("Operator." ++ c.label)
  | token k v p =>
    if quoting then do
      let kind ← describe true k
      let value ← describe true v
      let position ← describe true p
      return enclosed "Token" (Points.joined ", "
        [field "kind" kind, field "value" value, field "position" position])
    else
      match v with
      | text s => .ok s
      | torn p => .ok p
      | _ => .error .wrongType

/-- Documents as they are described or written. -/
def describeAll (quoting : Bool) : List Document → Except DocumentFault (List Points)
  | [] => .ok []
  | d :: ds => do
    let s ← describe quoting d
    let ss ← describeAll quoting ds
    return s :: ss

/-- Descriptions of the entries of a dictionary. -/
def describeEntries : List (Key × Document) → Except DocumentFault (List Points)
  | [] => .ok []
  | (k, d) :: entries => do
    let s ← describe true d
    let ss ← describeEntries entries
    return (k.shown ++ ": " ++ s) :: ss

/-- The sequent at the root of a tree or proof as it is written. -/
def describeSequentOf : Document → Except DocumentFault Points
  | node s _ _ => describe false s
  | proof root _ => describeSequentOf root
  | _ => .error .missingPart

end

/-- A document as it is described in messages. -/
def shown (d : Document) : Except DocumentFault Points := describe true d

/-- A document as text: a text, formula, sequent or token as it is written,
anything else as it is described. -/
def plain (d : Document) : Except DocumentFault Points := describe false d

/-! ### Reports -/

/-- The text of a node in a printed tree, on the given level. -/
def line (level : Nat) : Document → Except DocumentFault Points
  | node s r ts => do
    let rule ← if r.isTruthy then plain r else .ok []
    let written ← plain s
    let status ← status (node s r ts)
    let room : Points := List.replicate (2 * level) (.char ' ')
    let after : Points := if r.isTruthy then "  (" ++ rule ++ ")" else ""
    return room ++ written ++ Points.ofString status.marker ++ after
  | _ => .error .missingPart

mutual

/-- The printed tree on the given level. -/
def linesAt (level : Nat) : Document → Except DocumentFault (List Points)
  | node s r ts => do
    let first ← line level (node s r ts)
    let more ← linesOfAll (level + 1) ts
    return first :: more
  | _ => .error .missingPart

/-- The printed trees on the given level. -/
def linesOfAll (level : Nat) : List Document → Except DocumentFault (List Points)
  | [] => .ok []
  | t :: ts => do
    let first ← linesAt level t
    let more ← linesOfAll level ts
    return first ++ more

end

/-- The lines of a printed tree. -/
def lines (root : Document) : Except DocumentFault (List Points) := linesAt 0 root

/-- The report on a tree or proof for what is given as its formula. -/
def report (root formula : Document) : Except DocumentFault Points := do
  let name ← plain formula
  let closed ← isTautology root
  let verdict ←
    if closed then do
      let depth ← depth root
      let size ← size root
      pure ("Tautology (depth " ++ toString depth ++ ", " ++ toString size ++ " sequents)")
    else do
      let m ← counterModel root
      pure ("Not a tautology, counter-model: " ++ (m.map CounterModel.render).getD "None")
  return "Formula: " ++ name ++ "\n" ++ verdict

end Turnstile.Document
