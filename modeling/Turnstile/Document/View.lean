/-
# What documents answer

Sizes, verdicts and counter-models of documents. A document answers what its
kind has, and lacks the rest: a formula has a depth and a sequent none, a node
has the verdict of its sequent, and a proof that of its root. Where the parts
are typed, the answers are those of the typed values.

The nodes of a tree are gone through from left to right, and only as far as
the answer needs, so a part that cannot answer is a fault only if it is
reached. A proof takes all its leaves first.

Key definitions: `Document.depth`, `Document.size`, `Document.names`,
`Document.isAxiom`, `Document.isFinished`, `Document.status`,
`Document.walk`, `Document.leaves`, `Document.isTautology`,
`Document.counterModel`, `Document.counterModels`, `Document.rulesUsed`.
-/
import Turnstile.Document.Equality
import Turnstile.Document.Fault

namespace Turnstile.Document

/-! ### Sizes and names -/

mutual

/-- The depth of a formula, a proof tree or a proof. -/
def depth : Document → Except DocumentFault Nat
  | formula f => .ok f.depth
  | node _ _ [] => .ok 0
  | node _ _ (t :: ts) => do
    let n ← depth t
    let m ← depthOfAll ts
    return 1 + max n m
  | proof root _ => depth root
  | _ => .error .missingPart

/-- The greatest depth among documents, 0 if there are none. -/
def depthOfAll : List Document → Except DocumentFault Nat
  | [] => .ok 0
  | t :: ts => do
    let n ← depth t
    let m ← depthOfAll ts
    return max n m

end

mutual

/-- The number of connectives of a formula or sequent, or of nodes of a proof
tree or proof. -/
def size : Document → Except DocumentFault Nat
  | formula f => .ok f.size
  | sequent as cs => do
    let n ← sizeOfAll as
    let m ← sizeOfAll cs
    return n + m
  | node _ _ ts => do
    let n ← sizeOfAll ts
    return 1 + n
  | proof root _ => size root
  | _ => .error .missingPart

/-- The sum of the sizes of documents. -/
def sizeOfAll : List Document → Except DocumentFault Nat
  | [] => .ok 0
  | d :: ds => do
    let n ← size d
    let m ← sizeOfAll ds
    return n + m

end

mutual

/-- The names of the variables of a formula or sequent, as a set. -/
def names : Document → Except DocumentFault (List String)
  | formula f => .ok f.names
  | sequent as cs => do
    let ns ← namesOfAll as
    let ms ← namesOfAll cs
    return Names.union ns ms
  | _ => .error .missingPart

/-- The names of the variables of all documents. -/
def namesOfAll : List Document → Except DocumentFault (List String)
  | [] => .ok []
  | d :: ds => do
    let ns ← names d
    let ms ← namesOfAll ds
    return Names.union ns ms

end

/-! ### Sequents -/

/-- Whether some conclusion has one of the texts of the assumptions. The
conclusions up to the first such one must be formulas. -/
def closes (left : List String) : List Document → Except DocumentFault Bool
  | [] => .ok false
  | formula f :: cs => if f.render ∈ left then .ok true else closes left cs
  | _ :: _ => .error .missingPart

/-- Whether a sequent is an axiom. Its assumptions must be formulas. -/
def isAxiom : Document → Except DocumentFault Bool
  | sequent as cs => do
    let as ← orMissing (as.mapM formula?)
    closes (as.map Formula.render) cs
  | node s _ _ => isAxiom s
  | _ => .error .missingPart

/-- Whether a document is a variable. -/
def isAtomic : Document → Bool
  | formula f => f.isAtomic
  | _ => false

/-- Whether a sequent is finished. One that is no axiom has been found to hold
formulas only. -/
def isFinished : Document → Except DocumentFault Bool
  | sequent as cs => do
    let closed ← isAxiom (sequent as cs)
    return closed || (as ++ cs).all isAtomic
  | node s _ _ => isFinished s
  | _ => .error .missingPart

/-- Whether a sequent is finished without being an axiom. -/
def isFalsifiable (d : Document) : Except DocumentFault Bool := do
  let finished ← isFinished d
  let closed ← isAxiom d
  return finished && !closed

/-! ### Trees -/

/-- What a node is. A leaf needs a sequent to be something. -/
def status : Document → Except DocumentFault Status
  | node s _ [] => do
    let closed ← isAxiom s
    return if closed then .closed else .falsifiable
  | node _ _ _ => .ok .inner
  | _ => .error .missingPart

/-- The sequent at the root of a tree or proof. -/
def sequentOf : Document → Except DocumentFault Document
  | node s _ _ => .ok s
  | proof root _ => sequentOf root
  | _ => .error .missingPart

mutual

/-- All subtrees, each before those below it and from left to right. What is no
tree is met as a leaf. -/
def walk : Document → List Document
  | node s r ts => node s r ts :: walkAll ts
  | d => [d]

/-- The subtrees of documents, one document after another. -/
def walkAll : List Document → List Document
  | [] => []
  | t :: ts => walk t ++ walkAll ts

end

/-- The leaves among nodes. -/
def leavesAmong : List Document → Except DocumentFault (List Document)
  | [] => .ok []
  | node s r [] :: ds => do
    let leaves ← leavesAmong ds
    return node s r [] :: leaves
  | node _ _ (_ :: _) :: ds => leavesAmong ds
  | _ :: _ => .error .missingPart

/-- What is met when the leaves of a tree or proof are gone through. -/
def visits : Document → Except DocumentFault (List Document)
  | node s r ts => .ok (walk (node s r ts))
  | proof root _ => do
    let ds ← visits root
    leavesAmong ds
  | _ => .error .missingPart

/-- The leaves of a tree or proof from left to right. -/
def leaves (d : Document) : Except DocumentFault (List Document) := do
  let ds ← visits d
  leavesAmong ds

/-- Whether every leaf among nodes is an axiom. None after the first that is not
is looked at. -/
def allClosed : List Document → Except DocumentFault Bool
  | [] => .ok true
  | node s _ [] :: ds => do
    let closed ← isAxiom s
    if closed then allClosed ds else return false
  | node _ _ (_ :: _) :: ds => allClosed ds
  | _ :: _ => .error .missingPart

/-- Whether every leaf of a tree or proof is an axiom. -/
def isTautology (root : Document) : Except DocumentFault Bool := do
  let ds ← visits root
  allClosed ds

/-- The sequent of the first leaf among nodes that is finished and no axiom. -/
def firstOpen : List Document → Except DocumentFault (Option Document)
  | [] => .ok none
  | node s _ [] :: ds => do
    let isOpen ← isFalsifiable s
    if isOpen then return some s else firstOpen ds
  | node _ _ (_ :: _) :: ds => firstOpen ds
  | _ :: _ => .error .missingPart

/-- The counter-model of a leaf's sequent over the given names. -/
def modelAt (leaf : Document) (names : List String) : Except DocumentFault CounterModel :=
  orMissing (leaf.sequent?.bind fun s => CounterModel.ofLeaf? s names)

/-- The counter-model of the leftmost leaf that is finished and no axiom, over
the variables at the root. -/
def counterModel (root : Document) : Except DocumentFault (Option CounterModel) := do
  let ds ← visits root
  match ← firstOpen ds with
  | none => return none
  | some leaf =>
    let s ← sequentOf root
    let names ← names s
    let m ← modelAt leaf names
    return some m

/-- The leaves that are finished and no axioms. -/
def falsifiableLeaves (root : Document) : Except DocumentFault (List Document) := do
  let ds ← leaves root
  ds.filterM isFalsifiable

/-- The counter-models of all falsifiable leaves, from left to right. -/
def counterModels (root : Document) : Except DocumentFault (List CounterModel) := do
  let s ← sequentOf root
  let names ← names s
  let ds ← falsifiableLeaves root
  ds.mapM fun d => do
    let leaf ← sequentOf d
    modelAt leaf names

/-- The rules of nodes that count as true. They must be able to be keys. -/
def rulesAmong : List Document → Except DocumentFault (List Document)
  | [] => .ok []
  | node _ r _ :: ds =>
    if r.isTruthy then
      if r.isKey then do
        let rules ← rulesAmong ds
        return r :: rules
      else .error .wrongType
    else rulesAmong ds
  | _ :: _ => .error .missingPart

/-- How often each rule was used in a tree, in order of first use in pre-order. -/
def rulesUsed : Document → Except DocumentFault (List (Document × Nat))
  | node s r ts => do
    let rules ← rulesAmong (walk (node s r ts))
    return Tree.tally rules
  | _ => .error .missingPart

end Turnstile.Document
