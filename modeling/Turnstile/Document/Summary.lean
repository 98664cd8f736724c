/-
# Summaries

All that is told of a sequent, of a node of a proof tree and of a proof. A
document with typed parts has the summary of the typed value; any other has
the one that its parts can give, and none if one of them cannot answer.

Key definitions: `SequentSummary`, `NodeSummary`, `ProofSummary`,
`Document.sequentSummary`, `Document.nodeSummaries`,
`Document.proofSummary`.
-/
import Turnstile.Document.Text

namespace Turnstile

/-! ### What is told -/

/-- What is told of a sequent. -/
structure SequentSummary where
  written : Points
  shown : Points
  closed : Bool
  finished : Bool
  falsifiable : Bool
  size : Nat
  names : List String
  formulas : List Points

/-- What is told of a node. -/
structure NodeSummary where
  /-- The sequent of the node. -/
  written : Points
  shown : Points
  rule : Document
  status : Status
  depth : Nat
  size : Nat
  isLeaf : Bool
  closed : Bool
  finished : Bool
  falsifiable : Bool

/-- What is told of a proof. -/
structure ProofSummary where
  /-- The formula as reports show it. -/
  formula : Points
  shown : Points
  /-- The sequent at the root. -/
  sequent : Points
  tautology : Bool
  depth : Nat
  size : Nat
  rulesUsed : List (Document × Nat)
  leafCount : Nat
  openCount : Nat
  model : Option CounterModel
  report : Points

/-- What is told of a proof's tree and all its counter-models. -/
structure ProofDetail where
  lines : List Points
  models : List CounterModel

/-! ### Typed values -/

/-- The summary of a sequent. -/
def Sequent.summary (s : Sequent) : SequentSummary :=
  ⟨s.render, s.shown, s.isAxiom, s.isFinished, s.isFalsifiable, s.size, s.names,
    s.formulas.map fun f => .ofString f.render⟩

namespace Tree

/-- A tree as it is described in messages. -/
def shown (t : Tree) : String :=
  "ProofNode(" ++ t.sequent.render ++ ", status=" ++ t.status.label ++ ")"

/-- The summary of a tree's root. -/
def summary (t : Tree) : NodeSummary :=
  ⟨t.sequent.render, t.shown, .ofRule t.rule, t.status, t.depth, t.size, t.isLeaf,
    t.sequent.isAxiom, t.sequent.isFinished, t.sequent.isFalsifiable⟩

/-- The summary of a proof with the given tree for what is shown as its
formula. -/
def proofSummary (t : Tree) (formula : Points) : ProofSummary :=
  ⟨formula, Proof.describe ⟨t, none⟩, t.sequent.render, t.isTautology, t.depth, t.size,
    t.rulesUsed.map fun p => (.text p.1, p.2), t.leaves.length, t.falsifiableLeaves.length,
    t.counterModel?, "Formula: " ++ formula ++ "\n" ++ t.verdict⟩

/-- The details of a proof with the given tree. -/
def proofDetail (t : Tree) : ProofDetail := ⟨t.lines.map .ofString, t.counterModels⟩

end Tree

/-! ### Documents -/

namespace Document

/-- The summary of a sequent. -/
def sequentSummary (d : Document) : Except DocumentFault SequentSummary :=
  match d, d.sequent? with
  | _, some s => .ok s.summary
  | sequent as cs, none => do
    let written ← plain d
    let shown ← shown d
    let closed ← isAxiom d
    let finished ← isFinished d
    let falsifiable ← isFalsifiable d
    let size ← size d
    let names ← names d
    let formulas ← describeAll false (as ++ cs)
    return ⟨written, shown, closed, finished, falsifiable, size, names, formulas⟩
  | _, none => .error .missingPart

/-- The summary of a node. -/
def nodeSummary (d : Document) : Except DocumentFault NodeSummary :=
  match d, d.tree? with
  | _, some t => .ok t.summary
  | node s r ts, none => do
    let written ← plain s
    let shown ← shown d
    let status ← status d
    let depth ← depth d
    let size ← size d
    let closed ← isAxiom d
    let finished ← isFinished d
    let falsifiable ← isFalsifiable d
    return ⟨written, shown, r, status, depth, size, ts.isEmpty, closed, finished, falsifiable⟩
  | _, none => .error .missingPart

/-- The summaries of all nodes of a tree in pre-order. -/
def nodeSummaries (root : Document) : Except DocumentFault (List NodeSummary) :=
  match root.tree? with
  | some t => .ok (t.walk.map Tree.summary)
  | none => root.walk.mapM nodeSummary

/-- The sequents of the leaves of a tree, as they are written. -/
def leafTexts (root : Document) : Except DocumentFault (List Points) := do
  let leaves ← leaves root
  leaves.mapM fun d => do
    let s ← sequentOf d
    plain s

/-- The summary of a proof with the given root and formula. -/
def proofSummary (root formula : Document) : Except DocumentFault ProofSummary := do
  let name ← plain formula
  match root.tree? with
  | some t => return t.proofSummary name
  | none =>
    let shown ← shown (proof root formula)
    let s ← sequentOf root
    let written ← plain s
    let closed ← isTautology root
    let depth ← depth root
    let size ← size root
    let rules ← rulesUsed root
    let leaves ← leaves root
    let falsifiable ← falsifiableLeaves root
    let model ← counterModel root
    let report ← report root formula
    return ⟨name, shown, written, closed, depth, size, rules, leaves.length, falsifiable.length,
      model, report⟩

/-- The details of a proof with the given root. -/
def proofDetail (root : Document) : Except DocumentFault ProofDetail :=
  match root.tree? with
  | some t => .ok t.proofDetail
  | none => do
    let lines ← lines root
    let models ← counterModels root
    return ⟨lines, models⟩

end Document

end Turnstile
