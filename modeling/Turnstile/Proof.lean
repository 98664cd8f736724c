/-
# Proofs

A proof is the tree that the search built for a sequent, with the formula it
was asked about if it was one. Its verdict is positive if every leaf is an
axiom; otherwise its open leaves give counter-models.

Key definitions: `Proof`, `Proof.isTautology`, `Proof.counterModel?`,
`Proof.rulesUsed`, `prove`, `Proof.report`.
-/
import Turnstile.CounterModel
import Turnstile.Data
import Turnstile.Search

namespace Turnstile

/-- A proof tree and the formula it is about, if it is about one. -/
structure Proof where
  root : Tree
  formula : Option Formula

namespace Tree

/-- Whether every leaf is an axiom. -/
def isTautology (t : Tree) : Bool := t.leaves.all fun leaf => leaf.sequent.isAxiom

/-- The leaves that are finished and no axioms. -/
def falsifiableLeaves (t : Tree) : List Tree :=
  t.leaves.filter fun leaf => leaf.sequent.isFalsifiable

/-- The counter-models of all falsifiable leaves, from left to right. -/
def counterModels (t : Tree) : List CounterModel :=
  t.falsifiableLeaves.filterMap fun leaf =>
    CounterModel.ofLeaf? leaf.sequent t.sequent.names

/-- The counter-model of the leftmost falsifiable leaf. -/
def counterModel? (t : Tree) : Option CounterModel :=
  (t.leaves.find? fun leaf => leaf.sequent.isFalsifiable).bind fun leaf =>
    CounterModel.ofLeaf? leaf.sequent t.sequent.names

/-- The names of the rules used, in pre-order; nodes without a name are left
out. -/
def ruleNames (t : Tree) : List String :=
  t.walk.filterMap fun n => n.rule.filter fun r => !r.isEmpty

/-- Adds one to the count of a key. -/
def countOne {α : Type} [BEq α] (key : α) : List (α × Nat) → List (α × Nat)
  | [] => [(key, 1)]
  | (k, n) :: rest => if k == key then (k, n + 1) :: rest else (k, n) :: countOne key rest

/-- How often each key occurs, in order of first occurrence. -/
def tally {α : Type} [BEq α] (keys : List α) : List (α × Nat) :=
  keys.foldl (fun counts k => countOne k counts) []

/-- How often each rule was used, in order of first use in pre-order. -/
def rulesUsed (t : Tree) : List (String × Nat) := tally t.ruleNames

/-- The verdict on a tree in words. -/
def verdict (t : Tree) : String :=
  if t.isTautology then
    "Tautology (depth " ++ toString t.depth ++ ", " ++ toString t.size ++ " sequents)"
  else
    "Not a tautology, counter-model: " ++ ((t.counterModel?.map CounterModel.render).getD "None")

/-- The report on a tree for what is shown as its formula. -/
def report (t : Tree) (formula : String) (showTree : Bool) : String :=
  let lines := ["Formula: " ++ formula, t.verdict] ++ (if showTree then [t.render] else [])
  "\n".intercalate lines

end Tree

namespace Proof

/-- Whether every leaf is an axiom. -/
def isTautology (p : Proof) : Bool := p.root.isTautology

/-- The formula as reports show it. -/
def formulaText (p : Proof) : String := (p.formula.map Formula.render).getD "None"

/-- The report on a proof, with its tree if wanted. -/
def report (p : Proof) (showTree : Bool) : String := p.root.report p.formulaText showTree

/-- A short description of the proof. -/
def describe (p : Proof) : String :=
  "Proof(" ++ p.root.sequent.render ++ ", nodes=" ++ toString p.root.size ++ ", tautology=" ++
    truthText p.isTautology ++ ")"

end Proof

/-- What can be proved. -/
inductive Goal where
  | formula (f : Formula)
  | sequent (s : Sequent)

namespace Goal

/-- The sequent to prove. -/
def toSequent : Goal → Sequent
  | formula f => .ofFormula f
  | sequent s => s

/-- The formula asked about. -/
def formula? : Goal → Option Formula
  | formula f => some f
  | sequent _ => none

end Goal

/-- The outcome of a search for a proof. -/
structure Verdict where
  result : Except Stuck Proof
  applications : List Application

/-- The proof of a goal with rules in order of priority. -/
def prove (rules : List Rule) (goal : Goal) : Verdict :=
  let o := search rules goal.toSequent
  ⟨o.result.map fun t => ⟨t, goal.formula?⟩, o.applications⟩

end Turnstile
