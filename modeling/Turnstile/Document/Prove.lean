/-
# Proofs of documents

The search for a proof of what a document holds. A formula or a sequent of
formulas is proved as such. A sequent that holds other things as well is
finished if it is an axiom by the formulas that come before them, and nothing
can be said of it otherwise. A text is parsed first.

Key definitions: `Document.search`, `Document.prove`, `Document.proveGiven`.
-/
import Turnstile.Document.Text
import Turnstile.Log
import Turnstile.Parse

namespace Turnstile

/-- The outcome of a search for a proof of a document: the proof as a document,
or the sequent it gave up at, and what was recorded. -/
structure DocumentVerdict where
  result : Except Stuck Document
  records : List LogRecord

namespace Document

/-- The outcome of a search as one for documents. -/
def ofVerdict (v : Verdict) : DocumentVerdict := ⟨v.result.map ofProof, LogRecord.ofVerdict v⟩

/-- The tree of a loose sequent, which has to be an axiom. -/
def looseLeaf (d : Document) : Except DocumentFault Document := do
  let closed ← isAxiom d
  if closed then return node d null [] else .error .missingPart

/-- The tree that the search builds for a sequent. -/
def search (rules : List Rule) (d : Document) : Except DocumentFault (Except Stuck Document) :=
  match d.sequent? with
  | some s => .ok ((Turnstile.search rules s).result.map ofTree)
  | none => (looseLeaf d).map .ok

/-- The proof of a formula or sequent with rules in order of priority. -/
def prove (rules : List Rule) : Document → Except DocumentFault DocumentVerdict
  | formula f => .ok (ofVerdict (Turnstile.prove rules (.formula f)))
  | sequent as cs =>
    match (sequent as cs).sequent? with
    | some s => .ok (ofVerdict (Turnstile.prove rules (.sequent s)))
    | none => do
      let leaf ← looseLeaf (sequent as cs)
      let written ← plain (sequent as cs)
      return ⟨.ok (proof leaf null), [.proved written.nearest 1 0 true]⟩
  | d => do
    let shown ← d.shown
    .error (.notGoal shown)

/-- Why there is nothing to prove. -/
inductive GoalFault where
  | parse (e : ParseError)
  | document (f : DocumentFault)

/-- The proof of what is given, where a text stands for the formula that it
spells. -/
def proveGiven (rules : List Rule) (limits : Limits) : Document → Except GoalFault DocumentVerdict
  | text s => do
    let attempt := Attempt.ofText limits s
    let f ← attempt.result.mapError .parse
    let v := ofVerdict (Turnstile.prove rules (.formula f))
    return { v with records := LogRecord.ofAttempt attempt ++ v.records }
  | d => (prove rules d).mapError .document

end Document

end Turnstile
