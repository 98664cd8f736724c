/-
# Rules on loose sequents

The rules of the calculus on sequents that may hold other things than
formulas. A rule looks at one side from left to right and passes the other on
as it is. A rule with one premise looks at the whole side, so all of it must
be formulas; a rule with two premises stops at the first formula of its
connective and keeps what follows. A sequent of formulas is reduced as the
typed rules reduce it.

Key definitions: `Document.premises`, `Reduction`, `Document.reduce`,
`Document.expand`, `Document.deriveStep`.
-/
import Turnstile.Document.Text
import Turnstile.Search

namespace Turnstile

/-- A rule applied to a sequent, which may be loose, and the premises it led to,
as documents. -/
structure Reduction where
  rule : Rule
  sequent : Document
  premises : List Document

namespace Reduction

/-- An application as a reduction. -/
def ofApplication (a : Application) : Reduction :=
  ⟨a.rule, .ofSequent a.sequent, a.premises.map .ofSequent⟩

/-- The text of a reduction. -/
def render (r : Reduction) : Except DocumentFault Points := do
  let sequent ← r.sequent.plain
  let premises ← Document.describeAll false r.premises
  return r.rule.name ++ ": " ++ sequent ++ "  =>  " ++ Points.joined "  |  " premises

end Reduction

namespace Document

/-- The formulas that documents start with, and the rest from the first that is
none. -/
def splitFormulas : List Document → List Formula × List Document
  | formula f :: ds =>
    let (fs, rest) := splitFormulas ds
    (f :: fs, rest)
  | ds => ([], ds)

/-- Whether a rule is done with a side of which `rest` are not its leading
formulas, given the premises that the leading formulas lead to. -/
def settles (rule : Rule) (rest : List Document) (premises : List Sequent) : Bool :=
  rest.isEmpty || (rule.branches && !premises.isEmpty)

/-- The premises that a rule leads to from the two sides of a loose sequent; none
if it does not apply. -/
def premises (rule : Rule) (as cs : List Document) : Except DocumentFault (List Document) :=
  match rule.side with
  | .left =>
    let (fs, rest) := splitFormulas as
    let ps := rule.premises ⟨fs, []⟩
    if settles rule rest ps then
      .ok (ps.map fun p =>
        sequent (p.assumptions.map formula ++ rest) (cs ++ p.conclusions.map formula))
    else .error .missingPart
  | .right =>
    let (fs, rest) := splitFormulas cs
    let ps := rule.premises ⟨[], fs⟩
    if settles rule rest ps then
      .ok (ps.map fun p =>
        sequent (as ++ p.assumptions.map formula) (p.conclusions.map formula ++ rest))
    else .error .missingPart

/-- The reduction of a loose sequent by a rule, if it applies. -/
def reduceLoose (rule : Rule) : Document → Except DocumentFault (Option Reduction)
  | sequent as cs => do
    let ps ← premises rule as cs
    return if ps.isEmpty then none else some ⟨rule, sequent as cs, ps⟩
  | _ => .error .missingPart

/-- The reduction of a sequent by a rule, if it applies. -/
def reduce (rule : Rule) (d : Document) : Except DocumentFault (Option Reduction) :=
  match d.sequent? with
  | some s => .ok ((rule.application? s).map .ofApplication)
  | none => reduceLoose rule d

/-- The first reduction of a loose sequent among a list of rules. -/
def expandLoose (d : Document) : List Rule → Except DocumentFault (Option Reduction)
  | [] => .ok none
  | rule :: rules => do
    match ← reduceLoose rule d with
    | some r => return some r
    | none => expandLoose d rules

/-- The first reduction of a sequent among a list of rules. -/
def expand (rules : List Rule) (d : Document) : Except DocumentFault (Option Reduction) :=
  match d.sequent? with
  | some s => .ok ((expand? rules s).map .ofApplication)
  | none => expandLoose d rules

/-- One step of a derivation with the goal at a place: whether the rule applied,
and the goals after it. There is no step at a place without a goal. -/
def deriveStep (rule : Rule) (n : Nat) (goals : List Document) :
    Except DocumentFault (Option (Bool × List Document)) :=
  match goals.mapM sequent?, goals[n]? with
  | some typed, _ =>
    .ok ((Derivation.step rule n typed).map fun p => (p.1, p.2.map ofSequent))
  | none, none => .ok none
  | none, some d => do
    match ← reduce rule d with
    | some r => return some (true, goals.take n ++ r.premises ++ goals.drop (n + 1))
    | none => return some (false, goals)

end Document

end Turnstile
