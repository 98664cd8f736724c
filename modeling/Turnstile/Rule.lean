/-
# The rules of the calculus, read backwards

Each connective has a rule for either side of a sequent. A rule that leads to
one premise replaces every formula of its connective on its side in one pass
and leaves the order of the others; a rule that leads to two premises takes
the first such formula only. A derivation by hand applies one rule at a time
to one of its goals.

Key definitions: `Side`, `Rule`, `Rule.all`, `Rule.side`, `Rule.premises`,
`Application`, `Rule.application?`, `Derivation.pick?`, `Derivation.step`.
-/
import Turnstile.Sequent
import Turnstile.Text.Casing

namespace Turnstile

/-- The sides of a sequent. -/
inductive Side where
  | left
  | right
deriving DecidableEq, Repr

/-- The eight rules. -/
inductive Rule where
  | leftAnd
  | rightOr
  | rightImp
  | leftNot
  | rightNot
  | leftImp
  | leftOr
  | rightAnd
deriving DecidableEq, Repr

namespace Rule

/-- The rules in the order in which the search tries them: those with one
premise first, so that the search branches as late as it can. -/
def all : List Rule :=
  [leftAnd, rightOr, rightImp, leftNot, rightNot, leftImp, leftOr, rightAnd]

/-- The name of a rule. -/
def name : Rule → String
  | leftAnd => "left-and"
  | rightOr => "right-or"
  | rightImp => "right-imp"
  | leftNot => "left-not"
  | rightNot => "right-not"
  | leftImp => "left-imp"
  | leftOr => "left-or"
  | rightAnd => "right-and"

theorem isEmpty_name (rule : Rule) : rule.name.isEmpty = false := by
  cases rule <;> rfl

/-- The side that a rule looks at. -/
def side : Rule → Side
  | leftAnd => .left
  | rightOr => .right
  | rightImp => .right
  | leftNot => .left
  | rightNot => .right
  | leftImp => .left
  | leftOr => .left
  | rightAnd => .right

/-- Whether a rule leads to two premises. -/
def branches : Rule → Bool
  | leftImp => true
  | leftOr => true
  | rightAnd => true
  | _ => false

/-- The rule with a name, in any letter case and with `_` for `-` if wanted. -/
def ofName? (s : String) : Option Rule :=
  let key := (Text.lower s).map fun c => if c = '_' then '-' else c
  all.find? fun r => r.name == key

/-- The complaint about a name that no rule has. -/
def unknownMessage (name : String) : String := "Unknown rule: " ++ name

/-- A binary formula of connective `b` as its two operands, any other formula
as itself. -/
def unfold (b : Binary) : Formula → List Formula
  | .bin c l r => if c = b then [l, r] else [.bin c l r]
  | f => [f]

/-- The formula under a negation. -/
def negated? : Formula → Option Formula
  | .neg f => some f
  | _ => none

/-- The left operand of an implication. -/
def antecedent? : Formula → Option Formula
  | .bin .imp l _ => some l
  | _ => none

/-- An implication as its right operand, any other formula as itself. -/
def consequent : Formula → Formula
  | .bin .imp _ r => r
  | f => f

/-- The first formula of connective `b`: the formulas before it, its two
operands and the formulas after it. -/
def splitFirst? (b : Binary) :
    List Formula → Option (List Formula × Formula × Formula × List Formula)
  | [] => none
  | .bin c l r :: fs =>
    if c = b then some ([], l, r, fs)
    else (splitFirst? b fs).map fun p => (.bin c l r :: p.1, p.2)
  | f :: fs => (splitFirst? b fs).map fun p => (f :: p.1, p.2)

/-- The premises that a rule leads to; none if it does not apply. -/
def premises (rule : Rule) (s : Sequent) : List Sequent :=
  match rule with
  | leftAnd =>
    if s.assumptions.any fun f => f.hasConnective (.binary .conj) then
      [⟨s.assumptions.flatMap (unfold .conj), s.conclusions⟩]
    else []
  | rightOr =>
    if s.conclusions.any fun f => f.hasConnective (.binary .disj) then
      [⟨s.assumptions, s.conclusions.flatMap (unfold .disj)⟩]
    else []
  | rightImp =>
    if s.conclusions.any fun f => f.hasConnective (.binary .imp) then
      [⟨s.assumptions ++ s.conclusions.filterMap antecedent?, s.conclusions.map consequent⟩]
    else []
  | leftNot =>
    if s.assumptions.any fun f => f.hasConnective .neg then
      [⟨s.assumptions.filter fun f => !f.hasConnective .neg,
        s.conclusions ++ s.assumptions.filterMap negated?⟩]
    else []
  | rightNot =>
    if s.conclusions.any fun f => f.hasConnective .neg then
      [⟨s.assumptions ++ s.conclusions.filterMap negated?,
        s.conclusions.filter fun f => !f.hasConnective .neg⟩]
    else []
  | leftImp =>
    match splitFirst? .imp s.assumptions with
    | some (before, l, r, after) =>
      [⟨before ++ r :: after, s.conclusions⟩, ⟨before ++ after, s.conclusions ++ [l]⟩]
    | none => []
  | leftOr =>
    match splitFirst? .disj s.assumptions with
    | some (before, l, r, after) =>
      [⟨before ++ l :: after, s.conclusions⟩, ⟨before ++ r :: after, s.conclusions⟩]
    | none => []
  | rightAnd =>
    match splitFirst? .conj s.conclusions with
    | some (before, l, r, after) =>
      [⟨s.assumptions, before ++ l :: after⟩, ⟨s.assumptions, before ++ r :: after⟩]
    | none => []

end Rule

/-- A rule applied to a sequent, and the premises it led to. -/
structure Application where
  rule : Rule
  sequent : Sequent
  premises : List Sequent
deriving DecidableEq

/-- The text of an application. -/
def Application.render (a : Application) : String :=
  a.rule.name ++ ": " ++ a.sequent.render ++ "  =>  " ++
    "  |  ".intercalate (a.premises.map Sequent.render)

/-- The application of a rule, if it applies. -/
def Rule.application? (rule : Rule) (s : Sequent) : Option Application :=
  match rule.premises s with
  | [] => none
  | ps => some ⟨rule, s, ps⟩

theorem Rule.application?_eq_some_iff {rule : Rule} {s : Sequent} {a : Application} :
    rule.application? s = some a ↔ rule.premises s ≠ [] ∧ a = ⟨rule, s, rule.premises s⟩ := by
  unfold application?
  split
  next h => simp [h]
  next h => exact ⟨fun ha => ⟨h, (Option.some.inj ha).symm⟩, fun ha => by rw [ha.2]⟩

theorem Rule.application?_eq_none_iff {rule : Rule} {s : Sequent} :
    rule.application? s = none ↔ rule.premises s = [] := by
  unfold application?
  split
  next h => simp [h]
  next h => exact ⟨fun ha => by simp at ha, fun ha => absurd ha h⟩

/-! ### Derivations by hand

A derivation keeps a list of goals, which starts with the sequent to derive. A step
picks a goal and a rule and puts the premises in the goal's place; a rule that does
not apply leaves the goals as they are. -/

namespace Derivation

/-- The place that an index means: one below zero counts from the end. -/
def pick? (count : Nat) (index : Int) : Option Nat :=
  let n := if index < 0 then index + (count : Int) else index
  if 0 ≤ n ∧ n < (count : Int) then some n.toNat else none

/-- The goals with the one at a place replaced. -/
def replaceAt (goals : List Sequent) (n : Nat) (premises : List Sequent) : List Sequent :=
  goals.take n ++ premises ++ goals.drop (n + 1)

/-- One step with the goal at a place: whether the rule applied, and the goals
after it. There is no step at a place without a goal. -/
def step (r : Rule) (n : Nat) (goals : List Sequent) : Option (Bool × List Sequent) :=
  goals[n]?.map fun s =>
    match r.application? s with
    | some a => (true, replaceAt goals n a.premises)
    | none => (false, goals)

end Derivation

end Turnstile
