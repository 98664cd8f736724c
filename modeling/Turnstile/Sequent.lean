/-
# Sequents

A sequent has assumptions on its left and conclusions on its right, and says
that the assumptions together imply one of the conclusions. Both sides keep
their order, since rules look at them from left to right. A sequent with a
formula on both sides is an axiom; one that is an axiom or holds variables
only is finished.

Key definitions: `Sequent`, `Sequent.isAxiom`, `Sequent.isFinished`,
`Sequent.isFalsifiable`, `Sequent.size`, `Sequent.render`.
-/
import Turnstile.Formula

namespace Turnstile

/-- Assumptions and conclusions, in order. -/
structure Sequent where
  assumptions : List Formula
  conclusions : List Formula
deriving DecidableEq

/-- The number of connectives in a list of formulas. -/
def sizeOfAll : List Formula → Nat
  | [] => 0
  | f :: fs => f.size + sizeOfAll fs

namespace Sequent

/-- The sequent that asserts one formula. -/
def ofFormula (f : Formula) : Sequent := ⟨[], [f]⟩

/-- The assumptions followed by the conclusions. -/
def formulas (s : Sequent) : List Formula := s.assumptions ++ s.conclusions

/-- Whether some formula stands on both sides. Formulas are compared by their
texts. -/
def isAxiom (s : Sequent) : Bool :=
  let left := s.assumptions.map Formula.render
  s.conclusions.any fun f => left.contains f.render

/-- Whether the search for a proof ends at the sequent. -/
def isFinished (s : Sequent) : Bool := s.isAxiom || s.formulas.all Formula.isAtomic

/-- Whether the sequent is finished without being an axiom. -/
def isFalsifiable (s : Sequent) : Bool := s.isFinished && !s.isAxiom

/-- The number of connectives. -/
def size (s : Sequent) : Nat := sizeOfAll s.formulas

/-- The names of the variables on both sides, as a set. -/
def names (s : Sequent) : List String := Formula.gather s.formulas []

/-- Two lists of texts as the sides of a sequent. -/
def layout (left right : List String) : String :=
  "\x7b [" ++ ", ".intercalate left ++ "]; [" ++ ", ".intercalate right ++ "] \x7d"

/-- The text of a sequent. -/
def render (s : Sequent) : String :=
  layout (s.assumptions.map Formula.render) (s.conclusions.map Formula.render)

/-- The text of a sequent as it is described in messages. -/
def enclose (written : String) : String := "Sequent(" ++ written ++ ")"

/-- A sequent as it is described in messages. -/
def shown (s : Sequent) : String := enclose s.render

end Sequent

end Turnstile
