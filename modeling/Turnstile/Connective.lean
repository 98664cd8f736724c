/-
# Connectives

The four connectives of propositional logic, with the symbol each is written
by, the label it carries in stored documents, its number of operands and how
tightly it binds. Negation binds tightest, then conjunction, disjunction and
implication.

Key definitions: `Binary`, `Connective`, `Connective.symbol`,
`Connective.strength`, `Connective.ofSymbol?`, `Connective.ofLabel?`.
-/

namespace Turnstile

/-- The connectives with two operands. -/
inductive Binary where
  | conj
  | disj
  | imp
deriving DecidableEq, Repr

/-- All four connectives. -/
inductive Connective where
  | neg
  | binary (b : Binary)
deriving DecidableEq, Repr

namespace Binary

/-- The symbol written between the operands. -/
def symbol : Binary → String
  | conj => "&&"
  | disj => "||"
  | imp => "->"

/-- The name of the connective in stored documents. -/
def label : Binary → String
  | conj => "AND"
  | disj => "OR"
  | imp => "IMPLIES"

/-- The truth table. -/
def apply : Binary → Bool → Bool → Bool
  | conj, x, y => x && y
  | disj, x, y => x || y
  | imp, x, y => !x || y

end Binary

namespace Connective

/-- The connectives in the order in which a symbol or label is looked up. -/
def all : List Connective := [neg, binary .conj, binary .disj, binary .imp]

/-- The symbol of the connective in infix text. -/
def symbol : Connective → String
  | neg => "!"
  | binary b => b.symbol

/-- The name of the connective in stored documents. -/
def label : Connective → String
  | neg => "NOT"
  | binary b => b.label

/-- The number of operands. -/
def arity : Connective → Nat
  | neg => 1
  | binary _ => 2

/-- How tightly the connective binds; a larger number binds tighter. -/
def strength : Connective → Nat
  | neg => 3
  | binary .conj => 2
  | binary .disj => 1
  | binary .imp => 0

/-- The connective written by a symbol. -/
def ofSymbol? (s : String) : Option Connective := all.find? fun c => c.symbol == s

/-- The connective with a label. -/
def ofLabel? (s : String) : Option Connective := all.find? fun c => c.label == s

end Connective

end Turnstile
