/-
# Faults of documents

Why parts do not make a value, why a document cannot answer what it is asked,
or why it has no stored form.

Key definitions: `DocumentFault`, `DocumentFault.message`.
-/
import Turnstile.ParseError

namespace Turnstile

/-- A fault of a document. -/
inductive DocumentFault where
  | malformed (m : Malformed)
  /-- A name that no variable has, as it is described. -/
  | invalidName (shown : Points)
  /-- An operand that is no formula, as it is described. -/
  | notFormula (shown : Points)
  /-- A target of proof that is neither formula nor sequent, as it is described. -/
  | notGoal (shown : Points)
  /-- A symbol that no connective has, as it is described. -/
  | unknownSymbol (shown : Points)
  /-- A key that is missing, as it is described. -/
  | missingKey (shown : Points)
  /-- A value of a type that has no stored form. -/
  | notStorable (typeName : String)
  /-- A value that cannot be gone through or be a key. -/
  | wrongType
  /-- A value that lacks the part asked for. -/
  | missingPart
  /-- An indent whose width fits no word. -/
  | wideIndent
deriving DecidableEq, Repr

/-- What is malformed about parts that make no formula, in words. -/
def DocumentFault.reason : DocumentFault → Points
  | malformed m => m.reason
  | invalidName shown => "invalid variable name " ++ shown
  | _ => []

/-- A fault in words. -/
def DocumentFault.message : DocumentFault → Points
  | malformed m => (ParseError.malformed m).message
  | invalidName shown => "Malformed expression: invalid variable name " ++ shown
  | notFormula shown => "Expected Formula, got " ++ shown
  | notGoal shown => "Expected Formula or Sequent, got " ++ shown
  | unknownSymbol shown => "Unknown operator: " ++ shown
  | missingKey shown => shown
  | notStorable typeName => "Object of type " ++ typeName ++ " is not JSON serializable"
  | wrongType => "the value has the wrong type"
  | missingPart => "the value lacks a part"
  | wideIndent => "the indent is too wide"

/-- The part asked for, if it is there. -/
def orMissing {α : Type} : Option α → Except DocumentFault α
  | some x => .ok x
  | none => .error .missingPart

end Turnstile
