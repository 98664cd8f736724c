/-
# Faults of YAML texts

Why there is no data in a YAML text: it is malformed, or one of its scalars is
not what it is said to be.

Key definitions: `Yaml.Fault`, `Yaml.Fault.message`.
-/
import Turnstile.Data

namespace Turnstile.Yaml

/-- Why a YAML text has no data. -/
inductive Fault where
  | malformed
  /-- An integer with too many digits. -/
  | longNumber (digits : Nat)
  /-- A text that is no integer to a base, as it is quoted. -/
  | notInteger (base : Nat) (shown : String)
  /-- A text that is no decimal, as it is quoted. -/
  | notDecimal (shown : String)
  /-- A number without a character. -/
  | emptyNumber
  /-- A text that is no truth value, as it is quoted. -/
  | notTruth (shown : String)
  /-- A text that is no date. -/
  | notDate
  /-- A date or time that there is not. -/
  | wrongDate (complaint : String)
  /-- The number of an escape that no character has; it may be too large for a
  word of 32 bits. -/
  | noCharacter (fitsWord : Bool)
  /-- A number in parts that has too many of them. -/
  | tooLarge
  /-- A date that is no scalar. -/
  | notText
  /-- A scalar that is looked for without an end. -/
  | endless
  /-- A value that is a part of itself, and the name of its type. -/
  | containsItself (typeName : String)
deriving DecidableEq, Repr

/-- A fault in words. -/
def Fault.message : Fault → String
  | malformed => "the text is malformed"
  | longNumber digits => Numeral.longMessage digits
  | notInteger base shown =>
    "invalid literal for int() with base " ++ toString base ++ ": " ++ shown
  | notDecimal shown => "could not convert string to float: " ++ shown
  | emptyNumber => "string index out of range"
  | notTruth shown => shown
  | notDate => "the text is no date"
  | wrongDate complaint => complaint
  | noCharacter _ => "chr() arg not in range(0x110000)"
  | tooLarge => "int too large to convert to float"
  | notText => "the date is no text"
  | endless => "the scalar is looked for without an end"
  | containsItself _ => "the value is a part of itself"

/-- The result of a step that can only find the text malformed. -/
def orMalformed {α : Type} : Option α → Except Fault α
  | some x => .ok x
  | none => .error .malformed

end Turnstile.Yaml
