/-
# Why a text is no formula

The causes for which lexing and parsing fail, each with its message and the
kind of error that a caller sees.

Key definitions: `LexError`, `Position`, `Malformed`, `ParseError`,
`ParseError.message`, `ParseError.kind`.
-/
import Turnstile.Connective
import Turnstile.Limit
import Turnstile.Text.Quoted

namespace Turnstile

/-- A character that fits no token. -/
structure LexError where
  /-- The offending character; none at the end of the text. -/
  character : Option Char
  /-- Its offset in the text. -/
  position : Nat
  /-- The half token before it if one was begun, the whole text otherwise. -/
  context : String
  /-- The character that would have completed the token that was begun. -/
  expected : Option Char
deriving DecidableEq, Repr

/-- Where a token stands. -/
inductive Position where
  /-- At an offset of the text it was scanned from. -/
  | offset (n : Nat)
  /-- Where a token made by hand says that it stands, as it is written. -/
  | stated (written : String)
deriving DecidableEq, Repr

/-- A position as messages show it. -/
def Position.shown : Position → String
  | offset n => toString n
  | stated written => written

/-- How a sequence of tokens or operands fails to be a formula. -/
inductive Malformed where
  /-- A name that no variable has, as it is quoted in messages. -/
  | invalidName (shown : String)
  /-- A connective given the wrong number of operands. -/
  | operandCount (c : Connective) (got : Nat)
  /-- An operator token met with too few operands before it. -/
  | missingOperand (c : Connective) (position : Position)
  /-- Not exactly one formula at the end. -/
  | notSingle (count : Nat)
  /-- A token of a kind that formulas do not have, as its text is quoted. -/
  | unexpectedToken (shown : String)
deriving DecidableEq, Repr

/-- The sizes that have a limit. -/
inductive Measure where
  | length
  | depth
deriving DecidableEq, Repr

/-- Why a text or a sequence of tokens is no formula. -/
inductive ParseError where
  | lex (e : LexError)
  /-- A parenthesis without a partner. -/
  | unbalanced (parenthesis : String)
  | malformed (m : Malformed)
  /-- A size above its limit. -/
  | tooLarge (what : Measure) (limit : Limit) (actual : Nat)
  /-- A value that cannot be compared: a limit that has no order with sizes, or
  the kind of a token that can be no kind. -/
  | incomparable
deriving DecidableEq, Repr

/-- A lexing error in words. -/
def LexError.message (e : LexError) : String :=
  match e.expected with
  | some x =>
    let found :=
      match e.character with
      | some c => Text.quoted c.toString
      | none => "end of input"
    "Unexpected token: " ++ found ++ " after " ++ Text.quoted e.context ++ " at position " ++
      toString e.position ++ " (expected " ++ Text.quoted x.toString ++ ")."
  | none =>
    "Unexpected token: " ++ Text.quoted ((e.character.map Char.toString).getD "") ++
      " at position " ++ toString e.position ++ " in " ++ Text.quoted e.context

/-- What is malformed, in words. -/
def Malformed.reason : Malformed → String
  | invalidName shown => "invalid variable name " ++ shown
  | operandCount c got =>
    "operator " ++ Text.quoted c.symbol ++ " expects " ++ toString c.arity ++
      (if c.arity = 1 then " operand" else " operands") ++ ", got " ++ toString got
  | missingOperand c position =>
    "operator " ++ Text.quoted c.symbol ++ " at position " ++ position.shown ++
      " is missing an operand"
  | notSingle count =>
    "expected a single formula, found " ++ toString count ++ " operands after parsing"
  | unexpectedToken shown => "unexpected token " ++ shown

/-- The name of a size in messages. -/
def Measure.name : Measure → String
  | length => "length"
  | depth => "depth"

/-- Whether an error is about a limit that messages cannot show. -/
def ParseError.isUnwritable : ParseError → Bool
  | tooLarge _ limit _ => !limit.isWritable
  | _ => false

/-- A parse error in words. An error about a limit that cannot be shown says just
that. -/
def ParseError.message : ParseError → String
  | lex e => e.message
  | unbalanced parenthesis => "Found unbalanced parentheses: " ++ Text.quoted parenthesis ++ "."
  | malformed m => "Malformed expression: " ++ m.reason
  | tooLarge what limit actual =>
    if !limit.isWritable then Numeral.unwritableMessage
    else
      "Formula " ++ what.name ++ " " ++ toString actual ++ " exceeds the limit of " ++ limit.shown
  | incomparable => "the values cannot be compared"

/-- The kinds by which a caller tells errors apart. -/
inductive ErrorKind where
  | lex
  | unbalanced
  | malformed
  | tooLarge
  /-- Values that cannot be compared. -/
  | wrongType
  /-- A number that cannot be written. -/
  | unwritable
deriving DecidableEq, Repr

/-- The kind of a parse error. An error about a limit that cannot be shown is
never made: writing its message fails first, and that failure is what the caller
sees. -/
def ParseError.kind : ParseError → ErrorKind
  | lex _ => .lex
  | unbalanced _ => .unbalanced
  | malformed _ => .malformed
  | tooLarge _ limit _ => if limit.isWritable then .tooLarge else .unwritable
  | incomparable => .wrongType

end Turnstile
