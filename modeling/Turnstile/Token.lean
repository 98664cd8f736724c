/-
# Tokens

Infix text as a sequence of tokens: the connectives, the two parentheses and
variable names. Blanks separate tokens and mean nothing else. A name takes as
many letters and digits as follow it.

Key definitions: `Token`, `Token.ofData`, `Token.scan`.
-/
import Turnstile.Data
import Turnstile.Formula
import Turnstile.ParseError
import Turnstile.Text.Lines

namespace Turnstile

/-- What a token stands for. -/
inductive TokenKind where
  | name
  | connective (c : Connective)
  | openParen
  | closeParen
  /-- A kind of token that formulas do not have. -/
  | other (label : String)
  /-- A token made by hand that no parse takes, and the fault that it meets. -/
  | refused (e : ParseError)
deriving DecidableEq, Repr

namespace TokenKind

/-- The name of a kind of token. -/
def label : TokenKind → String
  | name => "VARIABLE"
  | connective c => c.label
  | openParen => "LPAREN"
  | closeParen => "RPAREN"
  | other label => label
  | refused _ => ""

/-- The kind of token with a name. -/
def ofLabel (s : String) : TokenKind :=
  if s = "VARIABLE" then name
  else if s = "LPAREN" then openParen
  else if s = "RPAREN" then closeParen
  else
    match Connective.ofLabel? s with
    | some c => connective c
    | none => other s

end TokenKind

/-- A token with its text and its place. -/
structure Token where
  kind : TokenKind
  value : String
  position : Position
deriving DecidableEq, Repr

namespace Token

/-- The token made by hand of any parts: a text that is one of the kinds, any
text, and a number. A name that is no text is no name, and what is no kind is
met as an unexpected token. -/
def ofData (kind value position : Data) : Token :=
  let place : Position :=
    match position with
    | .int (.ofNat n) => .offset n
    | d => .stated d.plain.nearest
  match kind, value with
  | .text k, .text v => ⟨.ofLabel k, v, place⟩
  | .list _, v | .dict _, v => ⟨.refused .incomparable, v.plain.nearest, place⟩
  | k, v =>
    let kind : TokenKind :=
      match k with
      | .text k =>
        match TokenKind.ofLabel k with
        | .name => .refused (.malformed (.invalidName v.shown))
        | .other _ => .refused (.malformed (.unexpectedToken v.shown))
        | kind => kind
      | _ => .refused (.malformed (.unexpectedToken v.shown))
    ⟨kind, v.plain.nearest, place⟩

/-- The second character and the connective of a token of two characters that
starts with `c`. -/
def double? (c : Char) : Option (Char × Connective) :=
  if c = '&' then some ('&', .binary .conj)
  else if c = '|' then some ('|', .binary .disj)
  else if c = '-' then some ('>', .binary .imp)
  else none

/-- The kind of the one-character token `c`. -/
def single? (c : Char) : Option TokenKind :=
  if c = '!' then some (.connective .neg)
  else if c = '(' then some .openParen
  else if c = ')' then some .closeParen
  else none

/-- The tokens of the characters `cs`, which start at offset `i` of `text`. -/
def scanFrom (text : String) (i : Nat) (cs : List Char) : Except LexError (List Token) :=
  match cs with
  | [] => .ok []
  | c :: cs =>
    match double? c with
    | some (second, connective) =>
      match cs with
      | d :: rest =>
        if d = second then do
          let tokens ← scanFrom text (i + 2) rest
          return ⟨.connective connective, String.ofList [c, d], .offset i⟩ :: tokens
        else .error ⟨some d, i + 1, c.toString, some second⟩
      | [] => .error ⟨none, i + 1, c.toString, some second⟩
    | none =>
      match single? c with
      | some kind => do
        let tokens ← scanFrom text (i + 1) cs
        return ⟨kind, c.toString, .offset i⟩ :: tokens
      | none =>
        if isLetter c then do
          let name := c :: cs.takeWhile isAlnum
          let tokens ← scanFrom text (i + name.length) (cs.dropWhile isAlnum)
          return ⟨.name, String.ofList name, .offset i⟩ :: tokens
        else if Text.isBlank c then scanFrom text (i + 1) cs
        else .error ⟨some c, i, text, none⟩
termination_by cs.length
decreasing_by
  · simp only [List.length_cons]; omega
  · exact Nat.lt_succ_self _
  · exact Nat.lt_succ_of_le ((List.dropWhile_suffix _).length_le)
  · exact Nat.lt_succ_self _

/-- The tokens of a text. -/
def scan (text : String) : Except LexError (List Token) := scanFrom text 0 text.toList

end Token

end Turnstile
