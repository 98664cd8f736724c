/-
# Quoted text

Text as it is quoted in messages: between single quotes, or between double
quotes if it holds a single quote and no double one. The backslash, the quote
in use and the common control characters have short escapes; other code points
that are not printable are written by their number in two, four or eight
hexadecimal digits. Bytes are quoted as the ASCII characters they are, after a
mark.

Key definitions: `Text.quoted`, `Text.quotedPoints`, `Text.quotedBytes`,
`Text.escaped`, `Text.hexDigits`.
-/
import Turnstile.Text.Points
import Turnstile.Text.Printable

namespace Turnstile.Text

/-- The last `width` hexadecimal digits of a number, in lower case. -/
def hexDigits : Nat → Nat → List Char
  | 0, _ => []
  | width + 1, n => hexDigits width (n / 16) ++ [Nat.digitChar (n % 16)]

/-- A code point by its number. -/
def codeEscape (n : Nat) : List Char :=
  if n < 0x100 then '\\' :: 'x' :: hexDigits 2 n
  else if n < 0x10000 then '\\' :: 'u' :: hexDigits 4 n
  else '\\' :: 'U' :: hexDigits 8 n

/-- One character inside quoted text that uses `quote`. -/
def quotedChar (quote c : Char) : List Char :=
  if c = quote ∨ c = '\\' then ['\\', c]
  else if c = '\t' then ['\\', 't']
  else if c = '\n' then ['\\', 'n']
  else if c = '\r' then ['\\', 'r']
  else if isPrintable c then [c]
  else codeEscape c.toNat

/-- One code point inside quoted text that uses `quote`. -/
def quotedPoint (quote : Char) : CodePoint → List Char
  | .char c => quotedChar quote c
  | .half n => codeEscape (CodePoint.half n).value

/-- The quote that a text is put between. -/
def quoteFor (p : Points) : Char :=
  if p.contains (.char '\x27') && !p.contains (.char '\x22') then '\x22' else '\x27'

/-- Code points between quotes. -/
def quotedPoints (p : Points) : String :=
  let quote := quoteFor p
  String.ofList (quote :: p.flatMap (quotedPoint quote) ++ [quote])

/-- A text between quotes. -/
def quoted (s : String) : String := quotedPoints (.ofString s)

/-- Bytes between quotes, after their mark. -/
def quotedBytes (bytes : List UInt8) : String :=
  let cs := bytes.map fun b => Char.ofNat b.toNat
  let quote := quoteFor (.ofChars cs)
  let inside :=
    cs.flatMap fun c => if c.toNat < 0x80 then quotedChar quote c else codeEscape c.toNat
  String.ofList ('b' :: quote :: inside ++ [quote])

/-- A text with all characters beyond ASCII written by their code points. -/
def escaped (s : String) : String :=
  String.ofList (s.toList.flatMap fun c => if c.toNat < 0x80 then [c] else codeEscape c.toNat)

end Turnstile.Text
