/-
# Numbers in text

The integers and decimals that a text spells. The digits of every script are
digits, a sign may come first, and blanks may stand around a number. Integers
are read to a base, whose mark may come before the digits; to the base ten
they may not have too many digits.

Key definitions: `Numeral.Fault`, `Numeral.integer`, `Numeral.decimal?`.
-/
import Turnstile.Data.Json
import Turnstile.Text.Lines
import Turnstile.Text.Word

namespace Turnstile.Numeral

/-- Why a text is no integer that is read. -/
inductive Fault where
  | malformed
  /-- Too many digits. -/
  | long (digits : Nat)
deriving DecidableEq, Repr

/-- Whether a character may stand around a number: a blank that is no information
separator. -/
def isGap (c : Char) : Bool := Text.isBlank c && !(0x1c ≤ c.toNat && c.toNat ≤ 0x1f)

/-- The ASCII character that a code point counts as in a number. A question mark
is in no number. -/
def plainly : CodePoint → Char
  | .half _ => '?'
  | .char c =>
    if c.toNat < 0x7f then c
    else if isGap c then ' '
    else ((Text.decimalValue? c).map Nat.digitChar).getD '?'

/-- The characters that a text counts as in a number, without the blanks before
it and its sign, and whether the sign is a minus. -/
def spelling (p : Points) : Bool × List Char :=
  match (p.map plainly).dropWhile isGap with
  | '-' :: cs => (true, cs)
  | '+' :: cs => (false, cs)
  | cs => (false, cs)

/-- The characters after the mark of a base, where there is one. -/
def dropMark (base : Nat) : List Char → List Char
  | '0' :: c :: cs =>
    if (base = 2 ∧ (c = 'b' ∨ c = 'B')) ∨ (base = 8 ∧ (c = 'o' ∨ c = 'O')) ∨
        (base = 16 ∧ (c = 'x' ∨ c = 'X')) then cs
    else '0' :: c :: cs
  | cs => cs

/-- The value of a digit to a base. -/
def digitValue? (base : Nat) (c : Char) : Option Nat := (Json.hexValue? c).filter (· < base)

/-- The integer that a text spells to a base. -/
def integer (base : Nat) (p : Points) : Except Fault Int :=
  let (negative, cs) := spelling p
  let cs := dropMark base cs
  let ds := cs.takeWhile fun c => (digitValue? base c).isSome
  if base = 10 ∧ mostDigits < ds.length then .error (.long ds.length)
  else if ds.isEmpty || !(cs.drop ds.length).all isGap then .error .malformed
  else
    let n : Nat := (ds.filterMap (digitValue? base)).foldl (fun n d => n * base + d) 0
    .ok (Double.signed negative n)

/-- The decimal that digits, with a point and an exponent or without, spell. -/
def digits? (negative : Bool) (cs : List Char) : Option Double :=
  let whole := cs.takeWhile Char.isDigit
  let rest := cs.dropWhile Char.isDigit
  let (fraction, rest) : List Char × List Char :=
    match rest with
    | '.' :: rest => (rest.takeWhile Char.isDigit, rest.dropWhile Char.isDigit)
    | rest => ([], rest)
  if whole.isEmpty && fraction.isEmpty then none
  else
    match Json.readExponent rest with
    | (exponent, []) =>
      some (.ofDecimal negative (Json.digitsValue (whole ++ fraction))
        (exponent.getD 0 - (fraction.length : Int)))
    | _ => none

/-- The decimal that a text spells. -/
def decimal? (p : Points) : Option Double :=
  let (negative, cs) := spelling p
  let cs := (cs.reverse.dropWhile isGap).reverse
  let word := cs.map Char.toLower
  if word = "inf".toList ∨ word = "infinity".toList then some (.infinite negative)
  else if word = "nan".toList then some .nan
  else digits? negative cs

end Turnstile.Numeral
