/-
# Text by code points

A text as the code points it is made of. Nearly all of them are characters;
but an escape can also name half of a surrogate pair, and a half that stands
alone is no character, so no string holds it.

Key definitions: `CodePoint`, `Points`, `Points.ofString`, `Points.string?`.
-/

namespace Turnstile

/-- A code point: a character, or half of a surrogate pair that stands alone. -/
inductive CodePoint where
  | char (c : Char)
  /-- The half with a number, counted from the first. -/
  | half (n : Fin 2048)
deriving DecidableEq, Repr

namespace CodePoint

/-- The number of a code point. -/
def value : CodePoint → Nat
  | char c => c.toNat
  | half n => 0xd800 + n

/-- The code point with a number. -/
def ofValue (n : Nat) : CodePoint :=
  if h : 0xd800 ≤ n ∧ n < 0xe000 then half ⟨n - 0xd800, by omega⟩ else char (Char.ofNat n)

/-- The character that a code point is. -/
def char? : CodePoint → Option Char
  | char c => some c
  | half _ => none

/-- The character that a code point is shown as where only characters can be. -/
def standIn : CodePoint → Char
  | char c => c
  | half _ => Char.ofNat 0xfffd

end CodePoint

/-- A text as its code points. -/
abbrev Points := List CodePoint

namespace Points

/-- The code points of characters. -/
def ofChars (cs : List Char) : Points := cs.map .char

/-- The code points of a string. -/
def ofString (s : String) : Points := ofChars s.toList

instance : Coe String Points := ⟨ofString⟩

/-- The string that code points make, if all of them are characters. -/
def string? (p : Points) : Option String := (p.mapM CodePoint.char?).map String.ofList

/-- The string that comes closest to code points. -/
def nearest (p : Points) : String := String.ofList (p.map CodePoint.standIn)

/-- Texts one after another with a string between each two. -/
def joined (gap : String) : List Points → Points
  | [] => []
  | [p] => p
  | p :: ps => p ++ ofString gap ++ joined gap ps

/-- Whether a text comes no later than another in the order of code points. -/
def isUpTo : Points → Points → Bool
  | [], _ => true
  | _ :: _, [] => false
  | a :: as, b :: bs => a.value < b.value || (a.value == b.value && isUpTo as bs)

end Points

end Turnstile
