/-
# Bytes in base 64

Bytes spelt by characters of six bits each. Characters of no meaning are
skipped, equality signs fill up the last four characters, and whatever comes
after them is left out.

Key definitions: `Text.sixBits?`, `Text.Sextets`, `Text.decodeBase64?`.
-/

namespace Turnstile.Text

/-- The six bits that a character means. -/
def sixBits? (c : Char) : Option Nat :=
  if 'A' ≤ c ∧ c ≤ 'Z' then some (c.toNat - 65)
  else if 'a' ≤ c ∧ c ≤ 'z' then some (c.toNat - 71)
  else if '0' ≤ c ∧ c ≤ '9' then some (c.toNat + 4)
  else if c = '+' then some 62
  else if c = '/' then some 63
  else none

/-- The bytes so far, the latest first, and what is left of the last one. -/
structure Sextets where
  /-- The number of characters in the four that are read. -/
  place : Nat
  /-- The bits that are not part of a byte yet. -/
  left : Nat
  /-- The number of equality signs since the last bits. -/
  pads : Nat
  bytes : List UInt8

namespace Sextets

/-- Six bits more. -/
def push (bits : Nat) (s : Sextets) : Sextets :=
  match s.place with
  | 0 => ⟨1, bits, 0, s.bytes⟩
  | 1 => ⟨2, bits % 16, 0, (s.left * 4 + bits / 16).toUInt8 :: s.bytes⟩
  | 2 => ⟨3, bits % 4, 0, (s.left * 16 + bits / 4).toUInt8 :: s.bytes⟩
  | _ => ⟨0, 0, 0, (s.left * 64 + bits).toUInt8 :: s.bytes⟩

/-- The bytes after characters more. The last four must be complete. -/
def finish? (s : Sextets) : List Char → Option (List UInt8)
  | [] => if s.place = 0 then some s.bytes.reverse else none
  | c :: cs =>
    if c = '=' then
      if 2 ≤ s.place then
        if 3 ≤ s.place + s.pads then some s.bytes.reverse
        else finish? { s with pads := s.pads + 1 } cs
      else finish? s cs
    else
      match sixBits? c with
      | some bits => finish? (s.push bits) cs
      | none => finish? s cs

end Sextets

/-- The bytes that characters spell. -/
def decodeBase64? (cs : List Char) : Option (List UInt8) := Sextets.finish? ⟨0, 0, 0, []⟩ cs

end Turnstile.Text
