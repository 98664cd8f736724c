/-
# Double-precision numbers

The finite numbers `m * 2 ^ e` of the 64-bit binary format, its infinities and
not-a-number, as they are read from decimal text and written back: a decimal
is rounded to the nearest number (a tie goes to the even neighbour), and a
number is written with the fewest digits that read back as it, the nearest
such decimal if there are several and the even one of two that are as near.

Key definitions: `Double`, `Double.ofDecimal`, `Double.shown`,
`Double.whole?`, `Double.plus`, `Double.times?`, `Double.isBelow`.
-/

namespace Turnstile

/-- A double-precision number. A finite one is `m * 2 ^ e` with
`m < 2 ^ 53` and `-1074 ≤ e`, and `2 ^ 52 ≤ m` unless `e = -1074`. -/
inductive Double where
  | nan
  | infinite (negative : Bool)
  | finite (negative : Bool) (m : Nat) (e : Int)
deriving DecidableEq, Repr

namespace Double

/-- A power of two. -/
def twoTo (n : Nat) : Nat := Nat.pow 2 n

/-- A power of ten. -/
def tenTo (n : Nat) : Nat := Nat.pow 10 n

/-- `num / den` rounded to the nearest integer, a tie to the even one. -/
def roundRatio (num den : Nat) : Nat :=
  let q := num / den
  let r := num % den
  if 2 * r < den then q
  else if den < 2 * r then q + 1
  else q + q % 2

/-- `num / (den * 2 ^ e)` rounded to the nearest integer. -/
def roundScaled (num den : Nat) (e : Int) : Nat :=
  if 0 ≤ e then roundRatio num (den * twoTo e.toNat)
  else roundRatio (num * twoTo (-e).toNat) den

/-- The largest integer not above `num / (den * 2 ^ e)`. -/
def floorScaled (num den : Nat) (e : Int) : Nat :=
  if 0 ≤ e then num / (den * twoTo e.toNat) else num * twoTo (-e).toNat / den

/-- The number nearest to `num / den`. -/
def ofRatio (negative : Bool) (num den : Nat) : Double :=
  if num = 0 then .finite negative 0 (-1074)
  else
    let guess : Int := (num.log2 : Int) - (den.log2 : Int) - 53
    let e := if twoTo 53 ≤ floorScaled num den guess then guess + 1 else guess
    let e := max e (-1074)
    let m := roundScaled num den e
    let (m, e) := if m = twoTo 53 then (twoTo 52, e + 1) else (m, e)
    if 971 < e then .infinite negative else .finite negative m e

/-- The number nearest to `digits * 10 ^ exponent`. Where the first digit stands
far beyond the largest or the smallest number, it is infinite or zero. -/
def ofDecimal (negative : Bool) (digits : Nat) (exponent : Int) : Double :=
  let first : Int := exponent + ((Nat.toDigits 10 digits).length : Int)
  if digits = 0 ∨ first < -400 then ofRatio negative 0 1
  else if 400 < first then .infinite negative
  else if 0 ≤ exponent then ofRatio negative (digits * tenTo exponent.toNat) 1
  else ofRatio negative digits (tenTo (-exponent).toNat)

/-- The ratio of two integers that `m * 2 ^ e` is. -/
def ratio (m : Nat) (e : Int) : Nat × Nat :=
  if 0 ≤ e then (m * twoTo e.toNat, 1) else (m, twoTo (-e).toNat)

/-- The least `k` from `k` on, within `fuel` steps, with `den ≤ num * 10 ^ k`. -/
def leadingZeros (num den : Nat) : Nat → Nat → Nat
  | 0, k => k
  | fuel + 1, k => if den ≤ num * tenTo k then k else leadingZeros num den fuel (k + 1)

/-- The exponent of the first decimal digit of `num / den`. -/
def decimalExponent (num den : Nat) : Int :=
  if den ≤ num then ((Nat.toDigits 10 (num / den)).length : Int) - 1
  else -(leadingZeros num den 400 0 : Int)

/-- The decimal with the given number of digits nearest to `num / den` among
those that read back as `x`: its digits and the exponent of the last one. -/
def candidate? (x : Double) (num den : Nat) (count : Nat) : Option (Nat × Int) :=
  let last : Int := decimalExponent num den - (count : Int) + 1
  let (n, d) :=
    if 0 ≤ last then (num, den * tenTo last.toNat) else (num * tenTo (-last).toNat, den)
  let below := n / d
  let readsBack (digits : Nat) : Bool := ofDecimal false digits last == x
  match readsBack below, readsBack (below + 1) with
  | true, true => some (roundRatio n d, last)
  | true, false => some (below, last)
  | false, true => some (below + 1, last)
  | false, false => none

/-- The shortest decimal that reads back as the positive number `m * 2 ^ e`. -/
def shortest (m : Nat) (e : Int) : Nat × Int :=
  let (num, den) := ratio m e
  let x := Double.finite false m e
  ((List.range 17).findSome? fun k => candidate? x num den (k + 1)).getD (m, 0)

/-- Decimal digits and the exponent of the last one, without trailing zeros. -/
def dropZeros : Nat → List Char → Int → List Char × Int
  | 0, ds, e => (ds, e)
  | fuel + 1, ds, e =>
    if ds.getLast? = some '0' ∧ 1 < ds.length then dropZeros fuel ds.dropLast (e + 1) else (ds, e)

/-- An exponent with its sign and at least two digits. -/
def exponentText (e : Int) : String :=
  let digits := toString e.natAbs
  (if e < 0 then "-" else "+") ++ (if digits.length < 2 then "0" ++ digits else digits)

/-- Digits and the exponent of the first one as text: with a point if the
exponent is from -4 to 15, by an exponent otherwise. -/
def layout (ds : List Char) (first : Int) : String :=
  if -4 ≤ first ∧ first < 16 then
    if first < 0 then
      "0." ++ String.ofList (List.replicate (-first - 1).toNat '0' ++ ds)
    else
      let whole := ds.take (first.toNat + 1)
      let part := ds.drop (first.toNat + 1)
      let pad := List.replicate (first.toNat + 1 - whole.length) '0'
      String.ofList (whole ++ pad) ++ "." ++ (if part.isEmpty then "0" else String.ofList part)
  else
    let part := ds.drop 1
    String.ofList (ds.take 1) ++ (if part.isEmpty then "" else "." ++ String.ofList part) ++
      "e" ++ exponentText first

/-- The number as text. -/
def shown : Double → String
  | nan => "nan"
  | infinite negative => if negative then "-inf" else "inf"
  | finite negative m e =>
    let sign := if negative then "-" else ""
    if m = 0 then sign ++ "0.0"
    else
      let (digits, last) := shortest m e
      let (ds, last) := dropZeros 20 (toString digits).toList last
      sign ++ layout ds (last + (ds.length : Int) - 1)

/-- Whether the number is zero, of either sign. -/
def isZero : Double → Bool
  | finite _ m _ => m == 0
  | _ => false

/-- The integer that the number is. -/
def whole? : Double → Option Int
  | finite negative m e =>
    let (num, den) := ratio m e
    if num % den = 0 then
      let n : Int := num / den
      some (if negative then -n else n)
    else none
  | _ => none

/-- The number with the other sign. -/
def negate : Double → Double
  | nan => nan
  | infinite negative => infinite !negative
  | finite negative m e => finite (!negative) m e

/-- The integer `n` with a sign. -/
def signed (negative : Bool) (n : Nat) : Int := if negative then -(n : Int) else n

/-- The sum of two numbers, rounded. A zero is negative if both numbers are. -/
def plus : Double → Double → Double
  | nan, _ | _, nan => nan
  | infinite a, infinite b => if a = b then infinite a else nan
  | infinite a, finite _ _ _ => infinite a
  | finite _ _ _, infinite b => infinite b
  | finite s m e, finite t n f =>
    let (a, b) := ratio m e
    let (c, d) := ratio n f
    let total := signed s (a * d) + signed t (c * b)
    ofRatio (total < 0 || (s && t)) total.natAbs (b * d)

/-- A positive multiple of a number, rounded. A factor beyond the largest number
is too much. -/
def times? (x : Double) (n : Nat) : Option Double :=
  match ofRatio false n 1 with
  | finite _ k f =>
    match x with
    | finite s m e =>
      let (a, b) := ratio m e
      let (c, d) := ratio k f
      some (ofRatio s (a * c) (b * d))
    | x => some x
  | _ => none

/-- Whether the number lies below the integer `n`. -/
def isBelow (x : Double) (n : Int) : Bool :=
  match x with
  | nan => false
  | infinite negative => negative
  | finite negative m e =>
    let (num, den) := ratio m e
    let value : Int := if negative then -(num : Int) else num
    value < n * (den : Int)

end Double

end Turnstile
