/-
# Templates

A template is a text with fields that values are put into. A field starts with
a percent sign and the name of its value in parentheses, then says how the
value is laid out (at the left of its room, with a sign, with zeros, in how
much room, with how many digits or characters at most) and ends with the letter
of a conversion: `%(name)-8s`, `%(count)05d`. Two percent signs stand for one.
A field without a name takes all the values at once, which works only in the
first field.

Where there is no value of a name, the conversion does not fit it, or the
layout asks for too much, the template cannot be filled.

Key definitions: `FieldValue`, `Layout`, `Template.FieldValues`,
`Template.isValid`, `Template.fill?`.
-/
import Turnstile.Double
import Turnstile.Text.Quoted
import Turnstile.Text.Word

namespace Turnstile

/-- What a field can be filled with. -/
inductive FieldValue where
  | text (s : String)
  | int (i : Int)
  /-- Any other value, as it is described. -/
  | other (shown : String)
  /-- A value that is described at length; this is how its description begins. -/
  | opening (shown : String)
deriving DecidableEq, Repr

/-- How a field is laid out. -/
structure Layout where
  /-- Whether the value stands at the left of its room. -/
  left : Bool
  /-- Whether a number that is not negative has a plus sign. -/
  plus : Bool
  /-- Whether a number that is not negative has a blank for its sign. -/
  blank : Bool
  /-- Whether a number shows its base, or its point. -/
  alternate : Bool
  /-- Whether a number is filled up with zeros. -/
  zeros : Bool
  /-- The room a value takes at least. -/
  width : Nat
  /-- The digits of a number, or the most characters of a text. -/
  precision : Option Nat
deriving DecidableEq, Repr

namespace Layout

/-- The most room, digits or characters that a layout can ask for. -/
def most : Nat := 2147483647

/-- Whether a layout asks for no more than it can. -/
def isModest (l : Layout) : Bool := l.width ≤ most && l.precision.getD 0 ≤ most

/-- A character that says how a value is laid out. -/
def isFlag (c : Char) : Bool := c == '-' || c == '+' || c == ' ' || c == '#' || c == '0'

/-- The layout that flags give, with the room and digits still open. -/
def ofFlags (flags : List Char) : Layout :=
  ⟨flags.contains '-', flags.contains '+', flags.contains ' ', flags.contains '#',
    flags.contains '0', 0, none⟩

/-- A text in its room. -/
def placeText (l : Layout) (cs : List Char) : List Char :=
  let room := List.replicate (l.width - cs.length) ' '
  if l.left then cs ++ room else room ++ cs

/-- A text cut to the characters it may have, in its room. -/
def placeCut (l : Layout) (cs : List Char) : List Char :=
  l.placeText (cs.take (l.precision.getD cs.length))

/-- The sign of a number. -/
def sign (l : Layout) (negative : Bool) : List Char :=
  if negative then ['-'] else if l.plus then ['+'] else if l.blank then [' '] else []

/-- A number in its room: its sign, the mark of its base and its digits. Zeros
that fill the room stand after the mark, blanks before the sign. -/
def placeNumber (l : Layout) (negative : Bool) (mark digits : List Char) : List Char :=
  let head := l.sign negative ++ mark
  if l.zeros && !l.left then
    head ++ List.replicate (l.width - head.length - digits.length) '0' ++ digits
  else l.placeText (head ++ digits)

end Layout

/-! ### Numbers -/

namespace Numeral

/-- A text in capitals; only ASCII letters occur. -/
def capitals (cs : List Char) : List Char := cs.map Char.toUpper

/-- The digits of a number to a base, at least as many as asked for. -/
def digits (base : Nat) (precision : Option Nat) (n : Nat) : List Char :=
  let ds := Nat.toDigits base n
  List.replicate (precision.getD 0 - ds.length) '0' ++ ds

/-- The given number of leading decimal digits of a number, rounded to the
nearest and a tie to the even one, and the exponent of the first. -/
def leading (count n : Nat) : List Char × Nat :=
  let ds := Nat.toDigits 10 n
  if ds.length ≤ count then (ds ++ List.replicate (count - ds.length) '0', ds.length - 1)
  else
    let rounded := Nat.toDigits 10 (Double.roundRatio n (Double.tenTo (ds.length - count)))
    if rounded.length ≤ count then (rounded, ds.length - 1) else (rounded.take count, ds.length)

/-- Digits before and after a point. The point is left out where nothing
follows it, unless it is wanted anyway. -/
def pointed (point : Bool) (whole part : List Char) : List Char :=
  whole ++ (if part.isEmpty && !point then [] else '.' :: part)

/-- A number with the given number of digits after the point. -/
def fixed (point : Bool) (count n : Nat) : List Char :=
  pointed point (Nat.toDigits 10 n) (List.replicate count '0')

/-- Digits with an exponent. -/
def scientific (point : Bool) (ds : List Char) (exponent : Nat) : List Char :=
  pointed point (ds.take 1) (ds.drop 1) ++ 'e' :: (Double.exponentText exponent).toList

/-- The digits without the zeros at their end. -/
def trimZeros (ds : List Char) : List Char := (ds.reverse.dropWhile (· == '0')).reverse

/-- A number by the given number of digits: with a point if they reach it, by an
exponent otherwise. Zeros after the point are left out unless the point is
wanted anyway. -/
def general (point : Bool) (count n : Nat) : List Char :=
  let (ds, exponent) := leading count n
  let trim (part : List Char) : List Char := if point then part else trimZeros part
  if exponent < count then pointed point (ds.take (exponent + 1)) (trim (ds.drop (exponent + 1)))
  else scientific point (ds.take 1 ++ trim (ds.drop 1)) exponent

end Numeral

/-! ### Conversions -/

namespace Template

/-- A whole number by the letter of its conversion. -/
def placeInteger? (l : Layout) (letter : Char) (i : Int) : Option (List Char) :=
  let place (base : Nat) (mark : List Char) : List Char × List Char :=
    (if l.alternate then mark else [], Numeral.digits base l.precision i.natAbs)
  let parts? : Option (List Char × List Char) :=
    if letter = 'd' ∨ letter = 'i' ∨ letter = 'u' then some (place 10 [])
    else if letter = 'o' then some (place 8 ['0', 'o'])
    else if letter = 'x' then some (place 16 ['0', 'x'])
    else if letter = 'X' then
      let (mark, ds) := place 16 ['0', 'x']
      some (Numeral.capitals mark, Numeral.capitals ds)
    else none
  parts?.map fun (mark, ds) => l.placeNumber (decide (i < 0)) mark ds

/-- A decimal, given as a whole number, by the letter of its conversion. -/
def placeDecimal? (l : Layout) (letter : Char) (i : Int) : Option (List Char) :=
  let count := l.precision.getD 6
  let n := i.natAbs
  let digits? : Option (List Char) :=
    if letter = 'f' ∨ letter = 'F' then some (Numeral.fixed l.alternate count n)
    else if letter = 'e' ∨ letter = 'E' then
      let (ds, exponent) := Numeral.leading (count + 1) n
      some (Numeral.scientific l.alternate ds exponent)
    else if letter = 'g' ∨ letter = 'G' then some (Numeral.general l.alternate (max count 1) n)
    else none
  digits?.map fun ds =>
    l.placeNumber (decide (i < 0)) [] (if letter.isUpper then Numeral.capitals ds else ds)

/-- A value as a text, by the letter of its conversion: as it is written, as it
is described, or described in ASCII. -/
def textOf? (letter : Char) (v : FieldValue) : Option String :=
  let written : String :=
    match v with
    | .text s => s
    | .int i => toString i
    | .other s => s
    | .opening s => s
  let shown : String :=
    match v with
    | .text s => Text.quoted s
    | _ => written
  if letter = 's' then some written
  else if letter = 'r' then some shown
  else if letter = 'a' then some (Text.escaped shown)
  else none

/-- The one character that a value is. -/
def character? : FieldValue → Option Char
  | .text s =>
    match s.toList with
    | [c] => some c
    | _ => none
  | .int i => if 0 ≤ i ∧ i < 0x110000 then some (Char.ofNat i.toNat) else none
  | .other _ => none
  | .opening _ => none

/-- Whether a layout shows no more of a value than is known of it. -/
def isKnown (l : Layout) (v : FieldValue) (written : String) : Bool :=
  match v with
  | .opening _ => (l.precision.map fun n => decide (n ≤ written.length)).getD false
  | _ => true

/-- A value laid out by a conversion that fits it. -/
def convert? (l : Layout) (letter : Char) (v : FieldValue) : Option (List Char) :=
  if letter = 'c' then (character? v).map fun c => l.placeText [c]
  else
    match textOf? letter v, v with
    | some s, v => if isKnown l v s then some (l.placeCut s.toList) else none
    | none, .int i => placeInteger? l letter i <|> placeDecimal? l letter i
    | none, _ => none

/-! ### Fields -/

/-- The name in parentheses whose first has been read, and the rest. Inside of a
name parentheses come in pairs; `nested` of them are open. -/
def readName? (nested : Nat) : List Char → Option (List Char × List Char)
  | [] => none
  | c :: cs =>
    if c = ')' ∧ nested = 0 then some ([], cs)
    else
      let nested := if c = ')' then nested - 1 else if c = '(' then nested + 1 else nested
      (readName? nested cs).map fun p => (c :: p.1, p.2)

/-- The number that characters start with, 0 if there is none, and the rest. -/
def readCount (cs : List Char) : Nat × List Char :=
  ((cs.takeWhile Char.isDigit).foldl (fun n c => n * 10 + (c.toNat - 48)) 0,
    cs.dropWhile Char.isDigit)

/-- The layout that characters start with, and the rest. A mark of size before
the conversion says nothing. -/
def readLayout (cs : List Char) : Layout × List Char :=
  let l := Layout.ofFlags (cs.takeWhile Layout.isFlag)
  let (width, cs) := readCount (cs.dropWhile Layout.isFlag)
  let (precision, cs) : Option Nat × List Char :=
    match cs with
    | '.' :: rest =>
      let (n, rest) := readCount rest
      (some n, rest)
    | cs => (none, cs)
  let cs :=
    match cs with
    | c :: rest => if c = 'h' ∨ c = 'l' ∨ c = 'L' then rest else c :: rest
    | [] => []
  ({ l with width, precision }, cs)

/-- What a template can be filled with: the values of names, and all of them at
once. -/
structure FieldValues where
  lookup : String → Option FieldValue
  all : FieldValue

/-- A value put where characters lay it out, and the rest. -/
def fillValue? (v : FieldValue) (cs : List Char) : Option (List Char × List Char) :=
  match readLayout cs with
  | (l, letter :: rest) =>
    if l.isModest then (convert? l letter v).map fun said => (said, rest) else none
  | (_, []) => none

/-- The field whose percent sign has been read, filled in, and the rest; then
whether the first field is still to come. -/
def fillField? (values : FieldValues) (isFirst : Bool) (cs : List Char) :
    Option (List Char × List Char × Bool) :=
  match cs with
  | '%' :: rest => some (['%'], rest, isFirst)
  | '(' :: rest => do
    let (name, rest) ← readName? 0 rest
    let v ← values.lookup (String.ofList name)
    let (said, rest) ← fillValue? v rest
    return (said, rest, false)
  | cs =>
    if isFirst then (fillValue? values.all cs).map fun p => (p.1, p.2, false) else none

/-- The characters up to the first code point that is none. -/
def leadingChars : Points → List Char
  | .char c :: p => c :: leadingChars p
  | _ => []

/-- The template filled in from a place on; `fuel` bounds the number of code
points. -/
def fillFrom? (values : FieldValues) : Nat → Bool → Points → Option Points
  | 0, _, _ => none
  | _ + 1, _, [] => some []
  | fuel + 1, isFirst, .char '%' :: p => do
    let cs := leadingChars p
    let (said, rest, isFirst) ← fillField? values isFirst cs
    let filled ← fillFrom? values fuel isFirst (p.drop (cs.length - rest.length))
    return Points.ofChars said ++ filled
  | fuel + 1, isFirst, c :: p => (fillFrom? values fuel isFirst p).map (c :: ·)

/-- The template filled in; nothing if it cannot be. -/
def fill? (values : FieldValues) (template : Points) : Option Points :=
  fillFrom? values (template.length + 1) true template

/-! ### Validity -/

/-- Whether a character ends a field: a letter of a conversion in either case,
where a dotted or dotless i and a long s count as the letters they look like. -/
def endsField (c : Char) : Bool :=
  "diouxefgcrsa%".toList.contains c.toLower || c.toNat == 0x130 || c.toNat == 0x131 ||
    c.toNat == 0x17f

/-- The rest after a number or a star; nothing if there is neither. -/
def skipCount? : List Char → Option (List Char)
  | '*' :: cs => some cs
  | c :: cs => if Text.isDecimal c then some (cs.dropWhile Text.isDecimal) else none
  | [] => none

/-- Whether characters start with a whole field whose percent sign has been
read. -/
def startsField : List Char → Bool
  | '(' :: cs =>
    match cs.dropWhile Text.isWordChar with
    | ')' :: rest =>
      let rest := rest.dropWhile Layout.isFlag
      let rest := (skipCount? rest).getD rest
      let rest :=
        match rest with
        | '.' :: more => (skipCount? more).getD rest
        | _ => rest
      cs.head? != some ')' && (rest.head?.map endsField).getD false
    | _ => false
  | _ => false

/-- Whether a template has a field with a name. -/
def isValid : Points → Bool
  | [] => false
  | c :: p => (c == .char '%' && startsField (leadingChars p)) || isValid p

end Template

end Turnstile
