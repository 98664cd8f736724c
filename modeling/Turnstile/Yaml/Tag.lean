/-
# What values are

A tag says what a value of a YAML text is. A plain scalar without one is null,
a truth value, an integer, a decimal or a date if it is spelt like one, and
text otherwise; two more spellings mark a mapping that is merged into another
and the standard value of a mapping. A line break at the end of a spelling does
not count.

Integers may have a sign, underscores between their digits, a base (binary,
octal with a leading zero, hexadecimal), or parts to the base sixty; decimals
need a point, and their exponent a sign.

Key definitions: `Yaml.Tag`, `Yaml.Tag.ofName`, `Yaml.Tag.ofPlain`,
`Yaml.readMoment`.
-/
import Turnstile.Data.Json
import Turnstile.Moment

namespace Turnstile.Yaml

/-- What a value is. -/
inductive Tag where
  | null
  | bool
  | int
  | float
  | text
  | date
  /-- Bytes, spelt in base 64. -/
  | binary
  | list
  | mapping
  | set
  /-- A list of mappings with one entry each, kept as pairs. -/
  | pairs
  /-- The key of what is merged into a mapping. -/
  | merge
  /-- The key of a mapping's standard value. -/
  | standard
  /-- A tag that means nothing. -/
  | other
deriving DecidableEq, Repr

/-- What the common tags start with. -/
def commonTags : String := "tag:yaml.org,2002:"

/-- The common tags by their names. -/
def tagNames : List (String × Tag) :=
  [("null", .null), ("bool", .bool), ("int", .int), ("float", .float), ("str", .text),
    ("timestamp", .date), ("binary", .binary), ("seq", .list), ("map", .mapping),
    ("set", .set), ("omap", .pairs), ("pairs", .pairs), ("merge", .merge), ("value", .standard)]

/-- The tag with a name that is written out. -/
def Tag.ofName (name : String) : Tag :=
  match tagNames.find? fun p => commonTags ++ p.1 == name with
  | some (_, t) => t
  | none => .other

/-! ### Spellings -/

/-- The spellings of null. -/
def nullWords : List String := ["", "~", "null", "Null", "NULL"]

/-- The spellings of truth. -/
def trueWords : List String :=
  ["yes", "Yes", "YES", "true", "True", "TRUE", "on", "On", "ON"]

/-- The spellings of falsehood. -/
def falseWords : List String :=
  ["no", "No", "NO", "false", "False", "FALSE", "off", "Off", "OFF"]

/-- Whether there is a character and all of them pass a test. -/
def nonemptyAll (p : Char → Bool) (cs : List Char) : Bool := !cs.isEmpty && cs.all p

/-- Whether the first character passes one test and the others another. -/
def startsThen (first rest : Char → Bool) : List Char → Bool
  | [] => false
  | c :: cs => first c && cs.all rest

/-- A decimal digit or an underscore. -/
def isDigitOrBar (c : Char) : Bool := c.isDigit || c == '_'

/-- The sign that characters start with, and the rest. -/
def readSign : List Char → Bool × List Char
  | '-' :: cs => (true, cs)
  | '+' :: cs => (false, cs)
  | cs => (false, cs)

/-- The pieces of a list between the places of an element. -/
def pieces {α : Type} [DecidableEq α] (gap : α) : List α → List (List α)
  | [] => [[]]
  | x :: xs =>
    if x = gap then [] :: pieces gap xs
    else
      match pieces gap xs with
      | [] => [[x]]
      | p :: ps => (x :: p) :: ps

/-- Whether digits spell a number below sixty, in one or two of them. -/
def isSixtieth : List Char → Bool
  | [c] => c.isDigit
  | [c, d] => '0' ≤ c && c ≤ '5' && d.isDigit
  | _ => false

/-- Whether characters spell an integer without a sign. -/
def isNatural (cs : List Char) : Bool :=
  match cs with
  | '0' :: 'b' :: ds => nonemptyAll (fun c => c == '0' || c == '1' || c == '_') ds
  | '0' :: 'x' :: ds => nonemptyAll (fun c => (Json.hexValue? c).isSome || c == '_') ds
  | '0' :: ds => ds.all fun c => ('0' ≤ c && c ≤ '7') || c == '_'
  | cs =>
    match pieces ':' cs with
    | ds :: parts => startsThen Char.isDigit isDigitOrBar ds && parts.all isSixtieth
    | [] => false

/-- Whether characters are an exponent, which has a sign and digits, or nothing. -/
def isExponent : List Char → Bool
  | [] => true
  | c :: sign :: ds =>
    (c == 'e' || c == 'E') && (sign == '-' || sign == '+') && nonemptyAll Char.isDigit ds
  | _ => false

/-- Whether characters are the digits after a point, and an exponent. -/
def isFraction (cs : List Char) : Bool := isExponent (cs.dropWhile isDigitOrBar)

/-- Whether characters spell a decimal. -/
def isDecimal (cs : List Char) : Bool :=
  let (_, ds) := readSign cs
  let whole := ds.takeWhile fun c => c ≠ '.'
  match ds.dropWhile fun c => c ≠ '.' with
  | [] => false
  | _ :: rest =>
    if whole.isEmpty then
      rest ∈ ["inf".toList, "Inf".toList, "INF".toList] ||
        (ds == cs &&
          (rest ∈ ["nan".toList, "NaN".toList, "NAN".toList] ||
            ((rest.head?.map Char.isDigit).getD false && isFraction rest)))
    else
      match pieces ':' whole with
      | [ds] => startsThen Char.isDigit isDigitOrBar ds && isFraction rest
      | ds :: parts =>
        startsThen Char.isDigit isDigitOrBar ds && parts.all isSixtieth && rest.all isDigitOrBar
      | [] => false

/-! ### Dates -/

/-- A number of so many digits at least and at most, and what follows it. -/
def readDigits (least most : Nat) (cs : List Char) : Option (Nat × List Char) :=
  let ds := (cs.take most).takeWhile Char.isDigit
  if ds.length < least then none else some (Json.digitsValue ds, cs.drop ds.length)

/-- What follows a character that must come next. -/
def expect (c : Char) : List Char → Option (List Char)
  | x :: cs => if x = c then some cs else none
  | [] => none

/-- The millionths that the digits of a fraction give. -/
def microOf (ds : List Char) : Nat :=
  let ds := ds.take 6
  Json.digitsValue (ds ++ List.replicate (6 - ds.length) '0')

/-- The fraction of a second, if there is a point, and what follows. -/
def readMicro : List Char → Nat × List Char
  | '.' :: cs => (microOf (cs.takeWhile Char.isDigit), cs.dropWhile Char.isDigit)
  | cs => (0, cs)

/-- An offset from universal time in minutes, after blanks, or nothing. -/
def readOffset (cs : List Char) : Option (Option Int) :=
  if cs.isEmpty then some none
  else
    match cs.dropWhile fun c => c = ' ' ∨ c = '\t' with
    | ['Z'] => some (some 0)
    | sign :: ds =>
      if sign = '+' ∨ sign = '-' then do
        let (hours, rest) ← readDigits 1 2 ds
        let minutes ←
          match rest with
          | [] => some 0
          | ':' :: rest =>
            match readDigits 2 2 rest with
            | some (minutes, []) => some minutes
            | _ => none
          | _ => none
        let total : Int := hours * 60 + minutes
        return some (if sign = '-' then -total else total)
      else none
    | [] => none

/-- A time of day. -/
def readClock (cs : List Char) : Option Clock := do
  let (hour, cs) ← readDigits 1 2 cs
  let cs ← expect ':' cs
  let (minute, cs) ← readDigits 2 2 cs
  let cs ← expect ':' cs
  let (second, cs) ← readDigits 2 2 cs
  let (micro, cs) := readMicro cs
  let offset ← readOffset cs
  return ⟨hour, minute, second, micro, offset⟩

/-- What comes before a time of day after a date: a letter or blanks. -/
def afterDay : List Char → Option (List Char)
  | c :: cs =>
    if c = 'T' ∨ c = 't' then some cs
    else if c = ' ' ∨ c = '\t' then some (cs.dropWhile fun c => c = ' ' ∨ c = '\t')
    else none
  | [] => none

/-- The date, with a time or without, that characters spell. -/
def readMoment (cs : List Char) : Option Moment := do
  let (year, cs) ← readDigits 4 4 cs
  let cs ← expect '-' cs
  let (month, cs) ← readDigits 1 2 cs
  let cs ← expect '-' cs
  let (day, cs) ← readDigits 1 2 cs
  if cs.isEmpty then return ⟨year, month, day, none⟩
  else
    let cs ← afterDay cs
    let clock ← readClock cs
    return ⟨year, month, day, some clock⟩

/-- Whether characters spell a date. One without a time has two digits for the
month and the day. -/
def isDate (cs : List Char) : Bool :=
  match readMoment cs with
  | some m => m.clock.isSome || cs.length == 10
  | none => false

/-- A spelling without a line break at its end; a line break alone is kept. -/
def withoutBreak (s : String) : String :=
  match s.toList.reverse with
  | '\n' :: c :: cs => String.ofList (c :: cs).reverse
  | _ => s

/-- What a scalar means by its spelling alone. -/
def Tag.ofPlain (s : String) : Tag :=
  let s := withoutBreak s
  if s ∈ nullWords then .null
  else if s ∈ trueWords ∨ s ∈ falseWords then .bool
  else if s = "<<" then .merge
  else if s = "=" then .standard
  else if s ∈ ["!", "&", "*"] then .other
  else if isDecimal s.toList then .float
  else if isNatural (readSign s.toList).2 then .int
  else if isDate s.toList then .date
  else .text

end Turnstile.Yaml
