/-
# JSON text

Writing data as JSON text and reading it back. Text is written in ASCII: other
characters become escapes of four hexadecimal digits, a pair of them beyond
the first plane, and half of a pair that stands alone is read and written by
its own escape. With an indent every item has a line of its own; an empty
indent keeps the lines and indents none. Keys that are no texts are written as
texts.

Reading is parametric in what is built: a `Builder` says what each kind of
value becomes, and its step for an object runs as soon as the object is
closed, inner objects first, so the first refusal in that order is the one
reported, before any fault in the text that follows. An object's repeated key
has the place of its first occurrence and the value of its last. An integer
with too many digits is refused as soon as it is met.

Key definitions: `Data.render`, `Builder`, `Builder.parse`, `Data.fold`,
`Data.parse?`.
-/
import Turnstile.Data
import Turnstile.Text.Quoted

namespace Turnstile

/-! ### Writing -/

namespace Data

/-- The escape of one 16-bit unit. -/
def unitEscape (n : Nat) : List Char := '\\' :: 'u' :: Text.hexDigits 4 n

/-- One character inside a JSON string. -/
def jsonChar (c : Char) : List Char :=
  let n := c.toNat
  if c = '\x22' ∨ c = '\\' then ['\\', c]
  else if c = '\n' then ['\\', 'n']
  else if c = '\r' then ['\\', 'r']
  else if c = '\t' then ['\\', 't']
  else if n = 0x0c then ['\\', 'f']
  else if n = 0x08 then ['\\', 'b']
  else if 0x20 ≤ n ∧ n < 0x7f then [c]
  else if n < 0x10000 then unitEscape n
  else unitEscape (0xd800 + (n - 0x10000) / 0x400) ++ unitEscape (0xdc00 + (n - 0x10000) % 0x400)

/-- One code point inside a JSON string. -/
def jsonPoint : CodePoint → List Char
  | .char c => jsonChar c
  | .half n => unitEscape (CodePoint.half n).value

/-- A JSON string. -/
def jsonText (p : Points) : List Char := '\x22' :: p.flatMap jsonPoint ++ ['\x22']

/-- A decimal as JSON text. -/
def jsonFloat : Double → String
  | .nan => "NaN"
  | .infinite negative => if negative then "-Infinity" else "Infinity"
  | x => x.shown

end Data

/-- A key as the text it is in JSON. -/
def Key.label : Key → Points
  | null => "null"
  | bool b => if b then "true" else "false"
  | int i => toString i
  | float x => Data.jsonFloat x
  | text s => s
  | torn p => p
  | moment m => m.written
  | bytes b => Text.quotedBytes b

/-- A key as JSON has it, which is always a text. -/
def Key.named (k : Key) : Key := .ofPoints k.label

namespace Data

/-- What stands before an item on the given level: nothing without an indent,
a new line and the level's indent with one. -/
def lineBreak (indent : Option (List Char)) (level : Nat) : List Char :=
  match indent with
  | none => []
  | some unit => '\n' :: (List.replicate level unit).flatten

/-- What stands between two items. -/
def itemGap (indent : Option (List Char)) (level : Nat) : List Char :=
  match indent with
  | none => [',', ' ']
  | some _ => ',' :: lineBreak indent level

mutual

/-- The characters of a value on the given level as JSON text. -/
def renderAt (indent : Option (List Char)) (level : Nat) : Data → List Char
  | null => "null".toList
  | bool b => if b then "true".toList else "false".toList
  | int i => (toString i).toList
  | float x => (jsonFloat x).toList
  | text s => jsonText s
  | torn p => jsonText p
  | moment m => jsonText m.written
  | bytes b => jsonText (Text.quotedBytes b)
  | list [] => ['[', ']']
  | list (x :: xs) =>
    '[' :: lineBreak indent (level + 1) ++ renderAt indent (level + 1) x ++
      renderMore indent (level + 1) xs ++ lineBreak indent level ++ [']']
  | pair x y =>
    '[' :: lineBreak indent (level + 1) ++ renderAt indent (level + 1) x ++
      itemGap indent (level + 1) ++ renderAt indent (level + 1) y ++
      lineBreak indent level ++ [']']
  | set members => jsonText (shown (set members))
  | dict [] => ['\x7b', '\x7d']
  | dict ((k, v) :: entries) =>
    '\x7b' :: lineBreak indent (level + 1) ++ jsonText k.label ++ [':', ' '] ++
      renderAt indent (level + 1) v ++ renderFurther indent (level + 1) entries ++
      lineBreak indent level ++ ['\x7d']

/-- The items of a list after the first. -/
def renderMore (indent : Option (List Char)) (level : Nat) : List Data → List Char
  | [] => []
  | x :: xs => itemGap indent level ++ renderAt indent level x ++ renderMore indent level xs

/-- The entries of a dictionary after the first. -/
def renderFurther (indent : Option (List Char)) (level : Nat) : List (Key × Data) → List Char
  | [] => []
  | (k, v) :: entries =>
    itemGap indent level ++ jsonText k.label ++ [':', ' '] ++ renderAt indent level v ++
      renderFurther indent level entries

end

/-- A value as JSON text, without an indent or with one of any characters. -/
def renderWith (indent : Option (List Char)) (d : Data) : String :=
  String.ofList (renderAt indent 0 d)

/-- Whether a number can be the width of an indent: it must fit a signed word of
64 bits. -/
def isWidth (i : Int) : Bool := -9223372036854775808 ≤ i && i < 9223372036854775808

/-- The blanks of an indent; a width below zero has none. -/
def blanks (width : Int) : List Char := List.replicate width.toNat ' '

/-- A value as JSON text, without an indent or with one of blanks. -/
def render (indent : Option Int) (d : Data) : String := d.renderWith (indent.map blanks)

end Data

/-! ### Reading -/

/-- What the parts of a JSON text become. The step for an object may refuse it. -/
structure Builder (ε α : Type) where
  null : α
  bool : Bool → α
  int : Int → α
  float : Double → α
  text : Points → α
  list : List α → α
  object : List (Key × α) → Except ε α

/-- Why a JSON text gives no value: it is malformed, an integer in it has too
many digits, or an object was refused. -/
inductive ReadError (ε : Type) where
  | malformed
  | longNumber (digits : Nat)
  | refused (e : ε)
deriving DecidableEq, Repr

namespace Json

/-- The characters after the blanks that may stand between JSON tokens. -/
def skipBlank (cs : List Char) : List Char :=
  cs.dropWhile fun c => c = ' ' ∨ c = '\t' ∨ c = '\n' ∨ c = '\r'

/-- The value of a hexadecimal digit. -/
def hexValue? (c : Char) : Option Nat :=
  if '0' ≤ c ∧ c ≤ '9' then some (c.toNat - 48)
  else if 'a' ≤ c ∧ c ≤ 'f' then some (c.toNat - 87)
  else if 'A' ≤ c ∧ c ≤ 'F' then some (c.toNat - 55)
  else none

/-- The number spelt by four hexadecimal digits. -/
def hexUnit? (a b c d : Char) : Option Nat := do
  let a ← hexValue? a
  let b ← hexValue? b
  let c ← hexValue? c
  let d ← hexValue? d
  return ((a * 16 + b) * 16 + c) * 16 + d

/-- The character of a short escape. -/
def shortEscape? (c : Char) : Option Char :=
  if c = '\x22' ∨ c = '\\' ∨ c = '/' then some c
  else if c = 'b' then some (Char.ofNat 0x08)
  else if c = 'f' then some (Char.ofNat 0x0c)
  else if c = 'n' then some '\n'
  else if c = 'r' then some '\r'
  else if c = 't' then some '\t'
  else none

/-- The rest of a string after its opening quote, and the text after it. Two
halves of a surrogate pair are one character, and any other half stands for
itself. -/
def readString : List Char → Option (Points × List Char)
  | [] => none
  | c :: cs =>
    if c = '\x22' then some ([], cs)
    else if c = '\\' then
      match cs with
      | 'u' :: a :: b :: c :: d :: '\\' :: 'u' :: a' :: b' :: c' :: d' :: rest =>
        match hexUnit? a b c d, hexUnit? a' b' c' d' with
        | some hi, some lo =>
          if 0xd800 ≤ hi ∧ hi < 0xdc00 ∧ 0xdc00 ≤ lo ∧ lo < 0xe000 then
            (readString rest).map fun p =>
              (.ofValue (0x10000 + (hi - 0xd800) * 0x400 + (lo - 0xdc00)) :: p.1, p.2)
          else
            (readString ('\\' :: 'u' :: a' :: b' :: c' :: d' :: rest)).map fun p =>
              (.ofValue hi :: p.1, p.2)
        | _, _ => none
      | 'u' :: a :: b :: c :: d :: rest =>
        match hexUnit? a b c d with
        | some n => (readString rest).map fun p => (.ofValue n :: p.1, p.2)
        | none => none
      | e :: rest =>
        match shortEscape? e with
        | some x => (readString rest).map fun p => (.char x :: p.1, p.2)
        | none => none
      | [] => none
    else if c.toNat < 0x20 then none
    else (readString cs).map fun p => (.char c :: p.1, p.2)
termination_by cs => cs.length

/-- The leading digits and what follows them. -/
def readDigits (cs : List Char) : List Char × List Char :=
  (cs.takeWhile Char.isDigit, cs.dropWhile Char.isDigit)

/-- The number spelt by decimal digits. -/
def digitsValue (ds : List Char) : Nat := ds.foldl (fun n c => n * 10 + (c.toNat - 48)) 0

/-- The fraction after a number's whole part: its digits. A point without a
digit after it is no part of the number. -/
def readFraction : List Char → List Char × List Char
  | '.' :: cs =>
    let (ds, rest) := readDigits cs
    if ds.isEmpty then ([], '.' :: cs) else (ds, rest)
  | cs => ([], cs)

/-- The exponent after a number. A mark without a digit after it is no part
of the number. -/
def readExponent : List Char → Option Int × List Char
  | c :: cs =>
    if c = 'e' ∨ c = 'E' then
      let (sign, digits) :=
        match cs with
        | '-' :: rest => (-1, rest)
        | '+' :: rest => (1, rest)
        | rest => ((1 : Int), rest)
      let (ds, rest) := readDigits digits
      if ds.isEmpty then (none, c :: cs) else (some (sign * (digitsValue ds : Int)), rest)
    else (none, c :: cs)
  | [] => (none, [])

/-- The whole part of a number: a zero, or digits that start with another one. -/
def readWhole (cs : List Char) : Option (List Char × List Char) :=
  match cs with
  | '0' :: rest => some (['0'], rest)
  | _ =>
    let (ds, rest) := readDigits cs
    if ds.isEmpty then none else some (ds, rest)

/-- The result of a step that can only find the text malformed. -/
def orMalformed {ε β : Type} : Option β → Except (ReadError ε) β
  | some x => .ok x
  | none => .error .malformed

/-- A number, given whether a minus sign came before it. Without fraction and
exponent it is an integer. -/
def readNumber {ε α : Type} (b : Builder ε α) (negative : Bool) (cs : List Char) :
    Except (ReadError ε) (α × List Char) := do
  let (whole, rest) ← orMalformed (readWhole cs)
  let (fraction, rest) := readFraction rest
  let (exponent, rest) := readExponent rest
  if fraction.isEmpty && exponent.isNone then
    if Numeral.mostDigits < whole.length then .error (.longNumber whole.length)
    else
      let n : Int := digitsValue whole
      return (b.int (if negative then -n else n), rest)
  else
    let x := Double.ofDecimal negative (digitsValue (whole ++ fraction))
      (exponent.getD 0 - (fraction.length : Int))
    return (b.float x, rest)

/-- What follows a word that the characters start with. -/
def afterWord (word cs : List Char) : Option (List Char) :=
  if word.isPrefixOf cs then some (cs.drop word.length) else none

/-- A value that is no list, object or string. -/
def readScalar {ε α : Type} (b : Builder ε α) (cs : List Char) :
    Except (ReadError ε) (α × List Char) :=
  match afterWord "null".toList cs, afterWord "true".toList cs, afterWord "false".toList cs,
      afterWord "NaN".toList cs, afterWord "Infinity".toList cs,
      afterWord "-Infinity".toList cs with
  | some rest, _, _, _, _, _ => .ok (b.null, rest)
  | _, some rest, _, _, _, _ => .ok (b.bool true, rest)
  | _, _, some rest, _, _, _ => .ok (b.bool false, rest)
  | _, _, _, some rest, _, _ => .ok (b.float .nan, rest)
  | _, _, _, _, some rest, _ => .ok (b.float (.infinite false), rest)
  | _, _, _, _, _, some rest => .ok (b.float (.infinite true), rest)
  | _, _, _, _, _, _ =>
    match cs with
    | '-' :: rest => readNumber b true rest
    | _ => readNumber b false cs

mutual

/-- A value at the head of the characters, and what follows it. -/
def readValue {ε α : Type} (b : Builder ε α) : Nat → List Char →
    Except (ReadError ε) (α × List Char)
  | 0, _ => .error .malformed
  | fuel + 1, cs =>
    match cs with
    | '\x22' :: rest => do
      let (s, rest) ← orMalformed (readString rest)
      return (b.text s, rest)
    | '[' :: rest =>
      match skipBlank rest with
      | ']' :: rest => .ok (b.list [], rest)
      | rest => do
        let (items, rest) ← readItems b fuel rest
        return (b.list items, rest)
    | '\x7b' :: rest =>
      match skipBlank rest with
      | '\x7d' :: rest => do
        let x ← (b.object []).mapError .refused
        return (x, rest)
      | rest => do
        let (pairs, rest) ← readPairs b fuel rest
        let x ← (b.object (Entries.ofPairs pairs)).mapError .refused
        return (x, rest)
    | _ => readScalar b cs

/-- The items of a list up to its closing bracket. -/
def readItems {ε α : Type} (b : Builder ε α) : Nat → List Char →
    Except (ReadError ε) (List α × List Char)
  | 0, _ => .error .malformed
  | fuel + 1, cs => do
    let (x, rest) ← readValue b fuel cs
    match skipBlank rest with
    | ']' :: rest => return ([x], rest)
    | ',' :: rest =>
      let (xs, rest) ← readItems b fuel (skipBlank rest)
      return (x :: xs, rest)
    | _ => .error .malformed

/-- The entries of an object up to its closing brace. -/
def readPairs {ε α : Type} (b : Builder ε α) : Nat → List Char →
    Except (ReadError ε) (List (Key × α) × List Char)
  | 0, _ => .error .malformed
  | fuel + 1, cs =>
    match cs with
    | '\x22' :: rest => do
      let (key, rest) ← orMalformed (readString rest)
      match skipBlank rest with
      | ':' :: rest =>
        let (x, rest) ← readValue b fuel (skipBlank rest)
        let pair := (Key.ofPoints key, x)
        match skipBlank rest with
        | '\x7d' :: rest => return ([pair], rest)
        | ',' :: rest =>
          let (pairs, rest) ← readPairs b fuel (skipBlank rest)
          return (pair :: pairs, rest)
        | _ => .error .malformed
      | _ => .error .malformed
    | _ => .error .malformed

end

end Json

/-- What a builder makes of a JSON text. -/
def Builder.parse {ε α : Type} (b : Builder ε α) (s : String) : Except (ReadError ε) α := do
  let cs := s.toList
  let (x, rest) ← Json.readValue b (2 * cs.length + 2) (Json.skipBlank cs)
  if (Json.skipBlank rest).isEmpty then return x else .error .malformed

mutual

/-- What a builder makes of a value. -/
def Data.fold {ε α : Type} (b : Builder ε α) : Data → Except ε α
  | .null => .ok b.null
  | .bool x => .ok (b.bool x)
  | .int i => .ok (b.int i)
  | .float x => .ok (b.float x)
  | .text s => .ok (b.text s)
  | .torn p => .ok (b.text p)
  | .moment m => .ok (b.text m.written)
  | .bytes x => .ok (b.text (Text.quotedBytes x))
  | .pair x y => do
    let x ← Data.fold b x
    let y ← Data.fold b y
    return b.list [x, y]
  | .set members => .ok (b.text (Data.shown (.set members)))
  | .list items => do
    let xs ← Data.foldItems b items
    return b.list xs
  | .dict entries => do
    let xs ← Data.foldEntries b entries
    b.object xs

/-- What a builder makes of the items of a list. -/
def Data.foldItems {ε α : Type} (b : Builder ε α) : List Data → Except ε (List α)
  | [] => .ok []
  | x :: xs => do
    let y ← Data.fold b x
    let ys ← Data.foldItems b xs
    return y :: ys

/-- What a builder makes of the entries of a dictionary. -/
def Data.foldEntries {ε α : Type} (b : Builder ε α) :
    List (Key × Data) → Except ε (List (Key × α))
  | [] => .ok []
  | (k, x) :: entries => do
    let y ← Data.fold b x
    let ys ← Data.foldEntries b entries
    return (k.named, y) :: ys

end

/-- The builder of plain data, which refuses nothing. -/
def Data.builder : Builder Empty Data where
  null := .null
  bool := .bool
  int := .int
  float := .float
  text := .ofPoints
  list := .list
  object entries := .ok (.dict entries)

/-- The data in a JSON text; nothing if the text is malformed. -/
def Data.parse? (s : String) : Option Data := (Data.builder.parse s).toOption

end Turnstile
