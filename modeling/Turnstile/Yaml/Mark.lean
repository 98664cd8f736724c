/-
# Names, tags and directives

The marks that stand before the values of a YAML text: the names that values
are given and referred to by, the tags that say what a value is, and the
directives before a document. A tag is spelt by a handle and a suffix, and a
directive can say what its handles stand for.

Key definitions: `Yaml.TagName`, `Yaml.Directive`, `Yaml.anchorName`,
`Yaml.tagName`, `Yaml.directive`.
-/
import Turnstile.Data.Json
import Turnstile.Yaml.Cursor
import Turnstile.Yaml.Fault

namespace Turnstile.Yaml

/-- A tag as it is spelt. -/
structure TagName where
  /-- What stands for the beginning of the tag, if it is not written out. -/
  handle : Option String
  suffix : String
deriving DecidableEq, Repr

/-- A directive. -/
inductive Directive where
  /-- The version of the language, by the first of its numbers. -/
  | version (major : Nat)
  /-- What a handle stands for. -/
  | handle (name meaning : String)
  | other
deriving DecidableEq, Repr

/-- A character of a name. -/
def isNameChar (c : Char) : Bool := c.isAlphanum || c == '-' || c == '_'

/-- A character of a tag's suffix. -/
def isTagChar (c : Char) : Bool := isNameChar c || "-;/?:@&=+$,_.!~*'()[]%".toList.contains c

/-- Whether nothing, a blank that is no tab, or a line end comes next. -/
def endsMark (cs : List Char) : Bool := endsWord cs && cs.head? != some '\t'

/-- The name after the mark of an anchor or a reference. -/
def anchorName (c : Cursor) : Except Fault (String × Cursor) :=
  let (name, c) := c.advance.takeWord isNameChar
  if name.isEmpty then .error .malformed
  else if endsWord c.rest || (c.rest.head?.map "?:,]\x7d%@\x60".toList.contains).getD false then
    .ok (name, c)
  else .error .malformed

/-! ### Tags -/

/-- The bytes that characters spell by percent signs and two hexadecimal digits
each, and what follows. -/
def escapedBytes : List Char → Option (List UInt8 × List Char)
  | '%' :: a :: b :: cs => do
    let hi ← Json.hexValue? a
    let lo ← Json.hexValue? b
    let (bytes, rest) ← escapedBytes cs
    return ((hi * 16 + lo).toUInt8 :: bytes, rest)
  | '%' :: _ => none
  | cs => some ([], cs)

/-- The text of a tag's suffix; `fuel` bounds the number of its characters. -/
def suffixText : Nat → List Char → Option (List Char)
  | 0, _ => none
  | _ + 1, [] => some []
  | fuel + 1, '%' :: cs => do
    let (bytes, rest) ← escapedBytes ('%' :: cs)
    let s ← String.fromUTF8? ⟨bytes.toArray⟩
    let more ← suffixText fuel rest
    return s.toList ++ more
  | fuel + 1, c :: cs => (suffixText fuel cs).map (c :: ·)

/-- The suffix of a tag, which has a character at least. -/
def suffix (c : Cursor) : Except Fault (String × Cursor) := do
  let (word, c) := c.takeWord isTagChar
  if word.isEmpty then .error .malformed
  else
    let cs ← orMalformed (suffixText (word.length + 1) word.toList)
    return (String.ofList cs, c)

/-- The handle of a tag: an exclamation mark alone before a blank, and otherwise
a name between two of them. -/
def handle (c : Cursor) : Except Fault (String × Cursor) :=
  match c.rest with
  | '!' :: ' ' :: _ => .ok ("!", c.advance)
  | '!' :: _ =>
    let (name, c) := c.advance.takeWord isNameChar
    match c.rest with
    | '!' :: _ => .ok ("!" ++ name ++ "!", c.advance)
    | _ => .error .malformed
  | _ => .error .malformed

/-- The parts of a tag: one written out between angle brackets, an exclamation
mark alone, or a handle and a suffix. -/
def tagParts (c : Cursor) : Except Fault (TagName × Cursor) :=
  match c.rest.drop 1 with
  | '<' :: _ => do
    let (s, c) ← suffix (c.advanceBy 2)
    if c.rest.head? = some '>' then return (⟨none, s⟩, c.advance) else .error .malformed
  | rest =>
    if endsWord rest then .ok (⟨none, "!"⟩, c.advance)
    else if (rest.takeWhile fun x => !endsMark [x]).contains '!' then do
      let (h, c) ← handle c
      let (s, c) ← suffix c
      return (⟨some h, s⟩, c)
    else do
      let (s, c) ← suffix c.advance
      return (⟨some "!", s⟩, c)

/-- The tag that starts with its mark. -/
def tagName (c : Cursor) : Except Fault (TagName × Cursor) := do
  let (t, c) ← tagParts c
  if endsMark c.rest then return (t, c) else .error .malformed

/-! ### Directives -/

/-- A number of a version. -/
def versionNumber (c : Cursor) : Except Fault (Nat × Cursor) :=
  let ds := c.rest.takeWhile Char.isDigit
  if ds.isEmpty then .error .malformed
  else if Numeral.mostDigits < ds.length then .error (.longNumber ds.length)
  else .ok (Json.digitsValue ds, c.advanceBy ds.length)

/-- The value of a directive about the version. -/
def versionValue (c : Cursor) : Except Fault (Directive × Cursor) := do
  let (major, c) ← versionNumber (c.skipWhile (· == ' '))
  if c.rest.head? = some '.' then
    let (_, c) ← versionNumber c.advance
    if endsMark c.rest then return (.version major, c) else .error .malformed
  else .error .malformed

/-- The value of a directive about a handle. -/
def handleValue (c : Cursor) : Except Fault (Directive × Cursor) := do
  let (h, c) ← handle (c.skipWhile (· == ' '))
  if c.rest.head? = some ' ' then
    let (s, c) ← suffix (c.skipWhile (· == ' '))
    if endsMark c.rest then return (.handle h s, c) else .error .malformed
  else .error .malformed

/-- The directive that starts with its mark, and the place on the next line. -/
def directive (c : Cursor) : Except Fault (Directive × Cursor) := do
  let (name, c) := c.advance.takeWord isNameChar
  if name.isEmpty || !endsMark c.rest then .error .malformed
  else
    let (d, c) ←
      if name = "YAML" then versionValue c
      else if name = "TAG" then handleValue c
      else .ok (.other, c.skipWhile fun x => !isBreak x)
    let c ← orMalformed c.nextLine?
    return (d, c)

end Turnstile.Yaml
