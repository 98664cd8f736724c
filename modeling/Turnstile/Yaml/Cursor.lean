/-
# Places in a YAML text

A cursor is a place in a text: what is left of it, and the column, line and
offset where that begins. Lines end at a line feed, a carriage return, the
two together, the next-line character and the line and paragraph separators.

Key definitions: `Yaml.Cursor`, `Yaml.Cursor.advance`,
`Yaml.Cursor.toToken`, `Yaml.Cursor.takeBreak?`.
-/

namespace Turnstile.Yaml

/-- A place in a text. -/
structure Cursor where
  rest : List Char
  column : Nat
  line : Nat
  offset : Nat
  /-- The number of characters of the whole text. -/
  size : Nat

/-- Whether a character ends a line. -/
def isBreak (c : Char) : Bool :=
  c == '\n' || c == '\r' || c.toNat == 0x85 || c.toNat == 0x2028 || c.toNat == 0x2029

/-- Whether nothing, a blank or a line end comes next. -/
def endsWord : List Char → Bool
  | [] => true
  | c :: _ => c == ' ' || c == '\t' || isBreak c

/-- Whether a text may hold a character. -/
def isAllowed (c : Char) : Bool :=
  let n := c.toNat
  n == 0x09 || n == 0x0a || n == 0x0d || (0x20 ≤ n && n ≤ 0x7e) || n == 0x85 ||
    (0xa0 ≤ n && n ≤ 0xd7ff) || (0xe000 ≤ n && n ≤ 0xfffd) || 0x10000 ≤ n

namespace Cursor

/-- The beginning of a text; a byte order mark there is no part of it. -/
def start (s : String) : Cursor :=
  match s.toList with
  | [] => ⟨[], 0, 0, 0, 0⟩
  | c :: cs =>
    if c.toNat = 0xfeff then ⟨cs, 0, 0, 1, s.length⟩ else ⟨c :: cs, 0, 0, 0, s.length⟩

/-- One more than the number of characters that are left. -/
def left (c : Cursor) : Nat := c.size - c.offset + 1

/-- The place after one character. A byte order mark takes no column. -/
def advance (c : Cursor) : Cursor :=
  match c.rest with
  | [] => c
  | '\r' :: '\n' :: cs =>
    { c with rest := '\n' :: cs, column := c.column + 1, offset := c.offset + 1 }
  | x :: cs =>
    if isBreak x then
      { c with rest := cs, column := 0, line := c.line + 1, offset := c.offset + 1 }
    else
      let column := if x.toNat = 0xfeff then c.column else c.column + 1
      { c with rest := cs, column, offset := c.offset + 1 }

/-- The place after some characters. -/
def advanceBy : Nat → Cursor → Cursor
  | 0, c => c
  | n + 1, c => advanceBy n c.advance

/-- The place after the characters that pass a test. -/
def skipWhile (p : Char → Bool) (c : Cursor) : Cursor := advanceBy (c.rest.takeWhile p).length c

/-- A line end that comes next, as it is kept in scalars, and the place after
it. -/
def takeBreak? (c : Cursor) : Option (Char × Cursor) :=
  match c.rest with
  | '\r' :: '\n' :: _ => some ('\n', c.advance.advance)
  | x :: _ =>
    if isBreak x then
      some (if x.toNat = 0x2028 ∨ x.toNat = 0x2029 then x else '\n', c.advance)
    else none
  | [] => none

/-- Whether three equal characters that mark the bounds of a document stand at
the start of a line. -/
def isMarker (mark : Char) (c : Cursor) : Bool :=
  c.column == 0 && c.rest.take 3 == [mark, mark, mark] && endsWord (c.rest.drop 3)

/-- Whether a document ends here by a mark. -/
def atMarker (c : Cursor) : Bool := c.isMarker '-' || c.isMarker '.'

/-- The place after blanks and a comment. -/
def skipComment (c : Cursor) : Cursor :=
  let c := c.skipWhile (· == ' ')
  if c.rest.head? = some '#' then c.skipWhile (fun x => !isBreak x) else c

/-- The place after blanks, comments and line ends, and whether there was a line
end; at most `fuel` lines are looked at. -/
def skipLines : Nat → Bool → Cursor → Cursor × Bool
  | 0, crossed, c => (c, crossed)
  | fuel + 1, crossed, c =>
    let c := c.skipComment
    match c.takeBreak? with
    | some (_, c) => skipLines fuel true c
    | none => (c, crossed)

/-- The place where the next token starts, and whether it is on another line. -/
def toToken (c : Cursor) : Cursor × Bool := skipLines c.left false c

/-- The place after blanks, as long as it is left of a column. -/
def indentTo (column : Nat) (c : Cursor) : Cursor :=
  advanceBy (min (c.rest.takeWhile (· == ' ')).length (column - c.column)) c

/-- The place on the next line, if nothing but blanks and a comment comes
before. -/
def nextLine? (c : Cursor) : Option Cursor :=
  let c := c.skipComment
  match c.takeBreak?, c.rest with
  | some (_, c), _ => some c
  | none, [] => some c
  | none, _ => none

/-- The leading characters that pass a test, as a text, and the place after
them. -/
def takeWord (p : Char → Bool) (c : Cursor) : String × Cursor :=
  let cs := c.rest.takeWhile p
  (String.ofList cs, c.advanceBy cs.length)

end Cursor

end Turnstile.Yaml
