/-
# How scalars are spelt

How far a scalar of a YAML text goes and what it says. A plain scalar ends at
a comment, at a colon that ends a key and, in brackets, at what separates
items; it may go on over lines that are indented deeper than what it belongs
to. In a quoted scalar a single line end becomes a blank and several lose one.
A block scalar keeps the lines below its header, or folds them like a quoted
one, and its header says which line ends are kept at its end.

Key definitions: `Yaml.plain`, `Yaml.quoted`, `Yaml.blockScalar`.
-/
import Turnstile.Data.Json
import Turnstile.Yaml.Cursor
import Turnstile.Yaml.Fault

namespace Turnstile.Yaml

/-! ### Plain scalars -/

/-- The characters with which no plain scalar starts, a few cases apart. -/
def indicators : List Char :=
  ['-', '?', ':', ',', '[', ']', '\x7b', '\x7d', '#', '&', '*', '!', '|', '>', '\x27', '\x22',
    '%', '@', '\x60']

/-- The characters that end a plain scalar in brackets. -/
def separators : List Char := [',', '?', '[', ']', '\x7b', '\x7d']

/-- The characters before which a colon in brackets ends a key. -/
def closers : List Char := [',', '[', ']', '\x7b', '\x7d']

/-- Whether a plain scalar starts with these characters. -/
def startsPlain (flow : Bool) : List Char → Bool
  | [] => false
  | c :: cs =>
    (!endsWord [c] && !indicators.contains c) ||
      (!endsWord cs && (c == '-' || (!flow && (c == '?' || c == ':'))))

/-- Whether a plain scalar stops before these characters. -/
def stopsPlain (flow : Bool) : List Char → Bool
  | [] => true
  | c :: cs =>
    endsWord [c] ||
      (c == ':' && (endsWord cs || (flow && (cs.head?.map closers.contains).getD false))) ||
      (flow && separators.contains c)

/-- The characters of a plain scalar up to a blank or its end. -/
def plainRun (flow : Bool) : List Char → List Char
  | [] => []
  | c :: cs => if stopsPlain flow (c :: cs) then [] else c :: plainRun flow cs

/-- The line ends, with blanks between them, that come next: what they are kept
as, and the place after them; nothing is kept before the mark of a document's
end. -/
def moreBreaks (isBlank : Char → Bool) : Nat → Cursor → Option (List Char) × Cursor
  | 0, c => (some [], c)
  | fuel + 1, c =>
    let c := c.skipWhile isBlank
    match c.takeBreak? with
    | none => (some [], c)
    | some (b, c) =>
      if c.atMarker then (none, c)
      else
        let (bs, c) := moreBreaks isBlank fuel c
        (bs.map (b :: ·), c)

/-- What line ends say inside a scalar: a single one is a blank, and of several
the first is dropped. -/
def foldBreaks (b : Char) (more : List Char) : List Char :=
  if b ≠ '\n' then b :: more else if more.isEmpty then [' '] else more

/-- The gap after a run of a plain scalar: what it says if the scalar goes on,
the place after it, and whether there is a line end in it. -/
def plainGap (c : Cursor) : List Char × Cursor × Bool :=
  let blanks := c.rest.takeWhile (· == ' ')
  let c := c.advanceBy blanks.length
  match c.takeBreak? with
  | none => (blanks, c, false)
  | some (b, c) =>
    if c.atMarker then ([], c, true)
    else
      match moreBreaks (· == ' ') c.left c with
      | (some bs, c) => (foldBreaks b bs, c, true)
      | (none, c) => ([], c, true)

/-- A plain scalar from a run on, after a gap: what it says, the place after it,
and whether the last gap has a line end in it. Its further lines are indented
by `indent` or more. -/
def plainFrom (flow : Bool) (indent : Nat) :
    Nat → List Char × Cursor × Bool → List Char × Cursor × Bool
  | 0, (_, c, crossed) => ([], c, crossed)
  | fuel + 1, (gap, c, crossed) =>
    let run := plainRun flow c.rest
    if run.isEmpty then ([], c, crossed)
    else
      let (next, c, crossed) := plainGap (c.advanceBy run.length)
      if next.isEmpty || c.rest.head? == some '#' || (!flow && c.column < indent) then
        (gap ++ run, c, crossed)
      else
        let (more, c, crossed) := plainFrom flow indent fuel (next, c, crossed)
        (gap ++ run ++ more, c, crossed)

/-- A plain scalar: what it says, the place after it, and whether that is on
another line. -/
def plain (flow : Bool) (indent : Nat) (c : Cursor) : String × Cursor × Bool :=
  let (cs, c, crossed) := plainFrom flow indent c.left ([], c, false)
  (String.ofList cs, c, crossed)

/-! ### Quoted scalars -/

/-- A blank inside a quoted scalar. -/
def isInnerBlank (c : Char) : Bool := c == ' ' || c == '\t'

/-- The characters of the short escapes. -/
def escapes : List (Char × Nat) :=
  [('0', 0x00), ('a', 0x07), ('b', 0x08), ('t', 0x09), ('\t', 0x09), ('n', 0x0a), ('v', 0x0b),
    ('f', 0x0c), ('r', 0x0d), ('e', 0x1b), (' ', 0x20), ('\x22', 0x22), ('\\', 0x5c),
    ('/', 0x2f), ('N', 0x85), ('_', 0xa0), ('L', 0x2028), ('P', 0x2029)]

/-- The number of hexadecimal digits after the mark of an escape. -/
def escapeWidth? (c : Char) : Option Nat :=
  if c = 'x' then some 2 else if c = 'u' then some 4 else if c = 'U' then some 8 else none

/-- The code point that hexadecimal digits give. -/
def hexPoint (width : Nat) (cs : List Char) : Except Fault CodePoint := do
  let ds ← orMalformed ((cs.take width).mapM Json.hexValue?)
  if ds.length = width then
    let n := ds.foldl (fun n d => n * 16 + d) 0
    if n < 0x110000 then return .ofValue n
    else .error (.noCharacter (decide (n < 0x80000000)))
  else .error .malformed

/-- The escape after a backslash: what it says, and the place after it. -/
def escape (c : Cursor) : Except Fault (Points × Cursor) :=
  match c.takeBreak? with
  | some (_, c) =>
    match moreBreaks isInnerBlank c.left c with
    | (some bs, c) => if c.atMarker then .error .malformed else .ok (.ofChars bs, c)
    | (none, _) => .error .malformed
  | none =>
    match c.rest with
    | [] => .error .malformed
    | x :: cs =>
      match escapes.lookup x, escapeWidth? x with
      | some n, _ => .ok ([.ofValue n], c.advance)
      | none, some width => (hexPoint width cs).map fun p => ([p], c.advanceBy (width + 1))
      | none, none => .error .malformed

/-- The blanks and line ends inside a quoted scalar: what they say, and the
place after them. -/
def quotedGap (c : Cursor) : Except Fault (List Char × Cursor) :=
  let blanks := c.rest.takeWhile isInnerBlank
  let c := c.advanceBy blanks.length
  match c.takeBreak? with
  | none => .ok (blanks, c)
  | some (b, c) =>
    if c.atMarker then .error .malformed
    else
      match moreBreaks isInnerBlank c.left c with
      | (some bs, c) => .ok (foldBreaks b bs, c)
      | (none, _) => .error .malformed

/-- The rest of a quoted scalar: what it says, and the place after it. -/
def quotedFrom (double : Bool) : Nat → Cursor → Except Fault (Points × Cursor)
  | 0, _ => .error .malformed
  | fuel + 1, c =>
    match c.rest with
    | [] => .error .malformed
    | x :: cs =>
      let goOn (said : Points) (c : Cursor) : Except Fault (Points × Cursor) := do
        let (more, c) ← quotedFrom double fuel c
        return (said ++ more, c)
      if x = '\x27' ∧ double = false then
        if cs.head? = some '\x27' then goOn "'" c.advance.advance else .ok ([], c.advance)
      else if x = '\x22' ∧ double = true then .ok ([], c.advance)
      else if x = '\\' ∧ double = true then do
        let (said, c) ← escape c.advance
        goOn said c
      else if endsWord [x] then do
        let (said, c) ← quotedGap c
        goOn (.ofChars said) c
      else goOn [.char x] c.advance

/-- The quoted scalar that starts with a quote: what it says, and the place
after it. It must be closed and have no wrong escape. -/
def quoted (double : Bool) (c : Cursor) : Except Fault (Points × Cursor) :=
  quotedFrom double c.left c.advance

/-! ### Block scalars -/

/-- What is kept of the line ends after a block scalar. -/
inductive Tail where
  | all
  | one
  | none
deriving DecidableEq, Repr

/-- What the sign in a header keeps of the line ends. -/
def Tail.ofSign? (c : Char) : Option Tail :=
  if c = '+' then some .all else if c = '-' then some .none else Option.none

/-- The depth that a digit in a header gives; it is not zero. -/
def depthOf? (c : Char) : Option Nat :=
  if '1' ≤ c ∧ c ≤ '9' then some (c.toNat - 48) else Option.none

/-- The header of a block scalar after its first mark: what is kept at the end,
the depth of its lines if that is given, and the place after the header's
line. -/
def header? (c : Cursor) : Option (Tail × Option Nat × Cursor) := do
  let signs := c.rest.takeWhile fun x => x == '+' || x == '-' || x.isDigit
  let (tail, depth) ←
    match signs with
    | [] => some (Tail.one, Option.none)
    | [x] =>
      match Tail.ofSign? x with
      | some tail => some (tail, Option.none)
      | Option.none => (depthOf? x).map fun n => (Tail.one, some n)
    | [x, y] =>
      match Tail.ofSign? x, Tail.ofSign? y with
      | some tail, Option.none => (depthOf? y).map fun n => (tail, some n)
      | Option.none, some tail => (depthOf? x).map fun n => (tail, some n)
      | _, _ => Option.none
    | _ => Option.none
  let c := c.advanceBy signs.length
  if c.rest.head? = some '\t' ∨ !endsWord c.rest then Option.none
  else
    let c ← c.nextLine?
    return (tail, depth, c)

/-- The line ends before the next line of a block scalar, and the place after
them and the line's indentation. -/
def blockBreaks (indent : Nat) : Nat → Cursor → List Char × Cursor
  | 0, c => ([], c)
  | fuel + 1, c =>
    let c := c.indentTo indent
    match c.takeBreak? with
    | some (b, c) =>
      let (bs, c) := blockBreaks indent fuel c
      (b :: bs, c)
    | Option.none => ([], c)

/-- The line ends and blanks before the first line of a block scalar: the line
ends, the greatest column reached, and the place after them. -/
def blockStart : Nat → Nat → Cursor → List Char × Nat × Cursor
  | 0, most, c => ([], most, c)
  | fuel + 1, most, c =>
    if c.rest.head? = some ' ' then
      let c := c.advance
      blockStart fuel (max most c.column) c
    else
      match c.takeBreak? with
      | some (b, c) =>
        let (bs, most, c) := blockStart fuel most c
        (b :: bs, most, c)
      | Option.none => ([], most, c)

/-- Whether characters start with a blank. -/
def startsBlank (cs : List Char) : Bool := (cs.head?.map isInnerBlank).getD false

/-- The lines of a block scalar, from the line ends before the next one on: what
they say, the line end of the last one, the further line ends, and the place
after them. -/
def blockLines (folded : Bool) (indent : Nat) :
    Nat → List Char → Cursor → List Char × List Char × List Char × Cursor
  | 0, breaks, c => ([], [], breaks, c)
  | fuel + 1, breaks, c =>
    if c.column ≠ indent ∨ c.rest.isEmpty then ([], [], breaks, c)
    else
      let line := c.rest.takeWhile fun x => !isBreak x
      let c := c.advanceBy line.length
      let (last, c) : List Char × Cursor :=
        match c.takeBreak? with
        | some (b, c) => ([b], c)
        | Option.none => ([], c)
      let (next, c) := blockBreaks indent c.left c
      if c.column = indent ∧ !c.rest.isEmpty then
        let folds := folded && last == ['\n'] && !startsBlank line && !startsBlank c.rest
        let gap := if folds then (if next.isEmpty then [' '] else []) else last
        let (more, last, next, c) := blockLines folded indent fuel next c
        (breaks ++ line ++ gap ++ more, last, next, c)
      else (breaks ++ line, last, next, c)

/-- The block scalar that starts with its mark, inside of what is indented by
less than `least`: what it says, and the place after it. -/
def blockScalar (folded : Bool) (least : Nat) (c : Cursor) : Except Fault (Points × Cursor) := do
  let (tail, depth, c) ← orMalformed (header? c.advance)
  let least := max least 1
  let fuel := c.left
  let (indent, breaks, c) : Nat × List Char × Cursor :=
    match depth with
    | some n =>
      let indent := least + n - 1
      let (breaks, c) := blockBreaks indent fuel c
      (indent, breaks, c)
    | Option.none =>
      let (breaks, most, c) := blockStart fuel 0 c
      (max least most, breaks, c)
  let (said, last, next, c) := blockLines folded indent fuel breaks c
  let kept :=
    match tail with
    | .all => last ++ next
    | .one => last
    | .none => []
  return (.ofChars (said ++ kept), c)

end Turnstile.Yaml
