/-
# Tokens of a YAML text

A YAML text as a sequence of tokens, in which indentation has become tokens of
its own: one where a list or mapping by indentation starts, and one where it
ends. That a value is a key shows only at the colon after it, so a place where
a key may have started is remembered, and its token is put in at the colon. A
key by a colon alone must be on one line and not too long.

A fault ends the sequence. It counts only if the reader of the tokens comes to
it. A token is given out only once it is known whether it starts a key, so a
fault that is met before that takes the token's place.

Key definitions: `Yaml.Token`, `Yaml.PendingKey`, `Yaml.Progress`,
`Yaml.Progress.settled`, `Yaml.Progress.step`, `Yaml.tokens`.
-/
import Turnstile.Yaml.Mark
import Turnstile.Yaml.Spelling

namespace Turnstile.Yaml

/-- A token. -/
inductive Token where
  | directive (d : Directive)
  | documentStart
  | documentEnd
  | streamEnd
  /-- A list or mapping by indentation starts. -/
  | listStart
  | mappingStart
  /-- The innermost list or mapping by indentation ends. -/
  | blockEnd
  /-- The brackets and braces of lists and mappings, and what separates items. -/
  | openList
  | closeList
  | openMapping
  | closeMapping
  | separator
  /-- The dash of an item. -/
  | item
  /-- The start of a key, and that of its value. -/
  | key
  | value
  | anchor (name : String)
  | reference (name : String)
  | tag (t : TagName)
  | scalar (isPlain : Bool) (said : Points)
  | fault (f : Fault)
deriving DecidableEq, Repr

/-- A place where a key may have started. -/
structure PendingKey where
  /-- The number of brackets that are open around it. -/
  level : Nat
  /-- The number of tokens before it. -/
  index : Nat
  column : Nat
  line : Nat
  offset : Nat
  /-- Whether it has to be a key. -/
  isRequired : Bool

/-- How far a text has been gone through. -/
structure Progress where
  cursor : Cursor
  /-- The number of brackets that are open. -/
  level : Nat
  /-- The columns of the lists and mappings by indentation, the innermost first. -/
  indents : List Nat
  /-- Whether a key may start here. -/
  mayKey : Bool
  pending : List PendingKey
  /-- The tokens so far, the latest first, and their number. -/
  tokens : List Token
  count : Nat

namespace Progress

/-- The progress at the start of a text. -/
def start (s : String) : Progress := ⟨.start s, 0, [], true, [], [], 0⟩

/-- Whether brackets are open. -/
def inFlow (p : Progress) : Bool := p.level != 0

/-- The least column that is deeper than the innermost indentation. -/
def deeper (p : Progress) : Nat := (p.indents.head?.map (· + 1)).getD 0

/-! ### Keys that may have started -/

/-- Forgets the keys that a test finds to be none; one that is required must not
be forgotten. -/
def forget (isNone : PendingKey → Bool) (p : Progress) : Except Fault Progress :=
  if p.pending.any fun k => isNone k && k.isRequired then .error .malformed
  else .ok { p with pending := p.pending.filter fun k => !isNone k }

/-- Whether a key is too far back to be one. -/
def isStale (p : Progress) (k : PendingKey) : Bool :=
  k.line != p.cursor.line || 1024 < p.cursor.offset - k.offset

/-- Forgets the keys that are too far back. -/
def forgetStale (p : Progress) : Except Fault Progress := p.forget p.isStale

/-- Forgets the key inside of the innermost brackets. -/
def forgetHere (p : Progress) : Except Fault Progress := p.forget fun k => k.level == p.level

/-- Remembers that a key may start here. -/
def remember (p : Progress) : Except Fault Progress :=
  if p.mayKey then do
    let q ← p.forgetHere
    let c := p.cursor
    let isRequired := !p.inFlow && p.indents.head? == some c.column
    return { q with
      pending := ⟨p.level, p.count, c.column, c.line, c.offset, isRequired⟩ :: q.pending }
  else .ok p

/-! ### Tokens so far -/

/-- Puts a token in at an index. -/
def insert (index : Nat) (t : Token) (p : Progress) : Progress :=
  let later := p.count - index
  { p with tokens := p.tokens.take later ++ t :: p.tokens.drop later, count := p.count + 1 }

/-- The number of tokens before the first one that may yet turn out to start a
key. No token is put in among them any more. -/
def settled (p : Progress) : Nat :=
  (p.pending.filter fun k => !p.isStale k).foldl (fun n k => min n k.index) p.count

/-- Puts a token at the end and goes on at a place. -/
def pushTo (t : Token) (c : Cursor) (p : Progress) : Progress :=
  { p with tokens := t :: p.tokens, count := p.count + 1, cursor := c }

/-- Puts a token at the end and goes on behind some characters. -/
def push (t : Token) (length : Nat) (p : Progress) : Progress :=
  p.pushTo t (p.cursor.advanceBy length)

/-! ### Indentation -/

/-- Ends the lists and mappings that are indented deeper than a test allows. -/
def unwindTo (isKept : Nat → Bool) (p : Progress) : Progress :=
  if p.inFlow then p
  else
    let ended := p.indents.takeWhile fun n => !isKept n
    { p with
      indents := p.indents.drop ended.length
      tokens := List.replicate ended.length .blockEnd ++ p.tokens
      count := p.count + ended.length }

/-- Ends all lists and mappings by indentation, before the bounds of a document. -/
def unwindAll (p : Progress) : Except Fault Progress := do
  let p ← (p.unwindTo fun _ => false).forgetHere
  return { p with mayKey := false }

/-- Starts a list or mapping in a column that is deeper than the innermost one,
by a token put in at an index. -/
def indentAt (column index : Nat) (t : Token) (p : Progress) : Progress :=
  if p.deeper ≤ column then
    { p.insert index t with indents := column :: p.indents }
  else p

/-! ### Steps -/

/-- Opens brackets. -/
def opens (t : Token) (p : Progress) : Except Fault Progress := do
  let p ← p.remember
  return { p.push t 1 with level := p.level + 1, mayKey := true }

/-- Closes brackets, which must be open. -/
def closes (t : Token) (p : Progress) : Except Fault Progress := do
  let p ← p.forgetHere
  match p.level with
  | 0 => .error .malformed
  | n + 1 => return { p.push t 1 with level := n, mayKey := false }

/-- Separates two items in brackets. -/
def separate (p : Progress) : Except Fault Progress := do
  let p ← p.forgetHere
  return { p.push .separator 1 with mayKey := true }

/-- Starts what a mark announces outside of brackets: a list by a dash, or a
mapping by a marked key or value. -/
def announce (t : Token) (p : Progress) : Except Fault Progress :=
  if p.inFlow then .ok p
  else if p.mayKey then .ok (p.indentAt p.cursor.column p.count t)
  else .error .malformed

/-- The dash of an item. -/
def item (p : Progress) : Except Fault Progress := do
  let p ← p.announce .listStart
  let p ← p.forgetHere
  return { p.push .item 1 with mayKey := true }

/-- A marked key. -/
def markedKey (p : Progress) : Except Fault Progress := do
  let p ← p.announce .mappingStart
  let p ← p.forgetHere
  return { p.push .key 1 with mayKey := !p.inFlow }

/-- The colon before a value: what came before it is a key if one may have
started. -/
def value (p : Progress) : Except Fault Progress :=
  match p.pending.find? fun k => k.level == p.level with
  | some k =>
    let p := { p.insert k.index .key with pending := p.pending.filter fun k => k.level != p.level }
    let p := if p.inFlow then p else p.indentAt k.column k.index .mappingStart
    .ok { p.push .value 1 with mayKey := false }
  | none => do
    let p ← p.announce .mappingStart
    let p ← p.forgetHere
    return { p.push .value 1 with mayKey := !p.inFlow }

/-- A token that may start a key, read from a place on. -/
def word (read : Cursor → Except Fault (Token × Cursor)) (p : Progress) :
    Except Fault Progress := do
  let p ← p.remember
  let (t, c) ← read p.cursor
  return { p.pushTo t c with mayKey := false }

/-- A block scalar. -/
def block (folded : Bool) (p : Progress) : Except Fault Progress := do
  let p ← p.forgetHere
  let (said, c) ← blockScalar folded p.deeper p.cursor
  return { p.pushTo (.scalar false said) c with mayKey := true }

/-- A plain scalar. After one that ended with its line a key may start. -/
def plainScalar (p : Progress) : Except Fault Progress := do
  let p ← p.remember
  let (said, c, crossed) := plain p.inFlow p.deeper p.cursor
  return { p.pushTo (.scalar true said) c with mayKey := crossed }

/-- The next token, whose place has been reached. -/
def next (p : Progress) (x : Char) (rest : List Char) : Except Fault Progress := do
  let c := p.cursor
  if x = '%' ∧ c.column = 0 then
    let p ← p.unwindAll
    let (d, c) ← directive c
    return p.pushTo (.directive d) c
  else if c.isMarker '-' then return (← p.unwindAll).push .documentStart 3
  else if c.isMarker '.' then return (← p.unwindAll).push .documentEnd 3
  else if x = '[' then p.opens .openList
  else if x = '\x7b' then p.opens .openMapping
  else if x = ']' then p.closes .closeList
  else if x = '\x7d' then p.closes .closeMapping
  else if x = ',' then p.separate
  else if x = '-' ∧ endsWord rest then p.item
  else if x = '?' ∧ (p.inFlow ∨ endsWord rest) then p.markedKey
  else if x = ':' ∧ (p.inFlow ∨ endsWord rest) then p.value
  else if x = '*' then p.word fun c => (anchorName c).map fun q => (.reference q.1, q.2)
  else if x = '&' then p.word fun c => (anchorName c).map fun q => (.anchor q.1, q.2)
  else if x = '!' then p.word fun c => (tagName c).map fun q => (.tag q.1, q.2)
  else if (x = '|' ∨ x = '>') ∧ !p.inFlow then p.block (x == '>')
  else if x = '\x27' ∨ x = '\x22' then
    p.word fun c => (quoted (x == '\x22') c).map fun q => (.scalar false q.1, q.2)
  else if startsPlain p.inFlow c.rest then p.plainScalar
  else .error .malformed

/-- The progress at the place of the next token: a line end allows a key outside
of brackets, and what is indented deeper than the place has ended. -/
def approach (p : Progress) : Except Fault Progress := do
  let (c, crossed) := p.cursor.toToken
  let p := { p with cursor := c, mayKey := p.mayKey || (crossed && !p.inFlow) }
  let p ← p.forgetStale
  return p.unwindTo fun n => n ≤ c.column

/-- One more token, and whether it is the last. -/
def step (p : Progress) : Except Fault (Progress × Bool) := do
  let p ← p.approach
  match p.cursor.rest with
  | [] =>
    let p ← p.unwindAll
    return (p.push .streamEnd 0, true)
  | x :: rest =>
    let p ← p.next x rest
    return (p, false)

/-- All tokens of the text, a fault after those that were settled before it;
`fuel` bounds the number of steps. -/
def finish : Nat → Progress → List Token
  | 0, p => p.tokens.reverse
  | fuel + 1, p =>
    match p.step with
    | .error f => p.tokens.reverse.take p.settled ++ [.fault f]
    | .ok (p, true) => p.tokens.reverse
    | .ok (p, false) => finish fuel p

end Progress

/-- The tokens of a text. -/
def tokens (s : String) : List Token :=
  if s.toList.all isAllowed then (Progress.start s).finish (s.length + 1)
  else [.fault .malformed]

end Turnstile.Yaml
