/-
# Equality of documents

When two documents are equal, and what tells them apart when they are keys.
Truth values count as the numbers 0 and 1, formulas are compared by their texts
and dictionaries without order, and trees and proofs equal no other document.
Keys are first told apart by their fingerprints: equal keys have one
fingerprint, and so have some keys that are not equal, such as a formula and the
text it is written by.

Key definitions: `Document.same`, `Fingerprint`, `Document.fingerprint?`,
`Document.compareAll?`.
-/
import Turnstile.Document

namespace Turnstile

namespace Document

/-! ### Equality -/

/-- A number, or a truth value as a number, if it is an integer. -/
def integer? : Document → Option Int
  | bool b => some b.toNat
  | int i => some i
  | float x => x.whole?
  | _ => none

mutual

/-- Whether two documents are equal. -/
def same : Document → Document → Bool
  | null, null => true
  | bool a, d => integer? d == some (a.toNat : Int)
  | int a, d => integer? d == some a
  | float x, float y => (x == y && x != .nan) || (x.isZero && y.isZero)
  | float x, d => x.whole?.isSome && x.whole? == integer? d
  | text a, text b => a == b
  | torn a, torn b => a == b
  | list as, list bs => sameAll as bs
  | dict as, dict bs => as.length == bs.length && sameEntries as bs
  | formula f, formula g => f.render == g.render
  | sequent as cs, sequent as' cs' => sameAll as as' && sameAll cs cs'
  | connective a, connective b => a == b
  | token k v p, token k' v' p' => same k k' && same v v' && same p p'
  | _, _ => false

/-- Whether documents are equal one by one. -/
def sameAll : List Document → List Document → Bool
  | [], [] => true
  | a :: as, b :: bs => same a b && sameAll as bs
  | _, _ => false

/-- Whether every entry has an equal one among others. -/
def sameEntries : List (Key × Document) → List (Key × Document) → Bool
  | [], _ => true
  | (k, a) :: as, bs =>
    (match Entries.get? k bs with
      | some b => same a b
      | none => false) && sameEntries as bs

end

instance : BEq Document := ⟨same⟩

end Document

/-! ### Fingerprints -/

/-- What a key is told apart by. -/
inductive Fingerprint where
  | null
  | number (n : Int)
  | text (p : Points)
  | group (parts : List Fingerprint)
deriving BEq, Repr

namespace Fingerprint

/-- The modulus of the fingerprints of numbers. -/
def modulus : Nat := Double.twoTo 61 - 1

/-- The fingerprint of a number of the given sign that leaves a remainder. -/
def ofRemainder (negative : Bool) (n : Nat) : Fingerprint :=
  let i : Int := if negative then -(n : Int) else n
  number (if i = -1 then -2 else i)

/-- The fingerprint of an integer. -/
def ofInt (i : Int) : Fingerprint := ofRemainder (decide (i < 0)) (i.natAbs % modulus)

/-- The fingerprint of a decimal, that of the integer it is if it is one; only
what is no number has none. -/
def ofDouble? : Double → Option Fingerprint
  | .nan => none
  | .infinite negative => some (ofRemainder negative 314159)
  | .finite negative m e =>
    some (ofRemainder negative (m * Double.twoTo (e % 61).toNat % modulus))

/-- The fingerprint of a text; the empty text has that of zero. -/
def ofText (p : Points) : Fingerprint := if p.isEmpty then number 0 else text p

end Fingerprint

namespace Document

mutual

/-- The fingerprint of a document that can be a key. Trees and proofs have none:
each differs from all others. -/
def fingerprint? : Document → Option Fingerprint
  | null => some .null
  | bool b => some (.ofInt b.toNat)
  | int i => some (.ofInt i)
  | float x => Fingerprint.ofDouble? x
  | text s => some (.ofText s)
  | torn p => some (.ofText p)
  | formula f => some (.ofText f.render)
  | connective c => some (.ofText c.label)
  | sequent as cs => do
    let as ← fingerprints? as
    let cs ← fingerprints? cs
    return .group [.group as, .group cs]
  | token k v p => do
    let k ← fingerprint? k
    let v ← fingerprint? v
    let p ← fingerprint? p
    return .group [k, v, p]
  | _ => none

/-- The fingerprints of documents. -/
def fingerprints? : List Document → Option (List Fingerprint)
  | [] => some []
  | d :: ds => do
    let x ← fingerprint? d
    let xs ← fingerprints? ds
    return x :: xs

end

/-! ### Comparisons -/

/-- How several documents compare: which are equal and which have one fingerprint,
for all pairs of them, and how many differ. -/
structure Comparison where
  equal : List (List Bool)
  alike : List (List Bool)
  distinct : Nat

/-- The documents with their numbers: a document is equal to itself in any case. -/
def sameAt (a b : Document × Nat) : Bool := a.2 == b.2 || a.1 == b.1

/-- Whether two documents with their numbers have one fingerprint. -/
def alikeAt (a b : Document × Nat) : Bool :=
  a.2 == b.2 || (a.1.fingerprint?.isSome && a.1.fingerprint? == b.1.fingerprint?)

/-- The comparison of documents, all of which must be able to be keys. -/
def compareAll? (items : List Document) : Option Comparison :=
  if items.all isKey then
    let numbered := items.zipIdx
    let table (p : Document × Nat → Document × Nat → Bool) : List (List Bool) :=
      numbered.map fun a => numbered.map (p a)
    let isNew (a : Document × Nat) : Bool := !numbered.any fun b => b.2 < a.2 && sameAt b a
    some ⟨table sameAt, table alikeAt, (numbered.filter isNew).length⟩
  else none

end Document

end Turnstile
