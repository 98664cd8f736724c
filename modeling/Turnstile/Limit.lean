/-
# Limits

A limit on the length of a text or the depth of a formula comes from the
settings or from the caller, so it may be any value. Numbers and truth values
(which count as 0 and 1) can be compared with a measured size; other values
cannot, and comparing with one is a fault.

Key definitions: `Limit`, `Limit.exceededBy?`, `Limits`.
-/
import Turnstile.Data

namespace Turnstile

/-- A limit as it was given. -/
inductive Limit where
  | int (i : Int)
  | bool (b : Bool)
  | float (x : Double)
  /-- A value that has no order with numbers. -/
  | unordered
deriving DecidableEq, Repr

namespace Limit

/-- The limit that a value gives; null gives none. -/
def ofData? : Data → Option Limit
  | .null => none
  | .bool b => some (.bool b)
  | .int i => some (.int i)
  | .float x => some (.float x)
  | .text _ => some .unordered
  | .torn _ => some .unordered
  | .moment _ => some .unordered
  | .bytes _ => some .unordered
  | .list _ => some .unordered
  | .pair _ _ => some .unordered
  | .set _ => some .unordered
  | .dict _ => some .unordered

/-- Whether a size is above the limit, if the two can be compared. -/
def exceededBy? (limit : Limit) (n : Nat) : Option Bool :=
  match limit with
  | int i => some (decide (i < (n : Int)))
  | bool b => some (decide (b.toNat < n))
  | float x => some (x.isBelow n)
  | unordered => none

/-- Whether messages can show the limit: an integer may have too many digits. -/
def isWritable : Limit → Bool
  | int i => Numeral.isWritable i
  | _ => true

/-- The limit as messages show it. -/
def shown : Limit → String
  | int i => toString i
  | bool b => truthText b
  | float x => x.shown
  | unordered => ""

end Limit

/-- The limits that a parse observes; a missing one is not observed. -/
structure Limits where
  maxLength : Option Limit
  maxDepth : Option Limit
deriving DecidableEq, Repr

namespace Limits

/-- No limit at all. -/
def none : Limits := ⟨Option.none, Option.none⟩

/-- The limits used when the settings name none. -/
def standard : Limits := ⟨some (.int 10000), some (.int 200)⟩

/-- The limits, with those that are missing taken from others. -/
def orElse (limits others : Limits) : Limits where
  maxLength := limits.maxLength <|> others.maxLength
  maxDepth := limits.maxDepth <|> others.maxDepth

end Limits

end Turnstile
