/-
# Plain data

The values that settings and stored documents are made of: nothing, truth
values, integers, decimals, text, dates, bytes, lists, pairs, sets, and
dictionaries that keep the order in which their keys came. A key is any value
without parts, and keys that are equal as numbers are one key: truth values
count as the numbers 0 and 1. Text with half of a surrogate pair alone in it is
torn, and is kept by its code points.

Key definitions: `Key`, `Data`, `Data.ofPoints`, `Data.isTruthy`,
`Data.shown`, `Data.plain`, `Entries.get?`, `Entries.set`, `Numeral.mostDigits`.
-/
import Turnstile.Double
import Turnstile.Moment
import Turnstile.Text.Quoted

namespace Turnstile

/-- A truth value in descriptions. -/
def truthText (b : Bool) : String := if b then "True" else "False"

namespace Numeral

/-- The most decimal digits of an integer that is read or written. -/
def mostDigits : Nat := 4300

/-- The complaint about an integer with more digits than are read. -/
def longMessage (digits : Nat) : String :=
  "Exceeds the limit (4300 digits) for integer string conversion: value has " ++
    toString digits ++ " digits; use sys.set_int_max_str_digits() to increase the limit"

/-- The complaint about an integer with more digits than are written. -/
def unwritableMessage : String :=
  "Exceeds the limit (4300 digits) for integer string conversion; " ++
    "use sys.set_int_max_str_digits() to increase the limit"

/-- Whether an integer has no more digits than are written. -/
def isWritable (i : Int) : Bool := i.natAbs < Double.tenTo mostDigits

end Numeral

/-! ### Keys -/

/-- A key of a dictionary. -/
inductive Key where
  | null
  | bool (b : Bool)
  | int (i : Int)
  | float (x : Double)
  | text (s : String)
  | torn (p : Points)
  | moment (m : Moment)
  | bytes (b : List UInt8)
deriving Repr

namespace Key

/-- The text of code points as a key. -/
def ofPoints (p : Points) : Key :=
  match p.string? with
  | some s => text s
  | none => torn p

/-- The integer that a key equals as a number. -/
def whole? : Key → Option Int
  | bool b => some b.toNat
  | int i => some i
  | float x => x.whole?
  | _ => none

/-- Whether two keys are one. -/
def same (a b : Key) : Bool :=
  match a.whole?, b.whole? with
  | some i, some j => i == j
  | none, none =>
    match a, b with
    | null, null => true
    | float x, float y => x == y && x != .nan
    | text s, text t => s == t
    | torn p, torn q => p == q
    | moment m, moment n => m == n
    | bytes b, bytes c => b == c
    | _, _ => false
  | _, _ => false

instance : BEq Key := ⟨same⟩

/-- A text is the same key as itself only. -/
theorem beq_text_iff {k : Key} {s : String} : (k == text s) = true ↔ k = text s := by
  change same k (text s) = true ↔ k = text s
  cases k with
  | float x => cases hwhole : x.whole? <;> simp [same, whole?, hwhole]
  | _ => simp [same, whole?]

theorem text_beq_iff {k : Key} {s : String} : (text s == k) = true ↔ k = text s := by
  change same (text s) k = true ↔ k = text s
  cases k with
  | float x => cases hwhole : x.whole? <;> simp [same, whole?, hwhole]
  | text t => simpa [same, whole?] using eq_comm
  | _ => simp [same, whole?]

/-- A key as it is described in messages. -/
def shown : Key → String
  | null => "None"
  | bool b => truthText b
  | int i => toString i
  | float x => x.shown
  | text s => Text.quoted s
  | torn p => Text.quotedPoints p
  | moment m => m.shown
  | bytes b => Text.quotedBytes b

end Key

/-! ### Entries -/

namespace Entries

variable {κ α : Type} [BEq κ]

/-- The value of a key. -/
def get? (key : κ) : List (κ × α) → Option α
  | [] => none
  | (k, v) :: rest => if k == key then some v else get? key rest

/-- The entries with a key given a value: a key that is there keeps its
place, a new one comes last. -/
def set (key : κ) (value : α) : List (κ × α) → List (κ × α)
  | [] => [(key, value)]
  | (k, v) :: rest => if k == key then (k, value) :: rest else (k, v) :: set key value rest

/-- The entries of a list of pairs in which a key may come again: a key has
the place of its first pair and the value of its last. -/
def ofPairs (pairs : List (κ × α)) : List (κ × α) :=
  pairs.foldl (fun entries p => set p.1 p.2 entries) []

end Entries

/-! ### Values -/

/-- A plain value. -/
inductive Data where
  | null
  | bool (b : Bool)
  | int (i : Int)
  | float (x : Double)
  | text (s : String)
  | torn (p : Points)
  | moment (m : Moment)
  | bytes (b : List UInt8)
  | list (items : List Data)
  | pair (first second : Data)
  | set (members : List Key)
  | dict (entries : List (Key × Data))

namespace Data

/-- The text of code points. -/
def ofPoints (p : Points) : Data :=
  match p.string? with
  | some s => text s
  | none => torn p

/-- The dictionary with texts for keys. -/
def ofFields (fields : List (String × Data)) : Data := dict (fields.map fun p => (.text p.1, p.2))

/-- Whether a value counts as true: null, zero and whatever is empty do not. -/
def isTruthy : Data → Bool
  | null => false
  | bool b => b
  | int i => i != 0
  | float x => !x.isZero
  | text s => !s.isEmpty
  | torn _ => true
  | moment _ => true
  | bytes b => !b.isEmpty
  | list items => !items.isEmpty
  | pair _ _ => true
  | set members => !members.isEmpty
  | dict entries => !entries.isEmpty

/-- Whether a value is null. -/
def isNull : Data → Bool
  | null => true
  | _ => false

/-- The entries of a dictionary. -/
def entries? : Data → Option (List (Key × Data))
  | dict entries => some entries
  | _ => none

/-- The name of a value's type. -/
def typeName : Data → String
  | null => "NoneType"
  | bool _ => "bool"
  | int _ => "int"
  | float _ => "float"
  | text _ => "str"
  | torn _ => "str"
  | moment m => m.typeName
  | bytes _ => "bytes"
  | list _ => "list"
  | pair _ _ => "tuple"
  | set _ => "set"
  | dict _ => "dict"

/-- The key that a value is in a dictionary; one with parts is none. -/
def key? : Data → Option Key
  | null => some .null
  | bool b => some (.bool b)
  | int i => some (.int i)
  | float x => some (.float x)
  | text s => some (.text s)
  | torn p => some (.torn p)
  | moment m => some (.moment m)
  | bytes b => some (.bytes b)
  | list _ => none
  | pair _ _ => none
  | set _ => none
  | dict _ => none

mutual

/-- A value as it is described in messages. -/
def shown : Data → String
  | null => "None"
  | bool b => truthText b
  | int i => toString i
  | float x => x.shown
  | text s => Text.quoted s
  | torn p => Text.quotedPoints p
  | moment m => m.shown
  | bytes b => Text.quotedBytes b
  | list items => "[" ++ ", ".intercalate (shownItems items) ++ "]"
  | pair x y => "(" ++ shown x ++ ", " ++ shown y ++ ")"
  | set [] => "set()"
  | set members => "\x7b" ++ ", ".intercalate (members.map Key.shown) ++ "\x7d"
  | dict entries => "\x7b" ++ ", ".intercalate (shownEntries entries) ++ "\x7d"

/-- Descriptions of the items of a list. -/
def shownItems : List Data → List String
  | [] => []
  | d :: ds => shown d :: shownItems ds

/-- Descriptions of the entries of a dictionary. -/
def shownEntries : List (Key × Data) → List String
  | [] => []
  | (k, d) :: entries => (k.shown ++ ": " ++ shown d) :: shownEntries entries

end

/-- A value as text: a text or date as it is written, anything else as it is
described. -/
def plain : Data → Points
  | text s => s
  | torn p => p
  | moment m => m.written
  | d => d.shown

end Data

end Turnstile
