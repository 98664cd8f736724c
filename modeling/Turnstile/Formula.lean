/-
# Formulas of propositional logic

A formula is a variable, a negation, or two formulas joined by a binary
connective. A variable is named by an ASCII letter followed by ASCII letters
and digits; its type carries that fact, so that every formula is made of
well-named variables. The rendering of a formula puts parentheses around every
binary formula and none anywhere else, so it can be read back in one way only.

Key definitions: `Var`, `Names.insert`, `Formula`, `Formula.render`,
`Formula.size`, `Formula.depth`, `Formula.names`, `Assignment`,
`Formula.evaluate`.
-/
import Turnstile.Connective
import Turnstile.Data
import Turnstile.Text.Quoted

namespace Turnstile

/-! ### Variables -/

/-- An ASCII letter: what a name starts with. -/
def isLetter (c : Char) : Bool :=
  ('a'.val ≤ c.val && c.val ≤ 'z'.val) || ('A'.val ≤ c.val && c.val ≤ 'Z'.val)

/-- An ASCII digit. -/
def isDigit (c : Char) : Bool := '0'.val ≤ c.val && c.val ≤ '9'.val

/-- An ASCII letter or digit: what a name goes on with. -/
def isAlnum (c : Char) : Bool := isLetter c || isDigit c

theorem isAlnum_iff {c : Char} : isAlnum c = true ↔ (0x30 ≤ c.toNat ∧ c.toNat ≤ 0x39) ∨
    (0x41 ≤ c.toNat ∧ c.toNat ≤ 0x5a) ∨ (0x61 ≤ c.toNat ∧ c.toNat ≤ 0x7a) := by
  have hval : c.toNat = c.val.toNat := rfl
  simp only [isAlnum, isLetter, isDigit, Bool.or_eq_true, Bool.and_eq_true, decide_eq_true_eq,
    UInt32.le_iff_toNat_le, show 'a'.val.toNat = 0x61 from rfl, show 'z'.val.toNat = 0x7a from rfl,
    show 'A'.val.toNat = 0x41 from rfl, show 'Z'.val.toNat = 0x5a from rfl,
    show '0'.val.toNat = 0x30 from rfl, show '9'.val.toNat = 0x39 from rfl]
  omega

/-- Whether the characters spell the name of a variable. -/
def Var.isName : List Char → Bool
  | [] => false
  | c :: cs => isLetter c && cs.all isAlnum

/-- A propositional variable. -/
structure Var where
  /-- The name as it is written. -/
  name : String
  /-- The name is a letter followed by letters and digits. -/
  valid : Var.isName name.toList = true
deriving DecidableEq

namespace Var

/-- The variable with the given name, if that is one. -/
def ofName? (name : String) : Option Var :=
  if h : isName name.toList = true then some ⟨name, h⟩ else none

end Var

/-! ### Sets of names

A set of names is a list in increasing code-point order without repetitions,
so equal sets are equal lists and listing a set needs no sorting. -/

namespace Names

/-- The set with one more name. -/
def insert (n : String) : List String → List String
  | [] => [n]
  | m :: ms =>
    if n < m then n :: m :: ms
    else if n = m then m :: ms
    else m :: insert n ms

/-- All names of both sets. -/
def union (ms : List String) : List String → List String
  | [] => ms
  | n :: ns => union (insert n ms) ns

end Names

/-! ### Formulas -/

/-- A formula of propositional logic. -/
inductive Formula where
  | atom (v : Var)
  | neg (f : Formula)
  | bin (b : Binary) (l r : Formula)
deriving DecidableEq

/-- A truth value for each name of a list. The first entry of a name counts. -/
abbrev Assignment := List (String × Bool)

/-- What the values of a dictionary count as, for the names among its keys. -/
def Assignment.ofEntries (entries : List (Key × Data)) : Assignment :=
  entries.filterMap fun
    | (.text name, d) => some (name, d.isTruthy)
    | _ => none

/-- The name that an assignment leaves without a value. -/
structure Unassigned where
  name : String
deriving DecidableEq, Repr

namespace Formula

/-- The fully parenthesised text of a formula. -/
def render : Formula → String
  | atom v => v.name
  | neg f => "!" ++ f.render
  | bin b l r => "(" ++ l.render ++ b.symbol ++ r.render ++ ")"

/-- A formula as it is described in messages. -/
def shown : Formula → String
  | atom v => "Atom(" ++ Text.quoted v.name ++ ")"
  | f => "Compound(" ++ Text.quoted f.render ++ ")"

/-- The number of connectives. -/
def size : Formula → Nat
  | atom _ => 0
  | neg f => 1 + f.size
  | bin _ l r => 1 + (l.size + r.size)

/-- The number of connectives on the longest path to a variable. -/
def depth : Formula → Nat
  | atom _ => 0
  | neg f => 1 + f.depth
  | bin _ l r => 1 + max l.depth r.depth

/-- Whether the formula is a variable. -/
def isAtomic : Formula → Bool
  | atom _ => true
  | _ => false

/-- The outermost connective; a variable has none. -/
def connective? : Formula → Option Connective
  | atom _ => none
  | neg _ => some .neg
  | bin b _ _ => some (.binary b)

/-- Whether `c` is the outermost connective. -/
def hasConnective (f : Formula) (c : Connective) : Bool := f.connective? == some c

@[simp] theorem hasConnective_atom (v : Var) (c : Connective) :
    (atom v).hasConnective c = false := rfl

@[simp] theorem hasConnective_neg (f : Formula) (c : Connective) :
    (neg f).hasConnective c = decide (c = .neg) := by
  simp [hasConnective, connective?, Bool.beq_eq_decide_eq, eq_comm]

@[simp] theorem hasConnective_bin (b : Binary) (l r : Formula) (c : Connective) :
    (bin b l r).hasConnective c = decide (c = .binary b) := by
  simp [hasConnective, connective?, Bool.beq_eq_decide_eq, eq_comm]

theorem hasConnective_neg_iff {f : Formula} : f.hasConnective .neg = true ↔ ∃ g, f = neg g := by
  cases f <;> simp

theorem hasConnective_binary_iff {f : Formula} {b : Binary} :
    f.hasConnective (.binary b) = true ↔ ∃ l r, f = bin b l r := by
  cases f <;> simp [eq_comm]

/-- The operands of the outermost connective, left to right. -/
def operands : Formula → List Formula
  | atom _ => []
  | neg f => [f]
  | bin _ l r => [l, r]

/-- The length of a worklist plus twice the connectives in it. Every step of
`gather` lowers it. -/
def burden : List Formula → Nat
  | [] => 0
  | f :: fs => 2 * f.size + 1 + burden fs

/-- The names met by a worklist of formulas, added to a set of names. The operands
of a compound formula take its place, the last one first. -/
def gather : List Formula → List String → List String
  | [], names => names
  | atom v :: fs, names => gather fs (Names.insert v.name names)
  | neg f :: fs, names => gather (f :: fs) names
  | bin _ l r :: fs, names => gather (r :: l :: fs) names
termination_by fs => burden fs
decreasing_by all_goals simp only [burden, size]; omega

/-- The names of the variables of a formula, as a set. -/
def names (f : Formula) : List String := gather [f] []

/-- The truth value under an assignment. Both operands of a binary connective
are evaluated, the left one first, so the name reported missing is the
leftmost one. -/
def evaluate (m : Assignment) : Formula → Except Unassigned Bool
  | atom v =>
    match m.lookup v.name with
    | some x => .ok x
    | none => .error ⟨v.name⟩
  | neg f => do
    let x ← f.evaluate m
    return !x
  | bin b l r => do
    let x ← l.evaluate m
    let y ← r.evaluate m
    return b.apply x y

/-- The position of the first formula with the given outermost connective. -/
def firstIndex? (fs : List Formula) (c : Connective) : Option Nat :=
  fs.findIdx? fun f => f.hasConnective c

end Formula

end Turnstile
