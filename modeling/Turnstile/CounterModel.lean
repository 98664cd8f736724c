/-
# Counter-models

An open leaf of a proof tree gives a truth assignment that falsifies the
sequent at the root: its assumptions are true, its conclusions false, and the
variables that are gone from the branch false as well. An assignment is a set
of names with values. Here it is kept in increasing order of names, in which it
is also printed; in which order it is stored is left open (`NameOrder`).

Key definitions: `CounterModel`, `CounterModel.ofLeaf?`,
`CounterModel.falsifies`, `NameOrder`.
-/
import Turnstile.Sequent

namespace Turnstile

/-- A leaf and the assignment read off it. The names of the assignment are in
increasing order. -/
structure CounterModel where
  leaf : Sequent
  assignment : Assignment
deriving DecidableEq

namespace CounterModel

/-- An assignment, in order of names, with one name given a value. -/
def assign (n : String) (x : Bool) : Assignment → Assignment
  | [] => [(n, x)]
  | (m, y) :: rest =>
    if n < m then (n, x) :: (m, y) :: rest
    else if n = m then (n, x) :: rest
    else (m, y) :: assign n x rest

/-- An assignment with all names of a list given one value. -/
def assignAll (x : Bool) (names : List String) (m : Assignment) : Assignment :=
  names.foldl (fun m n => assign n x m) m

/-- The name of a variable; a compound formula has none. -/
def nameOf? : Formula → Option String
  | .atom v => some v.name
  | _ => none

/-- The model that makes the given variables and the conclusions of a leaf
false and its assumptions true. A leaf with a compound formula has none. -/
def ofLeaf? (leaf : Sequent) (names : List String) : Option CounterModel := do
  let falseNames ← leaf.conclusions.mapM nameOf?
  let trueNames ← leaf.assumptions.mapM nameOf?
  return ⟨leaf, assignAll true trueNames (assignAll false falseNames (assignAll false names []))⟩

/-- Whether the formula is false in the model. -/
def falsifies (m : CounterModel) (f : Formula) : Except Unassigned Bool :=
  (f.evaluate m.assignment).map fun x => !x

/-- The text of a model. -/
def render (m : CounterModel) : String :=
  ", ".intercalate (m.assignment.map fun p => p.1 ++ (if p.2 then "=T" else "=F"))

/-- A model as it is described in messages. -/
def shown (m : CounterModel) : String := "CounterModel(" ++ m.render ++ ")"

end CounterModel

/-- An order in which the names of assignments are written. -/
structure NameOrder where
  arrange : Assignment → Assignment
  /-- No name is lost or written twice. -/
  perm : ∀ m, (arrange m).Perm m

/-- The increasing order of names. -/
def NameOrder.increasing : NameOrder := ⟨id, fun m => .refl m⟩

end Turnstile
