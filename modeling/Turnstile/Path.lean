/-
# Paths

A path is a root, which is empty for a relative path, and the names of its
components. Empty components and single dots say nothing and are dropped;
double dots are kept.

Key definitions: `Path`, `Path.ofText`, `Path.render`, `Path.suffix`.
-/

namespace Turnstile

/-- A path in normal form. -/
structure Path where
  /-- The slashes an absolute path starts with: one, or exactly two. -/
  root : String
  parts : List String
deriving DecidableEq, Repr

namespace Path

/-- The pieces of a text between its slashes. -/
def pieces : List Char → List (List Char)
  | [] => [[]]
  | c :: cs =>
    if c = '/' then [] :: pieces cs
    else
      match pieces cs with
      | [] => [[c]]
      | p :: ps => (c :: p) :: ps

/-- The root that a text starts with. -/
def rootOf : List Char → String
  | '/' :: '/' :: '/' :: _ => "/"
  | '/' :: '/' :: _ => "//"
  | '/' :: _ => "/"
  | _ => ""

/-- The path that a text names. -/
def ofText (s : String) : Path :=
  ⟨rootOf s.toList, ((pieces s.toList).filter fun p => p ≠ [] ∧ p ≠ ['.']).map String.ofList⟩

/-- Whether a path does not depend on where it is looked up. -/
def isAbsolute (p : Path) : Bool := !p.root.isEmpty

/-- The text of a path. -/
def render (p : Path) : String :=
  if p.root.isEmpty && p.parts.isEmpty then "." else p.root ++ "/".intercalate p.parts

/-- A path seen from another one: an absolute path stays itself. -/
def join (base p : Path) : Path :=
  if p.isAbsolute then p else ⟨base.root, base.parts ++ p.parts⟩

/-- The last component; a bare root has none. -/
def name (p : Path) : String := (p.parts.getLast?).getD ""

/-- The suffix of a name: from its last dot on, unless that dot is the first or
the last character. -/
def suffixOf (name : List Char) : List Char :=
  let after := (name.reverse.takeWhile fun c => c ≠ '.').reverse
  let before := name.take (name.length - after.length - 1)
  if after.isEmpty || before.isEmpty then [] else '.' :: after

/-- The suffix of a path's last component. -/
def suffix (p : Path) : String := String.ofList (suffixOf p.name.toList)

end Path

end Turnstile
