/-
# Proof trees

A proof tree is a sequent with the trees of the premises that a rule reduced
it to. Trees are also read from documents, so a node may carry any text as
the name of its rule, and any number of children.

Key definitions: `Tree`, `Tree.walk`, `Tree.leaves`, `Tree.status`,
`Tree.depth`, `Tree.size`, `Tree.lines`.
-/
import Turnstile.Sequent

namespace Turnstile

/-- A sequent, the name of the rule applied to it, and the trees of its
premises. -/
inductive Tree where
  | node (sequent : Sequent) (rule : Option String) (children : List Tree)

/-- What a node of a tree is. -/
inductive Status where
  /-- A node with children. -/
  | inner
  /-- A leaf whose sequent is an axiom. -/
  | closed
  /-- Any other leaf. -/
  | falsifiable
deriving DecidableEq, Repr

/-- The name of a status. -/
def Status.label : Status → String
  | inner => "internal"
  | closed => "axiom"
  | falsifiable => "falsifiable"

/-- The mark of a status in a printed tree. -/
def Status.marker : Status → String
  | inner => ""
  | closed => " [axiom]"
  | falsifiable => " [falsifiable]"

namespace Tree

/-- The sequent at the root. -/
def sequent : Tree → Sequent
  | node s _ _ => s

/-- The name of the rule at the root. -/
def rule : Tree → Option String
  | node _ r _ => r

/-- The trees below the root. -/
def children : Tree → List Tree
  | node _ _ ts => ts

/-- Whether the root has no children. -/
def isLeaf (t : Tree) : Bool := t.children.isEmpty

/-- What the root is. -/
def status (t : Tree) : Status :=
  if t.isLeaf then (if t.sequent.isAxiom then .closed else .falsifiable) else .inner

mutual

/-- The length of the longest path from the root to a leaf. -/
def depth : Tree → Nat
  | node _ _ [] => 0
  | node _ _ (t :: ts) => 1 + max t.depth (depthOfAll ts)

/-- The greatest depth among trees, 0 if there are none. -/
def depthOfAll : List Tree → Nat
  | [] => 0
  | t :: ts => max t.depth (depthOfAll ts)

end

mutual

/-- The number of nodes. -/
def size : Tree → Nat
  | node _ _ ts => 1 + countNodes ts

/-- The number of nodes of all trees together. -/
def countNodes : List Tree → Nat
  | [] => 0
  | t :: ts => t.size + countNodes ts

end

mutual

/-- All subtrees, each before those below it and from left to right. -/
def walk : Tree → List Tree
  | node s r ts => node s r ts :: walkAll ts

/-- The subtrees of trees, one tree after another. -/
def walkAll : List Tree → List Tree
  | [] => []
  | t :: ts => t.walk ++ walkAll ts

end

/-- The leaves from left to right. -/
def leaves (t : Tree) : List Tree := t.walk.filter isLeaf

/-- The text of the root in a printed tree, on the given level. -/
def line (level : Nat) (t : Tree) : String :=
  String.ofList (List.replicate (2 * level) ' ') ++ t.sequent.render ++ t.status.marker ++
    match t.rule with
    | some r => if r.isEmpty then "" else "  (" ++ r ++ ")"
    | none => ""

mutual

/-- The printed tree on the given level: a line for each node, indented by
two blanks for each level. -/
def linesAt (level : Nat) : Tree → List String
  | node s r ts => line level (node s r ts) :: linesOfAll (level + 1) ts

/-- The printed trees on the given level. -/
def linesOfAll (level : Nat) : List Tree → List String
  | [] => []
  | t :: ts => linesAt level t ++ linesOfAll level ts

end

/-- The lines of the printed tree. -/
def lines (t : Tree) : List String := linesAt 0 t

/-- The printed tree. -/
def render (t : Tree) : String := "\n".intercalate t.lines

end Tree

end Turnstile
