/-
# Going through a proof tree

A tree is gone through with a stack. The tree on top is taken off, its root is met, and
its children are put in its place on the next level, so that the first of them is on top
(`Tree.visits`). What stands lower on the stack waits until all that is above it has been
met, so the nodes are met in the order of the recursive walk (`Tree.map_snd_visits`), one
for each that is counted (`Tree.length_walk`), and each with the number of steps that lead
down to it (`Tree.mem_visits_iff`).

Where a step leads from a node to a child (`Tree.Reaches`), the depth of a tree is the
greatest number of steps from its root to a leaf (`Tree.isGreatest_depth`).

Key definitions: `Tree.visits`, `Tree.Reaches`.
Key theorems: `Tree.map_snd_visits`, `Tree.length_walk`, `Tree.mem_visits_iff`,
`Tree.isGreatest_depth`.
-/
import Mathlib.Order.Bounds.Defs
import Turnstile.Proofs.SearchBound

namespace Turnstile.Tree

/-! ### The stack -/

theorem countNodes_children (t : Tree) : 1 + countNodes t.children = t.size := by
  cases t
  rw [children, size]

/-- Trees that are all on one level. -/
def onLevel (level : Nat) (ts : List Tree) : List (Nat × Tree) := ts.map fun t => (level, t)

theorem map_snd_onLevel (level : Nat) (ts : List Tree) : (onLevel level ts).map Prod.snd = ts := by
  rw [onLevel, List.map_map]
  exact List.map_id ts

/-- The trees met with a stack of trees and their levels. The children of the tree on top
take its place, one level further down. -/
def visits : List (Nat × Tree) → List (Nat × Tree)
  | [] => []
  | (level, t) :: stack => (level, t) :: visits (onLevel (level + 1) t.children ++ stack)
termination_by stack => countNodes (stack.map Prod.snd)
decreasing_by
  have hroot := t.countNodes_children
  simp only [List.map_append, map_snd_onLevel, countNodes_append, List.map_cons, countNodes]
  omega

theorem visits_nil : visits [] = [] := by rw [visits]

theorem visits_cons (level : Nat) (t : Tree) (stack : List (Nat × Tree)) :
    visits ((level, t) :: stack) =
      (level, t) :: visits (onLevel (level + 1) t.children ++ stack) := by
  rw [visits]

theorem walk_eq (t : Tree) : t.walk = t :: t.children.flatMap walk := by
  cases t
  rw [walk, walkAll_eq_flatMap, children]

/-- **The stack meets the nodes in pre-order.** -/
theorem map_snd_visits (stack : List (Nat × Tree)) :
    (visits stack).map Prod.snd = (stack.map Prod.snd).flatMap walk := by
  induction stack using visits.induct with
  | case1 => rw [visits_nil, List.map_nil, List.flatMap_nil]
  | case2 level t stack ih =>
    rw [List.map_append, map_snd_onLevel, List.flatMap_append] at ih
    rw [visits_cons, List.map_cons, ih, List.map_cons, List.flatMap_cons, walk_eq,
      List.cons_append]

theorem map_snd_visits_root (t : Tree) : (visits [(0, t)]).map Prod.snd = t.walk := by
  rw [map_snd_visits, List.map_singleton, List.flatMap_singleton]

mutual

theorem length_walk : ∀ t : Tree, t.walk.length = t.size
  | node s r ts => by rw [walk, List.length_cons, length_walkAll ts, size, Nat.add_comm]

theorem length_walkAll : ∀ ts : List Tree, (walkAll ts).length = countNodes ts
  | [] => by rw [walkAll, countNodes, List.length_nil]
  | t :: ts => by rw [walkAll, List.length_append, length_walk t, length_walkAll ts, countNodes]

end

/-! ### Steps down -/

/-- So many steps lead from the root down to a node, each to a child. -/
inductive Reaches : Tree → Nat → Tree → Prop
  | root (t : Tree) : Reaches t 0 t
  | step {t c n : Tree} {k : Nat} (hc : c ∈ t.children) (hn : Reaches c k n) :
      Reaches t (k + 1) n

theorem reaches_iff {t n : Tree} {k : Nat} :
    t.Reaches k n ↔ (k = 0 ∧ n = t) ∨ ∃ c ∈ t.children, ∃ j, k = j + 1 ∧ c.Reaches j n := by
  constructor
  · rintro (_ | ⟨hc, hn⟩)
    · exact .inl ⟨rfl, rfl⟩
    · exact .inr ⟨_, hc, _, rfl, hn⟩
  · rintro (⟨rfl, rfl⟩ | ⟨c, hc, j, rfl, hn⟩)
    · exact .root n
    · exact .step hc hn

/-- A node is met on the level of a tree of the stack that leads to it, and as many levels
further down as there are steps. -/
theorem mem_visits {stack : List (Nat × Tree)} {k : Nat} {n : Tree} :
    (k, n) ∈ visits stack ↔ ∃ e ∈ stack, ∃ j, k = e.1 + j ∧ e.2.Reaches j n := by
  induction stack using visits.induct with
  | case1 => simp [visits_nil]
  | case2 level t stack ih =>
    rw [visits_cons, List.mem_cons, ih]
    constructor
    · rintro (h | ⟨e, he, j, rfl, hn⟩)
      · cases h
        exact ⟨(k, n), List.mem_cons_self, 0, rfl, .root n⟩
      · rcases List.mem_append.1 he with he | he
        · obtain ⟨c, hc, rfl⟩ := List.mem_map.1 he
          exact ⟨(level, t), List.mem_cons_self, j + 1, by omega, .step hc hn⟩
        · exact ⟨e, List.mem_cons_of_mem _ he, j, rfl, hn⟩
    · rintro ⟨e, he, j, rfl, hn⟩
      rcases List.mem_cons.1 he with rfl | he
      · rcases reaches_iff.1 hn with ⟨rfl, rfl⟩ | ⟨c, hc, i, rfl, hchild⟩
        · exact .inl rfl
        · have hmem : (level + 1, c) ∈ onLevel (level + 1) t.children := List.mem_map_of_mem hc
          exact .inr ⟨_, List.mem_append_left _ hmem, i, Nat.add_right_comm level i 1, hchild⟩
      · exact .inr ⟨e, List.mem_append_right _ he, j, rfl, hn⟩

/-- **The level of a node is the number of steps down to it.** -/
theorem mem_visits_iff {t n : Tree} {k : Nat} : (k, n) ∈ visits [(0, t)] ↔ t.Reaches k n := by
  simp [mem_visits]

/-! ### Depth -/

theorem depth_node {s : Sequent} {r : Option String} {ts : List Tree} (hts : ts ≠ []) :
    (node s r ts).depth = 1 + depthOfAll ts := by
  cases ts with
  | nil => exact absurd rfl hts
  | cons t ts => rw [depth, depthOfAll]

theorem depth_le_depthOfAll : ∀ {ts : List Tree} {t : Tree}, t ∈ ts → t.depth ≤ depthOfAll ts
  | u :: ts, t, h => by
    rw [depthOfAll]
    rcases List.mem_cons.1 h with rfl | h
    · exact Nat.le_max_left _ _
    · exact Nat.le_trans (depth_le_depthOfAll h) (Nat.le_max_right _ _)

theorem exists_depth_eq : ∀ {ts : List Tree}, ts ≠ [] → ∃ t ∈ ts, t.depth = depthOfAll ts
  | [t], _ => ⟨t, by simp, by simp [depthOfAll]⟩
  | t :: u :: ts, _ => by
    obtain ⟨v, hv, hdepth⟩ := exists_depth_eq (List.cons_ne_nil u ts)
    rw [depthOfAll, ← hdepth]
    rcases Nat.le_total t.depth v.depth with h | h
    · exact ⟨v, List.mem_cons_of_mem _ hv, (Nat.max_eq_right h).symm⟩
    · exact ⟨t, List.mem_cons_self, (Nat.max_eq_left h).symm⟩

theorem depth_child_lt {t c : Tree} (hc : c ∈ t.children) : c.depth < t.depth := by
  obtain ⟨s, r, ts⟩ := t
  rw [children] at hc
  have hle := depth_le_depthOfAll hc
  rw [depth_node (List.ne_nil_of_mem hc)]
  omega

/-- A node that is no leaf has a child whose depth is one less. -/
theorem exists_child_depth {t : Tree} (h : t.isLeaf = false) :
    ∃ c ∈ t.children, t.depth = c.depth + 1 := by
  obtain ⟨s, r, ts⟩ := t
  have hts : ts ≠ [] := by
    rintro rfl
    cases h
  obtain ⟨c, hc, hdepth⟩ := exists_depth_eq hts
  exact ⟨c, hc, by rw [depth_node hts, hdepth, Nat.add_comm]⟩

theorem Reaches.add_depth_le {t n : Tree} {k : Nat} (h : t.Reaches k n) :
    k + n.depth ≤ t.depth := by
  induction h with
  | root t => omega
  | step hc _ ih =>
    have := depth_child_lt hc
    omega

theorem exists_reaches_leaf {d : Nat} : ∀ {t : Tree}, t.depth = d →
    ∃ leaf, t.Reaches d leaf ∧ leaf.isLeaf = true := by
  induction d with
  | zero =>
    intro t ht
    cases hleaf : t.isLeaf with
    | true => exact ⟨t, .root t, hleaf⟩
    | false =>
      obtain ⟨c, -, hdepth⟩ := exists_child_depth hleaf
      omega
  | succ d ih =>
    intro t ht
    cases hleaf : t.isLeaf with
    | true =>
      obtain ⟨s, r, ts⟩ := t
      obtain rfl : ts = [] := List.isEmpty_iff.1 hleaf
      cases ht
    | false =>
      obtain ⟨c, hc, hdepth⟩ := exists_child_depth hleaf
      obtain ⟨leaf, hreaches, hend⟩ := ih (t := c) (by omega)
      exact ⟨leaf, .step hc hreaches, hend⟩

/-- **The depth is the length of a longest path to a leaf.** -/
theorem isGreatest_depth (t : Tree) :
    IsGreatest {k | ∃ leaf, t.Reaches k leaf ∧ leaf.isLeaf = true} t.depth := by
  refine ⟨exists_reaches_leaf rfl, ?_⟩
  rintro k ⟨leaf, hreaches, -⟩
  have := hreaches.add_depth_le
  omega

end Turnstile.Tree
