/-
# The numbers that a proof reports

The size and the depth of a proof tree are found from its leaves up, the leaves and the
rules used by going through its nodes, and the status of a leaf from its sequent. All
these agree. The uses of the rules add up to the nodes that are no leaves, since each of
those, and no leaf, has the name of a rule (`Grown.total_rulesUsed`). Every node but the
root is a child of one node (`Tree.length_flatMap_children`), and a node has two children
only by one of the three rules that branch (`Grown.length_children`), so there is one leaf
more than there are uses of these rules (`Grown.length_leaves`). And leaves are finished,
so those that are no axioms are the falsifiable ones (`Grown.falsifiableLeaves_eq`).

Key definitions: `Tree.total`, `Tree.countOf`, `Tree.uses`.
Key theorems: `Tree.total_tally`, `Tree.countOf_tally`, `Tree.length_flatMap_children`,
`Grown.total_rulesUsed`, `Grown.length_leaves`, `Grown.falsifiableLeaves_eq`,
`proof_statistics_agree`.
-/
import Turnstile.Proofs.Traversal

namespace Turnstile

/-! ### Tallies -/

namespace Tree

section Tally

variable {α : Type}

/-- The sum of all counts. -/
def total : List (α × Nat) → Nat
  | [] => 0
  | (_, n) :: counts => n + total counts

variable [BEq α]

/-- The count of a key, 0 if it was not met. -/
def countOf (key : α) (counts : List (α × Nat)) : Nat := (counts.lookup key).getD 0

theorem countOf_cons (key k : α) (n : Nat) (counts : List (α × Nat)) :
    countOf key ((k, n) :: counts) = if key == k then n else countOf key counts := by
  rw [countOf, List.lookup_cons]
  cases key == k <;> rfl

theorem total_countOne (key : α) : ∀ counts : List (α × Nat),
    total (countOne key counts) = total counts + 1
  | [] => rfl
  | (k, n) :: counts => by
    have ih := total_countOne key counts
    rw [countOne]
    split
    next => rw [total, total]; omega
    next => rw [total, total, ih]; omega

/-- **The counts add up to the number of keys met.** -/
theorem total_tally (keys : List α) : total (tally keys) = keys.length := by
  have hadds (counts : List (α × Nat)) :
      total (keys.foldl (fun counts k => countOne k counts) counts) =
        total counts + keys.length := by
    induction keys generalizing counts with
    | nil => rfl
    | cons k keys ih =>
      rw [List.foldl_cons, ih, total_countOne, List.length_cons]
      omega
  rw [tally, hadds, total, Nat.zero_add]

variable [LawfulBEq α]

theorem countOf_countOne (key k : α) : ∀ counts : List (α × Nat),
    countOf k (countOne key counts) = countOf k counts + if key == k then 1 else 0
  | [] => by
    rw [countOne, countOf_cons, BEq.comm]
    simp [countOf]
  | (j, n) :: counts => by
    have ih := countOf_countOne key k counts
    rw [countOne]
    by_cases hj : j = key
    · subst hj
      rw [if_pos (beq_self_eq_true j), countOf_cons, countOf_cons, BEq.comm (a := k)]
      cases j == k <;> rfl
    · have hkey : ¬(j == key) = true := by simpa using hj
      rw [if_neg hkey, countOf_cons, countOf_cons, ih]
      by_cases hk : k = j
      · subst hk
        have hother : ¬(key == k) = true := by simpa using Ne.symm hj
        rw [if_neg hother, Nat.add_zero]
        simp
      · have hother : ¬(k == j) = true := by simpa using hk
        rw [if_neg hother, if_neg hother]

/-- **The count of a key is the number of times it was met.** -/
theorem countOf_tally (key : α) (keys : List α) : countOf key (tally keys) = keys.count key := by
  have hadds (counts : List (α × Nat)) :
      countOf key (keys.foldl (fun counts k => countOne k counts) counts) =
        countOf key counts + keys.count key := by
    induction keys generalizing counts with
    | nil => rfl
    | cons k keys ih =>
      rw [List.foldl_cons, ih, countOf_countOne, List.count_cons]
      omega
  rw [tally, hadds, countOf, List.lookup_nil, Option.getD_none, Nat.zero_add]

end Tally

/-! ### Children -/

mutual

/-- **Every node but the root is a child of one node.** -/
theorem length_flatMap_children : ∀ t : Tree, (t.walk.flatMap children).length + 1 = t.size
  | node s r ts => by
    have hbelow := length_flatMap_childrenOfAll ts
    rw [walk, List.flatMap_cons, children, List.length_append, size]
    omega

theorem length_flatMap_childrenOfAll : ∀ ts : List Tree,
    ((walkAll ts).flatMap children).length + ts.length = countNodes ts
  | [] => rfl
  | t :: ts => by
    have ht := length_flatMap_children t
    have hts := length_flatMap_childrenOfAll ts
    rw [walkAll, List.flatMap_append, List.length_append, List.length_cons, countNodes]
    omega

end

/-- Whether a rule was applied at the root. -/
def uses (rule : Rule) (t : Tree) : Bool := t.rule == some rule.name

end Tree

/-- A rule that applies leads to one premise, and to two if it branches. -/
theorem Rule.length_premises {rule : Rule} {s : Sequent} (h : rule.premises s ≠ []) :
    (rule.premises s).length = if rule.branches then 2 else 1 := by
  cases rule <;> simp only [premises] at h ⊢ <;> split <;> simp_all [branches]

namespace Grown

variable {rules : List Rule} {t : Tree}

/-! ### Rules used -/

/-- A leaf has no rule, and any other node the name of one. -/
theorem rule_cases (h : Grown rules t) :
    (t.isLeaf = true ∧ t.rule = none) ∨
      (t.isLeaf = false ∧ ∃ rule : Rule, t.rule = some rule.name ∧
        t.children.length = if rule.branches then 2 else 1) := by
  cases h with
  | leaf hfin => exact .inl ⟨rfl, rfl⟩
  | @split s a ts _ hexp hts _ =>
    obtain ⟨-, -, hprem, hne⟩ := expand?_some hexp
    have hnil : ts ≠ [] := children_ne_nil hexp hts
    have hlen : ts.length = (a.rule.premises s).length := by
      rw [← hprem, ← hts, List.length_map]
    refine .inr ⟨by simpa [Tree.isLeaf, Tree.children] using hnil, a.rule, rfl, ?_⟩
    rw [Tree.children, hlen, Rule.length_premises (hprem ▸ hne)]

/-- The name counted at a node is that of its rule, and there is one unless it is a
leaf. -/
theorem counted (h : Grown rules t) :
    (t.rule.filter fun r => !r.isEmpty) = t.rule ∧ t.rule.isSome = !t.isLeaf := by
  rcases h.rule_cases with ⟨hleaf, hrule⟩ | ⟨hinner, rule, hrule, -⟩
  · simp [hleaf, hrule]
  · simp [hinner, hrule, rule.isEmpty_name]

/-- **The uses of rules are the nodes that are no leaves.** -/
theorem total_rulesUsed (h : Grown rules t) :
    Tree.total t.rulesUsed + t.leaves.length = t.size := by
  have hinner : t.ruleNames.length = t.walk.countP fun n => decide ¬n.isLeaf = true := by
    rw [Tree.ruleNames, List.length_filterMap_eq_countP]
    refine List.countP_congr fun n hn => ?_
    obtain ⟨hname, hsome⟩ := (h.of_mem_walk hn).counted
    rw [hname, hsome]
    simp
  have hall := List.length_eq_countP_add_countP Tree.isLeaf (l := t.walk)
  rw [Tree.rulesUsed, Tree.total_tally, hinner, Tree.leaves, ← List.countP_eq_length_filter,
    ← t.length_walk]
  omega

theorem countOf_rulesUsed (h : Grown rules t) (rule : Rule) :
    Tree.countOf rule.name t.rulesUsed = t.walk.countP (Tree.uses rule) := by
  rw [Tree.rulesUsed, Tree.countOf_tally, Tree.ruleNames, List.count_filterMap]
  refine List.countP_congr fun n hn => ?_
  rw [(h.of_mem_walk hn).counted.1, Tree.uses]

/-! ### Leaves -/

/-- A node that is no leaf has one child, and one more by a rule that branches. -/
theorem length_children (h : Grown rules t) :
    t.children.length = (if ¬t.isLeaf then 1 else 0) + ((if t.uses .leftImp then 1 else 0) +
      (if t.uses .leftOr then 1 else 0) + if t.uses .rightAnd then 1 else 0) := by
  rcases h.rule_cases with ⟨hleaf, hrule⟩ | ⟨hinner, rule, hrule, hlen⟩
  · have hnone : t.children = [] := List.isEmpty_iff.1 hleaf
    simp [Tree.uses, hrule, hleaf, hnone]
  · rw [hlen, hinner, Tree.uses, Tree.uses, Tree.uses, hrule]
    cases rule <;> rfl

/-- The children of nodes are as many as the nodes that are no leaves and the rules among
them that branch. -/
theorem length_flatMap_children {ns : List Tree} (h : ∀ n ∈ ns, Grown rules n) :
    (ns.flatMap Tree.children).length = (ns.countP fun n => decide ¬n.isLeaf = true) +
      (ns.countP (Tree.uses .leftImp) + ns.countP (Tree.uses .leftOr) +
        ns.countP (Tree.uses .rightAnd)) := by
  induction ns with
  | nil => rfl
  | cons n ns ih =>
    obtain ⟨hn, hns⟩ := List.forall_mem_cons.1 h
    have hbelow := hn.length_children
    simp only [List.flatMap_cons, List.length_append, List.countP_cons, ih hns,
      decide_eq_true_eq] at hbelow ⊢
    omega

/-- **There is one leaf more than there are uses of rules that branch.** -/
theorem length_leaves (h : Grown rules t) :
    t.leaves.length = 1 + (Tree.countOf Rule.leftImp.name t.rulesUsed +
      Tree.countOf Rule.leftOr.name t.rulesUsed + Tree.countOf Rule.rightAnd.name t.rulesUsed) := by
  have hchildren := length_flatMap_children fun n (hn : n ∈ t.walk) => h.of_mem_walk hn
  have hnodes := t.length_flatMap_children
  have hall := List.length_eq_countP_add_countP Tree.isLeaf (l := t.walk)
  rw [t.length_walk] at hall
  rw [h.countOf_rulesUsed, h.countOf_rulesUsed, h.countOf_rulesUsed, Tree.leaves,
    ← List.countP_eq_length_filter]
  omega

/-- **The leaves that are no axioms are the falsifiable ones.** -/
theorem falsifiableLeaves_eq (h : Grown rules t) :
    t.falsifiableLeaves = t.leaves.filter fun leaf => !decide (leaf.status = .closed) := by
  refine List.filter_congr fun leaf hleaf => ?_
  have hend : leaf.isLeaf = true := (List.mem_filter.1 hleaf).2
  rw [h.isFalsifiable_eq hleaf, Tree.status, if_pos hend]
  cases leaf.sequent.isAxiom <;> rfl

end Grown

theorem Tree.status_of_mem_falsifiableLeaves {t leaf : Tree} (h : leaf ∈ t.falsifiableLeaves) :
    leaf.status = .falsifiable := by
  obtain ⟨hleaf, hopen⟩ := List.mem_filter.1 h
  have hend : leaf.isLeaf = true := (List.mem_filter.1 hleaf).2
  have hclosed : leaf.sequent.isAxiom = false := ((Sequent.isFalsifiable_iff _).1 hopen).1
  rw [Tree.status, if_pos hend, hclosed]
  rfl

/-! ### Agreement -/

/-- **What a proof reports about itself agrees.** Going through its nodes with a stack, or
by recursion from left to right with each node before those below it, gives the same, and
as many nodes as its size says. The depth is the length of a longest path from the root to
a leaf. The uses of rules add up to the nodes that are no leaves, and there is one leaf
more than there are uses of the rules that branch. The leaves that are axioms and the
falsifiable leaves are all leaves, and none is both. With all eight rules there is a proof
of every formula and every sequent. -/
theorem proof_statistics_agree (rules : List Rule) (goal : Goal) :
    (∀ p : Proof, (prove rules goal).result = .ok p →
      (Tree.visits [(0, p.root)]).map Prod.snd = p.root.walk ∧
      (∀ n : Tree, n.walk = n :: n.children.flatMap Tree.walk) ∧
      p.root.walk.length = p.root.size ∧
      IsGreatest {k | ∃ leaf, p.root.Reaches k leaf ∧ leaf.isLeaf = true} p.root.depth ∧
      Tree.total p.root.rulesUsed + p.root.leaves.length = p.root.size ∧
      p.root.leaves.length = 1 + (Tree.countOf Rule.leftImp.name p.root.rulesUsed +
        Tree.countOf Rule.leftOr.name p.root.rulesUsed +
        Tree.countOf Rule.rightAnd.name p.root.rulesUsed) ∧
      ((p.root.leaves.filter fun leaf => leaf.status = .closed) ++
        p.root.falsifiableLeaves).Perm p.root.leaves ∧
      ∀ leaf ∈ p.root.falsifiableLeaves, leaf.status = .falsifiable) ∧
    ∃ p : Proof, (prove Rule.all goal).result = .ok p := by
  refine ⟨fun p hp => ?_, prove_total Rule.mem_all goal⟩
  obtain ⟨-, hgrown, -⟩ := prove_ok hp
  refine ⟨p.root.map_snd_visits_root, Tree.walk_eq, p.root.length_walk, p.root.isGreatest_depth,
    hgrown.total_rulesUsed, hgrown.length_leaves, ?_,
    fun leaf hleaf => Tree.status_of_mem_falsifiableLeaves hleaf⟩
  rw [hgrown.falsifiableLeaves_eq]
  exact List.filter_append_perm _ _

/-- The proof of `((p||q)->p)` has a leaf of each kind, by one rule that branches and one
that does not. -/
theorem proof_statistics_agree_both_leaves :
    let p : Formula := .atom ⟨"p", by decide⟩
    let q : Formula := .atom ⟨"q", by decide⟩
    let f : Formula := .bin .imp (.bin .disj p q) p
    let closed : Tree := .node ⟨[p], [p]⟩ none []
    let opened : Tree := .node ⟨[q], [p]⟩ none []
    let t : Tree := .node (.ofFormula f) (some "right-imp")
      [.node ⟨[.bin .disj p q], [p]⟩ (some "left-or") [closed, opened]]
    (prove Rule.all (.formula f)).result = .ok ⟨t, some f⟩ ∧
    t.rulesUsed = [("right-imp", 1), ("left-or", 1)] ∧ t.size = 4 ∧ t.leaves.length = 2 ∧
    Tree.total t.rulesUsed + t.leaves.length = t.size ∧
    (∀ k leaf, t.Reaches k leaf → leaf.isLeaf = true → k ≤ 2) ∧
    [closed, opened].Perm t.leaves ∧ opened.status = .falsifiable := by
  intro p q f closed opened t
  let a : Application := ⟨.rightImp, .ofFormula f, [⟨[.bin .disj p q], [p]⟩]⟩
  let b : Application := ⟨.leftOr, ⟨[.bin .disj p q], [p]⟩, [⟨[p], [p]⟩, ⟨[q], [p]⟩]⟩
  have hrecord : Search.record Rule.all [.ofFormula f] =
      ⟨[.split a, .split b, .leaf ⟨[p], [p]⟩, .leaf ⟨[q], [p]⟩], none⟩ := by
    rw [Search.record_split (a := a) rfl rfl, List.append_nil,
      Search.record_split (a := b) rfl rfl, List.append_nil, Search.record_finished _ rfl,
      Search.record_finished _ rfl, Search.record_nil]
  have hsearch : (search Rule.all (.ofFormula f)).result = .ok t := by
    rw [search_eq_ok_iff, hrecord]
    exact ⟨rfl, rfl⟩
  have hproof : (prove Rule.all (.formula f)).result = .ok ⟨t, some f⟩ := by
    rw [prove, Goal.toSequent, hsearch]
    rfl
  obtain ⟨hagree, -⟩ := proof_statistics_agree Rule.all (.formula f)
  obtain ⟨-, -, -, hdepth, htotal, hleaves, hsplit, hopen⟩ := hagree _ hproof
  refine ⟨hproof, rfl, rfl, hleaves, htotal, fun k leaf hreaches hend => ?_, hsplit, ?_⟩
  · exact hdepth.2 ⟨leaf, hreaches, hend⟩
  · exact hopen opened (List.mem_singleton_self opened)

end Turnstile
