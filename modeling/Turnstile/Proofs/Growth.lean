/-
# The trees that the search grows

A grown tree has a finished sequent at each leaf, and at each other node the
first rule that applies, above its premises in order (`Grown`). The trees that
the record of a search folds into are grown, one for each sequent of the stack
(`grown_of_record`). So the search gives a grown tree of its sequent
(`search_ok`), or gives up at a sequent that it cannot reduce
(`search_error`), which with all eight rules does not happen (`search_total`).

In a grown tree, a valuation refutes the root exactly if it refutes a leaf
(`Grown.refutedBy_iff`), since it does so at each rule.

Key definitions: `Grown`, `Sequent.openValuation`.
Key theorems: `search_ok`, `search_error`, `search_total`,
`Grown.isFinished_of_mem_leaves`, `Grown.refutedBy_iff`,
`Sequent.refutedBy_openValuation`.
-/
import Turnstile.CounterModel
import Turnstile.Proofs.Inversion
import Turnstile.Proofs.SearchRecord

namespace Turnstile

/-! ### Applications -/

theorem expand?_eq_none_iff {rules : List Rule} {s : Sequent} :
    expand? rules s = none ↔ ∀ rule ∈ rules, rule.premises s = [] := by
  rw [expand?, List.findSome?_eq_none_iff]
  exact forall₂_congr fun rule _ => Rule.application?_eq_none_iff

/-- With all rules at hand only finished sequents are not reduced. -/
theorem isFinished_of_expand?_eq_none {rules : List Rule} (hall : ∀ rule : Rule, rule ∈ rules)
    {s : Sequent} (h : expand? rules s = none) : s.isFinished = true := by
  have hatoms := s.premises_nil_iff.1 fun rule => expand?_eq_none_iff.1 h rule (hall rule)
  rw [Sequent.isFinished, hatoms, Bool.or_true]

/-! ### Grown trees -/

/-- A tree as the search with a list of rules grows it. -/
inductive Grown (rules : List Rule) : Tree → Prop
  | leaf {s : Sequent} (hfin : s.isFinished = true) : Grown rules (.node s none [])
  | split {s : Sequent} {a : Application} {ts : List Tree} (hfin : s.isFinished = false)
      (hexp : expand? rules s = some a) (hts : ts.map Tree.sequent = a.premises)
      (hgrown : ∀ t ∈ ts, Grown rules t) : Grown rules (.node s (some a.rule.name) ts)

namespace Search

/-- **The record describes grown trees.** If the search does not give up, its
record folds into one grown tree for each sequent of the stack, in order. -/
theorem grown_of_record (rules : List Rule) (stack : List Sequent)
    (h : (record rules stack).stuck = none) :
    (assemble (record rules stack).steps).map Tree.sequent = stack ∧
      ∀ t ∈ assemble (record rules stack).steps, Grown rules t := by
  induction stack using record_induction rules with
  | nil => simp [record_nil, assemble]
  | finished s rest hfin ih =>
    rw [record_finished rules hfin] at h ⊢
    obtain ⟨hmap, hgrown⟩ := ih h
    refine ⟨by simp [place, hmap, Tree.sequent], fun t ht => ?_⟩
    rcases List.mem_cons.1 ht with rfl | ht
    · exact .leaf hfin
    · exact hgrown t ht
  | split s rest a hfin hexp ih =>
    rw [record_split hfin hexp] at h ⊢
    obtain ⟨hmap, hgrown⟩ := ih h
    have hseq : a.sequent = s := (expand?_some hexp).2.1
    -- the trees of the premises come first among those of the later steps
    have htake : ((assemble (record rules (a.premises ++ rest)).steps).take
        a.premises.length).map Tree.sequent = a.premises := by
      rw [List.map_take, hmap, List.take_left]
    have hdrop : ((assemble (record rules (a.premises ++ rest)).steps).drop
        a.premises.length).map Tree.sequent = rest := by
      rw [List.map_drop, hmap, List.drop_left]
    refine ⟨?_, fun t ht => ?_⟩
    · rw [assemble_cons, place, List.map_cons, hdrop, Tree.sequent, hseq]
    · rcases List.mem_cons.1 ht with rfl | ht
      · rw [hseq]
        exact .split hfin hexp htake fun t ht => hgrown t (List.mem_of_mem_take ht)
      · exact hgrown t (List.mem_of_mem_drop ht)
  | stuck s rest hfin hexp =>
    rw [record_stuck hfin hexp] at h
    simp at h

/-- The search gives up only at a sequent that is not finished and to which no
rule of the list applies. -/
theorem stuck_of_record (rules : List Rule) (stack : List Sequent) {e : Stuck}
    (h : (record rules stack).stuck = some e) :
    e.sequent.isFinished = false ∧ expand? rules e.sequent = none := by
  induction stack using record_induction rules with
  | nil => simp [record_nil] at h
  | finished s rest hfin ih =>
    rw [record_finished rules hfin] at h
    exact ih h
  | split s rest a hfin hexp ih =>
    rw [record_split hfin hexp] at h
    exact ih h
  | stuck s rest hfin hexp =>
    rw [record_stuck hfin hexp] at h
    obtain rfl := Option.some.inj h
    exact ⟨hfin, hexp⟩

end Search

/-- **The search grows a tree** of its sequent, if it does not give up. -/
theorem search_ok {rules : List Rule} {s : Sequent} {t : Tree}
    (h : (search rules s).result = .ok t) : t.sequent = s ∧ Grown rules t := by
  obtain ⟨hstuck, htrees⟩ := search_eq_ok_iff.1 h
  obtain ⟨hmap, hgrown⟩ := Search.grown_of_record rules [s] hstuck
  rw [htrees] at hmap hgrown
  exact ⟨List.singleton_inj.1 hmap, hgrown t List.mem_cons_self⟩

/-- The search gives up at a sequent that is not finished and to which no rule
of the list applies. -/
theorem search_error {rules : List Rule} {s : Sequent} {e : Stuck}
    (h : (search rules s).result = .error e) :
    e.sequent.isFinished = false ∧ ∀ rule ∈ rules, rule.premises e.sequent = [] := by
  obtain ⟨hfin, hexp⟩ := Search.stuck_of_record rules [s] (search_eq_error_iff.1 h)
  exact ⟨hfin, expand?_eq_none_iff.1 hexp⟩

/-- With all rules at hand, in any order, the search never gives up. -/
theorem search_total {rules : List Rule} (hall : ∀ rule : Rule, rule ∈ rules) (s : Sequent) :
    ∃ t, (search rules s).result = .ok t := by
  cases h : (search rules s).result with
  | ok t => exact ⟨t, rfl⟩
  | error e =>
    obtain ⟨hfin, hnil⟩ := search_error h
    have := isFinished_of_expand?_eq_none hall (expand?_eq_none_iff.2 hnil)
    simp [hfin] at this

theorem Rule.mem_all (rule : Rule) : rule ∈ Rule.all := by
  cases rule <;> decide

/-! ### Leaves -/

namespace Tree

theorem walkAll_eq_flatMap : ∀ ts : List Tree, walkAll ts = ts.flatMap walk
  | [] => by rw [walkAll, List.flatMap_nil]
  | t :: ts => by rw [walkAll, List.flatMap_cons, walkAll_eq_flatMap ts]

theorem leaves_leaf (s : Sequent) (r : Option String) :
    (node s r []).leaves = [node s r []] := by
  simp [leaves, walk, walkAll, isLeaf, children]

/-- The leaves of a node with children are those of its children in order. -/
theorem leaves_node {s : Sequent} {r : Option String} {ts : List Tree} (hts : ts ≠ []) :
    (node s r ts).leaves = ts.flatMap leaves := by
  have hleaf : isLeaf (node s r ts) = false := by simpa [isLeaf, children] using hts
  rw [leaves, walk, List.filter_cons, hleaf, walkAll_eq_flatMap, List.filter_flatMap]
  rfl

end Tree

namespace Grown

variable {rules : List Rule} {t : Tree}

/-- The children of a node where a rule was applied exist. -/
theorem children_ne_nil {s : Sequent} {a : Application} {ts : List Tree}
    (hexp : expand? rules s = some a) (hts : ts.map Tree.sequent = a.premises) : ts ≠ [] := by
  rintro rfl
  exact (expand?_some hexp).2.2.2 hts.symm

/-- All leaves of a grown tree are finished. -/
theorem isFinished_of_mem_leaves (h : Grown rules t) :
    ∀ leaf ∈ t.leaves, leaf.sequent.isFinished = true := by
  induction h with
  | leaf hfin =>
    intro leaf hleaf
    rw [Tree.leaves_leaf, List.mem_singleton] at hleaf
    subst hleaf
    exact hfin
  | split _ hexp hts _ ih =>
    intro leaf hleaf
    rw [Tree.leaves_node (children_ne_nil hexp hts), List.mem_flatMap] at hleaf
    obtain ⟨t, ht, hleaf⟩ := hleaf
    exact ih t ht leaf hleaf

/-- The children of a grown tree are grown. -/
theorem of_child (h : Grown rules t) {c : Tree} (hc : c ∈ t.children) : Grown rules c := by
  cases h with
  | leaf hfin => simp [Tree.children] at hc
  | split _ _ _ hgrown => exact hgrown c hc

/-- The leaves of a grown tree are falsifiable or axioms. -/
theorem isFalsifiable_eq (h : Grown rules t) {leaf : Tree} (hleaf : leaf ∈ t.leaves) :
    leaf.sequent.isFalsifiable = !leaf.sequent.isAxiom := by
  rw [Sequent.isFalsifiable, h.isFinished_of_mem_leaves leaf hleaf, Bool.true_and]

/-- **Refutations are those of the leaves.** A valuation refutes the root of a
grown tree exactly if it refutes a leaf. -/
theorem refutedBy_iff (h : Grown rules t) (v : Valuation) :
    t.sequent.RefutedBy v ↔ ∃ leaf ∈ t.leaves, leaf.sequent.RefutedBy v := by
  induction h with
  | leaf hfin => simp [Tree.leaves_leaf]
  | @split s a ts _ hexp hts _ ih =>
    obtain ⟨_, _, hprem, hne⟩ := expand?_some hexp
    calc s.RefutedBy v ↔ ∃ p ∈ a.premises, p.RefutedBy v := by
          rw [hprem]
          exact Rule.refutedBy_iff v (hprem ▸ hne)
      _ ↔ ∃ t ∈ ts, t.sequent.RefutedBy v := by rw [← hts]; simp
      _ ↔ ∃ t ∈ ts, ∃ leaf ∈ t.leaves, leaf.sequent.RefutedBy v :=
          exists_congr fun t => and_congr_right fun ht => ih t ht
      _ ↔ ∃ leaf ∈ (Tree.node s (some a.rule.name) ts).leaves, leaf.sequent.RefutedBy v := by
          rw [Tree.leaves_node (children_ne_nil hexp hts)]
          simp only [List.mem_flatMap]
          grind

end Grown

/-! ### Open leaves -/

theorem CounterModel.eq_atom_of_nameOf? {f : Formula} {x : Var}
    (h : CounterModel.nameOf? f = some x.name) : f = .atom x := by
  cases f with
  | atom y =>
    obtain ⟨n, hn⟩ := y
    obtain rfl : n = x.name := Option.some.inj h
    rfl
  | neg f => simp [nameOf?] at h
  | bin b l r => simp [nameOf?] at h

namespace Sequent

/-- The valuation read off a leaf: the variables among its assumptions are
true, all others false. -/
def openValuation (s : Sequent) : Valuation :=
  fun n => (s.assumptions.filterMap CounterModel.nameOf?).contains n

theorem isFalsifiable_iff (s : Sequent) :
    s.isFalsifiable = true ↔ s.isAxiom = false ∧ ∀ f ∈ s.formulas, f.isAtomic = true := by
  rw [isFalsifiable, isFinished]
  cases s.isAxiom <;> simp

/-- An open leaf is refuted by the valuation read off it. -/
theorem refutedBy_openValuation {s : Sequent} (h : s.isFalsifiable = true) :
    s.RefutedBy s.openValuation := by
  obtain ⟨hax, hatoms⟩ := (isFalsifiable_iff s).1 h
  refine ⟨fun f hf => ?_, fun g hg => ?_⟩
  · have hatom := hatoms f (List.mem_append_left _ hf)
    cases f with
    | atom x =>
      rw [Formula.truth, openValuation, List.contains_iff_mem]
      exact List.mem_filterMap.2 ⟨.atom x, hf, rfl⟩
    | neg f => simp [Formula.isAtomic] at hatom
    | bin b l r => simp [Formula.isAtomic] at hatom
  · have hatom := hatoms g (List.mem_append_right _ hg)
    cases g with
    | atom y =>
      -- a variable on both sides would make the leaf an axiom
      by_contra hcon
      rw [Formula.truth, openValuation, Bool.not_eq_false, List.contains_iff_mem,
        List.mem_filterMap] at hcon
      obtain ⟨f, hf, hname⟩ := hcon
      obtain rfl := CounterModel.eq_atom_of_nameOf? hname
      rw [(isAxiom_iff s).2 ⟨_, hf, hg⟩] at hax
      simp at hax
    | neg f => simp [Formula.isAtomic] at hatom
    | bin b l r => simp [Formula.isAtomic] at hatom

end Sequent

end Turnstile
