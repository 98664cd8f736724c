/-
# Documents of typed values

A document that comes from a sequent, a tree or a proof answers as the typed
value does: what is an axiom, which leaves are open, the names at the root, the
verdict, the sizes and the counter-models are the same on both sides, and no
answer is a fault. A tree is gone through node by node and a proof leaf by leaf,
so what both answer follows from the leaves that are met. A tree always has a
stored form (`store_ofTree`), and a proof has one if its verdict is positive or a
counter-model is there to go with it (`store_ofProof`).

Key definitions: `Sequent.stored`, `Tree.stored`, `Proof.stored`,
`Document.proof?`, `Document.AnswersAs`.
Key theorems: `Document.answersAs_ofTree`, `Document.answersAs_ofProof`,
`Document.store_ofTree`, `Document.store_ofProof`.
-/
import Turnstile.Document.Store
import Turnstile.Proofs.OpenLeaf

namespace Turnstile

namespace Names

theorem mem_union {k : String} : ∀ (ns ms : List String),
    k ∈ union ms ns ↔ k ∈ ms ∨ k ∈ ns
  | [], ms => by simp [union]
  | n :: ns, ms => by
    rw [union, mem_union ns, mem_insert, List.mem_cons]
    tauto

theorem Increasing.union : ∀ {ns ms : List String}, Increasing ms → Increasing (Names.union ms ns)
  | [], _, h => h
  | n :: ns, _, h => by
    rw [Names.union]
    exact Increasing.union h.insert

end Names

/-! ### Stored forms -/

/-- The stored form of a sequent. -/
def Sequent.stored (s : Sequent) : Data :=
  Document.storedSequent (s.assumptions.map Formula.stored) (s.conclusions.map Formula.stored)

/-- The stored form of the name of a rule, or of none. -/
def storedRule : Option String → Data
  | some r => .text r
  | none => .null

namespace Tree

mutual

/-- The stored form of a proof tree. -/
def stored : Tree → Data
  | node s r ts =>
    Document.storedNode s.stored (storedRule r) (node s r ts).status (storedAll ts)

/-- The stored forms of proof trees. -/
def storedAll : List Tree → List Data
  | [] => []
  | t :: ts => t.stored :: storedAll ts

end

end Tree

/-- The assignment that is stored with a proof, with its names in the given order. -/
def Proof.storedModel? (order : NameOrder) (p : Proof) : Option Assignment :=
  (p.root.counterModel?.map CounterModel.assignment).map order.arrange

/-- The stored form of a proof, with its counter-model if it has one. -/
def Proof.stored (order : NameOrder) (p : Proof) : Data :=
  Document.storedProof ((p.formula.map Formula.stored).getD .null) (p.storedModel? order)
    p.root.stored

namespace Document

/-! ### Sequents -/

theorem mapM_formula? : ∀ fs : List Formula, (fs.map formula).mapM formula? = some fs
  | [] => rfl
  | f :: fs => by simp [List.mapM_cons, formula?, mapM_formula? fs]

theorem sequent?_ofSequent (s : Sequent) : (ofSequent s).sequent? = some s := by
  rw [ofSequent, sequent?, mapM_formula?, mapM_formula?]
  rfl

theorem closes_map (left : List String) : ∀ cs : List Formula,
    closes left (cs.map formula) = .ok (cs.any fun f => left.contains f.render)
  | [] => rfl
  | f :: cs => by
    rw [List.map_cons, closes, closes_map left cs, List.any_cons]
    by_cases hf : f.render ∈ left
    · rw [if_pos hf, List.contains_iff_mem.2 hf, Bool.true_or]
    · rw [if_neg hf]
      simp [hf]

theorem isAxiom_ofSequent (s : Sequent) : isAxiom (ofSequent s) = .ok s.isAxiom := by
  rw [ofSequent, isAxiom, mapM_formula?]
  exact closes_map (s.assumptions.map Formula.render) s.conclusions

theorem isFinished_ofSequent (s : Sequent) : isFinished (ofSequent s) = .ok s.isFinished := by
  have hax := isAxiom_ofSequent s
  rw [ofSequent] at hax ⊢
  rw [isFinished, hax, Sequent.isFinished, Sequent.formulas, ← List.map_append, List.all_map]
  rfl

theorem isFalsifiable_ofSequent (s : Sequent) :
    isFalsifiable (ofSequent s) = .ok s.isFalsifiable := by
  rw [isFalsifiable, isFinished_ofSequent, isAxiom_ofSequent]
  rfl

theorem namesOfAll_map : ∀ fs : List Formula, ∃ ns, namesOfAll (fs.map formula) = .ok ns ∧
    Names.Increasing ns ∧ ∀ k, k ∈ ns ↔ ∃ f ∈ fs, k ∈ f.leafNames
  | [] => ⟨[], rfl, List.Pairwise.nil, by simp⟩
  | f :: fs => by
    obtain ⟨ns, hns, hinc, hmem⟩ := namesOfAll_map fs
    refine ⟨Names.union f.names ns, ?_, ?_, fun k => ?_⟩
    · rw [List.map_cons, namesOfAll, names, hns]
      rfl
    · exact (Formula.increasing_gather [f] [] List.Pairwise.nil).union
    · rw [Names.mem_union, Formula.mem_names, hmem]
      simp

theorem names_ofSequent (s : Sequent) : names (ofSequent s) = .ok s.names := by
  obtain ⟨ns, hns, hinc, hmem⟩ := namesOfAll_map s.assumptions
  obtain ⟨ms, hms, _, hmem'⟩ := namesOfAll_map s.conclusions
  have heq : Names.union ns ms = s.names := by
    refine hinc.union.ext s.increasing_names fun k => ?_
    rw [Names.mem_union, hmem, hmem', Sequent.mem_names, Sequent.formulas]
    simp [or_and_right, exists_or]
  rw [ofSequent, names, hns, hms, ← heq]
  rfl

/-! ### Trees -/

mutual

theorem walk_ofTree : ∀ t : Tree, walk (ofTree t) = t.walk.map ofTree
  | .node s r ts => by
    rw [ofTree, walk, walkAll_ofTrees ts, Tree.walk, List.map_cons, ofTree]

theorem walkAll_ofTrees : ∀ ts : List Tree, walkAll (ofTrees ts) = (Tree.walkAll ts).map ofTree
  | [] => rfl
  | t :: ts => by
    rw [ofTrees, walkAll, walk_ofTree t, walkAll_ofTrees ts, Tree.walkAll, List.map_append]

end

theorem visits_ofTree (t : Tree) : visits (ofTree t) = .ok (t.walk.map ofTree) := by
  rw [← walk_ofTree]
  cases t with
  | node s r ts => rfl

theorem allClosed_map : ∀ ts : List Tree, allClosed (ts.map ofTree) =
    .ok ((ts.filter Tree.isLeaf).all fun t => t.sequent.isAxiom)
  | [] => rfl
  | .node s r [] :: ts => by
    rw [List.map_cons, ofTree, ofTrees, allClosed, isAxiom_ofSequent, allClosed_map ts]
    rw [List.filter_cons_of_pos rfl, List.all_cons, Tree.sequent]
    cases s.isAxiom <;> rfl
  | .node s r (u :: us) :: ts => by
    rw [List.map_cons, ofTree, ofTrees, allClosed, allClosed_map ts]
    rfl

theorem firstOpen_map : ∀ ts : List Tree, firstOpen (ts.map ofTree) =
    .ok (((ts.filter Tree.isLeaf).find? fun t => t.sequent.isFalsifiable).map fun t =>
      ofSequent t.sequent)
  | [] => rfl
  | .node s r [] :: ts => by
    rw [List.map_cons, ofTree, ofTrees, firstOpen, isFalsifiable_ofSequent, firstOpen_map ts]
    rw [List.filter_cons_of_pos rfl, List.find?_cons, Tree.sequent]
    cases s.isFalsifiable <;> rfl
  | .node s r (u :: us) :: ts => by
    rw [List.map_cons, ofTree, ofTrees, firstOpen, firstOpen_map ts]
    rfl

theorem sequentOf_ofTree (t : Tree) : sequentOf (ofTree t) = .ok (ofSequent t.sequent) := by
  cases t with
  | node s r ts => rfl

theorem leavesAmong_map : ∀ ts : List Tree,
    leavesAmong (ts.map ofTree) = .ok ((ts.filter Tree.isLeaf).map ofTree)
  | [] => rfl
  | .node s r [] :: ts => by
    rw [List.map_cons, ofTree, ofTrees, leavesAmong, leavesAmong_map ts]
    rfl
  | .node s r (u :: us) :: ts => by
    rw [List.map_cons, ofTree, ofTrees, leavesAmong, leavesAmong_map ts]
    rfl

theorem isFalsifiable_ofTree (t : Tree) :
    isFalsifiable (ofTree t) = .ok t.sequent.isFalsifiable := by
  cases t with
  | node s r ts => exact isFalsifiable_ofSequent s

theorem filterAuxM_map : ∀ (ts : List Tree) (done : List Document),
    List.filterAuxM isFalsifiable (ts.map ofTree) done =
      .ok (((ts.filter fun t => t.sequent.isFalsifiable).map ofTree).reverse ++ done)
  | [], done => rfl
  | t :: ts, done => by
    rw [List.map_cons, List.filterAuxM, isFalsifiable_ofTree, List.filter_cons]
    simp only [bind, Except.bind]
    rw [filterAuxM_map ts]
    cases t.sequent.isFalsifiable <;> simp

theorem filterM_map (ts : List Tree) : (ts.map ofTree).filterM isFalsifiable =
    .ok ((ts.filter fun t => t.sequent.isFalsifiable).map ofTree) := by
  rw [List.filterM, filterAuxM_map]
  simp [bind, Except.bind, pure, Except.pure]

theorem modelAt_ofSequent {s : Sequent} (h : s.isFalsifiable = true) (names : List String) :
    modelAt (ofSequent s) names = .ok ⟨s, CounterModel.reading s names⟩ := by
  rw [modelAt, sequent?_ofSequent, Option.bind_some, CounterModel.ofLeaf?_eq h]
  rfl

theorem mapM_modelAt (names : List String) : ∀ {ts : List Tree},
    (∀ t ∈ ts, t.sequent.isFalsifiable = true) →
      ((ts.map ofTree).mapM fun d => do
        let leaf ← sequentOf d
        modelAt leaf names) =
      .ok (ts.map fun t => ⟨t.sequent, CounterModel.reading t.sequent names⟩)
  | [], _ => rfl
  | t :: ts, h => by
    have ih := mapM_modelAt names fun u hu => h u (List.mem_cons_of_mem _ hu)
    rw [List.map_cons, List.mapM_cons, sequentOf_ofTree, ih]
    simp only [bind, Except.bind, modelAt_ofSequent (h t List.mem_cons_self)]
    rfl

/-! ### Sizes -/

mutual

theorem depth_ofTree : ∀ t : Tree, depth (ofTree t) = .ok t.depth
  | .node s r [] => rfl
  | .node s r (t :: ts) => by
    rw [ofTree, ofTrees, depth, depth_ofTree t, depthOfAll_ofTrees ts]
    rfl

theorem depthOfAll_ofTrees : ∀ ts : List Tree, depthOfAll (ofTrees ts) = .ok (Tree.depthOfAll ts)
  | [] => rfl
  | t :: ts => by
    rw [ofTrees, depthOfAll, depth_ofTree t, depthOfAll_ofTrees ts]
    rfl

end

mutual

theorem size_ofTree : ∀ t : Tree, size (ofTree t) = .ok t.size
  | .node s r ts => by
    rw [ofTree, size, sizeOfAll_ofTrees ts]
    rfl

theorem sizeOfAll_ofTrees : ∀ ts : List Tree, sizeOfAll (ofTrees ts) = .ok (Tree.countNodes ts)
  | [] => rfl
  | t :: ts => by
    rw [ofTrees, sizeOfAll, size_ofTree t, sizeOfAll_ofTrees ts]
    rfl

end

/-! ### Views -/

/-- The proof that a document is. -/
def proof? : Document → Option Proof
  | proof root null => root.tree?.map fun t => ⟨t, none⟩
  | proof root (formula f) => root.tree?.map fun t => ⟨t, some f⟩
  | _ => none

theorem ruleName?_ofRule (r : Option String) : ruleName? (ofRule r) = some r := by
  cases r <;> rfl

mutual

theorem tree?_ofTree : ∀ t : Tree, tree? (ofTree t) = some t
  | .node s r ts => by
    rw [ofTree, tree?, sequent?_ofSequent, ruleName?_ofRule, trees?_ofTrees ts]
    rfl

theorem trees?_ofTrees : ∀ ts : List Tree, trees? (ofTrees ts) = some ts
  | [] => rfl
  | t :: ts => by
    rw [ofTrees, trees?, tree?_ofTree t, trees?_ofTrees ts]
    rfl

end

theorem proof?_ofProof (p : Proof) : proof? (ofProof p) = some p := by
  obtain ⟨root, f⟩ := p
  cases f with
  | none =>
    show (tree? (ofTree root)).map _ = _
    rw [tree?_ofTree]
    rfl
  | some f =>
    show (tree? (ofTree root)).map _ = _
    rw [tree?_ofTree]
    rfl

/-! ### Answers

The nodes that a document is gone through by are those of a tree, or its leaves
only; the answers depend on the leaves among them. -/

section

variable {d : Document} {t : Tree} {ts : List Tree}

theorem isTautology_of_visits (hvisits : visits d = .ok (ts.map ofTree))
    (hleaves : ts.filter Tree.isLeaf = t.leaves) : isTautology d = .ok t.isTautology := by
  rw [isTautology, hvisits, Tree.isTautology, ← hleaves]
  exact allClosed_map ts

theorem counterModel_of_visits (hvisits : visits d = .ok (ts.map ofTree))
    (hleaves : ts.filter Tree.isLeaf = t.leaves)
    (hsequent : sequentOf d = .ok (ofSequent t.sequent)) :
    counterModel d = .ok t.counterModel? := by
  rw [counterModel, hvisits, Tree.counterModel?]
  simp only [bind, Except.bind, pure, Except.pure]
  rw [firstOpen_map, hleaves]
  cases hfind : t.leaves.find? fun leaf => leaf.sequent.isFalsifiable with
  | none => rfl
  | some leaf =>
    have hopen : leaf.sequent.isFalsifiable = true := by simpa using List.find?_some hfind
    simp only [Option.map_some, hsequent, names_ofSequent, modelAt_ofSequent hopen,
      Option.bind_some, CounterModel.ofLeaf?_eq hopen]

theorem counterModels_of_visits (hvisits : visits d = .ok (ts.map ofTree))
    (hleaves : ts.filter Tree.isLeaf = t.leaves)
    (hsequent : sequentOf d = .ok (ofSequent t.sequent)) :
    counterModels d = .ok t.counterModels := by
  have hopen : falsifiableLeaves d = .ok (t.falsifiableLeaves.map ofTree) := by
    rw [falsifiableLeaves, leaves, hvisits]
    simp only [bind, Except.bind]
    rw [leavesAmong_map, hleaves]
    exact filterM_map t.leaves
  have hall : ∀ leaf ∈ t.falsifiableLeaves, leaf.sequent.isFalsifiable = true :=
    fun leaf hleaf => (List.mem_filter.1 hleaf).2
  rw [counterModels, hsequent, hopen, Tree.counterModels_eq_map, ← mapM_modelAt _ hall]
  simp only [bind, Except.bind, names_ofSequent]

end

/-- A document answers what a tree does. -/
structure AnswersAs (d : Document) (t : Tree) : Prop where
  verdict : isTautology d = .ok t.isTautology
  depth : depth d = .ok t.depth
  size : size d = .ok t.size
  model : counterModel d = .ok t.counterModel?
  models : counterModels d = .ok t.counterModels

theorem answersAs_ofTree (t : Tree) : AnswersAs (ofTree t) t where
  verdict := isTautology_of_visits (visits_ofTree t) rfl
  depth := depth_ofTree t
  size := size_ofTree t
  model := counterModel_of_visits (visits_ofTree t) rfl (sequentOf_ofTree t)
  models := counterModels_of_visits (visits_ofTree t) rfl (sequentOf_ofTree t)

theorem visits_ofProof (p : Proof) : visits (ofProof p) = .ok (p.root.leaves.map ofTree) := by
  rw [ofProof, visits, visits_ofTree]
  exact leavesAmong_map p.root.walk

theorem answersAs_ofProof (p : Proof) : AnswersAs (ofProof p) p.root := by
  have hleaves : p.root.leaves.filter Tree.isLeaf = p.root.leaves := by
    rw [Tree.leaves, List.filter_filter]
    simp
  have hsequent : sequentOf (ofProof p) = .ok (ofSequent p.root.sequent) :=
    sequentOf_ofTree p.root
  exact ⟨isTautology_of_visits (visits_ofProof p) hleaves, depth_ofTree p.root,
    size_ofTree p.root, counterModel_of_visits (visits_ofProof p) hleaves hsequent,
    counterModels_of_visits (visits_ofProof p) hleaves hsequent⟩

/-! ### Storing -/

variable {order : NameOrder}

theorem status_ofTree (t : Tree) : status (ofTree t) = .ok t.status := by
  cases t with
  | node s r ts =>
    cases ts with
    | nil =>
      rw [ofTree, ofTrees, status, isAxiom_ofSequent]
      rfl
    | cons u us => rfl

theorem storeAll_map_formula (proofs : Bool) : ∀ fs : List Formula,
    storeAll order proofs (fs.map formula) = .ok (fs.map Formula.stored)
  | [] => rfl
  | f :: fs => by
    rw [List.map_cons, storeAll, store, storeAll_map_formula proofs fs]
    rfl

theorem store_ofSequent (proofs : Bool) (s : Sequent) :
    store order proofs (ofSequent s) = .ok s.stored := by
  rw [ofSequent, store, storeAll_map_formula, storeAll_map_formula]
  rfl

theorem store_ofRule (proofs : Bool) (r : Option String) :
    store order proofs (ofRule r) = .ok (storedRule r) := by
  cases r <;> rfl

mutual

/-- Every proof tree can be stored. -/
theorem store_ofTree : ∀ t : Tree, store order true (ofTree t) = .ok t.stored
  | .node s r ts => by
    have hstatus := status_ofTree (.node s r ts)
    rw [ofTree] at hstatus ⊢
    rw [store, if_pos rfl, hstatus, store_ofSequent, store_ofRule, storeAll_ofTrees ts]
    rfl

theorem storeAll_ofTrees : ∀ ts : List Tree,
    storeAll order true (ofTrees ts) = .ok (Tree.storedAll ts)
  | [] => rfl
  | t :: ts => by
    rw [ofTrees, storeAll, store_ofTree t, storeAll_ofTrees ts]
    rfl

end

/-- The counter-model to be stored is there if only a tautology has none. -/
theorem modelOf_ofTree {t : Tree} (h : t.isTautology = t.counterModel?.isNone) :
    modelOf (ofTree t) = .ok (t.counterModel?.map CounterModel.assignment) := by
  rw [modelOf, (answersAs_ofTree t).verdict, (answersAs_ofTree t).model, h]
  cases t.counterModel? <;> rfl

theorem store_ofProof {p : Proof} (h : p.isTautology = p.root.counterModel?.isNone) :
    store order true (ofProof p) = .ok (p.stored order) := by
  rw [ofProof, store, if_pos rfl, modelOf_ofTree h, store_ofTree, Proof.stored]
  cases p.formula <;> rfl

end Document

end Turnstile
