/-
# The models read off open leaves

The assignment read off an open leaf has the names of the root, in order, and
gives each the value of `Sequent.openValuation` (`reading_keys`,
`lookup_reading`). It is total, since no branch has names that the root does
not have, and it makes the assumptions at the root true and the conclusions
false, since the leaf is refuted and so is the root
(`Grown.evaluate_counterModel`). No open leaf is without its model, so the
two ways to ask for counter-models agree (`counterModels_eq_map`,
`counterModel?_eq_head?`).

Key definitions: `Names.Increasing`, `CounterModel.reading`.
Key theorems: `CounterModel.ofLeaf?_eq`, `Tree.counterModels_eq_map`,
`Tree.counterModel?_eq_head?`, `Grown.isTautology_eq_isEmpty`,
`Grown.keys_counterModel`, `Grown.evaluate_counterModel`.
-/
import Mathlib.Data.List.Sort
import Mathlib.Data.String.Basic
import Turnstile.Proofs.Decision
import Turnstile.Proofs.Subformula

namespace Turnstile

/-! ### Sets of names in order -/

namespace Names

/-- In increasing order, and so without repetitions. -/
def Increasing (ns : List String) : Prop := ns.Pairwise (· < ·)

theorem Increasing.insert {n : String} : ∀ {ms : List String},
    Increasing ms → Increasing (Names.insert n ms)
  | [], _ => List.pairwise_singleton _ _
  | m :: ms, h => by
    obtain ⟨hm, hms⟩ := List.pairwise_cons.1 h
    rw [Names.insert]
    split_ifs with hlt heq
    · refine List.pairwise_cons.2 ⟨fun k hk => ?_, h⟩
      rcases List.mem_cons.1 hk with rfl | hk
      · exact hlt
      · exact String.lt_trans hlt (hm k hk)
    · exact h
    · refine List.pairwise_cons.2 ⟨fun k hk => ?_, Increasing.insert hms⟩
      rcases Names.mem_insert.1 hk with rfl | hk
      · exact lt_of_le_of_ne (not_lt.1 hlt) (Ne.symm heq)
      · exact hm k hk

/-- Sets with the same names are the same list. -/
theorem Increasing.ext {ms ns : List String} (hms : Increasing ms) (hns : Increasing ns)
    (h : ∀ k, k ∈ ms ↔ k ∈ ns) : ms = ns := List.Pairwise.eq_of_mem_iff hms hns h

end Names

theorem Formula.increasing_gather (fs : List Formula) (names : List String)
    (h : Names.Increasing names) : Names.Increasing (gather fs names) := by
  induction fs, names using gather.induct with
  | case1 names => rwa [gather]
  | case2 v fs names ih =>
    rw [gather]
    exact ih h.insert
  | case3 f fs names ih =>
    rw [gather]
    exact ih h
  | case4 b l r fs names ih =>
    rw [gather]
    exact ih h

theorem Sequent.increasing_names (s : Sequent) : Names.Increasing s.names :=
  Formula.increasing_gather s.formulas [] List.Pairwise.nil

/-! ### Assignments in order -/

namespace CounterModel

theorem keys_assign (n : String) (x : Bool) : ∀ m : Assignment,
    (assign n x m).map Prod.fst = Names.insert n (m.map Prod.fst)
  | [] => rfl
  | (k, y) :: m => by
    rw [assign, List.map_cons, Names.insert]
    split_ifs with hlt heq
    · rfl
    · rw [List.map_cons, heq]
    · rw [List.map_cons, keys_assign n x m]

theorem lookup_assign (n k : String) (x : Bool) : ∀ m : Assignment,
    (assign n x m).lookup k = if k = n then some x else m.lookup k
  | [] => by rw [assign, Assignment.lookup_cons]
  | (j, y) :: m => by
    rw [assign]
    by_cases hlt : n < j
    · rw [if_pos hlt, Assignment.lookup_cons]
    · rw [if_neg hlt]
      by_cases heq : n = j
      · subst heq
        rw [if_pos rfl, Assignment.lookup_cons, Assignment.lookup_cons]
        split_ifs <;> rfl
      · rw [if_neg heq, Assignment.lookup_cons, Assignment.lookup_cons, lookup_assign n k x m]
        by_cases hk : k = j
        · rw [if_pos hk, if_pos hk, if_neg (hk ▸ Ne.symm heq)]
        · rw [if_neg hk, if_neg hk]

/-- An assignment in order stays in order, and has the new names as well. -/
theorem keys_assignAll (x : Bool) : ∀ (ns : List String) (m : Assignment),
    Names.Increasing (m.map Prod.fst) → Names.Increasing ((assignAll x ns m).map Prod.fst) ∧
      ∀ k, k ∈ (assignAll x ns m).map Prod.fst ↔ k ∈ ns ∨ k ∈ m.map Prod.fst
  | [], m, h => ⟨h, fun k => by simp [assignAll]⟩
  | n :: ns, m, h => by
    have hn : Names.Increasing ((assign n x m).map Prod.fst) := by
      rw [keys_assign]
      exact h.insert
    obtain ⟨hinc, hmem⟩ := keys_assignAll x ns (assign n x m) hn
    refine ⟨hinc, fun k => ?_⟩
    rw [assignAll, List.foldl_cons, ← assignAll, hmem, keys_assign, Names.mem_insert,
      List.mem_cons, or_assoc, or_left_comm]

theorem lookup_assignAll (x : Bool) (k : String) : ∀ (ns : List String) (m : Assignment),
    (assignAll x ns m).lookup k = if k ∈ ns then some x else m.lookup k
  | [], m => by simp [assignAll]
  | n :: ns, m => by
    rw [assignAll, List.foldl_cons, ← assignAll, lookup_assignAll x k ns, lookup_assign]
    by_cases hk : k ∈ ns
    · simp [hk]
    · simp [hk]

/-! ### The reading of a leaf -/

/-- The names of the variables in a list of formulas. -/
def namesIn (fs : List Formula) : List String := fs.filterMap nameOf?

/-- The assignment read off a leaf over the given names. -/
def reading (leaf : Sequent) (names : List String) : Assignment :=
  assignAll true (namesIn leaf.assumptions)
    (assignAll false (namesIn leaf.conclusions) (assignAll false names []))

theorem mapM_nameOf? : ∀ {fs : List Formula}, (∀ f ∈ fs, f.isAtomic = true) →
    fs.mapM nameOf? = some (namesIn fs)
  | [], _ => rfl
  | f :: fs, h => by
    have hf := h f List.mem_cons_self
    have ih := mapM_nameOf? fun g hg => h g (List.mem_cons_of_mem _ hg)
    cases f with
    | atom v => simp [List.mapM_cons, ih, nameOf?, namesIn]
    | neg f => simp [Formula.isAtomic] at hf
    | bin b l r => simp [Formula.isAtomic] at hf

/-- An open leaf has a model. -/
theorem ofLeaf?_eq {leaf : Sequent} (h : leaf.isFalsifiable = true) (names : List String) :
    ofLeaf? leaf names = some ⟨leaf, reading leaf names⟩ := by
  obtain ⟨_, hatoms⟩ := (Sequent.isFalsifiable_iff leaf).1 h
  have hcs := mapM_nameOf? fun f hf => hatoms f (List.mem_append_right _ hf)
  have has := mapM_nameOf? fun f hf => hatoms f (List.mem_append_left _ hf)
  simp [ofLeaf?, hcs, has, reading]

theorem mem_leafNames_of_mem_namesIn {fs : List Formula} {n : String} (h : n ∈ namesIn fs) :
    ∃ f ∈ fs, n ∈ f.leafNames := by
  obtain ⟨f, hf, hn⟩ := List.mem_filterMap.1 h
  cases f with
  | atom v =>
    obtain rfl := Option.some.inj hn
    exact ⟨_, hf, by simp [Formula.leafNames]⟩
  | neg f => simp [nameOf?] at hn
  | bin b l r => simp [nameOf?] at hn

/-- A reading over a set of names that has those of the leaf has exactly these
names, in order. -/
theorem reading_keys {leaf : Sequent} {names : List String} (hinc : Names.Increasing names)
    (hsub : leaf.names ⊆ names) : (reading leaf names).map Prod.fst = names := by
  obtain ⟨h1, m1⟩ := keys_assignAll false names [] List.Pairwise.nil
  obtain ⟨h2, m2⟩ := keys_assignAll false (namesIn leaf.conclusions) _ h1
  obtain ⟨h3, m3⟩ := keys_assignAll true (namesIn leaf.assumptions) _ h2
  refine h3.ext hinc fun k => ?_
  rw [m3, m2, m1]
  constructor
  · rintro (hk | hk | hk | hk)
    · obtain ⟨f, hf, hn⟩ := mem_leafNames_of_mem_namesIn hk
      exact hsub (Sequent.mem_names_of_assumption hf hn)
    · obtain ⟨f, hf, hn⟩ := mem_leafNames_of_mem_namesIn hk
      exact hsub (Sequent.mem_names_of_conclusion hf hn)
    · exact hk
    · simp at hk
  · exact fun hk => .inr (.inr (.inl hk))

/-- A reading gives the names it is over the values of the leaf's valuation. -/
theorem lookup_reading (leaf : Sequent) {names : List String} {n : String} (hn : n ∈ names) :
    (reading leaf names).lookup n = some (leaf.openValuation n) := by
  rw [reading, lookup_assignAll, lookup_assignAll, lookup_assignAll, if_pos hn, ite_self,
    Sequent.openValuation, ← namesIn]
  by_cases htrue : n ∈ namesIn leaf.assumptions
  · rw [if_pos htrue, List.contains_iff_mem.2 htrue]
  · rw [if_neg htrue]
    simp [htrue]

end CounterModel

/-! ### Counter-models of trees -/

namespace Tree

/-- Every open leaf gives one counter-model. -/
theorem counterModels_eq_map (t : Tree) :
    t.counterModels = t.falsifiableLeaves.map fun leaf =>
      ⟨leaf.sequent, CounterModel.reading leaf.sequent t.sequent.names⟩ := by
  rw [counterModels, ← List.filterMap_eq_map]
  refine List.filterMap_congr fun leaf hleaf => ?_
  exact CounterModel.ofLeaf?_eq (List.mem_filter.1 hleaf).2 _

/-- The counter-model of a tree is the first of its counter-models. -/
theorem counterModel?_eq_head? (t : Tree) : t.counterModel? = t.counterModels.head? := by
  rw [counterModels_eq_map, List.head?_map, falsifiableLeaves, List.head?_filter, counterModel?]
  cases hfind : t.leaves.find? fun leaf => leaf.sequent.isFalsifiable with
  | none => rfl
  | some leaf =>
    have hopen : leaf.sequent.isFalsifiable = true := by simpa using List.find?_some hfind
    exact CounterModel.ofLeaf?_eq hopen _

end Tree

namespace Grown

variable {rules : List Rule} {t : Tree}

/-- A grown tree is one of a tautology exactly if it has no counter-model. -/
theorem isTautology_eq_isEmpty (h : Grown rules t) :
    t.isTautology = t.counterModels.isEmpty := by
  rw [Bool.eq_iff_iff, Tree.isTautology_iff, Tree.counterModels_eq_map, List.isEmpty_iff,
    List.map_eq_nil_iff, Tree.falsifiableLeaves, List.filter_eq_nil_iff]
  refine forall₂_congr fun leaf hleaf => ?_
  rw [h.isFalsifiable_eq hleaf]
  simp

/-- The assignment of a counter-model gives values to the names at the root and
to no others. -/
theorem keys_counterModel (h : Grown rules t) {m : CounterModel} (hm : m ∈ t.counterModels) :
    m.assignment.map Prod.fst = t.sequent.names := by
  rw [Tree.counterModels_eq_map, List.mem_map] at hm
  obtain ⟨leaf, hleaf, rfl⟩ := hm
  have hwalk : leaf ∈ t.walk := (List.mem_filter.1 (List.mem_filter.1 hleaf).1).1
  exact CounterModel.reading_keys t.sequent.increasing_names (h.names_subset leaf hwalk)

/-- **Counter-models are genuine.** Under the assignment of a counter-model the
assumptions at the root evaluate to true and the conclusions to false. -/
theorem evaluate_counterModel (h : Grown rules t) {m : CounterModel} (hm : m ∈ t.counterModels) :
    (∀ f ∈ t.sequent.assumptions, f.evaluate m.assignment = .ok true) ∧
      ∀ g ∈ t.sequent.conclusions, g.evaluate m.assignment = .ok false := by
  rw [Tree.counterModels_eq_map, List.mem_map] at hm
  obtain ⟨leaf, hleaf, rfl⟩ := hm
  obtain ⟨hmem, hopen⟩ := List.mem_filter.1 hleaf
  obtain ⟨has, hcs⟩ := (h.refutedBy_iff leaf.sequent.openValuation).2
    ⟨leaf, hmem, Sequent.refutedBy_openValuation hopen⟩
  obtain ⟨hea, hec⟩ := Sequent.evaluate_eq_truth fun n hn =>
    CounterModel.lookup_reading leaf.sequent hn
  exact ⟨fun f hf => by rw [hea f hf, has f hf], fun g hg => by rw [hec g hg, hcs g hg]⟩

end Grown

end Turnstile
