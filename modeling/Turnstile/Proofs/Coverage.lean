/-
# Open leaves cover the falsifying assignments

The atoms of an open leaf are a partial assignment: its assumptions are true and
its conclusions false. An assignment of the names at the root of a grown tree
falsifies the root exactly if it extends the partial assignment of some open leaf
(`Grown.falsifies_iff`). None is lost, since a falsifying assignment refutes some
leaf, and none is hidden in a branch that was closed early, since nothing refutes
an axiom, compound or not.

Key definitions: `Assignment.Extends`.
Key theorems: `Sequent.falsifies_iff_extends`, `Grown.falsifies_iff`,
`openLeaves_cover`.
-/
import Turnstile.Proof
import Turnstile.Proofs.Subformula

namespace Turnstile

/-- An assignment extends a leaf if the assumptions of the leaf are variables
that it makes true and the conclusions are variables that it makes false. -/
def Assignment.Extends (m : Assignment) (leaf : Sequent) : Prop :=
  (∀ f ∈ leaf.assumptions, ∃ x, f = .atom x ∧ m.lookup x.name = some true) ∧
    ∀ g ∈ leaf.conclusions, ∃ x, g = .atom x ∧ m.lookup x.name = some false

/-- What an atomic formula evaluates to is the value of its variable. -/
theorem Formula.evaluate_of_isAtomic {f : Formula} (h : f.isAtomic = true) (m : Assignment)
    (b : Bool) : f.evaluate m = .ok b ↔ ∃ x, f = .atom x ∧ m.lookup x.name = some b := by
  cases f with
  | atom x => cases hx : m.lookup x.name <;> simp [evaluate, hx]
  | neg f => simp [isAtomic] at h
  | bin c l r => simp [isAtomic] at h

/-- An open leaf is falsified by the assignments that extend it. -/
theorem Sequent.falsifies_iff_extends {leaf : Sequent} (h : leaf.isFalsifiable = true)
    (m : Assignment) : m.Falsifies leaf ↔ m.Extends leaf := by
  obtain ⟨-, hatoms⟩ := (isFalsifiable_iff leaf).1 h
  refine and_congr (forall₂_congr fun f hf => ?_) (forall₂_congr fun g hg => ?_)
  · exact Formula.evaluate_of_isAtomic (hatoms f (List.mem_append_left _ hf)) m true
  · exact Formula.evaluate_of_isAtomic (hatoms g (List.mem_append_right _ hg)) m false

theorem Tree.mem_falsifiableLeaves {t leaf : Tree} :
    leaf ∈ t.falsifiableLeaves ↔ leaf ∈ t.leaves ∧ leaf.sequent.isFalsifiable = true :=
  List.mem_filter

/-- **Open leaves cover the root of a grown tree.** An assignment of the names at
the root falsifies the root exactly if it extends an open leaf. -/
theorem Grown.falsifies_iff {rules : List Rule} {t : Tree} (h : Grown rules t) {m : Assignment}
    (hm : m.Covers t.sequent.names) :
    m.Falsifies t.sequent ↔ ∃ leaf ∈ t.falsifiableLeaves, m.Extends leaf.sequent := by
  have hcovers : ∀ leaf ∈ t.leaves, m.Covers leaf.sequent.names := fun leaf hleaf =>
    hm.mono (h.names_subset leaf (List.mem_filter.1 hleaf).1)
  rw [Assignment.falsifies_iff_refutedBy hm, h.refutedBy_iff]
  constructor
  · rintro ⟨leaf, hleaf, hrefuted⟩
    -- an axiom is not refuted, so the leaf is open
    have hopen : leaf.sequent.isFalsifiable = true := by
      rw [h.isFalsifiable_eq hleaf, Bool.not_eq_true', Bool.eq_false_iff]
      exact fun haxiom => Sequent.not_refutedBy_of_isAxiom haxiom _ hrefuted
    refine ⟨leaf, Tree.mem_falsifiableLeaves.2 ⟨hleaf, hopen⟩, ?_⟩
    rw [← Sequent.falsifies_iff_extends hopen]
    exact (Assignment.falsifies_iff_refutedBy (hcovers leaf hleaf)).2 hrefuted
  · rintro ⟨leaf, hmem, hextends⟩
    obtain ⟨hleaf, hopen⟩ := Tree.mem_falsifiableLeaves.1 hmem
    rw [← Sequent.falsifies_iff_extends hopen] at hextends
    exact ⟨leaf, hleaf, (Assignment.falsifies_iff_refutedBy (hcovers leaf hleaf)).1 hextends⟩

/-- **Counter-models are exhaustive.** The search with all rules gives a tree of
its sequent, and an assignment of the names of the sequent falsifies the sequent
exactly if it extends an open leaf of the tree. The same holds of each tree that
the search gives with other rules or in another order. -/
theorem openLeaves_cover (s : Sequent) :
    (∃ t, (search Rule.all s).result = .ok t) ∧
    ∀ (rules : List Rule) (t : Tree), (search rules s).result = .ok t →
      ∀ m : Assignment, m.Covers s.names →
        (m.Falsifies s ↔ ∃ leaf ∈ t.falsifiableLeaves, m.Extends leaf.sequent) := by
  refine ⟨search_total Rule.mem_all s, fun rules t ht m hm => ?_⟩
  obtain ⟨rfl, hgrown⟩ := search_ok ht
  exact hgrown.falsifies_iff hm

end Turnstile
