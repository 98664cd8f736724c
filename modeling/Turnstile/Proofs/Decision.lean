/-
# The search decides validity

All leaves of a grown tree are axioms exactly if its root is valid
(`Grown.axioms_iff_valid`): a valuation that refutes the root refutes a leaf,
which then is no axiom, and a leaf that is no axiom gives a valuation that
refutes it and so the root. Nothing in this depends on the rules that were
used or on their order, so all lists of rules with which the search does not
give up lead to one verdict, and that verdict is validity
(`search_decides_validity`).

Key theorems: `Grown.axioms_iff_valid`, `prove_ok`, `prove_total`,
`isTautology_iff_valid`, `search_decides_validity`.
-/
import Turnstile.Proof
import Turnstile.Proofs.Growth

namespace Turnstile

/-- **A grown tree decides its root.** Every leaf is an axiom exactly if the
sequent at the root is valid. -/
theorem Grown.axioms_iff_valid {rules : List Rule} {t : Tree} (h : Grown rules t) :
    (∀ leaf ∈ t.leaves, leaf.sequent.isAxiom = true) ↔ t.sequent.Valid := by
  rw [Sequent.valid_iff_not_refuted]
  constructor
  · intro haxioms v hrefuted
    obtain ⟨leaf, hleaf, hv⟩ := (h.refutedBy_iff v).1 hrefuted
    exact Sequent.not_refutedBy_of_isAxiom (haxioms leaf hleaf) v hv
  · intro hvalid leaf hleaf
    by_contra hopen
    have hfals : leaf.sequent.isFalsifiable = true := by
      simpa [h.isFalsifiable_eq hleaf] using hopen
    exact hvalid leaf.sequent.openValuation
      ((h.refutedBy_iff _).2 ⟨leaf, hleaf, Sequent.refutedBy_openValuation hfals⟩)

/-- A proof has a grown tree of the sequent to prove, and keeps the formula that
was asked about. -/
theorem prove_ok {rules : List Rule} {goal : Goal} {p : Proof}
    (h : (prove rules goal).result = .ok p) :
    p.root.sequent = goal.toSequent ∧ Grown rules p.root ∧ p.formula = goal.formula? := by
  rw [prove] at h
  cases hs : (search rules goal.toSequent).result with
  | error e => simp [hs, Except.map] at h
  | ok t =>
    obtain ⟨hseq, hgrown⟩ := search_ok hs
    simp only [hs, Except.map, Except.ok.injEq] at h
    subst h
    exact ⟨hseq, hgrown, rfl⟩

theorem prove_total {rules : List Rule} (hall : ∀ rule : Rule, rule ∈ rules) (goal : Goal) :
    ∃ p, (prove rules goal).result = .ok p := by
  obtain ⟨t, ht⟩ := search_total hall goal.toSequent
  exact ⟨⟨t, goal.formula?⟩, by simp [prove, ht, Except.map]⟩

theorem Tree.isTautology_iff (t : Tree) :
    t.isTautology = true ↔ ∀ leaf ∈ t.leaves, leaf.sequent.isAxiom = true := List.all_eq_true

/-- The verdict on a proof is the validity of what was to be proved, whatever
the rules. -/
theorem isTautology_iff_valid {rules : List Rule} {goal : Goal} {p : Proof}
    (h : (prove rules goal).result = .ok p) :
    p.isTautology = true ↔ goal.toSequent.Valid := by
  obtain ⟨hseq, hgrown, _⟩ := prove_ok h
  rw [Proof.isTautology, Tree.isTautology_iff, hgrown.axioms_iff_valid, hseq]

/-- **The search is sound and complete under any priority of rules.** It gives
up at an unfinished sequent that no rule of the list reduces, or gives a tree
whose leaves are all axioms exactly if the sequent is valid. With all eight
rules in the list, as in `Rule.all`, it does not give up. So a formula is
found to be a tautology exactly if it is true under every assignment of its
variables, and no order of the rules leads to another verdict. -/
theorem search_decides_validity (rules : List Rule) (s : Sequent) :
    ((∃ e, (search rules s).result = .error e ∧ e.sequent.isFinished = false ∧
        ∀ rule ∈ rules, rule.premises e.sequent = []) ∨
      ∃ t, (search rules s).result = .ok t ∧ t.sequent = s ∧
        ((∀ leaf ∈ t.leaves, leaf.sequent.isAxiom = true) ↔ s.Valid)) ∧
    ((∀ rule : Rule, rule ∈ rules) → ∃ t, (search rules s).result = .ok t) ∧
    (∃ t, (search Rule.all s).result = .ok t) ∧
    (∀ f : Formula, ∃ p, (prove Rule.all (.formula f)).result = .ok p ∧
      (p.isTautology = true ↔ f.Valid)) ∧
    ∀ (others : List Rule) (goal : Goal) (p q : Proof), (prove rules goal).result = .ok p →
      (prove others goal).result = .ok q → p.isTautology = q.isTautology := by
  refine ⟨?_, fun hall => search_total hall s, search_total Rule.mem_all s, fun f => ?_,
    fun others goal p q hp hq => ?_⟩
  · cases h : (search rules s).result with
    | error e => exact .inl ⟨e, rfl, search_error h⟩
    | ok t =>
      obtain ⟨hseq, hgrown⟩ := search_ok h
      refine .inr ⟨t, rfl, hseq, ?_⟩
      rw [hgrown.axioms_iff_valid, hseq]
  · obtain ⟨p, hp⟩ := prove_total Rule.mem_all (.formula f)
    refine ⟨p, hp, ?_⟩
    rw [isTautology_iff_valid hp]
    exact Sequent.valid_ofFormula f
  · rw [Bool.eq_iff_iff, isTautology_iff_valid hp, isTautology_iff_valid hq]

end Turnstile
