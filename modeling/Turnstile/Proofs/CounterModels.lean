/-
# Counter-models of proofs

The counter-models of a proof that the search built: there is one exactly if
the verdict is negative, each gives values to the variables of the sequent
and to no others, and each makes all assumptions true and all conclusions
false. A proof can therefore always be stored, with the model that belongs to
a negative verdict (`counterModels_genuine`).

Key theorems: `Grown.isTautology_eq_isNone`, `counterModels_genuine`.
-/
import Turnstile.Proofs.TypedDocument

namespace Turnstile

theorem Grown.isTautology_eq_isNone {rules : List Rule} {t : Tree} (h : Grown rules t) :
    t.isTautology = t.counterModel?.isNone := by
  rw [h.isTautology_eq_isEmpty, Tree.counterModel?_eq_head?]
  cases t.counterModels <;> rfl

/-- A model that makes a formula false falsifies it. -/
theorem CounterModel.falsifies_of_evaluate {m : CounterModel} {f : Formula}
    (h : f.evaluate m.assignment = .ok false) : m.falsifies f = .ok true := by
  rw [falsifies, h]
  rfl

/-- **Counter-models are genuine, total, and there when they are needed.** A
goal is proved or refuted with all rules; and for whatever rules it is, the
verdict is negative exactly if there is a counter-model, the one reported is
the first of all, each has the variables of the sequent as its names and
evaluates its assumptions to true and its conclusions to false, and storing
the proof, in whatever order of names, finds the model that it asks for. -/
theorem counterModels_genuine (goal : Goal) :
    (∃ p, (prove Rule.all goal).result = .ok p) ∧
    ∀ (rules : List Rule) (p : Proof), (prove rules goal).result = .ok p →
      p.root.sequent = goal.toSequent ∧
      (p.isTautology = false ↔ p.root.counterModel? ≠ none) ∧
      (p.root.counterModel? ≠ none ↔ p.root.counterModels ≠ []) ∧
      p.root.counterModel? = p.root.counterModels.head? ∧
      (∀ m ∈ p.root.counterModels,
        m.assignment.map Prod.fst = goal.toSequent.names ∧
        (∀ f ∈ goal.toSequent.assumptions, f.evaluate m.assignment = .ok true) ∧
        (∀ g ∈ goal.toSequent.conclusions, g.evaluate m.assignment = .ok false) ∧
        ∀ f, goal = .formula f → m.falsifies f = .ok true) ∧
      Document.modelOf (Document.ofTree p.root) =
        .ok (p.root.counterModel?.map CounterModel.assignment) ∧
      ∀ order, Document.store order true (Document.ofProof p) = .ok (p.stored order) := by
  refine ⟨prove_total Rule.mem_all goal, fun rules p hp => ?_⟩
  obtain ⟨hseq, hgrown, _⟩ := prove_ok hp
  have hnone : p.isTautology = p.root.counterModel?.isNone := hgrown.isTautology_eq_isNone
  refine ⟨hseq, ?_, ?_, p.root.counterModel?_eq_head?, fun m hm => ?_,
    Document.modelOf_ofTree hnone, fun order => Document.store_ofProof hnone⟩
  · rw [hnone]
    cases p.root.counterModel? <;> simp
  · rw [p.root.counterModel?_eq_head?, Ne, List.head?_eq_none_iff]
  · obtain ⟨has, hcs⟩ := hgrown.evaluate_counterModel hm
    rw [hseq] at has hcs
    refine ⟨by rw [hgrown.keys_counterModel hm, hseq], has, hcs, ?_⟩
    rintro f rfl
    exact CounterModel.falsifies_of_evaluate (hcs f List.mem_cons_self)

end Turnstile
