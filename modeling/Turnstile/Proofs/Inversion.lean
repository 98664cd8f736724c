/-
# The rules are invertible

A refutation gives the value true to all formulas on the left and false to all
on the right. A rule with one premise takes formulas apart that have the value
of their side if all operands do, and a rule that branches takes those apart
for which one operand will do. So where a rule applies, a valuation refutes the
sequent exactly if it refutes one of the premises (`Rule.refutedBy_iff`). This
holds for each rule and each valuation on its own, so nothing is won or lost by
the choice of the rule. As there is a rule for each connective on each side,
only sequents of variables are left alone by all of them (`premises_nil_iff`).

Key definitions: `Side.value`.
Key theorems: `Rule.refutedBy_iff`, `Sequent.premises_nil_iff`,
`Sequent.not_refutedBy_of_isAxiom`.
-/
import Turnstile.Proofs.Truth
import Turnstile.Proofs.UniqueReading
import Turnstile.Reduct

namespace Turnstile

namespace Rule

/-- Each connective has a rule on each side. -/
theorem exists_rule (side : Side) (c : Connective) :
    ∃ rule : Rule, rule.side = side ∧ rule.connective = c := by
  rcases side with _ | _ <;> rcases c with _ | (_ | _ | _)
  · exact ⟨leftNot, rfl, rfl⟩
  · exact ⟨leftAnd, rfl, rfl⟩
  · exact ⟨leftOr, rfl, rfl⟩
  · exact ⟨leftImp, rfl, rfl⟩
  · exact ⟨rightNot, rfl, rfl⟩
  · exact ⟨rightAnd, rfl, rfl⟩
  · exact ⟨rightOr, rfl, rfl⟩
  · exact ⟨rightImp, rfl, rfl⟩

end Rule

namespace Formula

/-- A formula is a variable exactly if it has no outermost connective. -/
theorem isAtomic_iff (f : Formula) : f.isAtomic = true ↔ ∀ c, f.hasConnective c = false := by
  cases f with
  | atom v => simp [isAtomic]
  | neg g => simp [isAtomic]
  | bin b l r => simp [isAtomic]

end Formula

namespace Sequent

theorem mem_formulas_iff {s : Sequent} {f : Formula} :
    f ∈ s.formulas ↔ ∃ side, f ∈ s.on side := by
  constructor
  · intro hf
    rcases List.mem_append.1 hf with h | h
    · exact ⟨.left, h⟩
    · exact ⟨.right, h⟩
  · rintro ⟨_ | _, h⟩
    · exact List.mem_append_left _ h
    · exact List.mem_append_right _ h

/-- **The rules leave only variables.** No rule applies exactly if all
formulas of the sequent are variables. -/
theorem premises_nil_iff (s : Sequent) :
    (∀ rule : Rule, rule.premises s = []) ↔ s.formulas.all Formula.isAtomic = true := by
  rw [List.all_eq_true]
  constructor
  · intro hnil f hf
    obtain ⟨side, hside⟩ := mem_formulas_iff.1 hf
    rw [Formula.isAtomic_iff]
    intro c
    obtain ⟨rule, rfl, rfl⟩ := Rule.exists_rule side c
    exact (rule.premises_eq_nil_iff s).1 (hnil rule) f hside
  · intro hatoms rule
    rw [Rule.premises_eq_nil_iff]
    intro f hf
    exact (Formula.isAtomic_iff f).1 (hatoms f (mem_formulas_iff.2 ⟨_, hf⟩)) _

end Sequent

/-! ### Premises and refutations -/

/-- The value that a refutation gives to the formulas on a side. -/
def Side.value : Side → Bool
  | left => true
  | right => false

theorem Sequent.refutedBy_iff_all {v : Valuation} {s : Sequent} :
    s.RefutedBy v ↔ s.All fun side f => f.truth v = side.value := by
  rw [all_iff .left]
  rfl

namespace Rule

variable {rule : Rule} {f : Formula}

/-- A rule with one premise takes a formula apart that has the value of its side exactly if
all operands have the values of theirs. -/
theorem truth_eq_value_iff_forall (v : Valuation) (hone : rule.branches = false)
    (htakes : rule.takes f = true) : f.truth v = rule.side.value ↔
      ∀ part ∈ f.partsOn rule.side, part.2.truth v = part.1.value := by
  cases rule with
  | leftAnd | rightOr | rightImp =>
    obtain ⟨l, r, rfl⟩ := Formula.hasConnective_binary_iff.1 htakes
    simp [Formula.partsOn, Formula.truth, Binary.apply, side, Side.other, Side.value]
  | leftNot | rightNot =>
    obtain ⟨g, rfl⟩ := Formula.hasConnective_neg_iff.1 htakes
    simp [Formula.partsOn, Formula.truth, side, Side.other, Side.value]
  | leftImp | leftOr | rightAnd => simp [branches] at hone

/-- A branching rule takes a formula apart that has the value of its side exactly if one of
the operands has the value of its own. -/
theorem truth_eq_value_iff_exists (v : Valuation) (hbranches : rule.branches = true)
    (htakes : rule.takes f = true) : f.truth v = rule.side.value ↔
      ∃ part ∈ f.partsOn rule.side, part.2.truth v = part.1.value := by
  cases rule with
  | leftImp | leftOr | rightAnd =>
    obtain ⟨l, r, rfl⟩ := Formula.hasConnective_binary_iff.1 htakes
    simp [Formula.partsOn, Formula.truth, Binary.apply, side, Side.other, Side.value,
      Bool.and_eq_false_iff, -Bool.and_eq_false_imp]
  | leftAnd | rightOr | rightImp | leftNot | rightNot => simp [branches] at hbranches

theorem refutedBy_reduct_iff (v : Valuation) (hone : rule.branches = false) (s : Sequent) :
    (rule.reduct s).RefutedBy v ↔ s.RefutedBy v := by
  rw [Sequent.refutedBy_iff_all, Sequent.refutedBy_iff_all, all_reduct_iff,
    Sequent.all_iff rule.side]
  refine and_congr_left' (forall₂_congr fun f _ => ?_)
  split_ifs with htakes
  · exact (truth_eq_value_iff_forall v hone htakes).symm
  · rfl

/-- **Rules are invertible.** Where a rule applies, a valuation refutes the
sequent exactly if it refutes one of the premises. -/
theorem refutedBy_iff (v : Valuation) {s : Sequent} (h : rule.premises s ≠ []) :
    s.RefutedBy v ↔ ∃ p ∈ rule.premises s, p.RefutedBy v := by
  cases hbranches : rule.branches with
  | false =>
    rw [premises_eq_reduct hbranches (exists_takes_of_premises_ne_nil h)]
    simp [refutedBy_reduct_iff v hbranches]
  | true =>
    -- the premises agree with the sequent but for the formula taken apart
    obtain ⟨before, f, after, others, htakes, rfl, hpremises⟩ := exists_mem_premises_iff hbranches h
    simp only [hpremises, Sequent.refutedBy_iff_all, Sequent.all_keep_iff,
      truth_eq_value_iff_exists v hbranches htakes]
    constructor
    · rintro ⟨⟨part, hpart, hvalue⟩, hrest⟩
      exact ⟨_, ⟨part, hpart, rfl⟩, Sequent.all_keep_iff.2 ⟨hvalue, hrest⟩⟩
    · rintro ⟨_, ⟨part, hpart, rfl⟩, hall⟩
      obtain ⟨hvalue, hrest⟩ := Sequent.all_keep_iff.1 hall
      exact ⟨⟨part, hpart, hvalue⟩, hrest⟩

end Rule

namespace Sequent

theorem isAxiom_iff (s : Sequent) :
    s.isAxiom = true ↔ ∃ f ∈ s.assumptions, f ∈ s.conclusions := by
  -- two formulas have one text only if they are one formula
  simp [isAxiom, Formula.render_inj, and_comm]

/-- No valuation refutes an axiom. -/
theorem not_refutedBy_of_isAxiom {s : Sequent} (h : s.isAxiom = true) (v : Valuation) :
    ¬ s.RefutedBy v := by
  rintro ⟨has, hcs⟩
  obtain ⟨f, hleft, hright⟩ := (isAxiom_iff s).1 h
  have htrue := has f hleft
  rw [hcs f hright] at htrue
  simp at htrue

end Sequent

end Turnstile
